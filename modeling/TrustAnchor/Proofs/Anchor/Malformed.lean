import TrustAnchor.Proofs.Anchor.Connection
import TrustAnchor.Proofs.Context.Failure

/-!
Whatever comes back from a TPM, nothing crashes.

The bytes of a reply come from outside, and so do the lengths in them.  Wherever bytes are cut out of a
string, put over others, or a list is asked for an entry, `Act.demand` makes an index that is out of range a
crash, and no step holds a crash back.  So that a step has returned says that every index it used was in
range, and this is what is shown of all of them, for any reply: `replies_withstood` has the accesses one by
one, the commands, and the calls on a context that is connected to a TPM.
-/

namespace TrustAnchor

open Act Wire

variable {ω : Type}

/-! ## Single accesses -/

theorem RawIdentity.returned_ofDigest {σ : Type} (digest : Bytes) (s : σ) :
    Returned (RawIdentity.ofDigest digest s) := by
  unfold RawIdentity.ofDigest
  by_cases short : digest.length < uuidLength
  · rw [if_pos short]
    trivial
  · have enough : 0 ≤ uuidLength ∧ uuidLength ≤ digest.length := ⟨Nat.zero_le _, Nat.not_lt.mp short⟩
    have width : ((digest.drop 0).take (uuidLength - 0)).length = uuidLength :=
      List.length_take_of_le enough.2
    rw [if_neg short, Bytes.slice?, if_pos enough, Option.bind_some, Bytes.toVector?, dif_pos width]
    trivial

namespace Tpm

/-! ## Commands -/

theorem returned_execute (channel : Channel ω) (command : Command) (machine : Machine ω) :
    Returned (execute channel command machine) := by
  rw [execute_eq]
  refine returned_bind ?_ fun reply later _ => Response.returned_parse reply later
  unfold Machine.exchange
  cases channel.transmit command.bytes machine.world <;> trivial

theorem returned_getRandom (channel : Channel ω) (n : UInt16) (machine : Machine ω) :
    Returned (getRandom channel n machine) := by
  refine returned_bind (returned_perform _ _ _ _) fun response later _ => ?_
  refine returned_bind (returned_within Reader.decodes_sized.returned _ later) fun random _ _ => ?_
  by_cases more : n.toNat < random.length
  · rw [if_pos more]
    trivial
  · rw [if_neg more]
    trivial

theorem returned_createPrimary (channel : Channel ω) (hierarchy : Handle) (template : Template)
    (machine : Machine ω) : Returned (createPrimary channel hierarchy template machine) :=
  returned_bind (returned_perform _ _ _ _) fun response later _ => returned_settlePrimary response later

theorem returned_ensureSuccess {σ : Type} (response : Response) (s : σ) :
    Returned (response.ensureSuccess s) := by
  unfold Response.ensureSuccess
  by_cases good : response.isSuccess = true
  · rw [if_pos good]
    trivial
  · rw [if_neg good]
    trivial

theorem returned_selfTest (channel : Channel ω) (full : Bool) (machine : Machine ω) :
    Returned (selfTest channel full machine) := by
  refine returned_bind (returned_execute _ _ _) fun response later _ => ?_
  by_cases testing : ResponseCode.ofCode response.code = .testing
  · rw [if_pos testing]
    trivial
  · rw [if_neg testing]
    exact returned_during (returned_ensureSuccess response later)

theorem returned_getTestResult (channel : Channel ω) (machine : Machine ω) :
    Returned (getTestResult channel machine) :=
  returned_bind (returned_perform _ _ _ _) fun _ later _ =>
    returned_within decodes_readTestResult.returned _ later

end Tpm

namespace TpmDevice

open Tpm

namespace Connection

/-! ## Connections -/

variable (connection : Connection ω) (machine : Machine ω)

theorem returned_slotKey (slot : Slot) : Returned (slotKey slot (connection, machine)) := by
  rw [slotKey, bind_ok (get_eq (connection, machine))]
  cases known : connection.keys.get slot with
  | some key =>
    simp only [known]
    trivial
  | none =>
    simp only [known]
    exact returned_bind (returned_during (returned_onSecond (returned_readPublic _ _ _)))
      fun _ _ _ => trivial

theorem returned_hmac (slot : Slot) (message : Bytes) :
    Returned (Connection.hmac slot message (connection, machine)) :=
  returned_bind (returned_slotKey connection machine slot) fun key later _ =>
    returned_hmacWith key message later.1 later.2

theorem returned_random (limit : Nat) : Returned (random limit (connection, machine)) := by
  rw [random, bind_ok (get_eq (connection, machine))]
  exact returned_onSecond (returned_getRandom _ _ _)

theorem returned_identity : Returned (identity (connection, machine)) := by
  rw [identity, bind_ok (get_eq (connection, machine))]
  refine returned_bind (returned_during (returned_onSecond (returned_createPrimary _ _ _ _)))
    fun key later _ => ?_
  refine returned_bind (returned_attempt (returned_hmacWith key identityLabel later.1 later.2))
    fun digest hashed _ => ?_
  refine returned_bind (returned_attempt (returned_onSecond (returned_flushContext _ key.handle hashed.2)))
    fun flushed released _ => ?_
  refine returned_bind (returned_ofExcept digest released) fun digest kept _ => ?_
  refine returned_bind (returned_during (returned_ofExcept flushed kept)) fun _ last _ => ?_
  exact RawIdentity.returned_ofDigest digest last

theorem returned_selfTest : Returned (Connection.selfTest (connection, machine)) := by
  rw [Connection.selfTest, bind_ok (get_eq (connection, machine))]
  refine returned_bind (returned_onSecond (Tpm.returned_selfTest _ _ _)) fun _ later _ => ?_
  exact returned_bind (returned_onSecond (returned_getTestResult _ _)) fun _ _ _ => trivial

theorem returned_flush (session : HmacSession) (channel : Channel ω) :
    Returned (session.flush channel machine) := returned_flushContext channel session.handle machine

theorem returned_abandon : Returned (connection.abandon machine) := by
  unfold abandon
  cases connection.session with
  | none => trivial
  | some session =>
    exact returned_bind (returned_attempt (returned_flush machine session _)) fun _ _ _ => trivial

theorem returned_close : Returned (connection.close machine) := by
  refine returned_bind (returned_attempt ?_) fun flushed ended _ => ?_
  · cases connection.session with
    | none => trivial
    | some session => exact returned_flush machine session _
  · exact returned_bind (returned_abandon _ ended) fun _ last _ => returned_ofExcept flushed last

end Connection

theorem returned_connect (dial : Option String → EStateM Fault ω (Channel ω)) (settings : TpmDevice)
    (machine : Machine ω) : Returned (connect dial settings machine) := by
  unfold connect
  cases settings.saltHandle with
  | some handle => trivial
  | none =>
    refine returned_bind (returned_zoom ?_) fun channel later _ => ?_
    · unfold ofPlain
      cases dial settings.path machine.world <;> trivial
    · exact returned_bind (returned_during (HmacSession.returned_start channel later)) fun _ _ _ => trivial

theorem calm_anchor (reserve : Allocator) (dial : Option String → EStateM Fault ω (Channel ω))
    (settings : TpmDevice) : Context.Calm (anchor reserve dial settings) where
  connect := returned_connect dial settings
  hmac slot message state := Connection.returned_hmac state.1 state.2 slot message
  random limit state := Connection.returned_random state.1 state.2 limit
  identity state := Connection.returned_identity state.1 state.2
  selfTest state := Connection.returned_selfTest state.1 state.2
  close connection machine := Connection.returned_close connection machine

end TpmDevice

/-! ## All replies -/

namespace Tpm

/-- Every index is in range: none of the steps that look bytes up by their position crashes, on any input. -/
structure InRange : Prop where
  /-- The size is written into the bytes behind the tag. -/
  sealed : ∀ {σ : Type} (command : Command) (s : σ), Returned (command.sealed s)
  /-- The data of a response stands between the header and the size that the header has. -/
  parse : ∀ {σ : Type} (received : Bytes) (s : σ), Returned (Response.parse received s)
  /-- A number of bytes that comes from the reply is taken off the front. -/
  take : ∀ (n : Nat) (field : Field) (reader : Reader), Returned (Reader.take n field reader)
  /-- Of one byte the first is looked up. -/
  u8 : ∀ reader : Reader, Returned (Reader.u8 reader)
  /-- Where one handle was asked for, there is a first one. -/
  handle : ∀ {σ : Type} (response : Response) (reply : SessionReply) (s t : σ),
    response.sessionReply 1 s = .ok reply t → reply.handles.head?.isSome
  /-- A key is the beginning of a digest. -/
  key : ∀ {σ : Type} (request : KeyRequest) (digest : Bytes) (s : σ), Returned (request.keyOf digest s)
  /-- An identity is the beginning of a digest. -/
  identity : ∀ {σ : Type} (digest : Bytes) (s : σ), Returned (RawIdentity.ofDigest digest s)

/-- Every command ends with a value or with an error, whatever the channel gives as the reply. -/
structure Withstands (channel : Channel ω) : Prop where
  start : ∀ machine, Returned (HmacSession.start channel machine)
  flush : ∀ (session : HmacSession) machine, Returned (session.flush channel machine)
  hmac : ∀ key data (session : HmacSession) machine, Returned (hmac channel key data (session, machine))
  getRandom : ∀ n machine, Returned (getRandom channel n machine)
  readPublic : ∀ handle machine, Returned (readPublic channel handle machine)
  createPrimary : ∀ hierarchy template machine, Returned (createPrimary channel hierarchy template machine)
  flushContext : ∀ handle machine, Returned (flushContext channel handle machine)
  selfTest : ∀ full machine, Returned (selfTest channel full machine)
  getTestResult : ∀ machine, Returned (getTestResult channel machine)

theorem inRange : InRange where
  sealed command s := by
    rw [command.sealed_eq]
    trivial
  parse received s := Response.returned_parse received s
  take n field reader := (Reader.decodes_take n field).returned reader
  u8 reader := Reader.decodes_u8.returned reader
  handle response reply s t run := by
    obtain ⟨-, -, count, -⟩ := Response.sessionReply_ok_iff.mp run
    obtain ⟨handle, only⟩ := List.length_eq_one_iff.mp count
    rw [only]
    rfl
  key request digest s := Context.returned_keyOf request digest s
  identity digest s := RawIdentity.returned_ofDigest digest s

theorem withstands (channel : Channel ω) : Withstands channel where
  start machine := HmacSession.returned_start channel machine
  flush session machine := returned_flushContext channel session.handle machine
  hmac key data session machine := returned_hmac channel key data (session, machine)
  getRandom n machine := returned_getRandom channel n machine
  readPublic handle machine := returned_readPublic channel handle machine
  createPrimary hierarchy template machine := returned_createPrimary channel hierarchy template machine
  flushContext handle machine := returned_flushContext channel handle machine
  selfTest full machine := returned_selfTest channel full machine
  getTestResult machine := returned_getTestResult channel machine

/-- A TPM may reply with any bytes at all: no index is out of range, every command ends with a value or with an
error, and so does every call on a context that has a TPM for its trust anchor, on any connection. -/
theorem replies_withstood (channel : Channel ω) (reserve : Allocator)
    (dial : Option String → EStateM Fault ω (Channel ω)) (settings : TpmDevice) :
    InRange ∧ Withstands channel ∧
      ∀ (call : Context.Call) (state : Context (TpmDevice.Connection ω) × Machine ω),
        Returned (call.perform (TpmDevice.anchor reserve dial settings) state) :=
  ⟨inRange, withstands channel, Context.returned_perform (TpmDevice.calm_anchor reserve dial settings)⟩

end Tpm
end TrustAnchor
