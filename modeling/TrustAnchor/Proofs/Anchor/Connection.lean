import TrustAnchor.Proofs.Anchor.Release
import TrustAnchor.Proofs.Tpm.Nonce

/-!
What the operations of a connection do to it and to the TPM.

`Holds` is what no operation changes: the connection is open, its session has the handle with which it was
started, and the keys that it knows have the handles of their slots.  The laws here say of the parts of the
operations what they send, and that `Holds` goes on.
-/

namespace TrustAnchor

open Act Wire

variable {ω : Type}

namespace Tpm

/-! ## The session that a command names -/

/-- The session that the authorization area of a command names. -/
def authorizer? (command : Bytes) : Option Handle :=
  match Request.read (Reader.ofBytes command) with
  | .ok request _ => some request.auth.handle
  | .error _ _ => none

/-- An HMAC command for this key and this data, authorized through a session with this handle. -/
def AuthorizedBy (handle : Handle) (key : KeyObject) (data command : Bytes) : Prop :=
  ∃ session : HmacSession, session.handle = handle ∧ session.Authorizes key data command

namespace AuthorizedBy

variable {handle : Handle} {key : KeyObject} {data command : Bytes}

theorem authorizer_eq (h : AuthorizedBy handle key data command) : authorizer? command = some handle := by
  obtain ⟨session, rfl, parameters, nonceCaller, short, width, rfl⟩ := h
  obtain ⟨request, position, ran, -, auth, -⟩ :=
    read_hmacCommand session key width (length_hmacParameters short)
  unfold authorizer?
  simp only [ran, auth]
  rfl

theorem code_eq (h : AuthorizedBy handle key data command) :
    Command.codeOf command = CommandCode.hmac.code := by
  obtain ⟨session, -, parameters, nonceCaller, -, -, rfl⟩ := h
  exact Command.codeOf_bytes _

end AuthorizedBy

theorem flushCommand_injective {first second : Handle}
    (same : (flushCommand first).bytes = (flushCommand second).bytes) : first = second := by
  rw [bytes_flushCommand, bytes_flushCommand] at same
  rw [← Bytes.toU32_ofU32 first, List.append_cancel_left same, Bytes.toU32_ofU32]

theorem handle_of_readPublic {channel : Channel ω} {handle : Handle} {machine later : Machine ω}
    {answer : KeyObject × Bytes} (read : readPublic channel handle machine = .ok answer later) :
    answer.1.handle = handle := by
  obtain ⟨response, _, -, rest⟩ := bind_eq_ok_iff.mp read
  obtain ⟨read, _, -, last⟩ := bind_eq_ok_iff.mp rest
  cases last
  rfl

theorem returned_readPublic (channel : Channel ω) (handle : Handle) (machine : Machine ω) :
    Returned (readPublic channel handle machine) :=
  returned_bind (returned_perform _ _ _ _) fun _ later _ =>
    returned_bind (returned_within decodes_readPublicAnswer.returned _ later) fun _ _ _ => trivial

end Tpm

namespace TpmDevice
namespace Connection

open Tpm

/-! ## Runs -/

/-- What can be asked of a connection. -/
inductive Call
  | hmac (slot : Slot) (message : Bytes)
  | random (limit : Nat)
  | identity
  | selfTest
  deriving DecidableEq, Repr

/-- What a call gives when it succeeds. -/
inductive Answer
  | bytes (bytes : Bytes)
  | identity (raw : RawIdentity)
  | code (code : UInt32)
  deriving DecidableEq, Repr

def Call.perform : Call → Act Fault (Connection ω × Machine ω) Answer
  | .hmac slot message => do
    let digest ← Connection.hmac slot message
    return .bytes digest
  | .random limit => do
    let random ← Connection.random limit
    return .bytes random
  | .identity => do
    let raw ← Connection.identity
    return .identity raw
  | .selfTest => do
    let code ← Connection.selfTest
    return .code code

/-- The state after a list of calls, whatever became of each of them. -/
def run (calls : List Call) (state : Connection ω × Machine ω) : Connection ω × Machine ω :=
  calls.foldl (fun state call => after (call.perform state)) state

/-- The two ways to be done with a connection. -/
inductive Ending
  | closed
  | abandoned
  deriving DecidableEq, Repr

def Ending.perform (ending : Ending) (connection : Connection ω) : Act Fault (Machine ω) Unit :=
  match ending with
  | .closed => connection.close
  | .abandoned => connection.abandon

/-! ## What no operation changes -/

/-- The connection is open, with the session and the keys of these handles. -/
structure Holds (channel : Channel ω) (keyHandles : PerSlot Handle) (handle : Handle)
    (connection : Connection ω) : Prop where
  onChannel : connection.channel = channel
  withKeys : connection.keyHandles = keyHandles
  session : ∃ session, connection.session = some session ∧ session.handle = handle
  keys : ∀ slot key, connection.keys.get slot = some key → key.handle = keyHandles.get slot

variable {channel : Channel ω} {keyHandles : PerSlot Handle} {handle : Handle}
  {connection : Connection ω}

theorem holds_start {before opened : Machine ω}
    (started : start channel keyHandles before = .ok connection opened) :
    ∃ session, connection.session = some session ∧
      HmacSession.start channel before = .ok session opened ∧
        Holds channel keyHandles session.handle connection := by
  obtain ⟨session, later, ran, rest⟩ := bind_eq_ok_iff.mp started
  cases rest
  refine ⟨session, rfl, ?_, rfl, rfl, ⟨session, rfl, rfl⟩, ?_⟩
  · cases came : HmacSession.start channel before with
    | ok session' opened' =>
      rw [during_of_ok came] at ran
      cases ran
      rfl
    | error stop later =>
      have returned := HmacSession.returned_start channel before
      rw [came] at returned
      cases stop with
      | error fault =>
        rw [during_of_error came] at ran
        cases ran
      | crash => exact returned.elim
  · intro slot key known
    rw [PerSlot.get_both] at known
    cases known

theorem Holds.named (holds : Holds channel keyHandles handle connection) {slot : Slot} {key : KeyObject}
    (same : key.handle = keyHandles.get slot) :
    Holds channel keyHandles handle { connection with keys := connection.keys.set slot (some key) } where
  onChannel := holds.onChannel
  withKeys := holds.withKeys
  session := holds.session
  keys other found known := by
    by_cases this : other = slot
    · subst this
      rw [PerSlot.get_set_self] at known
      cases known
      exact same
    · rw [PerSlot.get_set_of_ne _ this] at known
      exact holds.keys other found known

/-! ## Key look-up -/

theorem slotKey_of_known {slot : Slot} {key : KeyObject} (known : connection.keys.get slot = some key)
    (machine : Machine ω) : slotKey slot (connection, machine) = .ok key (connection, machine) := by
  rw [slotKey, bind_ok (get_eq (connection, machine))]
  simp only [known]
  rfl

theorem slotKey_of_ok {slot : Slot} {key : KeyObject} {publicArea : Bytes} {machine later : Machine ω}
    (unknown : connection.keys.get slot = none)
    (read : readPublic connection.channel (connection.keyHandles.get slot) machine =
      .ok (key, publicArea) later) :
    slotKey slot (connection, machine) =
      .ok key ({ connection with keys := connection.keys.set slot (some key) }, later) := by
  rw [slotKey, bind_ok (get_eq (connection, machine))]
  simp only [unknown]
  rw [bind_ok (during_of_ok (onSecond_of_ok read))]
  rfl

theorem slotKey_of_error {slot : Slot} {fault : Fault} {machine later : Machine ω}
    (unknown : connection.keys.get slot = none)
    (failed : readPublic connection.channel (connection.keyHandles.get slot) machine =
      .error (.error fault) later) :
    slotKey slot (connection, machine) =
      .error (.error (fault.during (.lookUpKey slot))) (connection, later) := by
  rw [slotKey, bind_ok (get_eq (connection, machine))]
  simp only [unknown]
  rw [bind_error (during_of_error (onSecond_of_error failed))]

theorem slotKey_spec (holds : Holds channel keyHandles handle connection) (slot : Slot)
    (machine : Machine ω) :
    ∃ later, Holds channel keyHandles handle later.1 ∧
      (∃ named : Option Exchange, later.2.transcript = machine.transcript ++ named.toList ∧
        ∀ exchange ∈ named, exchange.command = (readPublicCommand (keyHandles.get slot)).bytes) ∧
      ((∃ name, slotKey slot (connection, machine) = .ok ⟨keyHandles.get slot, name⟩ later) ∨
        ∃ fault, slotKey slot (connection, machine) = .error (.error fault) later) := by
  cases known : connection.keys.get slot with
  | some key =>
    have same := holds.keys slot key known
    refine ⟨(connection, machine), holds, ⟨none, (List.append_nil _).symm, forall_mem_none _⟩,
      .inl ⟨key.name, ?_⟩⟩
    rw [slotKey_of_known known, ← same]
  | none =>
    have left := after_readPublic connection.channel (connection.keyHandles.get slot) machine
    have returned := returned_readPublic connection.channel (connection.keyHandles.get slot) machine
    cases read : readPublic connection.channel (connection.keyHandles.get slot) machine with
    | ok answer later =>
      obtain ⟨key, publicArea⟩ := answer
      have same : key.handle = keyHandles.get slot := by
        rw [← holds.withKeys]
        exact handle_of_readPublic read
      rw [read, after_ok] at left
      refine ⟨({ connection with keys := connection.keys.set slot (some key) }, later), holds.named same,
        ⟨some ⟨_, _⟩, congrArg Machine.transcript left, ?_⟩, .inl ⟨key.name, ?_⟩⟩
      · rintro exchange ⟨⟩
        rw [holds.withKeys]
      · rw [slotKey_of_ok known read, ← same]
    | error stop later =>
      rw [read] at left returned
      rw [after_error] at left
      cases stop with
      | error fault =>
        refine ⟨(connection, later), holds, ⟨some ⟨_, _⟩, congrArg Machine.transcript left, ?_⟩,
          .inr ⟨_, slotKey_of_error known read⟩⟩
        rintro exchange ⟨⟩
        rw [holds.withKeys]
      | crash => exact returned.elim

/-! ## Parts of the operations -/

theorem hmacWith_spec (holds : Holds channel keyHandles handle connection) (key : KeyObject)
    (message : Bytes) (machine : Machine ω) :
    let left := after (hmacWith key message (connection, machine))
    Holds channel keyHandles handle left.1 ∧ left.1.keys = connection.keys ∧
      ∃ keyed : Option Exchange, left.2.transcript = machine.transcript ++ keyed.toList ∧
        (∀ exchange ∈ keyed, AuthorizedBy handle key message exchange.command) ∧
          (message.length ≤ maxBufferLength → keyed.isSome) := by
  intro left
  obtain ⟨rfl, rfl, ⟨session, held, rfl⟩, keys⟩ := holds
  have left_eq : left = after (hmacWith key message (connection, machine)) := rfl
  rw [hmacWith_eq, after_onSession_open held] at left_eq
  cases short : hmacParameters session message with
  | error fault =>
    rw [hmac_of_error short] at left_eq
    rw [left_eq]
    refine ⟨⟨rfl, rfl, ⟨session, rfl, rfl⟩, keys⟩, rfl, none, (List.append_nil _).symm,
      forall_mem_none _, ?_⟩
    intro fits
    rw [hmacParameters, maxBuffer, if_neg (Nat.not_lt.mpr fits)] at short
    cases short
  | ok parameters =>
    rw [after_hmac short] at left_eq
    rw [left_eq]
    refine ⟨⟨rfl, rfl, ⟨_, rfl, rfl⟩, keys⟩, rfl, some _, rfl, ?_, fun _ => rfl⟩
    rintro exchange ⟨⟩
    exact ⟨session, rfl, parameters, _, short, Entropy.length_next _ _, rfl⟩

theorem after_perform_hmac (slot : Slot) (message : Bytes) (state : Connection ω × Machine ω) :
    after ((Call.hmac slot message).perform state) = after (Connection.hmac slot message state) :=
  after_bind_still _ (fun _ => still_pure _) state

theorem after_hmac_of_known {slot : Slot} {key : KeyObject} (known : connection.keys.get slot = some key)
    (message : Bytes) (machine : Machine ω) :
    after (Connection.hmac slot message (connection, machine)) =
      after (hmacWith key message (connection, machine)) := by
  rw [Connection.hmac, after_bind_ok (slotKey_of_known known machine)]

theorem after_hmac_of_read (holds : Holds channel keyHandles handle connection) {slot : Slot}
    {key : KeyObject} {publicArea : Bytes} {machine later : Machine ω}
    (unknown : connection.keys.get slot = none)
    (read : readPublic channel (keyHandles.get slot) machine = .ok (key, publicArea) later)
    (message : Bytes) :
    after (Connection.hmac slot message (connection, machine)) =
      after (hmacWith key message
        ({ connection with keys := connection.keys.set slot (some key) }, later)) := by
  obtain ⟨rfl, rfl, -, -⟩ := holds
  rw [Connection.hmac, after_bind_ok (slotKey_of_ok unknown read)]

theorem after_random (limit : Nat) (connection : Connection ω) (machine : Machine ω) :
    after (random limit (connection, machine)) = (connection, machine.exchanged connection.channel
      (randomCommand (UInt16.ofNat (min limit randomLimit))).bytes) := by
  rw [random, bind_ok (get_eq (connection, machine))]
  show after (onSecond _ (connection, machine)) = _
  rw [after_onSecond, after_getRandom]

theorem after_perform_random (holds : Holds channel keyHandles handle connection) (limit : Nat)
    (machine : Machine ω) :
    after ((Call.random limit).perform (connection, machine)) = (connection, machine.exchanged channel
      (randomCommand (UInt16.ofNat (min limit randomLimit))).bytes) := by
  rw [← holds.onChannel, ← after_random]
  exact after_bind_still _ (fun _ => still_pure _) _

/-- A test that the TPM has accepted is asked for its result. -/
theorem after_selfTest_of_ok {machine later : Machine ω}
    (accepted : Tpm.selfTest connection.channel true machine = .ok () later) :
    after (selfTest (connection, machine)) =
      (connection, later.exchanged connection.channel testResultCommand.bytes) := by
  rw [selfTest, bind_ok (get_eq (connection, machine))]
  show after ((onSecond (Tpm.selfTest connection.channel true) >>= _) (connection, machine)) = _
  rw [after_bind_ok (onSecond_of_ok accepted), after_bind_still _ fun _ => still_pure _, after_onSecond,
    after_getTestResult]

theorem after_selfTest_of_error {machine later : Machine ω} {stop : Stop Fault}
    (refused : Tpm.selfTest connection.channel true machine = .error stop later) :
    after (selfTest (connection, machine)) = (connection, later) := by
  rw [selfTest, bind_ok (get_eq (connection, machine))]
  show after ((onSecond (Tpm.selfTest connection.channel true) >>= _) (connection, machine)) = _
  rw [after_bind_error (onSecond_of_error refused)]

theorem after_selfTest (connection : Connection ω) (machine : Machine ω) :
    let tested := machine.exchanged connection.channel (selfTestCommand true).bytes
    after (selfTest (connection, machine)) = (connection, tested) ∨
      after (selfTest (connection, machine)) =
        (connection, tested.exchanged connection.channel testResultCommand.bytes) := by
  intro tested
  have left := Tpm.after_selfTest connection.channel true machine
  cases ran : Tpm.selfTest connection.channel true machine with
  | ok _ later =>
    rw [ran, after_ok] at left
    right
    rw [after_selfTest_of_ok ran, left]
  | error stop later =>
    rw [ran, after_error] at left
    left
    rw [after_selfTest_of_error ran, left]

/-- Either ending flushes the session, and sends nothing else. -/
theorem after_ending (holds : Holds channel keyHandles handle connection) (ending : Ending)
    (machine : Machine ω) :
    after (ending.perform connection machine) =
      machine.exchanged channel (flushCommand handle).bytes := by
  obtain ⟨rfl, rfl, ⟨session, held, rfl⟩, -⟩ := holds
  obtain ⟨flushed, ran⟩ : ∃ flushed, (session.flush connection.channel).attempt machine =
      .ok flushed (machine.exchanged connection.channel (flushCommand session.handle).bytes) := by
    rw [← after_flushContext]
    exact attempt_of_returned (returned_flushContext connection.channel session.handle machine)
  cases ending with
  | closed =>
    show after (close connection machine) = _
    unfold close
    simp only [held]
    rw [after_bind_ok ran]
    -- nothing is left to flush when the closed connection is given up
    exact keeps_ofExcept frame_still flushed _
  | abandoned =>
    show after (abandon connection machine) = _
    unfold abandon
    simp only [held]
    rw [after_bind_ok ran]
    rfl

end Connection
end TpmDevice
end TrustAnchor
