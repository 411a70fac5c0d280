import TrustAnchor.Anchor.TpmDevice
import TrustAnchor.Tpm.Scripted
import TrustAnchor.Proofs.Tpm.Session

/-!
What is given back inside the TPM, and what is not.

A session and an identity key exist as soon as the TPM has reported success, and the handle stands at the
front of the answer.  What follows the handle is read before the handle is used, and a read that fails there
ends the operation at once.  `session_flushed_iff` and `identityKey_flushed_iff` say for exactly which
answers the handle is flushed: those that can be read to the end.
-/

namespace TrustAnchor

open Act Wire

variable {ω : Type}

theorem ofU32_append_inj {first second : UInt32} {front back : Bytes}
    (h : Bytes.ofU32 first ++ front = Bytes.ofU32 second ++ back) : first = second ∧ front = back := by
  obtain ⟨numbers, rest⟩ := List.append_inj h rfl
  refine ⟨?_, rest⟩
  rw [← Bytes.toU32_ofU32 first, numbers, Bytes.toU32_ofU32]

namespace Tpm

variable {channel : Channel ω} {machine : Machine ω} {response : Response} {handle : Handle} {rest : Bytes}

theorem flush_ne_of_code_ne {command : Command} (other : command.code ≠ .flushContext) (handle : Handle) :
    command.bytes ≠ (flushCommand handle).bytes := fun same =>
  other (Command.code_eq_of_bytes_eq same)

/-! ## Sessions -/

/-- A nonce stands behind the handle. -/
def NonceReadable (rest : Bytes) : Prop :=
  ∃ nonce tail, nonce.length < 65536 ∧ rest = Wire.sized nonce ++ tail

theorem started?_of_readable {answer : Except Fault Bytes} (granted : success? answer = some response)
    (carries : response.data = Bytes.ofU32 handle ++ rest) (readable : NonceReadable rest) :
    ∃ nonce, started? answer = some (handle, nonce) := by
  obtain ⟨nonce, tail, fits, rfl⟩ := readable
  refine ⟨nonce, ?_⟩
  rw [started?, granted, Option.bind_some, value?_eq_some_iff]
  refine HmacSession.decodes_readStarted.within_ok_iff.mpr ⟨rfl, _, tail, ⟨fits, rfl⟩, ?_⟩
  rw [carries, List.append_assoc]

theorem readable_of_started? {answer : Except Fault Bytes} {started : Handle × Bytes}
    (granted : success? answer = some response) (carries : response.data = Bytes.ofU32 handle ++ rest)
    (came : started? answer = some started) : NonceReadable rest := by
  rw [started?, granted, Option.bind_some, value?_eq_some_iff] at came
  obtain ⟨-, form, tail, ⟨fits, rfl⟩, whole⟩ := HmacSession.decodes_readStarted.within_ok_iff.mp came
  rw [carries, List.append_assoc] at whole
  exact ⟨started.2, tail, fits, (ofU32_append_inj whole).2⟩

/-- If the nonce can be read, the session is started. -/
theorem start_of_readable
    (granted : success? (channel.answer (HmacSession.opening machine) machine.world) = some response)
    (carries : response.data = Bytes.ofU32 handle ++ rest) (readable : NonceReadable rest) :
    ∃ session later, HmacSession.start channel machine = .ok session later := by
  obtain ⟨nonce, came⟩ := started?_of_readable granted carries readable
  exact ⟨⟨handle, .sha256, nonce, continueSession⟩, _,
    HmacSession.start_ok_iff.mpr ⟨came, rfl, rfl, rfl⟩⟩

/-- If it cannot, an error is reported and nothing has been sent but the command that started it. -/
theorem start_of_unreadable
    (granted : success? (channel.answer (HmacSession.opening machine) machine.world) = some response)
    (carries : response.data = Bytes.ofU32 handle ++ rest) (unreadable : ¬ NonceReadable rest) :
    ∃ fault, HmacSession.start channel machine = .error (.error fault)
      ((machine.drawn nonceLength).exchanged channel (HmacSession.opening machine)) := by
  have left := HmacSession.after_start channel machine
  have returned := HmacSession.returned_start channel machine
  cases ran : HmacSession.start channel machine with
  | ok session later =>
    obtain ⟨came, -⟩ := HmacSession.start_ok_iff.mp ran
    exact absurd (readable_of_started? granted carries came) unreadable
  | error stop later =>
    rw [ran] at left returned
    cases stop with
    | error fault => exact ⟨fault, by rw [← left, after_error]⟩
    | crash => exact returned.elim

theorem not_sent_flush_of_start (channel : Channel ω) (machine : Machine ω) (handle : Handle) :
    ¬ machine.SentBetween ((machine.drawn nonceLength).exchanged channel (HmacSession.opening machine))
      (flushCommand handle).bytes := by
  have same : (machine.drawn nonceLength).transcript = machine.transcript := rfl
  rw [Machine.sentBetween_exchanged_iff same]
  exact flush_ne_of_code_ne (by nofun) handle

end Tpm

namespace TpmDevice

open Tpm

theorem start_of_ok {channel : Channel ω} {machine later : Machine ω} {session : HmacSession}
    (keyHandles : PerSlot Handle) (ran : HmacSession.start channel machine = .ok session later) :
    Connection.start channel keyHandles machine =
      .ok { channel, session := some session, keyHandles, keys := .both none } later := by
  rw [Connection.start, bind_ok (during_of_ok ran)]
  rfl

theorem start_of_error {channel : Channel ω} {machine later : Machine ω} {fault : Fault}
    (keyHandles : PerSlot Handle) (ran : HmacSession.start channel machine = .error (.error fault) later) :
    Connection.start channel keyHandles machine =
      .error (.error (fault.during .startSession)) later := by
  rw [Connection.start, bind_error (during_of_error ran)]

/-- With a channel to the device, connecting is starting the session. -/
theorem connect_eq {dial : Option String → EStateM Fault ω (Channel ω)} {settings : TpmDevice}
    {channel : Channel ω} {machine : Machine ω} {world : ω} (unsalted : settings.saltHandle = none)
    (dialled : dial settings.path world = .ok channel machine.world) :
    connect dial settings { machine with world } =
      Connection.start channel settings.keyHandles machine := by
  have outside : Machine.outside (dial settings.path) { machine with world } = .ok channel machine := by
    simp only [Machine.outside, zoom, ofPlain, dialled]
  rw [connect, unsalted]
  exact bind_ok outside

/-- A session that the TPM has granted, and that is not opened in the end, is flushed exactly if the nonce
behind its handle can be read; and then it is always opened. -/
theorem session_flushed_iff {channel : Channel ω} {machine : Machine ω} {response : Response}
    {handle : Handle} {rest : Bytes}
    (granted : success? (channel.answer (HmacSession.opening machine) machine.world) = some response)
    (carries : response.data = Bytes.ofU32 handle ++ rest) :
    ((∀ stop later, HmacSession.start channel machine = .error stop later →
      machine.SentBetween later (flushCommand handle).bytes) ↔ NonceReadable rest) ∧
    ∀ (dial : Option String → EStateM Fault ω (Channel ω)) (settings : TpmDevice) (world : ω),
      settings.saltHandle = none → dial settings.path world = .ok channel machine.world →
        ((∀ stop later, connect dial settings { machine with world } = .error stop later →
          machine.SentBetween later (flushCommand handle).bytes) ↔ NonceReadable rest) := by
  have silent := not_sent_flush_of_start channel machine handle
  by_cases readable : NonceReadable rest
  · obtain ⟨session, opened, ran⟩ := start_of_readable granted carries readable
    refine ⟨⟨fun _ => readable, fun _ stop later failed => ?_⟩,
      fun dial settings world unsalted dialled => ⟨fun _ => readable, fun _ stop later failed => ?_⟩⟩
    · rw [ran] at failed
      cases failed
    · rw [connect_eq unsalted dialled, start_of_ok settings.keyHandles ran] at failed
      cases failed
  · obtain ⟨fault, ran⟩ := start_of_unreadable granted carries readable
    refine ⟨⟨fun flushed => ?_, fun h => absurd h readable⟩,
      fun dial settings world unsalted dialled => ⟨fun flushed => ?_, fun h => absurd h readable⟩⟩
    · exact absurd (flushed _ _ ran) silent
    · have failed := (connect_eq unsalted dialled).trans (start_of_error settings.keyHandles ran)
      exact absurd (flushed _ _ failed) silent

/-- A TPM whose answer ends behind the handle of the session. -/
def truncatedSession : Machine Replies :=
  Machine.new [.ok (Response.bytes ⟨.noSessions, 0, Bytes.ofU32 0x02000000⟩)] (Entropy.ofBytes [])

theorem session_not_flushed_truncated :
    ¬ ∀ stop later, HmacSession.start scriptedChannel truncatedSession = .error stop later →
      truncatedSession.SentBetween later (flushCommand 0x02000000).bytes := by
  have granted : success? (scriptedChannel.answer (HmacSession.opening truncatedSession)
      truncatedSession.world) = some ⟨.noSessions, 0, Bytes.ofU32 0x02000000⟩ :=
    success?_eq_some_iff.mpr ⟨rfl, by decide, [], rfl⟩
  intro flushed
  obtain ⟨nonce, tail, -, empty⟩ :=
    (session_flushed_iff granted (List.append_nil (Bytes.ofU32 0x02000000)).symm).1.mp flushed
  have := congrArg List.length empty
  rw [List.length_append, length_sized, List.length_nil] at this
  omega

end TpmDevice

/-! ## Identity keys -/

namespace Tpm

variable {channel : Channel ω} {machine : Machine ω}

/-- What is made of the response to a CreatePrimary command. -/
def settlePrimary {σ : Type} (response : Response) : Act Fault σ KeyObject := do
  let reply ← response.sessionReply 1
  let handle ← Act.demand reply.handles.head?
  let name ← readPrimaryName.within reply.parameters
  return { handle, name }

/-- The response can be read to the end, and is about this object. -/
def Describes (response : Response) (key : KeyObject) : Prop :=
  response.tag = .sessions ∧ ∃ reply : SessionReply, reply.handles = [key.handle] ∧ reply.Fits ∧
    response.data = reply.encode ∧ ∃ (answer : PrimaryAnswer) (tail : Bytes), answer.Fits ∧
      answer.name = key.name ∧ reply.parameters = answer.encode ++ tail

theorem settlePrimary_ok_iff {σ : Type} {response : Response} {key : KeyObject} {s t : σ} :
    settlePrimary response s = .ok key t ↔ t = s ∧ Describes response key := by
  unfold settlePrimary
  rw [bind_eq_ok_iff]
  constructor
  · rintro ⟨reply, _, run₁, run⟩
    obtain ⟨rfl, tag, count, fits, whole⟩ := Response.sessionReply_ok_iff.mp run₁
    obtain ⟨handle, only⟩ := List.length_eq_one_iff.mp count
    rw [only, List.head?_cons, bind_ok (demand_some _ _)] at run
    obtain ⟨name, _, run₂, run₃⟩ := bind_eq_ok_iff.mp run
    obtain ⟨rfl, _, tail, ⟨answer, answer_fits, named, rfl⟩, split⟩ :=
      decodes_readPrimaryName.within_ok_iff.mp run₂
    cases run₃
    exact ⟨rfl, tag, reply, only, fits, whole, answer, tail, answer_fits, named, split⟩
  · rintro ⟨rfl, tag, reply, only, fits, whole, answer, tail, answer_fits, named, split⟩
    have count : reply.handles.length = 1 := by rw [only, List.length_singleton]
    refine ⟨reply, t, Response.sessionReply_ok_iff.mpr ⟨rfl, tag, count, fits, whole⟩, ?_⟩
    have read : readPrimaryName.within reply.parameters t = .ok key.name t :=
      decodes_readPrimaryName.within_ok_iff.mpr ⟨rfl, _, tail, ⟨answer, answer_fits, named, rfl⟩, split⟩
    rw [only, List.head?_cons, bind_ok (demand_some _ _), bind_ok read]
    rfl

theorem still_settlePrimary {σ : Type} (response : Response) :
    Still (settlePrimary response : Act Fault σ KeyObject) :=
  still_bind (response.still_sessionReply 1) fun _ =>
    still_bind (still_demand _) fun _ => still_bind (still_within _ _) fun _ => still_pure _

theorem returned_settlePrimary {σ : Type} (response : Response) (s : σ) :
    Returned (settlePrimary response s) := by
  refine returned_bind (response.returned_sessionReply 1 s) fun reply later run => ?_
  obtain ⟨-, -, count, -⟩ := Response.sessionReply_ok_iff.mp run
  obtain ⟨handle, only⟩ := List.length_eq_one_iff.mp count
  rw [only, List.head?_cons, bind_ok (demand_some _ _)]
  exact returned_bind (returned_within decodes_readPrimaryName.returned _ later) fun _ _ _ => trivial

theorem createPrimary_of_describes {hierarchy : Handle} {template : Template} {response : Response}
    {key : KeyObject}
    (granted : success? (channel.answer (createPrimaryCommand hierarchy template).bytes machine.world) =
      some response) (describes : Describes response key) :
    createPrimary channel hierarchy template machine =
      .ok key (machine.exchanged channel (createPrimaryCommand hierarchy template).bytes) := by
  rw [createPrimary, bind_ok (perform_of_some _ _ granted)]
  exact settlePrimary_ok_iff.mpr ⟨rfl, describes⟩

theorem createPrimary_of_unreadable {hierarchy : Handle} {template : Template} {response : Response}
    (granted : success? (channel.answer (createPrimaryCommand hierarchy template).bytes machine.world) =
      some response) (unreadable : ∀ key, ¬ Describes response key) :
    ∃ fault, createPrimary channel hierarchy template machine = .error (.error fault)
      (machine.exchanged channel (createPrimaryCommand hierarchy template).bytes) := by
  rw [createPrimary, bind_ok (perform_of_some _ _ granted)]
  refine reports_of_not_ok (still_settlePrimary response) (returned_settlePrimary response _) ?_
  intro key later run
  exact unreadable key (settlePrimary_ok_iff.mp run).2

theorem createPrimary_cases (channel : Channel ω) (hierarchy : Handle) (template : Template)
    (machine : Machine ω) :
    let command := (createPrimaryCommand hierarchy template).bytes
    (∃ response key, success? (channel.answer command machine.world) = some response ∧
      Describes response key ∧
        createPrimary channel hierarchy template machine = .ok key (machine.exchanged channel command)) ∨
    ∃ fault, createPrimary channel hierarchy template machine =
      .error (.error fault) (machine.exchanged channel command) := by
  intro command
  cases granted : success? (channel.answer command machine.world) with
  | none =>
    obtain ⟨fault, failed⟩ := perform_of_none (.command .createPrimary) machine granted
    exact .inr ⟨fault, by rw [createPrimary, bind_error failed]⟩
  | some response =>
    by_cases readable : ∃ key, Describes response key
    · obtain ⟨key, describes⟩ := readable
      exact .inl ⟨response, key, rfl, describes, createPrimary_of_describes granted describes⟩
    · exact .inr (createPrimary_of_unreadable granted fun key describes => readable ⟨key, describes⟩)

theorem returned_flushContext (channel : Channel ω) (handle : Handle) (machine : Machine ω) :
    Returned (flushContext channel handle machine) :=
  returned_bind (returned_perform _ _ _ _) fun _ _ _ => trivial

/-- An HMAC adds to the transcript, if anything. -/
theorem hmac_grows (channel : Channel ω) (key : KeyObject) (data : Bytes)
    (state : HmacSession × Machine ω) :
    ∃ traffic, (after (hmac channel key data state)).2.transcript = state.2.transcript ++ traffic := by
  obtain ⟨session, machine⟩ := state
  cases h : hmacParameters session data with
  | error fault =>
    rw [hmac_of_error h]
    exact ⟨[], (List.append_nil _).symm⟩
  | ok parameters =>
    rw [after_hmac h]
    exact ⟨_, rfl⟩

end Tpm

namespace TpmDevice
namespace Connection

open Tpm

variable {connection : Connection ω} {machine : Machine ω}

theorem after_onSession_closed {α : Type} (closed : connection.session = none)
    (step : Act Fault (HmacSession × Machine ω) α) :
    after (onSession step (connection, machine)) = (connection, machine) := by
  simp only [onSession, closed, after_error]

theorem after_onSession_open {α : Type} {session : HmacSession} (held : connection.session = some session)
    (step : Act Fault (HmacSession × Machine ω) α) :
    after (onSession step (connection, machine)) =
      ({ connection with session := some (after (step (session, machine))).1 },
        (after (step (session, machine))).2) := by
  simp only [onSession, held]
  cases step (session, machine) with
  | ok a later => rfl
  | error stop later => rfl

theorem returned_onSession {α : Type} {step : Act Fault (HmacSession × Machine ω) α}
    (returned : ∀ session, Returned (step (session, machine))) :
    Returned (onSession step (connection, machine)) := by
  cases held : connection.session with
  | none =>
    simp only [onSession, held]
    trivial
  | some session =>
    have ended := returned session
    simp only [onSession, held]
    cases ran : step (session, machine) with
    | ok a later => trivial
    | error stop later =>
      rw [ran] at ended
      cases stop with
      | error fault => trivial
      | crash => exact ended

theorem hmacWith_eq (key : KeyObject) (message : Bytes) (connection : Connection ω)
    (machine : Machine ω) :
    hmacWith key message (connection, machine) =
      onSession (Tpm.hmac connection.channel key message) (connection, machine) := by
  rw [hmacWith, bind_ok (get_eq _)]

theorem returned_hmacWith (key : KeyObject) (message : Bytes) (connection : Connection ω)
    (machine : Machine ω) : Returned (hmacWith key message (connection, machine)) := by
  rw [hmacWith_eq]
  exact returned_onSession fun session => returned_hmac connection.channel key message (session, machine)

theorem hmacWith_grows (key : KeyObject) (message : Bytes) (connection : Connection ω)
    (machine : Machine ω) :
    ∃ traffic, (after (hmacWith key message (connection, machine))).2.transcript =
      machine.transcript ++ traffic := by
  rw [hmacWith_eq]
  cases held : connection.session with
  | none =>
    rw [after_onSession_closed held]
    exact ⟨[], (List.append_nil _).symm⟩
  | some session =>
    rw [after_onSession_open held]
    exact hmac_grows connection.channel key message (session, machine)

theorem still_ofDigest {σ : Type} (digest : Bytes) :
    Still (RawIdentity.ofDigest digest : Act Fault σ RawIdentity) := by
  unfold RawIdentity.ofDigest
  by_cases short : digest.length < uuidLength
  · rw [if_pos short]
    exact still_fail _
  · rw [if_neg short]
    exact still_demand _

/-- The command that asks for the identity key. -/
def identityCommand : Command := createPrimaryCommand Handle.endorsement Template.hmacKey

/-- Without a key the request ends. -/
theorem after_identity_of_error {fault : Fault} {later : Machine ω}
    (failed : createPrimary connection.channel Handle.endorsement Template.hmacKey machine =
      .error (.error fault) later) :
    after (identity (connection, machine)) = (connection, later) := by
  rw [identity, after_bind_ok (get_eq _)]
  exact after_bind_error (during_of_error (onSecond_of_error failed))

/-- With a key the last thing that happens is that it is flushed. -/
theorem after_identity_of_ok {key : KeyObject} {later : Machine ω}
    (made : createPrimary connection.channel Handle.endorsement Template.hmacKey machine =
      .ok key later) :
    let digested := after (hmacWith key identityLabel (connection, later))
    after (identity (connection, machine)) =
      (digested.1, digested.2.exchanged connection.channel (flushCommand key.handle).bytes) := by
  intro digested
  obtain ⟨digest, ran⟩ := attempt_of_returned (returned_hmacWith key identityLabel connection later)
  obtain ⟨flushed, released⟩ := attempt_of_returned
    (returned_onSecond (returned_flushContext connection.channel key.handle digested.2) :
      Returned (onSecond (Tpm.flushContext connection.channel key.handle) digested))
  have created : during .createIdentityKey (onSecond
      (createPrimary connection.channel Handle.endorsement Template.hmacKey)) (connection, machine) =
        .ok key (connection, later) := during_of_ok (onSecond_of_ok made)
  rw [identity, after_bind_ok (get_eq _)]
  show after ((during .createIdentityKey (onSecond
    (createPrimary connection.channel Handle.endorsement Template.hmacKey)) >>= _) _) = _
  -- neither the HMAC nor the flush can stop the request: both outcomes are held back
  rw [after_bind_ok created, after_bind_ok ran, after_bind_ok released]
  have rest : Still (do
      let digest ← Act.ofExcept digest
      Act.during .flushIdentityKey (Act.ofExcept flushed)
      RawIdentity.ofDigest digest : Act Fault (Connection ω × Machine ω) RawIdentity) :=
    still_bind (keeps_ofExcept frame_still digest) fun digest =>
      still_bind (keeps_during (keeps_ofExcept frame_still flushed)) fun _ => still_ofDigest digest
  rw [rest, after_onSecond, after_flushContext]

/-- An identity key that the TPM has made is flushed exactly if the answer about it can be read to the end;
and then it is flushed whatever else goes wrong. -/
theorem identityKey_flushed_iff {response : Response} {handle : Handle} {rest : Bytes}
    (granted : success? (connection.channel.answer identityCommand.bytes machine.world) = some response)
    (carries : response.data = Bytes.ofU32 handle ++ rest) :
    machine.SentBetween (after (identity (connection, machine))).2 (flushCommand handle).bytes ↔
      ∃ name, Describes response ⟨handle, name⟩ := by
  constructor
  · intro flushed
    by_cases readable : ∃ key, Describes response key
    · obtain ⟨key, describes⟩ := readable
      obtain ⟨tag, reply, only, fits, whole, others⟩ := id describes
      -- the object that the response describes is the one whose handle stands in front
      have same : key.handle = handle := by
        rw [carries, SessionReply.encode, only, List.flatMap_singleton, List.append_assoc,
          List.append_assoc] at whole
        exact (ofU32_append_inj whole).1.symm
      exact ⟨key.name, by rw [← same]; exact describes⟩
    · obtain ⟨fault, failed⟩ := createPrimary_of_unreadable granted fun key describes =>
        readable ⟨key, describes⟩
      have other : identityCommand.code ≠ .flushContext := by decide
      rw [after_identity_of_error failed, Machine.sentBetween_exchanged_iff rfl] at flushed
      exact absurd flushed (flush_ne_of_code_ne other handle)
  · rintro ⟨name, describes⟩
    have made := createPrimary_of_describes granted describes
    obtain ⟨traffic, grown⟩ := hmacWith_grows ⟨handle, name⟩ identityLabel connection
      (machine.exchanged connection.channel identityCommand.bytes)
    rw [Machine.exchanged, List.append_assoc] at grown
    rw [after_identity_of_ok made]
    exact Machine.sentBetween_exchanged grown _ _

/-- A TPM whose answer ends behind the handle of the identity key: no parameters and no entries follow. -/
def truncatedKey : Machine Replies :=
  Machine.new [.ok (Response.bytes ⟨.sessions, 0, Bytes.ofU32 0x80000001 ++ Bytes.ofU32 0⟩)]
    (Entropy.ofBytes [])

def scripted : Connection Replies where
  channel := scriptedChannel
  session := some ⟨0x02000000, .sha256, [], continueSession⟩
  keyHandles := .both 0x81000001
  keys := .both none

theorem identityKey_not_flushed_truncated :
    ¬ truncatedKey.SentBetween (after (identity (scripted, truncatedKey))).2
      (flushCommand 0x80000001).bytes := by
  have granted : success? (scripted.channel.answer identityCommand.bytes truncatedKey.world) =
      some ⟨.sessions, 0, Bytes.ofU32 0x80000001 ++ Bytes.ofU32 0⟩ :=
    success?_eq_some_iff.mpr ⟨rfl, by decide, [], rfl⟩
  intro flushed
  obtain ⟨name, -, reply, only, -, whole, answer, tail, -, -, split⟩ :=
    (identityKey_flushed_iff granted rfl).mp flushed
  have widths := congrArg List.length whole
  have parameters := congrArg List.length split
  simp only [SessionReply.encode, only, List.flatMap_singleton, List.length_append, Bytes.length_ofU32]
    at widths
  simp only [PrimaryAnswer.encode, List.length_append, length_sized] at parameters
  omega

end Connection
end TpmDevice
end TrustAnchor
