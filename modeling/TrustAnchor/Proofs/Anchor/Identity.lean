import TrustAnchor.Proofs.Anchor.Release
import TrustAnchor.Proofs.Context.Derivation
import TrustAnchor.Proofs.Tpm.HmacCommand

/-!
A request for the identity of the device, from the key that is made for it to what is reported.

The key is flushed after the HMAC and whatever the HMAC gave, so both outcomes are there before one of them
is reported.  A fault of the HMAC hides one of the flush, and a digest that is too short is reported only if
the key has been flushed.  `Reports` is the table of this, and `identity_completes` says that a request keeps
to it.
-/

namespace TrustAnchor

open Act Wire

variable {ω : Type}

theorem RawIdentity.ofDigest_of_le {σ : Type} {digest : Bytes} (enough : uuidLength ≤ digest.length)
    (s : σ) : ∃ raw : RawIdentity, RawIdentity.ofDigest digest s = .ok raw s ∧
      raw.toList = digest.take uuidLength := by
  have width : (digest.take uuidLength).length = uuidLength := List.length_take_of_le enough
  obtain ⟨raw, made, same⟩ := Bytes.toVector?_of_length width
  have cut : Bytes.slice? 0 uuidLength digest = some (digest.take uuidLength) :=
    if_pos ⟨Nat.zero_le _, enough⟩
  refine ⟨raw, ?_, same⟩
  rw [RawIdentity.ofDigest, if_neg (Nat.not_lt.mpr enough), cut, Option.bind_some, made]
  rfl

namespace Tpm

theorem outcome_hmac_of_error {channel : Channel ω} {session : HmacSession} {machine : Machine ω}
    {key : KeyObject} {data : Bytes} {fault : Fault} (fits : data.length ≤ maxBufferLength)
    (lost : ∀ command, channel.answer command machine.world = .error fault) :
    outcome (hmac channel key data (session, machine)) = .error (.error fault) := by
  have short : hmacParameters session data = .ok _ := hmacParameters_of_le fits
  rw [hmac_of_ok short, bind_error (onSecond_of_error (perform_of_error _ (lost _)))]
  rfl

end Tpm

namespace TpmDevice
namespace Connection

open Tpm

variable {connection : Connection ω} {machine later : Machine ω} {session : HmacSession} {key : KeyObject}

/-- What is reported for each outcome of the HMAC and of the flush. -/
inductive Reports :
    Except (Stop Fault) Bytes → Except (Stop Fault) Unit → Except (Stop Fault) RawIdentity → Prop
  | notHashed {fault : Fault} {flushed : Except (Stop Fault) Unit} :
      Reports (.error (.error fault)) flushed (.error (.error fault))
  | notFlushed {digest : Bytes} {fault : Fault} :
      Reports (.ok digest) (.error (.error fault)) (.error (.error (fault.during .flushIdentityKey)))
  | short {digest : Bytes} (width : digest.length < 16) :
      Reports (.ok digest) (.ok ()) (.error (.error (Fault.of (.shortIdentityDigest digest.length))))
  | identity {digest : Bytes} {raw : RawIdentity} (width : 16 ≤ digest.length)
      (leading : raw.toList = digest.take 16) : Reports (.ok digest) (.ok ()) (.ok raw)

theorem Reports.eq_of_notHashed {hashed : Except (Stop Fault) Bytes} {flushed : Except (Stop Fault) Unit}
    {reported : Except (Stop Fault) RawIdentity} {stop : Stop Fault}
    (reports : Reports hashed flushed reported) (failed : hashed = .error stop) :
    reported = .error stop := by
  cases reports with
  | notHashed =>
    cases failed
    rfl
  | _ => cases failed

/-- The table is that of the end of a request, where both outcomes are held back. -/
theorem reports_of_held {σ : Type} (digest : Except Fault Bytes) (flushed : Except Fault Unit) (s : σ) :
    Reports (digest.mapError .error) (flushed.mapError .error) (outcome ((do
      let digest ← Act.ofExcept digest
      Act.during .flushIdentityKey (Act.ofExcept flushed)
      RawIdentity.ofDigest digest : Act Fault σ RawIdentity) s)) := by
  cases digest with
  | error fault => exact .notHashed
  | ok digest =>
    cases flushed with
    | error fault => exact .notFlushed
    | ok _ =>
      show Reports _ _ (outcome (RawIdentity.ofDigest digest s))
      by_cases short : digest.length < uuidLength
      · rw [RawIdentity.ofDigest, if_pos short]
        exact .short short
      · obtain ⟨raw, taken, leading⟩ := RawIdentity.ofDigest_of_le (Nat.not_lt.mp short) s
        rw [taken]
        exact .identity (Nat.not_lt.mp short) leading

theorem outcome_hmacWith_open (held : connection.session = some session) (key : KeyObject)
    (message : Bytes) (machine : Machine ω) :
    outcome (hmacWith key message (connection, machine)) =
      outcome (Tpm.hmac connection.channel key message (session, machine)) := by
  rw [hmacWith_eq]
  simp only [onSession, held]
  cases Tpm.hmac connection.channel key message (session, machine) <;> rfl

theorem after_hmacWith_open (held : connection.session = some session) (key : KeyObject)
    (message : Bytes) (machine : Machine ω) :
    (after (hmacWith key message (connection, machine))).2 =
      (after (Tpm.hmac connection.channel key message (session, machine))).2 := by
  rw [hmacWith_eq, after_onSession_open held]

theorem transcript_identity_of_ok (held : connection.session = some session)
    (made : createPrimary connection.channel Handle.endorsement Template.hmacKey machine =
      .ok key later) :
    let channel := connection.channel
    let parameters := Wire.sized identityLabel ++ Bytes.ofU16 session.hashAlgorithm.code
    let keyed := (hmacCommand key (session.nextAuthorization key parameters later) parameters).bytes
    let flush := (flushCommand key.handle).bytes
    (after (identity (connection, machine))).2.transcript = later.transcript ++
      [⟨keyed, channel.answer keyed later.world⟩, ⟨flush, channel.answer flush
        (after (Tpm.hmac channel key identityLabel (session, later))).2.world⟩] := by
  intro channel parameters keyed flush
  have short : hmacParameters session identityLabel = .ok parameters :=
    hmacParameters_of_le (by decide)
  have grown : (after (Tpm.hmac channel key identityLabel (session, later))).2.transcript =
      later.transcript ++ [⟨keyed, channel.answer keyed later.world⟩] := by
    rw [after_hmac short]
    rfl
  rw [after_identity_of_ok made]
  show (Machine.exchanged channel flush _).transcript = _
  rw [after_hmacWith_open held, Machine.exchanged, grown, List.append_assoc]
  rfl

theorem keys_hmacWith (key : KeyObject) (message : Bytes) (connection : Connection ω)
    (machine : Machine ω) :
    (after (hmacWith key message (connection, machine))).1.keys = connection.keys := by
  rw [hmacWith_eq]
  cases held : connection.session with
  | none => rw [after_onSession_closed held]
  | some session => rw [after_onSession_open held]

theorem outcome_identity_of_error {fault : Fault}
    (failed : createPrimary connection.channel Handle.endorsement Template.hmacKey machine =
      .error (.error fault) later) :
    outcome (identity (connection, machine)) = .error (.error (fault.during .createIdentityKey)) := by
  have refused : identity (connection, machine) =
      .error (.error (fault.during .createIdentityKey)) (connection, later) := by
    rw [identity, bind_ok (get_eq (connection, machine))]
    exact bind_error (during_of_error (onSecond_of_error failed))
  rw [refused, outcome_error]

/-- With a key the request reports what the table has for the HMAC and for the flush after it. -/
theorem reports_identity_of_ok (held : connection.session = some session)
    (made : createPrimary connection.channel Handle.endorsement Template.hmacKey machine =
      .ok key later) :
    let hashing := Tpm.hmac connection.channel key identityLabel (session, later)
    Reports (outcome hashing)
      (outcome (flushContext connection.channel key.handle (after hashing).2))
      (outcome (identity (connection, machine))) := by
  intro hashing
  let hashed := after (hmacWith key identityLabel (connection, later))
  have created : during .createIdentityKey (onSecond
      (createPrimary connection.channel Handle.endorsement Template.hmacKey)) (connection, machine) =
        .ok key (connection, later) := during_of_ok (onSecond_of_ok made)
  obtain ⟨digest, ran, digest_eq⟩ :=
    attempt_outcome (returned_hmacWith key identityLabel connection later)
  obtain ⟨flushed, released, flushed_eq⟩ := attempt_outcome
    (returned_onSecond (returned_flushContext connection.channel key.handle hashed.2) :
      Returned (onSecond (flushContext connection.channel key.handle) hashed))
  rw [outcome_hmacWith_open held] at digest_eq
  rw [outcome_onSecond, after_hmacWith_open held] at flushed_eq
  rw [identity, bind_ok (get_eq (connection, machine))]
  show Reports _ _ (outcome ((during .createIdentityKey (onSecond
    (createPrimary connection.channel Handle.endorsement Template.hmacKey)) >>= _) _))
  rw [bind_ok created, bind_ok ran, bind_ok released, digest_eq, flushed_eq]
  exact reports_of_held digest flushed _

theorem keys_identity (connection : Connection ω) (machine : Machine ω) :
    (after (identity (connection, machine))).1.keys = connection.keys := by
  obtain ⟨_, key, -, -, made⟩ | ⟨_, failed⟩ :=
    createPrimary_cases connection.channel Handle.endorsement Template.hmacKey machine
  · rw [after_identity_of_ok made]
    exact keys_hmacWith key identityLabel connection _
  · rw [after_identity_of_error failed]

/-- On a connection that has not been closed, a request for the identity either makes a key or ends with the
command that asks for one.  Once the key is made, one HMAC of the label follows, under this key and for the
name that came with it, and then the key is flushed, whatever the HMAC gave; the faults are reported in the
order of the table.  What is known about the slot keys stays in every case. -/
theorem identity_completes (machine : Machine ω) (held : connection.session = some session) :
    let channel := connection.channel
    let create := (createPrimaryCommand Handle.endorsement Template.hmacKey).bytes
    let creation := createPrimary channel Handle.endorsement Template.hmacKey machine
    let requested := identity (connection, machine)
    (after requested).1.keys = connection.keys ∧
    ((∃ key later, creation = .ok key later ∧
      (∃ response, success? (channel.answer create machine.world) = some response ∧
        Describes response key) ∧
      let hashing := Tpm.hmac channel key [0x44, 0x45, 0x56, 0x49, 0x43, 0x45, 0x49, 0x44] (session, later)
      let flushing := flushContext channel key.handle (after hashing).2
      let flush := [0x80, 0x01, 0x00, 0x00, 0x00, 0x0e, 0x00, 0x00, 0x01, 0x65] ++ Bytes.ofU32 key.handle
      (∃ keyed request,
        (after requested).2.transcript = machine.transcript ++
          [⟨create, channel.answer create machine.world⟩, ⟨keyed, channel.answer keyed later.world⟩,
            ⟨flush, channel.answer flush (after hashing).2.world⟩] ∧
        HmacRequest.read (.ofBytes keyed) = .ok request ⟨keyed.length, []⟩ ∧
        request.Covers session key [0x44, 0x45, 0x56, 0x49, 0x43, 0x45, 0x49, 0x44]
          (later.entropy.next 32) keyed) ∧
      Reports (outcome hashing) (outcome flushing) (outcome requested)) ∨
    ∃ fault later, creation = .error (.error fault) later ∧
      (after requested).2.transcript =
        machine.transcript ++ [⟨create, channel.answer create machine.world⟩] ∧
      outcome requested = .error (.error (fault.during .createIdentityKey))) := by
  intro channel create creation requested
  refine ⟨keys_identity connection machine, ?_⟩
  obtain ⟨response, key, granted, describes, made⟩ | ⟨fault, failed⟩ :=
    createPrimary_cases channel Handle.endorsement Template.hmacKey machine
  · let later := machine.exchanged channel create
    have fits : identityLabel.length ≤ maxBufferLength := by decide
    have nonce_width : (later.entropy.next nonceLength).length = nonceLength := Entropy.length_next _ _
    obtain ⟨request, ran, covers, -⟩ := HmacRequest.covers_bytes session key nonce_width fits
    left
    refine ⟨key, later, made, ⟨response, granted, describes⟩, ⟨_, request, ?_, ran, covers⟩,
      reports_identity_of_ok held made⟩
    rw [transcript_identity_of_ok held made, bytes_flushCommand]
    exact List.append_assoc _ _ _
  · right
    refine ⟨fault, _, failed, ?_, outcome_identity_of_error failed⟩
    rw [after_identity_of_error failed]
    rfl

/-- The answer about a key that the TPM has made, with no more in it than there has to be. -/
def madeKey : PrimaryAnswer where
  publicArea := []
  creationData := []
  creationHash := []
  ticket := ⟨0x8021, 0x4000000b, []⟩
  name := 0x00 :: 0x0b :: List.replicate 32 0xaa

def madeReply : SessionReply := ⟨[0x80000001], madeKey.encode, [⟨[], 1, []⟩]⟩

/-- A TPM that makes the key and is not heard of after that. -/
def lostAfterKey : Machine Replies :=
  Machine.new [.ok (Response.bytes ⟨.sessions, 0, madeReply.encode⟩),
    .error (Fault.of (.reported "no digest")), .error (Fault.of (.reported "no flush"))] (Entropy.ofBytes [])

/-- Neither command after the key gets an answer: the key is flushed all the same, and what is reported is
the fault of the HMAC. -/
theorem identity_completes_lost :
    scripted.session = some ⟨0x02000000, .sha256, [], continueSession⟩ ∧
    (∃ keyed, (after (identity (scripted, lostAfterKey))).2.sent =
      [(createPrimaryCommand Handle.endorsement Template.hmacKey).bytes, keyed,
        [0x80, 0x01, 0x00, 0x00, 0x00, 0x0e, 0x00, 0x00, 0x01, 0x65] ++ Bytes.ofU32 0x80000001]) ∧
    outcome (identity (scripted, lostAfterKey)) = .error (.error (Fault.of (.reported "no digest"))) := by
  let key : KeyObject := ⟨0x80000001, madeKey.name⟩
  let session : HmacSession := ⟨0x02000000, .sha256, [], continueSession⟩
  have granted : success? (scripted.channel.answer
      (createPrimaryCommand Handle.endorsement Template.hmacKey).bytes lostAfterKey.world) =
        some ⟨.sessions, 0, madeReply.encode⟩ := success?_eq_some_iff.mpr ⟨rfl, by decide, [], rfl⟩
  have reply_fits : madeReply.Fits := by
    refine ⟨by decide, fun entry member => ?_⟩
    rw [List.mem_singleton.mp member]
    exact ⟨by decide, by decide⟩
  have describes : Describes ⟨.sessions, 0, madeReply.encode⟩ key :=
    ⟨rfl, madeReply, rfl, reply_fits, rfl, madeKey, [],
      ⟨by decide, by decide, by decide, by decide, by decide⟩, rfl, rfl⟩
  have made := createPrimary_of_describes granted describes
  obtain ⟨-, ⟨_, later, made', -, ⟨keyed, _, grown, -, -⟩, reports⟩ | ⟨_, _, failed, -⟩⟩ :=
    identity_completes lostAfterKey (show scripted.session = some session from rfl)
  · rw [made] at made'
    cases made'
    refine ⟨rfl, ⟨keyed, ?_⟩, ?_⟩
    · rw [Machine.sent, grown]
      rfl
    · exact reports.eq_of_notHashed (outcome_hmac_of_error (by decide) fun _ => rfl)
  · rw [made] at failed
    cases failed

end Connection
end TpmDevice
end TrustAnchor
