import TrustAnchor.Proofs.Tpm.Exchange
import TrustAnchor.Proofs.Wire.Script

/-!
What the two session operations do, in terms of the answer that came back.

Starting a session sends one command, whatever becomes of the reply.  An HMAC sends nothing if the data is
too long; otherwise it sends one command, and the session takes over the nonce that the answer brings
(`hmacNonce?`) whether or not the rest of the answer holds.
-/

namespace TrustAnchor
namespace Tpm

open Act Wire

variable {ω : Type} {channel : Channel ω} {machine : Machine ω}

/-! ## Starting -/

/-- The handle and the nonce that an answer to StartAuthSession brings. -/
def started? (answer : Except Fault Bytes) : Option (Handle × Bytes) :=
  (success? answer).bind fun response => value? (HmacSession.readStarted.within response.data)

namespace HmacSession

/-- The command that `start` sends. -/
def opening (machine : Machine ω) : Bytes :=
  (startCommand (machine.entropy.next nonceLength)).bytes

theorem start_eq (channel : Channel ω) (machine : Machine ω) :
    start channel machine =
      (perform channel (startCommand (machine.entropy.next nonceLength)) (.command .startAuthSession) >>=
        fun response => do
          let (handle, nonceTpm) ← readStarted.within response.data
          return { handle, hashAlgorithm := .sha256, nonceTpm, attributes := continueSession })
        (machine.drawn nonceLength) :=
  bind_ok rfl

theorem after_start (channel : Channel ω) (machine : Machine ω) :
    after (start channel machine) = (machine.drawn nonceLength).exchanged channel (opening machine) := by
  rw [start_eq]
  exact after_perform_bind fun _ => still_bind (still_within _ _) fun _ => still_pure _

theorem returned_start (channel : Channel ω) (machine : Machine ω) :
    Returned (start channel machine) := by
  rw [start_eq]
  refine returned_bind (returned_perform _ _ _ _) fun response later _ => ?_
  exact returned_bind (returned_within decodes_readStarted.returned _ later) fun _ _ _ => trivial

theorem start_ok_iff {session : HmacSession} {later : Machine ω} :
    start channel machine = .ok session later ↔
      started? (channel.answer (opening machine) machine.world) = some (session.handle, session.nonceTpm) ∧
        session.hashAlgorithm = .sha256 ∧ session.attributes = continueSession ∧
          later = (machine.drawn nonceLength).exchanged channel (opening machine) := by
  rw [start_eq, bind_eq_ok_iff]
  constructor
  · rintro ⟨response, _, run₁, run₂⟩
    cases granted : success? (channel.answer (opening machine) machine.world) with
    | none =>
      obtain ⟨fault, failed⟩ := perform_of_none _ (machine.drawn nonceLength) granted
      rw [failed] at run₁
      cases run₁
    | some response' =>
      rw [perform_of_some _ (machine.drawn nonceLength) granted] at run₁
      cases run₁
      obtain ⟨⟨handle, nonceTpm⟩, _, run₃, run₄⟩ := bind_eq_ok_iff.mp run₂
      obtain ⟨rfl, form⟩ := decodes_readStarted.within_ok_iff.mp run₃
      cases run₄
      refine ⟨?_, rfl, rfl, rfl⟩
      rw [started?, granted, Option.bind_some, value?_eq_some_iff]
      exact decodes_readStarted.within_ok_iff.mpr ⟨rfl, form⟩
  · rintro ⟨granted, algorithm, attributes, rfl⟩
    obtain ⟨response, success, read⟩ := Option.bind_eq_some_iff.mp granted
    obtain ⟨-, form⟩ := decodes_readStarted.within_ok_iff.mp (value?_eq_some_iff.mp read)
    refine ⟨response, _, perform_of_some _ (machine.drawn nonceLength) success, ?_⟩
    rw [bind_ok (decodes_readStarted.within_ok_iff.mpr ⟨rfl, form⟩), ← algorithm, ← attributes]
    rfl

end HmacSession

/-! ## HMACs -/

/-- The nonce of the first entry in the answer to an HMAC command, whether or not the HMAC in it holds. -/
def hmacNonce? (answer : Except Fault Bytes) : Option Bytes :=
  (success? answer).bind fun response =>
    (value? (response.sessionReply 0)).bind fun reply => reply.auth.head?.map (·.nonceTpm)

/-- The answer begins with a successful response that has an authorization area, and the first entry in it
carries the nonce. -/
theorem hmacNonce?_eq_some_iff {answer : Except Fault Bytes} {nonce : Bytes} :
    hmacNonce? answer = some nonce ↔ ∃ (reply : SessionReply) (first : ResponseAuth)
      (others : List ResponseAuth) (padding : Bytes), reply.handles = [] ∧
        reply.auth = first :: others ∧ first.nonceTpm = nonce ∧ reply.Fits ∧
          headerLength + reply.encode.length < 4294967296 ∧
            answer = .ok (Response.bytes ⟨.sessions, 0, reply.encode⟩ ++ padding) := by
  unfold hmacNonce?
  constructor
  · intro h
    obtain ⟨⟨tag, code, data⟩, success, h⟩ := Option.bind_eq_some_iff.mp h
    obtain ⟨reply, parsed, h⟩ := Option.bind_eq_some_iff.mp h
    obtain ⟨first, head, rfl⟩ := Option.map_eq_some_iff.mp h
    obtain ⟨others, auth⟩ := List.head?_eq_some_iff.mp head
    obtain ⟨rfl, short, padding, came⟩ := success?_eq_some_iff.mp success
    obtain ⟨-, rfl, none, fits, rfl⟩ := Response.sessionReply_ok_iff.mp (value?_eq_some_iff.mp parsed)
    exact ⟨reply, first, others, padding, List.length_eq_zero_iff.mp none, auth, rfl, fits, short, came⟩
  · rintro ⟨reply, first, others, padding, none, auth, rfl, fits, short, came⟩
    have parsed : value? ((Response.mk .sessions 0 reply.encode).sessionReply 0) = some reply :=
      value?_eq_some_iff.mpr (Response.sessionReply_ok_iff.mpr
        ⟨rfl, rfl, List.length_eq_zero_iff.mpr none, fits, rfl⟩)
    rw [success?_eq_some_iff.mpr ⟨rfl, short, padding, came⟩, Option.bind_some, parsed, Option.bind_some,
      auth]
    rfl

namespace HmacSession

/-- The session with a newer nonce, if there is one. -/
def took (session : HmacSession) (nonce? : Option Bytes) : HmacSession :=
  { session with nonceTpm := nonce?.getD session.nonceTpm }

end HmacSession

/-- What is made of the response to an HMAC command. -/
def settleHmac (auth : Authorization) (response : Response) :
    Act Fault (HmacSession × Machine ω) Bytes := do
  let reply ← response.sessionReply 0
  match reply.auth.head? with
  | none => Act.fail (Fault.of .noResponseSession)
  | some received =>
    Act.onFirst (HmacSession.verify .hmac auth reply.parameters received)
    readDigest.within reply.parameters

/-- A digest and nothing behind it. -/
theorem readDigest_within_ok_iff {σ : Type} {parameters digest : Bytes} {s t : σ} :
    readDigest.within parameters s = .ok digest t ↔
      t = s ∧ digest.length < 65536 ∧ parameters = Wire.sized digest :=
  Reader.decodes_sized.sole_within_ok_iff

theorem verify_ok_iff {command : CommandCode} {sent : Authorization} {parameters : Bytes}
    {received : ResponseAuth} {session later : HmacSession} :
    HmacSession.verify command sent parameters received session = .ok () later ↔
      received.hmac = HmacSession.expectedHmac command sent parameters received ∧
        later = session.took (some received.nonceTpm) := by
  have taken : (modify fun session : HmacSession => { session with nonceTpm := received.nonceTpm } :
      Act Fault HmacSession Unit) session = .ok () (session.took (some received.nonceTpm)) := rfl
  rw [HmacSession.verify, bind_ok taken]
  by_cases bad : received.hmac ≠ HmacSession.expectedHmac command sent parameters received
  · rw [if_pos bad]
    constructor
    · intro run
      cases run
    · intro authentic
      exact absurd authentic.1 bad
  · rw [if_neg bad]
    constructor
    · intro run
      cases run
      exact ⟨Decidable.not_not.mp bad, rfl⟩
    · intro authentic
      rw [authentic.2]
      rfl

/-- What `settleHmac` accepts: a digest as the only parameter, and a first entry with the HMAC of the
response.  The entries after it are read and not looked at. -/
theorem settleHmac_ok_iff {auth : Authorization} {response : Response} {digest : Bytes}
    {state later : HmacSession × Machine ω} :
    settleHmac auth response state = .ok digest later ↔
      ∃ (reply : SessionReply) (first : ResponseAuth) (others : List ResponseAuth),
        response.tag = .sessions ∧ reply.handles = [] ∧ reply.auth = first :: others ∧ reply.Fits ∧
          response.data = reply.encode ∧ digest.length < 65536 ∧ reply.parameters = Wire.sized digest ∧
            first.hmac = HmacSession.expectedHmac .hmac auth reply.parameters first ∧
              later = (state.1.took (some first.nonceTpm), state.2) := by
  constructor
  · intro run
    obtain ⟨reply, parsing, parsed, settled⟩ := bind_eq_ok_iff.mp run
    obtain ⟨same, tag, none, fits, encoded⟩ := Response.sessionReply_ok_iff.mp parsed
    subst same
    cases entries : reply.auth with
    | nil =>
      rw [entries] at settled
      cases settled
    | cons first others =>
      rw [entries] at settled
      obtain ⟨_, between, verified, digested⟩ := bind_eq_ok_iff.mp settled
      obtain ⟨checked, kept⟩ := onFirst_eq_ok_iff.mp verified
      obtain ⟨authentic, taken⟩ := verify_ok_iff.mp checked
      obtain ⟨rfl, digest_fits, carries⟩ := readDigest_within_ok_iff.mp digested
      exact ⟨reply, first, others, tag, List.length_eq_zero_iff.mp none, entries, fits, encoded,
        digest_fits, carries, authentic, Prod.ext taken kept⟩
  · rintro ⟨reply, first, others, tag, none, entries, fits, encoded, digest_fits, carries, authentic, rfl⟩
    have parsed : response.sessionReply 0 state = .ok reply state :=
      Response.sessionReply_ok_iff.mpr ⟨rfl, tag, List.length_eq_zero_iff.mpr none, fits, encoded⟩
    have verified : onFirst (HmacSession.verify .hmac auth reply.parameters first) state =
        .ok () (state.1.took (some first.nonceTpm), state.2) :=
      onFirst_eq_ok_iff.mpr ⟨verify_ok_iff.mpr ⟨authentic, rfl⟩, rfl⟩
    rw [settleHmac, bind_ok parsed, entries]
    exact (bind_ok verified).trans (readDigest_within_ok_iff.mpr ⟨rfl, digest_fits, carries⟩)

theorem after_verify (command : CommandCode) (sent : Authorization) (parameters : Bytes)
    (received : ResponseAuth) (session : HmacSession) :
    after (HmacSession.verify command sent parameters received session) =
      session.took (some received.nonceTpm) := by
  have taken : (modify fun session : HmacSession => { session with nonceTpm := received.nonceTpm } :
      Act Fault HmacSession Unit) session = .ok () (session.took (some received.nonceTpm)) := rfl
  rw [HmacSession.verify, bind_ok taken]
  by_cases bad : received.hmac ≠ HmacSession.expectedHmac command sent parameters received
  · rw [if_pos bad]
    rfl
  · rw [if_neg bad]
    rfl

theorem returned_verify (command : CommandCode) (sent : Authorization) (parameters : Bytes)
    (received : ResponseAuth) (session : HmacSession) :
    Returned (HmacSession.verify command sent parameters received session) := by
  refine returned_bind trivial fun _ later _ => ?_
  by_cases bad : received.hmac ≠ HmacSession.expectedHmac command sent parameters received
  · rw [if_pos bad]
    trivial
  · rw [if_neg bad]
    trivial

theorem sessionReply_of_some {σ : Type} {response : Response} {n : Nat} {reply : SessionReply}
    (h : value? (response.sessionReply n) = some reply) (s : σ) :
    response.sessionReply n s = .ok reply s := by
  obtain ⟨-, form⟩ := Response.sessionReply_ok_iff.mp (value?_eq_some_iff.mp h)
  exact Response.sessionReply_ok_iff.mpr ⟨rfl, form⟩

theorem sessionReply_of_none {σ : Type} {response : Response} {n : Nat}
    (h : value? (response.sessionReply n) = none) (s : σ) :
    ∃ fault, response.sessionReply n s = .error (.error fault) s := by
  refine reports_of_not_ok (response.still_sessionReply n) (response.returned_sessionReply n s) ?_
  intro reply t run
  obtain ⟨-, form⟩ := Response.sessionReply_ok_iff.mp run
  have := value?_eq_some_iff.mpr (Response.sessionReply_ok_iff.mpr ⟨rfl, form⟩)
  rw [h] at this
  cases this

theorem after_settleHmac (auth : Authorization) (response : Response) (session : HmacSession)
    (machine : Machine ω) :
    after (settleHmac auth response (session, machine)) =
      (session.took ((value? (response.sessionReply 0)).bind fun reply =>
        reply.auth.head?.map (·.nonceTpm)), machine) := by
  unfold settleHmac
  cases parsed : value? (response.sessionReply 0) with
  | none =>
    obtain ⟨fault, failed⟩ := sessionReply_of_none parsed (session, machine)
    rw [after_bind_error failed]
    rfl
  | some reply =>
    rw [after_bind_ok (sessionReply_of_some parsed (session, machine)), Option.bind_some]
    cases reply.auth.head? with
    | none => rfl
    | some received =>
      show after ((onFirst _ >>= fun _ => readDigest.within reply.parameters) (session, machine)) = _
      rw [after_bind_still _ fun _ => still_within _ _, after_onFirst, after_verify]
      rfl

theorem returned_settleHmac (auth : Authorization) (response : Response)
    (state : HmacSession × Machine ω) : Returned (settleHmac auth response state) := by
  refine returned_bind (response.returned_sessionReply 0 state) fun reply later _ => ?_
  cases reply.auth.head? with
  | none => trivial
  | some received =>
    refine returned_bind (returned_onFirst (returned_verify _ _ _ _ _)) fun _ last _ => ?_
    exact returned_within returned_readDigest reply.parameters last

/-- The authorization of the next HMAC command. -/
def HmacSession.nextAuthorization (session : HmacSession) (key : KeyObject) (parameters : Bytes)
    (machine : Machine ω) : Authorization :=
  session.authorizeWith .hmac [key.name] parameters (machine.entropy.next nonceLength)

theorem hmac_of_error {key : KeyObject} {data : Bytes} {fault : Fault} {session : HmacSession}
    (long : hmacParameters session data = .error fault) :
    hmac channel key data (session, machine) = .error (.error fault) (session, machine) := by
  unfold hmac
  rw [bind_ok (get_eq (session, machine))]
  show (Act.ofExcept (hmacParameters session data) >>= _) (session, machine) = _
  rw [long]
  rfl

theorem hmac_of_ok {key : KeyObject} {data parameters : Bytes} {session : HmacSession}
    (short : hmacParameters session data = .ok parameters) :
    hmac channel key data (session, machine) =
      (Act.onSecond (perform channel
          (hmacCommand key (session.nextAuthorization key parameters machine) parameters)
          (.hmacWith key.handle)) >>=
        settleHmac (session.nextAuthorization key parameters machine))
        (session, machine.drawn nonceLength) := by
  unfold hmac
  rw [bind_ok (get_eq (session, machine))]
  show (Act.ofExcept (hmacParameters session data) >>= _) (session, machine) = _
  rw [short]
  rfl

/-- An HMAC whose data is not too long leaves one exchange behind, and the nonce that its answer brings. -/
theorem after_hmac {key : KeyObject} {data parameters : Bytes} {session : HmacSession}
    (short : hmacParameters session data = .ok parameters) :
    let command := hmacCommand key (session.nextAuthorization key parameters machine) parameters
    after (hmac channel key data (session, machine)) =
      (session.took (hmacNonce? (channel.answer command.bytes machine.world)),
        (machine.drawn nonceLength).exchanged channel command.bytes) := by
  intro command
  rw [hmac_of_ok short]
  cases granted : success? (channel.answer command.bytes machine.world) with
  | none =>
    obtain ⟨fault, failed⟩ := perform_of_none _ (machine.drawn nonceLength) granted
    rw [after_bind_error (onSecond_of_error failed), hmacNonce?, granted]
    rfl
  | some response =>
    have ran := perform_of_some (.hmacWith key.handle) (machine.drawn nonceLength) granted
    rw [after_bind_ok (onSecond_of_ok ran), after_settleHmac, hmacNonce?, granted]
    rfl

theorem returned_hmac (channel : Channel ω) (key : KeyObject) (data : Bytes)
    (state : HmacSession × Machine ω) : Returned (hmac channel key data state) := by
  obtain ⟨session, machine⟩ := state
  cases h : hmacParameters session data with
  | error fault =>
    rw [hmac_of_error h]
    trivial
  | ok parameters =>
    rw [hmac_of_ok h]
    refine returned_bind (returned_onSecond (returned_perform _ _ _ _)) fun response later _ => ?_
    exact returned_settleHmac _ response later

end Tpm
end TrustAnchor
