import TrustAnchor.Proofs.Lists
import TrustAnchor.Proofs.Tpm.Check
import TrustAnchor.Proofs.Tpm.Run

/-!
Agreement on the nonce.

Both sides of a session keep the TPM's last nonce, and an HMAC command is accepted only if it was
authorized with the nonce that the TPM holds.  `Rolls` says when a TPM takes a new nonce: exactly when its
answer brings one.  `nonce_agreement` is what keeps a session usable: after every run the session holds the
nonce of the last answer that brought one, a TPM that rolls holds the same one, and what is sent next passes
its check.
-/

namespace TrustAnchor
namespace Tpm

open Act Wire

variable {ω : Type}

/-! ## TPMs that take a new nonce with their answers -/

/-- `nonce` is the nonce that the other end of the channel holds for the session, and it changes exactly
when an answer brings a new one. -/
structure Rolls (channel : Channel ω) (nonce : ω → Bytes) : Prop where
  started : ∀ (command : Command) (world : ω) (handle : Handle) (first : Bytes),
    command.code = .startAuthSession →
      started? (channel.answer command.bytes world) = some (handle, first) →
        nonce (channel.next command.bytes world) = first
  rolled : ∀ (command : Command) (world : ω) (newer : Bytes), command.code = .hmac →
    hmacNonce? (channel.answer command.bytes world) = some newer →
      nonce (channel.next command.bytes world) = newer
  kept : ∀ (command : Command) (world : ω), command.code ≠ .startAuthSession →
    (command.code = .hmac → hmacNonce? (channel.answer command.bytes world) = none) →
      nonce (channel.next command.bytes world) = nonce world

namespace Rolls

variable {channel : Channel ω} {nonce : ω → Bytes}

theorem next_eq (rolls : Rolls channel nonce) {command : Command}
    (running : command.code ≠ .startAuthSession) (world : ω) :
    nonce (channel.next command.bytes world) =
      (rolled? ⟨command.bytes, channel.answer command.bytes world⟩).getD (nonce world) := by
  by_cases code : command.code = .hmac
  · rw [rolled?_of_hmac code]
    cases came : hmacNonce? (channel.answer command.bytes world) with
    | none => exact rolls.kept command world running fun _ => came
    | some newer => exact rolls.rolled command world newer code came
  · rw [rolled?_of_ne code]
    exact rolls.kept command world running fun hmac => absurd hmac code

theorem agree_step (rolls : Rolls channel nonce) (call : Call) {state : HmacSession × Machine ω}
    (agree : nonce state.2.world = state.1.nonceTpm) :
    nonce (call.step channel state).2.world = (call.step channel state).1.nonceTpm := by
  obtain ⟨-, same⟩ | ⟨command, entropy, sent, moved⟩ := call.step_cases channel state
  · rw [same]
    exact agree
  · have running : command.code ≠ .startAuthSession := by
      obtain ⟨-, running⟩ | ⟨key, data, parameters, -, -, rfl⟩ := Call.command?_eq_some sent
      · exact running
      · nofun
    rw [moved]
    show nonce (channel.next command.bytes state.2.world) = (Option.getD _ state.1.nonceTpm)
    rw [rolls.next_eq running, agree]

theorem agree_run (rolls : Rolls channel nonce) (calls : List Call) {state : HmacSession × Machine ω}
    (agree : nonce state.2.world = state.1.nonceTpm) :
    nonce (run channel calls state).2.world = (run channel calls state).1.nonceTpm := by
  induction calls generalizing state with
  | nil => exact agree
  | cons call calls ih => exact ih (rolls.agree_step call agree)

theorem agree_start (rolls : Rolls channel nonce) {before opened : Machine ω} {session : HmacSession}
    (started : HmacSession.start channel before = .ok session opened) :
    nonce opened.world = session.nonceTpm := by
  obtain ⟨brought, -, -, rfl⟩ := HmacSession.start_ok_iff.mp started
  exact rolls.started _ _ _ _ rfl brought

end Rolls

/-! ## Agreement -/

/-- The command asks for the HMAC of the data under the key, authorized with the session as it stands. -/
def HmacSession.Authorizes (session : HmacSession) (key : KeyObject) (data command : Bytes) : Prop :=
  ∃ parameters nonceCaller, hmacParameters session data = .ok parameters ∧
    nonceCaller.length = nonceLength ∧ command =
      (hmacCommand key (session.authorizeWith .hmac [key.name] parameters nonceCaller) parameters).bytes

theorem HmacSession.Authorizes.accepts {session : HmacSession} {key : KeyObject} {data command : Bytes}
    (authorized : session.Authorizes key data command) {names : Handle → Bytes}
    (known : names key.handle = key.name) :
    Tpm.accepts names session.handle session.nonceTpm command = true := by
  obtain ⟨parameters, nonceCaller, short, width, rfl⟩ := authorized
  exact accepts_hmacCommand known width (length_hmacParameters short)

theorem authorizes_of_sent {call : Call} {state : HmacSession × Machine ω}
    {command : Command} (sent : call.command? state = some command)
    (code : Command.codeOf command.bytes = CommandCode.hmac.code) :
    ∃ key data, call = .hmac key data ∧ state.1.Authorizes key data command.bytes := by
  obtain ⟨other, -⟩ | ⟨key, data, parameters, rfl, short, rfl⟩ := Call.command?_eq_some sent
  · exact absurd code (Command.codeOf_ne other)
  · exact ⟨key, data, rfl, parameters, _, short, Entropy.length_next _ _, rfl⟩

/-- The session begins with the nonce of the answer that started it.  After any run it holds the last nonce
that an answer to an HMAC command has brought, and a TPM that rolls holds the same.  The next operation sends
at most one command; if that is an HMAC command, it is authorized with this nonce, and the TPM accepts it. -/
theorem nonce_agreement {channel : Channel ω} {before opened : Machine ω} {session : HmacSession}
    (started : HmacSession.start channel before = .ok session opened) (calls : List Call) (call : Call) :
    let state := run channel calls (session, opened)
    let later := call.step channel state
    (∃ answer, opened.transcript = before.transcript ++ [⟨HmacSession.opening before, answer⟩] ∧
      started? answer = some (session.handle, session.nonceTpm)) ∧
    (∃ traffic, state.2.transcript = opened.transcript ++ traffic ∧
      state.1 = session.took (latest? traffic)) ∧
    (∀ nonce, Rolls channel nonce → nonce state.2.world = state.1.nonceTpm) ∧
    ∃ sent : Option Exchange, later.2.transcript = state.2.transcript ++ sent.toList ∧
      ∀ exchange ∈ sent, exchange.answer = channel.answer exchange.command state.2.world ∧
        (Command.codeOf exchange.command = CommandCode.hmac.code →
          ∃ key data, call = .hmac key data ∧ state.1.Authorizes key data exchange.command ∧
            ∀ nonce names, Rolls channel nonce → names key.handle = key.name →
              accepts names session.handle (nonce state.2.world) exchange.command = true) := by
  intro state later
  obtain ⟨traffic, grown, current⟩ := run_spec channel calls (session, opened)
  have agree : ∀ nonce, Rolls channel nonce → nonce state.2.world = state.1.nonceTpm :=
    fun nonce rolls => rolls.agree_run calls (rolls.agree_start started)
  refine ⟨?_, ⟨traffic, grown, current⟩, agree, ?_⟩
  · obtain ⟨brought, -, -, rfl⟩ := HmacSession.start_ok_iff.mp started
    exact ⟨_, rfl, brought⟩
  · obtain ⟨-, same⟩ | ⟨command, entropy, sent, moved⟩ := call.step_cases channel state
    · refine ⟨none, ?_, forall_mem_none _⟩
      rw [show later = state from same]
      exact (List.append_nil _).symm
    · refine ⟨some ⟨command.bytes, channel.answer command.bytes state.2.world⟩, ?_, ?_⟩
      · rw [show later = afterwards channel command entropy state from moved]
        rfl
      · rintro _ ⟨⟩
        refine ⟨rfl, fun code => ?_⟩
        obtain ⟨key, data, rfl, authorized⟩ := authorizes_of_sent sent code
        refine ⟨key, data, rfl, authorized, fun nonce names rolls known => ?_⟩
        -- a run changes nothing of the session but its nonce
        have handle : state.1.handle = session.handle := by
          show (run channel calls (session, opened)).1.handle = session.handle
          rw [current]
          rfl
        rw [agree nonce rolls, ← handle]
        exact authorized.accepts known

/-! ## A TPM that rolls -/

namespace Rolling

def session : Handle := 0x02000000

def firstNonce : Bytes := List.replicate 32 0x11

def failed : Response := ⟨.noSessions, ResponseCode.failure.code, []⟩

def opened : Response := ⟨.noSessions, 0, Bytes.ofU32 session ++ Wire.sized firstNonce⟩

/-- The answer to the HMAC command that is in order: the HMAC of its data, and a newer nonce. -/
def digested (newer : Bytes) (request : Request) (parameters : Bytes) : SessionReply where
  handles := []
  parameters := Wire.sized (Hmac.sha256 [0x2a] ((parameters.drop 2).take (parameters.length - 4)))
  auth := [⟨newer, continueSession, sessionHmac (responseHash .hmac
    (Wire.sized (Hmac.sha256 [0x2a] ((parameters.drop 2).take (parameters.length - 4))))) newer
      request.auth.nonceCaller continueSession⟩]

/-- A TPM with one unnamed key and one session, whose nonces are the hashes of each other.  It checks the
HMAC commands and knows no commands but these. -/
def reply (command nonce : Bytes) : Response × Bytes :=
  if Command.codeOf command = CommandCode.startAuthSession.code then (opened, firstNonce)
  else if Command.codeOf command = CommandCode.hmac.code ∧ accepts (fun _ => []) session nonce command then
    match Request.read (Reader.ofBytes command) with
    | .error _ _ => (failed, nonce)
    | .ok request later =>
      (⟨.sessions, 0, (digested (Sha256.hash nonce) request later.rest).encode⟩, Sha256.hash nonce)
  else (failed, nonce)

def channel : Channel Bytes where
  path := "rolling"
  transmit command := fun nonce => .ok (reply command nonce).1.bytes (reply command nonce).2

theorem success?_failed : success? (.ok failed.bytes) = none := by
  decide

theorem started?_opened : started? (.ok opened.bytes) = some (session, firstNonce) := by
  have success : success? (.ok opened.bytes) = some opened :=
    success?_eq_some_iff.mpr ⟨rfl, by decide, [], by rw [List.append_nil]⟩
  rw [started?, success, Option.bind_some, value?_eq_some_iff]
  refine HmacSession.decodes_readStarted.within_ok_iff.mpr ⟨rfl, opened.data, [], ⟨by decide, rfl⟩, ?_⟩
  rw [List.append_nil]

theorem hmacNonce?_digested (nonce : Bytes) (request : Request) (parameters : Bytes) :
    hmacNonce? (.ok (Response.bytes
      ⟨.sessions, 0, (digested (Sha256.hash nonce) request parameters).encode⟩)) =
        some (Sha256.hash nonce) := by
  let answer := digested (Sha256.hash nonce) request parameters
  have hmac_width : ∀ key message, (Hmac.sha256 key message).length = 32 := Hmac.length_sha256
  have fits : answer.Fits := by
    refine ⟨?_, ?_⟩
    · show (Wire.sized _).length < 4294967296
      rw [length_sized, hmac_width]
      decide
    · intro entry member
      rw [List.mem_singleton.mp member]
      exact ⟨by rw [Sha256.length_hash]; decide, by rw [sessionHmac, hmac_width]; decide⟩
  have short : headerLength + answer.encode.length < 4294967296 := by
    have width : answer.encode.length = 107 := by
      simp [answer, digested, SessionReply.encode, ResponseAuth.encode, sessionHmac]
    rw [width]
    decide
  refine hmacNonce?_eq_some_iff.mpr ⟨answer, _, [], [], rfl, rfl, rfl, fits, short, ?_⟩
  rw [List.append_nil]

theorem reply_startAuthSession {command : Command} (code : command.code = .startAuthSession)
    (nonce : Bytes) : reply command.bytes nonce = (opened, firstNonce) :=
  if_pos (Command.codeOf_bytes_eq_iff.mpr code)

/-- Every other command fails, except for an HMAC command that is in order. -/
theorem reply_cases {command : Command} (running : command.code ≠ .startAuthSession) (nonce : Bytes) :
    reply command.bytes nonce = (failed, nonce) ∨ (command.code = .hmac ∧ ∃ request parameters,
      reply command.bytes nonce =
        (⟨.sessions, 0, (digested (Sha256.hash nonce) request parameters).encode⟩, Sha256.hash nonce)) := by
  rw [reply, if_neg (Command.codeOf_ne running)]
  by_cases good : Command.codeOf command.bytes = CommandCode.hmac.code ∧
      accepts (fun _ => []) session nonce command.bytes = true
  · rw [if_pos good]
    cases Request.read (Reader.ofBytes command.bytes) with
    | error e later => exact .inl rfl
    | ok request later =>
      exact .inr ⟨Command.codeOf_bytes_eq_iff.mp good.1, request, later.rest, rfl⟩
  · rw [if_neg good]
    exact .inl rfl

theorem rolls : Rolls channel fun nonce => nonce where
  started command nonce handle first code came := by
    have came : started? (.ok (reply command.bytes nonce).1.bytes) = some (handle, first) := came
    show (reply command.bytes nonce).2 = first
    rw [reply_startAuthSession code] at came ⊢
    rw [started?_opened] at came
    cases came
    rfl
  rolled command nonce newer code came := by
    have came : hmacNonce? (.ok (reply command.bytes nonce).1.bytes) = some newer := came
    show (reply command.bytes nonce).2 = newer
    have running : command.code ≠ .startAuthSession := by
      rw [code]
      nofun
    obtain fails | ⟨-, request, parameters, digests⟩ := reply_cases running nonce
    · rw [fails, hmacNonce?, success?_failed] at came
      cases came
    · rw [digests] at came ⊢
      rw [hmacNonce?_digested] at came
      cases came
      rfl
  kept command nonce running silent := by
    show (reply command.bytes nonce).2 = nonce
    obtain fails | ⟨code, request, parameters, digests⟩ := reply_cases running nonce
    · rw [fails]
    · have silent : hmacNonce? (.ok (reply command.bytes nonce).1.bytes) = none := silent code
      rw [digests, hmacNonce?_digested] at silent
      cases silent

/-- The session that is started with this TPM. -/
def client : HmacSession := ⟨session, .sha256, firstNonce, continueSession⟩

def machine : Machine Bytes := Machine.new [] (Entropy.ofBytes [])

def started : Machine Bytes :=
  (machine.drawn nonceLength).exchanged channel (HmacSession.opening machine)

/-- Two HMACs and a command that this TPM does not know. -/
def requests : List Call :=
  [.hmac ⟨0x81000001, []⟩ [1], .getRandom 16, .hmac ⟨0x81000001, []⟩ [2]]

theorem start_machine : HmacSession.start channel machine = .ok client started := by
  have replied : reply (HmacSession.opening machine) machine.world = (opened, firstNonce) :=
    reply_startAuthSession rfl machine.world
  have came : channel.answer (HmacSession.opening machine) machine.world = .ok opened.bytes := by
    show Except.ok (reply (HmacSession.opening machine) machine.world).1.bytes = _
    rw [replied]
  refine HmacSession.start_ok_iff.mpr ⟨?_, rfl, rfl, rfl⟩
  rw [came]
  exact started?_opened

end Rolling

/-- The TPM that rolls and a client that asks it for two HMACs agree on the nonce. -/
theorem nonce_agreement_rolling :
    HmacSession.start Rolling.channel Rolling.machine = .ok Rolling.client Rolling.started ∧
      (Rolls Rolling.channel fun nonce => nonce) ∧
        (run Rolling.channel Rolling.requests (Rolling.client, Rolling.started)).2.world =
          (run Rolling.channel Rolling.requests (Rolling.client, Rolling.started)).1.nonceTpm := by
  obtain ⟨-, -, agree, -⟩ := nonce_agreement Rolling.start_machine Rolling.requests .getTestResult
  have agreed := agree (fun nonce => nonce) Rolling.rolls
  exact ⟨Rolling.start_machine, Rolling.rolls, agreed⟩

end Tpm
end TrustAnchor
