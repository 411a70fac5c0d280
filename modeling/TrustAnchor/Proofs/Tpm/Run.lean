import TrustAnchor.Proofs.Tpm.Check
import TrustAnchor.Proofs.Tpm.Session

/-!
Runs of operations that share one session.

Every operation sends at most one command (`Call.command?`), and what it leaves behind is a function of the
answer alone (`Call.step_cases`).  So the session after a run is a function of the traffic: it holds the
nonce of the last answer that brought one (`run_spec`).
-/

namespace TrustAnchor
namespace Tpm

open Act

variable {ω : Type}

/-- The operations, with or without the session. -/
inductive Call
  | hmac (key : KeyObject) (data : Bytes)
  | getRandom (n : UInt16)
  | readPublic (handle : Handle)
  | createPrimary (hierarchy : Handle) (template : Template)
  | flushContext (handle : Handle)
  | selfTest (full : Bool)
  | getTestResult
  deriving DecidableEq, Repr

/-- The session and the machine after an operation, whatever became of it. -/
def Call.step (channel : Channel ω) (call : Call) (state : HmacSession × Machine ω) :
    HmacSession × Machine ω :=
  match call with
  | .hmac key data => after (Tpm.hmac channel key data state)
  | .getRandom n => after (onSecond (Tpm.getRandom channel n) state)
  | .readPublic handle => after (onSecond (Tpm.readPublic channel handle) state)
  | .createPrimary hierarchy template =>
    after (onSecond (Tpm.createPrimary channel hierarchy template) state)
  | .flushContext handle => after (onSecond (Tpm.flushContext channel handle) state)
  | .selfTest full => after (onSecond (Tpm.selfTest channel full) state)
  | .getTestResult => after (onSecond (Tpm.getTestResult channel) state)

def run (channel : Channel ω) (calls : List Call) (state : HmacSession × Machine ω) :
    HmacSession × Machine ω :=
  calls.foldl (fun state call => call.step channel state) state

/-- The command that an operation sends, if it sends one. -/
def Call.command? (call : Call) (state : HmacSession × Machine ω) : Option Command :=
  match call with
  | .hmac key data =>
    match hmacParameters state.1 data with
    | .error _ => none
    | .ok parameters =>
      some (hmacCommand key (state.1.nextAuthorization key parameters state.2) parameters)
  | .getRandom n => some (randomCommand n)
  | .readPublic handle => some (readPublicCommand handle)
  | .createPrimary hierarchy template => some (createPrimaryCommand hierarchy template)
  | .flushContext handle => some (flushCommand handle)
  | .selfTest full => some (selfTestCommand full)
  | .getTestResult => some testResultCommand

/-- How many nonces an operation draws: one for each HMAC that is asked for. -/
def Call.blocks : Call → Nat
  | .hmac _ data => if data.length ≤ maxBufferLength then 1 else 0
  | _ => 0

/-! ## Nonces in the traffic -/

/-- The nonce that an exchange brings the session.  Only answers to HMAC commands bring one. -/
def rolled? (exchange : Exchange) : Option Bytes :=
  if Command.codeOf exchange.command = CommandCode.hmac.code then hmacNonce? exchange.answer else none

/-- The last nonce that came. -/
def latest? (traffic : List Exchange) : Option Bytes := (traffic.filterMap rolled?).getLast?

theorem latest?_cons (exchange : Exchange) (traffic : List Exchange) :
    latest? (exchange :: traffic) = (latest? traffic).or (rolled? exchange) := by
  unfold latest?
  cases h : rolled? exchange with
  | none => rw [List.filterMap_cons_none h, Option.or_none]
  | some nonce =>
    rw [List.filterMap_cons_some h, List.getLast?_cons]
    cases (traffic.filterMap rolled?).getLast? <;> rfl

theorem HmacSession.took_took (session : HmacSession) (older newer : Option Bytes) :
    (session.took older).took newer = session.took (newer.or older) := by
  cases newer <;> rfl

theorem rolled?_of_ne {command : Command} (other : command.code ≠ .hmac) (answer : Except Fault Bytes) :
    rolled? ⟨command.bytes, answer⟩ = none :=
  if_neg (Command.codeOf_ne other)

theorem rolled?_of_hmac {command : Command} (code : command.code = .hmac) (answer : Except Fault Bytes) :
    rolled? ⟨command.bytes, answer⟩ = hmacNonce? answer :=
  if_pos (Command.codeOf_bytes_eq_iff.mpr code)

/-! ## What one operation does -/

/-- Only an HMAC sends an HMAC command, with the session as it stands. -/
theorem Call.command?_eq_some {call : Call} {state : HmacSession × Machine ω} {command : Command}
    (h : call.command? state = some command) :
    (command.code ≠ .hmac ∧ command.code ≠ .startAuthSession) ∨
      ∃ key data parameters, call = .hmac key data ∧ hmacParameters state.1 data = .ok parameters ∧
        command = hmacCommand key (state.1.nextAuthorization key parameters state.2) parameters := by
  cases call with
  | hmac key data =>
    right
    unfold command? at h
    cases short : hmacParameters state.1 data with
    | error fault =>
      simp only [short] at h
      cases h
    | ok parameters =>
      simp only [short, Option.some.injEq] at h
      exact ⟨key, data, parameters, rfl, short, h.symm⟩
  | _ =>
    left
    cases h
    exact ⟨nofun, nofun⟩

/-- What an exchange leaves behind: the nonce that it brings, and a longer transcript. -/
def afterwards (channel : Channel ω) (command : Command) (entropy : Entropy)
    (state : HmacSession × Machine ω) : HmacSession × Machine ω :=
  (state.1.took (rolled? ⟨command.bytes, channel.answer command.bytes state.2.world⟩),
    { state.2 with entropy }.exchanged channel command.bytes)

theorem after_plain {α : Type} {channel : Channel ω} {command : Command}
    {step : Act Fault (Machine ω) α} (other : command.code ≠ .hmac)
    (exchanged : ∀ machine, after (step machine) = machine.exchanged channel command.bytes)
    (state : HmacSession × Machine ω) :
    after (onSecond step state) = afterwards channel command (state.2.entropy.advance 0) state := by
  rw [after_onSecond, exchanged, afterwards, rolled?_of_ne other]
  rfl

/-- An operation that sends nothing leaves everything as it was; any other leaves its exchange behind, and has
drawn its nonce if it needs one. -/
theorem Call.step_eq (channel : Channel ω) (call : Call) (state : HmacSession × Machine ω) :
    (call.command? state = none ∧ call.blocks = 0 ∧ call.step channel state = state) ∨
      ∃ command, call.command? state = some command ∧ call.step channel state =
        afterwards channel command (state.2.entropy.advance (nonceLength * call.blocks)) state := by
  cases call with
  | hmac key data =>
    by_cases fits : data.length ≤ maxBufferLength
    · right
      let parameters := Wire.sized data ++ Bytes.ofU16 state.1.hashAlgorithm.code
      have short : hmacParameters state.1 data = .ok parameters := hmacParameters_of_le fits
      refine ⟨hmacCommand key (state.1.nextAuthorization key parameters state.2) parameters, ?_, ?_⟩
      · simp only [command?, short]
      · show after (Tpm.hmac channel key data (state.1, state.2)) = _
        rw [after_hmac short, afterwards, rolled?_of_hmac rfl, blocks, if_pos fits]
        rfl
    · left
      have long : hmacParameters state.1 data = .error _ := hmacParameters_of_lt (Nat.not_le.mp fits)
      refine ⟨?_, if_neg fits, ?_⟩
      · simp only [command?, long]
      · show after (Tpm.hmac channel key data (state.1, state.2)) = state
        rw [hmac_of_error long]
        rfl
  | getRandom n => exact .inr ⟨_, rfl, after_plain (by nofun) (after_getRandom channel n) state⟩
  | readPublic handle => exact .inr ⟨_, rfl, after_plain (by nofun) (after_readPublic channel handle) state⟩
  | createPrimary hierarchy template =>
    exact .inr ⟨_, rfl, after_plain (by nofun) (after_createPrimary channel hierarchy template) state⟩
  | flushContext handle =>
    exact .inr ⟨_, rfl, after_plain (by nofun) (after_flushContext channel handle) state⟩
  | selfTest full => exact .inr ⟨_, rfl, after_plain (by nofun) (after_selfTest channel full) state⟩
  | getTestResult => exact .inr ⟨_, rfl, after_plain (by nofun) (after_getTestResult channel) state⟩

theorem Call.step_cases (channel : Channel ω) (call : Call) (state : HmacSession × Machine ω) :
    (call.command? state = none ∧ call.step channel state = state) ∨
      ∃ command entropy, call.command? state = some command ∧
        call.step channel state = afterwards channel command entropy state := by
  obtain ⟨silent, -, same⟩ | ⟨command, sent, moved⟩ := call.step_eq channel state
  · exact .inl ⟨silent, same⟩
  · exact .inr ⟨command, _, sent, moved⟩

/-! ## What a run does -/

theorem run_spec (channel : Channel ω) (calls : List Call) (state : HmacSession × Machine ω) :
    ∃ traffic, (run channel calls state).2.transcript = state.2.transcript ++ traffic ∧
      (run channel calls state).1 = state.1.took (latest? traffic) := by
  induction calls generalizing state with
  | nil => exact ⟨[], (List.append_nil _).symm, rfl⟩
  | cons call calls ih =>
    obtain ⟨traffic, grown, session⟩ := ih (call.step channel state)
    rw [show run channel (call :: calls) state = run channel calls (call.step channel state) from rfl]
    obtain ⟨-, same⟩ | ⟨command, entropy, -, moved⟩ := call.step_cases channel state
    · rw [same] at grown session ⊢
      exact ⟨traffic, grown, session⟩
    · rw [moved] at grown session ⊢
      -- a nonce that comes later in the run replaces the one that this exchange brings
      let exchange : Exchange := ⟨command.bytes, channel.answer command.bytes state.2.world⟩
      refine ⟨exchange :: traffic, ?_, ?_⟩
      · rw [grown]
        exact List.append_assoc state.2.transcript [exchange] traffic
      · rw [session, afterwards, HmacSession.took_took, latest?_cons]

end Tpm
end TrustAnchor
