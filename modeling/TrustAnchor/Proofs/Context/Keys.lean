import TrustAnchor.Proofs.Context.Run

/-!
The keys that a context gives, as a function of what it is asked for.

A user who opens, closes and derives keys sees nothing of the trust anchor but its digests.  `expected` says
what this user is told when the digests are those of a function `mac`, for any list of calls.  An anchor
`Realizes` the function if it opens and closes without fail and gives these digests in between, whatever it
does inside; then the user is told exactly what is expected (`outcomes_of_realizes`).
-/

namespace TrustAnchor

open Act

namespace Context

variable {ω σ : Type}

/-- The calls of a user who needs nothing but keys. -/
inductive KeyCall
  | connect
  | close
  | deriveKey (slot : UInt8) (value : Bytes) (length : Nat)
  deriving DecidableEq, Repr

namespace KeyCall

def perform (anchor : Anchor ω σ) : KeyCall → Step ω σ Answer
  | .connect => Call.perform anchor .connect
  | .close => Call.perform anchor .close
  | .deriveKey slot value length => Call.perform anchor (.deriveKey slot value length)

/-- What the call gives on a context that is open or not. -/
def expected (mac : Slot → Bytes → Bytes) (isOpen : Bool) : KeyCall → Except (Stop Error) Answer
  | .connect => if isOpen then .error (fault .alreadyOpen) else .ok .done
  | .close => .ok .done
  | .deriveKey slot value length =>
    match KeyRequest.check slot value length with
    | .error e => .error (.error e)
    | .ok request =>
      if isOpen then .ok (.bytes ((mac request.slot request.message).take request.length))
      else .error (fault (.notOpen .deriveKey))

/-- Whether the context is open after the call. -/
def leavesOpen (isOpen : Bool) : KeyCall → Bool
  | .connect => true
  | .close => false
  | .deriveKey _ _ _ => isOpen

end KeyCall

/-- What a list of calls gives. -/
def expected (mac : Slot → Bytes → Bytes) : List KeyCall → Bool → List (Except (Stop Error) Answer)
  | [], _ => []
  | call :: calls, isOpen => call.expected mac isOpen :: expected mac calls (call.leavesOpen isOpen)

/-- The anchor opens from every idle state and closes into one, and while it is live it gives the digests
of `mac`. -/
structure Realizes (anchor : Anchor ω σ) (mac : Slot → Bytes → Bytes) (idle : ω → Prop)
    (live : σ × ω → Prop) : Prop where
  width : ∀ slot message, (mac slot message).length = keyLengthLimit
  connect : ∀ world, idle world →
    ∃ session later, anchor.connect world = .ok session later ∧ live (session, later)
  hmac : ∀ state slot message, live state → message.length = derivationLength →
    ∃ later, anchor.hmac slot message state = .ok (mac slot message) later ∧ live later
  close : ∀ session world, live (session, world) →
    ∃ later, anchor.close session world = .ok () later ∧ idle later

/-- The context is open with a live session, or closed and idle. -/
inductive Ready (idle : ω → Prop) (live : σ × ω → Prop) : Bool → Context σ × ω → Prop
  | closed {world : ω} (h : idle world) : Ready idle live false (.closed, world)
  | opened {session : σ} {world : ω} (h : live (session, world)) :
      Ready idle live true (⟨some session, false⟩, world)

theorem length_message (request : KeyRequest) : request.message.length = derivationLength := by
  simp [KeyRequest.message]

theorem keyOf_eq {τ : Type} (request : KeyRequest) {digest : Bytes} (width : digest.length = keyLengthLimit)
    (s : τ) : request.keyOf digest s = .ok (digest.take request.length) s := by
  have bounds : 0 ≤ request.length ∧ request.length ≤ digest.length := by
    rw [width]
    exact ⟨Nat.zero_le _, request.length_le⟩
  rw [KeyRequest.keyOf, if_neg (Decidable.not_not.mpr width), Bytes.slice?, if_pos bounds]
  rfl

theorem keyOf_of_length_ne {τ : Type} (request : KeyRequest) {digest : Bytes}
    (width : digest.length ≠ keyLengthLimit) (s : τ) :
    request.keyOf digest s = .error (.error (Fault.of (.digestLength digest.length))) s := by
  rw [KeyRequest.keyOf, if_pos width]
  rfl

theorem length_of_keyOf {τ : Type} {request : KeyRequest} {digest key : Bytes} {s t : τ}
    (given : request.keyOf digest s = .ok key t) : key.length = request.length := by
  by_cases width : digest.length = keyLengthLimit
  · cases (keyOf_eq request width s).symm.trans given
    exact List.length_take_of_le (width ▸ request.length_le)
  · cases (keyOf_of_length_ne request width s).symm.trans given

theorem returned_keyOf {τ : Type} (request : KeyRequest) (digest : Bytes) (s : τ) :
    Returned (request.keyOf digest s) := by
  by_cases width : digest.length = keyLengthLimit
  · rw [keyOf_eq request width]
    trivial
  · rw [keyOf_of_length_ne request width]
    trivial

variable {anchor : Anchor ω σ} {mac : Slot → Bytes → Bytes} {idle : ω → Prop} {live : σ × ω → Prop}

theorem connect_of_realizes (realizes : Realizes anchor mac idle live) {isOpen : Bool}
    {state : Context σ × ω} (ready : Ready idle live isOpen state) :
    outcome (KeyCall.connect.perform anchor state) = KeyCall.connect.expected mac isOpen ∧
      Ready idle live true (after (KeyCall.connect.perform anchor state)) := by
  cases ready with
  | @closed world quiet =>
    obtain ⟨session, later, made, lives⟩ := realizes.connect world quiet
    have ran : Context.connect anchor (.closed, world) = .ok () (⟨some session, false⟩, later) := by
      rw [connect_closed, made]
      rfl
    rw [KeyCall.perform, Call.perform, bind_ok ran]
    exact ⟨rfl, .opened lives⟩
  | @opened session world lives =>
    have ran : Context.connect anchor (⟨some session, false⟩, world) =
        .error (fault .alreadyOpen) (⟨some session, false⟩, world) := connect_open anchor session world
    rw [KeyCall.perform, Call.perform, bind_error ran]
    exact ⟨rfl, .opened lives⟩

theorem close_of_realizes (realizes : Realizes anchor mac idle live) {isOpen : Bool}
    {state : Context σ × ω} (ready : Ready idle live isOpen state) :
    outcome (KeyCall.close.perform anchor state) = KeyCall.close.expected mac isOpen ∧
      Ready idle live false (after (KeyCall.close.perform anchor state)) := by
  cases ready with
  | @closed world quiet => exact ⟨rfl, .closed quiet⟩
  | @opened session world lives =>
    obtain ⟨later, ended, quiet⟩ := realizes.close session world lives
    have out : takeOut anchor (⟨some session, false⟩, world) = .ok (.ok ()) (.closed, later) := by
      rw [takeOut_open, ended]
      rfl
    have ran : Context.close anchor (⟨some session, false⟩, world) = .ok () (.closed, later) := by
      rw [Context.close, bind_ok out]
      rfl
    rw [KeyCall.perform, Call.perform, bind_ok ran]
    exact ⟨rfl, .closed quiet⟩

theorem deriveKey_of_realizes (realizes : Realizes anchor mac idle live) {isOpen : Bool}
    {state : Context σ × ω} (ready : Ready idle live isOpen state) (slot : UInt8) (value : Bytes)
    (length : Nat) :
    let call := KeyCall.deriveKey slot value length
    outcome (call.perform anchor state) = call.expected mac isOpen ∧
      Ready idle live isOpen (after (call.perform anchor state)) := by
  intro call
  cases checked : KeyRequest.check slot value length with
  | error e =>
    have ran : Context.deriveKey anchor slot value length state = .error (.error e) state :=
      deriveKey_of_invalid anchor checked state
    have expects : call.expected mac isOpen = .error (.error e) := by
      simp only [call, KeyCall.expected, checked]
    rw [expects, KeyCall.perform, Call.perform, bind_error ran]
    exact ⟨rfl, ready⟩
  | ok request =>
    have start := deriveKey_of_valid anchor checked state
    cases ready with
    | @closed world quiet =>
      have ran : Context.deriveKey anchor slot value length (.closed, world) =
          .error (fault (.notOpen .deriveKey)) (.closed, world) := start.trans (withSession_closed _ _ world)
      have expects : call.expected mac false = .error (fault (.notOpen .deriveKey)) := by
        simp only [call, KeyCall.expected, checked, Bool.false_eq_true, if_false]
      rw [expects, KeyCall.perform, Call.perform, bind_error ran]
      exact ⟨rfl, .closed quiet⟩
    | @opened session world lives =>
      obtain ⟨⟨session', later⟩, digested, lives'⟩ :=
        realizes.hmac (session, world) request.slot request.message lives (length_message request)
      have keyed : (anchor.hmac request.slot request.message >>= request.keyOf) (session, world) =
          .ok ((mac request.slot request.message).take request.length) (session', later) := by
        rw [bind_ok digested]
        exact keyOf_eq request (realizes.width _ _) _
      have ran : Context.deriveKey anchor slot value length (⟨some session, false⟩, world) =
          .ok ((mac request.slot request.message).take request.length)
            (⟨some session', false⟩, later) := by
        rw [start, withSession_open, keyed]
        rfl
      have expects : call.expected mac true =
          .ok (.bytes ((mac request.slot request.message).take request.length)) := by
        simp only [call, KeyCall.expected, checked, if_true]
      rw [expects, KeyCall.perform, Call.perform, bind_ok ran]
      exact ⟨rfl, .opened lives'⟩

theorem perform_of_realizes (realizes : Realizes anchor mac idle live) {isOpen : Bool}
    {state : Context σ × ω} (ready : Ready idle live isOpen state) (call : KeyCall) :
    outcome (call.perform anchor state) = call.expected mac isOpen ∧
      Ready idle live (call.leavesOpen isOpen) (after (call.perform anchor state)) := by
  cases call with
  | connect => exact connect_of_realizes realizes ready
  | close => exact close_of_realizes realizes ready
  | deriveKey slot value length => exact deriveKey_of_realizes realizes ready slot value length

/-- On every run the user is told what is expected of the function that the anchor realizes. -/
theorem outcomes_of_realizes (realizes : Realizes anchor mac idle live) (calls : List KeyCall)
    {isOpen : Bool} {state : Context σ × ω} (ready : Ready idle live isOpen state) :
    outcomes (KeyCall.perform anchor) calls state = expected mac calls isOpen := by
  induction calls generalizing isOpen state with
  | nil => rfl
  | cons call calls ih =>
    obtain ⟨told, ready'⟩ := perform_of_realizes realizes ready call
    rw [outcomes, expected, told, ih ready']

end Context
end TrustAnchor
