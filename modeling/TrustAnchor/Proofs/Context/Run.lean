import TrustAnchor.Context
import TrustAnchor.Proofs.Action

/-!
Runs of calls on one context.

A user may call anything in any order, and goes on after errors and crashes alike, so a run folds the state
after each call over the list of calls and forgets the outcomes.  The frame of all later laws about runs is
`keeps_perform`: a call is put together from connecting, taking a session out, clearing the poison and steps
on the open session, and the last are put together from the calls of the session.  A law that each of these
parts keeps, every call keeps.
-/

namespace TrustAnchor

open Act

namespace Gather

variable {σ : Type} {R : σ → σ → Prop} {request : Nat → Act Fault σ Bytes}

theorem keeps_collect (frame : Frame R)
    (kept : ∀ n, Keeps R (request n)) (n : Nat) : Keeps R (collect request n) := by
  fun_induction collect request n with
  | case1 => exact keeps_pure frame []
  | case2 n ih =>
    refine keeps_bind frame (kept (n + 1)) fun chunk => ?_
    by_cases h : chunk.length = 0
    · rw [dif_pos h]
      exact keeps_fail frame _
    · rw [dif_neg h]
      exact keeps_bind frame (ih chunk h) fun _ => keeps_pure frame _

theorem keeps_exactly (frame : Frame R) (kept : ∀ n, Keeps R (request n)) (reserve : Allocator) (length : Nat) :
    Keeps R (exactly reserve request length) := by
  unfold exactly
  cases reserve length with
  | error e => exact keeps_fail frame _
  | ok _ => exact keeps_collect frame kept length

end Gather

namespace Context

variable {ω σ α : Type}

/-- What a user can ask of a context. -/
inductive Call
  | connect
  | close
  | deriveKey (slot : UInt8) (value : Bytes) (length : Nat)
  | getRandom (length : Nat)
  | fillRandom (buffer : Bytes)
  | getDeviceUuid
  | selfTest
  deriving DecidableEq, Repr

/-- What a call gives when it succeeds. -/
inductive Answer
  | done
  | bytes (bytes : Bytes)
  | uuid (uuid : Uuid)
  deriving DecidableEq, Repr

def Call.perform (anchor : Anchor ω σ) : Call → Step ω σ Answer
  | .connect => do
    Context.connect anchor
    return .done
  | .close => do
    Context.close anchor
    return .done
  | .deriveKey slot value length => do
    let key ← Context.deriveKey anchor slot value length
    return .bytes key
  | .getRandom length => do
    let random ← Context.getRandom anchor length
    return .bytes random
  | .fillRandom buffer => fun state =>
    match Context.fillRandom anchor (buffer, state) with
    | .ok () (buffer, state) => .ok (.bytes buffer) state
    | .error e (_, state) => .error e state
  | .getDeviceUuid => do
    let uuid ← Context.getDeviceUuid anchor
    return .uuid uuid
  | .selfTest => do
    Context.selfTest anchor
    return .done

/-- The state after a list of calls, whatever became of each of them. -/
def run (anchor : Anchor ω σ) (calls : List Call) (state : Context σ × ω) : Context σ × ω :=
  calls.foldl (fun state call => after (call.perform anchor state)) state

/-! ## Exits of the parts

A part is refused, and then nothing changes, or its step is made; then the three functions here say what
becomes of the context by the way in which the step ended. -/

/-- After a step on the session of an open context. -/
def stepped : EStateM.Result (Stop Fault) (σ × ω) α → EStateM.Result (Stop Error) (Context σ × ω) α
  | .ok a (session, world) => .ok a (⟨some session, false⟩, world)
  | .error (.error f) (session, world) => .error (.error (.trustAnchor f)) (⟨some session, false⟩, world)
  | .error .crash (session, world) => .error .crash (⟨some session, true⟩, world)

/-- After an attempt to connect a closed context. -/
def connected : EStateM.Result (Stop Fault) ω σ → EStateM.Result (Stop Error) (Context σ × ω) Unit
  | .ok session world => .ok () (⟨some session, false⟩, world)
  | .error (.error f) world => .error (.error (.trustAnchor f)) (.closed, world)
  | .error .crash world => .error .crash (⟨none, true⟩, world)

/-- After the end of the session that was taken out, when the lock had been poisoned before or not. -/
def ended (poisoned : Bool) :
    EStateM.Result (Stop Fault) ω Unit → EStateM.Result (Stop Error) (Context σ × ω) (Except Fault Unit)
  | .ok () world => .ok (.ok ()) (⟨none, poisoned⟩, world)
  | .error (.error f) world => .ok (.error f) (⟨none, poisoned⟩, world)
  | .error .crash world => .error .crash (⟨none, true⟩, world)

/-- A step that does not crash leaves an open context open, and ends there as by itself. -/
theorem stepped_of_outcome {stepping : EStateM.Result (Stop Fault) (σ × ω) α}
    {ending : Except Fault α} (ended : outcome stepping = ending.mapError .error) :
    after (stepped stepping) = (⟨some (after stepping).1, false⟩, (after stepping).2) ∧
      outcome (stepped stepping) = ending.mapError fun fault => .error (.trustAnchor fault) := by
  cases ending with
  | ok a =>
    obtain ⟨left, ran⟩ := outcome_eq_ok_iff.mp ended
    rw [ran]
    exact ⟨rfl, rfl⟩
  | error fault =>
    obtain ⟨left, ran⟩ := outcome_eq_error_iff.mp ended
    rw [ran]
    exact ⟨rfl, rfl⟩

theorem crash_of_stepped {result : EStateM.Result (Stop Fault) (σ × ω) α} {later : Context σ × ω}
    (crashed : stepped result = .error .crash later) : ∃ left, result = .error .crash left := by
  cases result with
  | ok a left => cases crashed
  | error stop left =>
    cases stop with
    | error f => cases crashed
    | crash => exact ⟨left, rfl⟩

theorem crash_of_connected {result : EStateM.Result (Stop Fault) ω σ} {later : Context σ × ω}
    (crashed : connected result = .error .crash later) : ∃ left, result = .error .crash left := by
  cases result with
  | ok session left => cases crashed
  | error stop left =>
    cases stop with
    | error f => cases crashed
    | crash => exact ⟨left, rfl⟩

theorem crash_of_ended {poisoned : Bool} {result : EStateM.Result (Stop Fault) ω Unit}
    {later : Context σ × ω} (crashed : ended poisoned result = .error .crash later) :
    ∃ left, result = .error .crash left := by
  cases result with
  | ok _ left => cases crashed
  | error stop left =>
    cases stop with
    | error f => cases crashed
    | crash => exact ⟨left, rfl⟩

theorem withSession_poisoned {context : Context σ} (h : context.poisoned = true) (operation : Operation)
    (step : Act Fault (σ × ω) α) (world : ω) :
    withSession operation step (context, world) = .error (fault .lockPoisoned) (context, world) := by
  unfold withSession
  simp only [h, if_true]

theorem withSession_closed (operation : Operation) (step : Act Fault (σ × ω) α) (world : ω) :
    withSession operation step (.closed, world) = .error (fault (.notOpen operation)) (.closed, world) := rfl

theorem withSession_open (operation : Operation) (step : Act Fault (σ × ω) α) (session : σ) (world : ω) :
    withSession operation step (⟨some session, false⟩, world) = stepped (step (session, world)) := by
  unfold withSession
  simp only [Bool.false_eq_true, if_false]
  cases step (session, world) with
  | ok a state => rfl
  | error e state => cases e <;> rfl

/-- A step on the session is refused, or it is made on an open context. -/
theorem withSession_cases (operation : Operation) (step : Act Fault (σ × ω) α) (state : Context σ × ω) :
    (∃ cause, withSession operation step state = .error (fault cause) state) ∨
      ∃ session, state.1 = ⟨some session, false⟩ ∧
        withSession operation step state = stepped (step (session, state.2)) := by
  obtain ⟨⟨held, poisoned⟩, world⟩ := state
  cases poisoned with
  | true => exact .inl ⟨_, withSession_poisoned rfl operation step world⟩
  | false =>
    cases held with
    | none => exact .inl ⟨_, withSession_closed operation step world⟩
    | some session => exact .inr ⟨session, rfl, withSession_open operation step session world⟩

/-- A step that gives a value has been made on an open context. -/
theorem ok_of_withSession {operation : Operation} {step : Act Fault (σ × ω) α} {state later : Context σ × ω}
    {a : α} (ran : withSession operation step state = .ok a later) :
    ∃ session left, state.1 = ⟨some session, false⟩ ∧ step (session, state.2) = .ok a left := by
  obtain ⟨cause, refused⟩ | ⟨session, held, made⟩ := withSession_cases operation step state
  · cases refused.symm.trans ran
  · have ended : stepped (step (session, state.2)) = .ok a later := made.symm.trans ran
    cases gave : step (session, state.2) with
    | ok b left =>
      rw [gave] at ended
      cases ended
      exact ⟨session, left, held, gave⟩
    | error stop left =>
      rw [gave] at ended
      cases stop <;> cases ended

theorem connect_poisoned (anchor : Anchor ω σ) {context : Context σ} (h : context.poisoned = true)
    (world : ω) : Context.connect anchor (context, world) = .error (fault .lockPoisoned) (context, world) := by
  unfold Context.connect
  simp only [h, if_true]

theorem connect_open (anchor : Anchor ω σ) (session : σ) (world : ω) :
    Context.connect anchor (⟨some session, false⟩, world) =
      .error (fault .alreadyOpen) (⟨some session, false⟩, world) := rfl

theorem connect_closed (anchor : Anchor ω σ) (world : ω) :
    Context.connect anchor (.closed, world) = connected (anchor.connect world) := by
  unfold Context.connect closed isOpen
  simp only [Bool.false_eq_true, if_false, Option.isSome_none]
  cases anchor.connect world with
  | ok session later => rfl
  | error e later => cases e <;> rfl

/-- Connecting is refused, or the anchor is asked on a closed context. -/
theorem connect_cases (anchor : Anchor ω σ) (state : Context σ × ω) :
    (∃ cause, Context.connect anchor state = .error (fault cause) state) ∨
      state.1 = .closed ∧ Context.connect anchor state = connected (anchor.connect state.2) := by
  obtain ⟨⟨held, poisoned⟩, world⟩ := state
  cases poisoned with
  | true => exact .inl ⟨_, connect_poisoned anchor rfl world⟩
  | false =>
    cases held with
    | none => exact .inr ⟨rfl, connect_closed anchor world⟩
    | some session => exact .inl ⟨_, connect_open anchor session world⟩

theorem takeOut_closed (anchor : Anchor ω σ) (poisoned : Bool) (world : ω) :
    Context.takeOut anchor (⟨none, poisoned⟩, world) = .ok (.ok ()) (⟨none, poisoned⟩, world) := rfl

theorem takeOut_open (anchor : Anchor ω σ) (session : σ) (poisoned : Bool) (world : ω) :
    Context.takeOut anchor (⟨some session, poisoned⟩, world) =
      ended poisoned (anchor.close session world) := by
  unfold Context.takeOut
  dsimp only
  cases anchor.close session world with
  | ok _ later => rfl
  | error e later => cases e <;> rfl

theorem deriveKey_of_invalid (anchor : Anchor ω σ) {slot : UInt8} {value : Bytes} {length : Nat} {e : Error}
    (checked : KeyRequest.check slot value length = .error e) (state : Context σ × ω) :
    Context.deriveKey anchor slot value length state = .error (.error e) state := by
  rw [Context.deriveKey, checked]
  rfl

theorem deriveKey_of_valid (anchor : Anchor ω σ) {slot : UInt8} {value : Bytes} {length : Nat}
    {request : KeyRequest} (checked : KeyRequest.check slot value length = .ok request)
    (state : Context σ × ω) :
    Context.deriveKey anchor slot value length state =
      withSession .deriveKey (anchor.hmac request.slot request.message >>= request.keyOf) state := by
  rw [Context.deriveKey, checked]
  rfl

/-! ## The state after the parts -/

theorem after_withSession_poisoned {context : Context σ} (h : context.poisoned = true)
    (operation : Operation) (step : Act Fault (σ × ω) α) (world : ω) :
    after (withSession operation step (context, world)) = (context, world) := by
  rw [withSession_poisoned h, after_error]

theorem after_withSession_closed {context : Context σ} (h : context.session = none)
    (operation : Operation) (step : Act Fault (σ × ω) α) (world : ω) :
    after (withSession operation step (context, world)) = (context, world) := by
  obtain ⟨cause, refused⟩ | ⟨session, held, -⟩ := withSession_cases operation step (context, world)
  · rw [refused, after_error]
  · have held : context = ⟨some session, false⟩ := held
    subst held
    cases h

/-- On an open context the session and the world are what the step left, and only the poison depends on
the outcome. -/
theorem after_withSession_open {context : Context σ} {session : σ} (hp : context.poisoned = false)
    (hs : context.session = some session) (operation : Operation) (step : Act Fault (σ × ω) α)
    (world : ω) :
    ∃ poisoned, after (withSession operation step (context, world)) =
      (⟨some (after (step (session, world))).1, poisoned⟩, (after (step (session, world))).2) := by
  obtain ⟨held, poisoned⟩ := context
  cases hp
  cases hs
  rw [withSession_open]
  cases step (session, world) with
  | ok a state => exact ⟨false, rfl⟩
  | error e state =>
    cases e with
    | error f => exact ⟨false, rfl⟩
    | crash => exact ⟨true, rfl⟩

theorem after_connect_poisoned (anchor : Anchor ω σ) {context : Context σ}
    (h : context.poisoned = true) (world : ω) :
    after (Context.connect anchor (context, world)) = (context, world) := by
  rw [connect_poisoned anchor h, after_error]

theorem after_connect_open (anchor : Anchor ω σ) {context : Context σ} {session : σ}
    (h : context.session = some session) (world : ω) :
    after (Context.connect anchor (context, world)) = (context, world) := by
  obtain ⟨cause, refused⟩ | ⟨closed, -⟩ := connect_cases anchor (context, world)
  · rw [refused, after_error]
  · have closed : context = .closed := closed
    subst closed
    cases h

/-- A connection that is made is held from then on. -/
theorem after_connect_ok (anchor : Anchor ω σ) {context : Context σ} {session : σ} {world later : ω}
    (hp : context.poisoned = false) (hs : context.session = none)
    (made : anchor.connect world = .ok session later) :
    after (Context.connect anchor (context, world)) = (⟨some session, false⟩, later) := by
  obtain ⟨held, poisoned⟩ := context
  cases hp
  cases hs
  show after (Context.connect anchor (.closed, world)) = _
  rw [connect_closed, made]
  rfl

/-- A connection that is not made leaves the context closed. -/
theorem after_connect_error (anchor : Anchor ω σ) {context : Context σ} {e : Stop Fault}
    {world later : ω} (hp : context.poisoned = false) (hs : context.session = none)
    (failed : anchor.connect world = .error e later) :
    ∃ poisoned, after (Context.connect anchor (context, world)) = (⟨none, poisoned⟩, later) := by
  obtain ⟨held, poisoned⟩ := context
  cases hp
  cases hs
  show ∃ poisoned, after (Context.connect anchor (.closed, world)) = (⟨none, poisoned⟩, later)
  rw [connect_closed, failed]
  cases e with
  | error f => exact ⟨false, rfl⟩
  | crash => exact ⟨true, rfl⟩

theorem after_takeOut_closed (anchor : Anchor ω σ) {context : Context σ} (h : context.session = none)
    (world : ω) : after (Context.takeOut anchor (context, world)) = (context, world) := by
  obtain ⟨held, poisoned⟩ := context
  cases h
  rw [takeOut_closed, after_ok]

/-- The session is out of the context however the anchor ends it, and the world is what the anchor left. -/
theorem after_takeOut_open (anchor : Anchor ω σ) {context : Context σ} {session : σ}
    (h : context.session = some session) (world : ω) :
    ∃ poisoned, after (Context.takeOut anchor (context, world)) =
      (⟨none, poisoned⟩, after (anchor.close session world)) := by
  obtain ⟨held, poisoned⟩ := context
  cases h
  rw [takeOut_open]
  cases anchor.close session world with
  | ok _ later => exact ⟨poisoned, rfl⟩
  | error e later =>
    cases e with
    | error f => exact ⟨poisoned, rfl⟩
    | crash => exact ⟨true, rfl⟩

/-- The buffer apart, filling a buffer does what getting as many bytes does. -/
theorem after_fillRandom (anchor : Anchor ω σ) (buffer : Bytes) (state : Context σ × ω) :
    after ((Call.fillRandom buffer).perform anchor state) =
      after (Context.getRandom anchor buffer.length state) := by
  unfold Call.perform fillRandom
  cases run : Context.getRandom anchor buffer.length state with
  | ok random later => by_cases h : random.length = buffer.length <;> simp [run, h]
  | error e later => cases e <;> simp [run]

/-! ## What every call keeps -/

/-- A relation that sessions keep, whatever is asked of them. -/
structure SessionLaw (anchor : Anchor ω σ) (S : σ × ω → σ × ω → Prop) : Prop where
  frame : Frame S
  hmac : ∀ slot message, Keeps S (anchor.hmac slot message)
  random : ∀ limit, Keeps S (anchor.random limit)
  identity : Keeps S anchor.identity
  selfTest : Keeps S anchor.selfTest

/-- A relation that the parts of a call keep, those on the open session as far as the session keeps `S`. -/
structure CallLaw (anchor : Anchor ω σ) (S : σ × ω → σ × ω → Prop)
    (R : Context σ × ω → Context σ × ω → Prop) : Prop where
  session : SessionLaw anchor S
  frame : Frame R
  connect : Keeps R (Context.connect anchor)
  takeOut : Keeps R (Context.takeOut anchor)
  clearPoison : Keeps R (Context.clearPoison : Step ω σ Unit)
  withSession : ∀ {α : Type} (operation : Operation) {step : Act Fault (σ × ω) α},
    Keeps S step → Keeps R (Context.withSession operation step)

variable {anchor : Anchor ω σ} {S : σ × ω → σ × ω → Prop} {R : Context σ × ω → Context σ × ω → Prop}

theorem keeps_close (law : CallLaw anchor S R) : Keeps R (Context.close anchor) :=
  keeps_bind law.frame law.takeOut fun _ =>
    keeps_bind law.frame law.clearPoison fun _ => keeps_mapError (keeps_ofExcept law.frame _)

theorem keeps_keyOf (law : SessionLaw anchor S) (request : KeyRequest) (digest : Bytes) :
    Keeps S (request.keyOf digest : Act Fault (σ × ω) Bytes) := by
  unfold KeyRequest.keyOf
  by_cases h : digest.length ≠ keyLengthLimit
  · rw [if_pos h]
    exact keeps_fail law.frame _
  · rw [if_neg h]
    exact keeps_demand law.frame _

theorem keeps_deriveKey (law : CallLaw anchor S R) (slot : UInt8) (value : Bytes) (length : Nat) :
    Keeps R (Context.deriveKey anchor slot value length) :=
  keeps_bind law.frame (keeps_ofExcept law.frame _) fun request =>
    law.withSession _ (keeps_bind law.session.frame (law.session.hmac _ _) (keeps_keyOf law.session request))

theorem keeps_getRandom (law : CallLaw anchor S R) (length : Nat) :
    Keeps R (Context.getRandom anchor length) :=
  law.withSession _
    (Gather.keeps_exactly law.session.frame law.session.random anchor.reserve length)

theorem keeps_getDeviceUuid (law : CallLaw anchor S R) : Keeps R (Context.getDeviceUuid anchor) :=
  law.withSession _
    (keeps_bind law.session.frame law.session.identity fun _ => keeps_pure law.session.frame _)

theorem keeps_selfTest (law : CallLaw anchor S R) : Keeps R (Context.selfTest anchor) := by
  refine keeps_bind law.frame (law.withSession _ law.session.selfTest) fun code => ?_
  by_cases h : code ≠ 0
  · rw [if_pos h]
    exact keeps_fail law.frame _
  · rw [if_neg h]
    exact keeps_pure law.frame _

theorem keeps_perform (law : CallLaw anchor S R) (call : Call) : Keeps R (call.perform anchor) := by
  cases call with
  | connect => exact keeps_bind law.frame law.connect fun _ => keeps_pure law.frame _
  | close => exact keeps_bind law.frame (keeps_close law) fun _ => keeps_pure law.frame _
  | deriveKey slot value length =>
    exact keeps_bind law.frame (keeps_deriveKey law slot value length) fun _ => keeps_pure law.frame _
  | getRandom length =>
    exact keeps_bind law.frame (keeps_getRandom law length) fun _ => keeps_pure law.frame _
  | fillRandom buffer =>
    intro state
    rw [after_fillRandom]
    exact keeps_getRandom law buffer.length state
  | getDeviceUuid =>
    exact keeps_bind law.frame (keeps_getDeviceUuid law) fun _ => keeps_pure law.frame _
  | selfTest => exact keeps_bind law.frame (keeps_selfTest law) fun _ => keeps_pure law.frame _

/-- What every call keeps, a run keeps. -/
theorem run_keeps (law : CallLaw anchor S R) (calls : List Call) (state : Context σ × ω) :
    R state (run anchor calls state) := by
  induction calls generalizing state with
  | nil => exact law.frame.refl state
  | cons call calls ih =>
    exact law.frame.trans (keeps_perform law call state) (ih (after (call.perform anchor state)))

end Context
end TrustAnchor
