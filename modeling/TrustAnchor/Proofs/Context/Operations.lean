import TrustAnchor.Proofs.Gather

/-!
What the operations of a context have in common.

An operation whose arguments pass their checks makes one step on the open session under the lock, and gives
what the step gives (`perform_of_onSession`).  So how an operation ends on a context that is open, closed or
poisoned need not be asked of each operation again: it is asked once of `withSession`.
-/

namespace TrustAnchor

open Act

namespace Context

variable {ω σ α β : Type} {anchor : Anchor ω σ}

/-! ## The step of an operation -/

/-- The self test of an anchor, with its verdict. -/
def passSelfTest (anchor : Anchor ω σ) : Act Fault (σ × ω) Unit := do
  let code ← anchor.selfTest
  if code ≠ 0 then
    Act.fail (Fault.of (.selfTestFailed code))

namespace Call

/-- The step that a call makes on the open session, and the operation that is named where there is none.
Connecting and closing make no such step, nor does a request for a key that does not pass its checks. -/
inductive OnSession (anchor : Anchor ω σ) : Call → Operation → Act Fault (σ × ω) Answer → Prop
  | deriveKey {slot : UInt8} {value : Bytes} {length : Nat} {request : KeyRequest}
      (checked : KeyRequest.check slot value length = .ok request) :
      OnSession anchor (.deriveKey slot value length) .deriveKey
        ((anchor.hmac request.slot request.message >>= request.keyOf) >>= fun key => pure (.bytes key))
  | getRandom (length : Nat) :
      OnSession anchor (.getRandom length) .getRandom
        (Gather.exactly anchor.reserve anchor.random length >>= fun random => pure (.bytes random))
  | fillRandom (buffer : Bytes) :
      OnSession anchor (.fillRandom buffer) .getRandom
        (Gather.exactly anchor.reserve anchor.random buffer.length >>= fun random => pure (.bytes random))
  | getDeviceUuid :
      OnSession anchor .getDeviceUuid .getDeviceUuid
        ((anchor.identity >>= fun raw => pure (Uuid.ofRaw raw)) >>= fun uuid => pure (.uuid uuid))
  | selfTest :
      OnSession anchor .selfTest .selfTest (passSelfTest anchor >>= fun _ => pure .done)

/-- A request that the call makes for a key passes its checks. -/
def Valid : Call → Prop
  | .deriveKey slot value length => ∃ request, KeyRequest.check slot value length = .ok request
  | _ => True

theorem OnSession.valid {anchor : Anchor ω σ} {call : Call} {operation : Operation}
    {step : Act Fault (σ × ω) Answer} (made : call.OnSession anchor operation step) : call.Valid := by
  cases made with
  | deriveKey checked => exact ⟨_, checked⟩
  | _ => trivial

/-- A call connects, closes, asks for a key in vain, or makes a step on the open session. -/
inductive Form (anchor : Anchor ω σ) : Call → Prop
  | connect : Form anchor .connect
  | close : Form anchor .close
  | invalid {slot : UInt8} {value : Bytes} {length : Nat} {e : Error}
      (checked : KeyRequest.check slot value length = .error e) : Form anchor (.deriveKey slot value length)
  | onSession {call : Call} {operation : Operation} {step : Act Fault (σ × ω) Answer}
      (made : call.OnSession anchor operation step) : Form anchor call

theorem form (anchor : Anchor ω σ) (call : Call) : call.Form anchor := by
  cases call with
  | connect => exact .connect
  | close => exact .close
  | deriveKey slot value length =>
    cases checked : KeyRequest.check slot value length with
    | error e => exact .invalid checked
    | ok request => exact .onSession (.deriveKey checked)
  | getRandom length => exact .onSession (.getRandom length)
  | fillRandom buffer => exact .onSession (.fillRandom buffer)
  | getDeviceUuid => exact .onSession .getDeviceUuid
  | selfTest => exact .onSession .selfTest

end Call

/-! ## Calls as steps -/

/-- What is made of the value of a step after the lock has been given back, if it needs neither the session
nor the world, could as well have been made under the lock. -/
theorem withSession_bind {operation : Operation} {step : Act Fault (σ × ω) α} {next : α → Step ω σ β}
    {inner : α → Act Fault (σ × ω) β}
    (same : ∀ a session world, next a (⟨some session, false⟩, world) = stepped (inner a (session, world)))
    (state : Context σ × ω) :
    (withSession operation step >>= next) state = withSession operation (step >>= inner) state := by
  obtain ⟨⟨held, poisoned⟩, world⟩ := state
  cases poisoned with
  | true => rw [withSession_poisoned rfl, bind_error (withSession_poisoned rfl operation step world)]
  | false =>
    cases held with
    | none => exact bind_error (withSession_closed operation step world)
    | some session =>
      have made := withSession_open operation step session world
      rw [withSession_open]
      cases ran : step (session, world) with
      | ok a later =>
        rw [ran] at made
        rw [bind_ok made, bind_ok ran]
        exact same a later.1 later.2
      | error stop later =>
        rw [ran] at made
        rw [bind_error ran]
        cases stop <;> exact bind_error made

theorem withSession_map (operation : Operation) (step : Act Fault (σ × ω) α) (f : α → β)
    (state : Context σ × ω) :
    (withSession operation step >>= fun a => (pure (f a) : Step ω σ β)) state =
      withSession operation (step >>= fun a => pure (f a)) state :=
  withSession_bind (fun _ _ _ => rfl) state

theorem selfTest_eq (anchor : Anchor ω σ) :
    Context.selfTest anchor = withSession .selfTest (passSelfTest anchor) := by
  funext state
  refine withSession_bind (fun code session world => ?_) state
  by_cases failed : code ≠ 0
  · rw [if_pos failed, if_pos failed]
    rfl
  · rw [if_neg failed, if_neg failed]
    rfl

theorem length_of_getRandom {length : Nat} {state later : Context σ × ω} {random : Bytes}
    (ran : Context.getRandom anchor length state = .ok random later) : random.length = length := by
  obtain ⟨session, left, -, gathered⟩ := ok_of_withSession ran
  exact Gather.length_of_exactly gathered

/-- Filling a buffer gives what getting as many random bytes gives. -/
theorem perform_fillRandom (anchor : Anchor ω σ) (buffer : Bytes) (state : Context σ × ω) :
    (Call.fillRandom buffer).perform anchor state = (Call.getRandom buffer.length).perform anchor state := by
  have right : (Call.getRandom buffer.length).perform anchor =
      Context.getRandom anchor buffer.length >>= fun random => pure (.bytes random) := rfl
  rw [right]
  unfold Call.perform fillRandom
  cases ran : Context.getRandom anchor buffer.length state with
  | ok random later =>
    rw [bind_ok ran]
    simp only [ran, length_of_getRandom ran, if_true]
    rfl
  | error stop later =>
    rw [bind_error ran]
    cases stop <;> simp only [ran]

section OnSession

variable {call : Call} {operation : Operation} {step : Act Fault (σ × ω) Answer}

/-- An operation is its step on the open session under the lock. -/
theorem perform_of_onSession (made : call.OnSession anchor operation step) (state : Context σ × ω) :
    call.perform anchor state = withSession operation step state := by
  cases made with
  | @deriveKey slot value length request checked =>
    have same : Context.deriveKey anchor slot value length =
        withSession .deriveKey (anchor.hmac request.slot request.message >>= request.keyOf) :=
      funext (deriveKey_of_valid anchor checked)
    rw [Call.perform, same]
    exact withSession_map _ _ _ state
  | getRandom length => exact withSession_map _ _ _ state
  | fillRandom buffer =>
    rw [perform_fillRandom]
    exact withSession_map _ _ _ state
  | getDeviceUuid => exact withSession_map _ _ _ state
  | selfTest =>
    rw [Call.perform, selfTest_eq]
    exact withSession_map _ _ (fun _ => Answer.done) state

/-- On an open context the step is made. -/
theorem perform_open (made : call.OnSession anchor operation step) (session : σ) (world : ω) :
    call.perform anchor (⟨some session, false⟩, world) = stepped (step (session, world)) := by
  rw [perform_of_onSession made, withSession_open]

/-- What sessions keep, whatever is asked of them, the steps on them keep. -/
theorem keeps_onSession {S : σ × ω → σ × ω → Prop} (law : SessionLaw anchor S)
    (made : call.OnSession anchor operation step) : Keeps S step := by
  cases made with
  | deriveKey checked =>
    exact keeps_bind law.frame (keeps_bind law.frame (law.hmac _ _) (keeps_keyOf law _)) fun _ =>
      keeps_pure law.frame _
  | getRandom length =>
    exact keeps_bind law.frame (Gather.keeps_exactly law.frame law.random anchor.reserve length) fun _ =>
      keeps_pure law.frame _
  | fillRandom buffer =>
    exact keeps_bind law.frame (Gather.keeps_exactly law.frame law.random anchor.reserve buffer.length) fun _ =>
      keeps_pure law.frame _
  | getDeviceUuid =>
    exact keeps_bind law.frame (keeps_bind law.frame law.identity fun _ => keeps_pure law.frame _)
      fun _ => keeps_pure law.frame _
  | selfTest =>
    refine keeps_bind law.frame (keeps_bind law.frame law.selfTest fun code => ?_) fun _ =>
      keeps_pure law.frame _
    by_cases failed : code ≠ 0
    · rw [if_pos failed]
      exact keeps_fail law.frame _
    · rw [if_neg failed]
      exact keeps_pure law.frame _

end OnSession

theorem perform_invalid (anchor : Anchor ω σ) {slot : UInt8} {value : Bytes} {length : Nat} {e : Error}
    (checked : KeyRequest.check slot value length = .error e) (state : Context σ × ω) :
    (Call.deriveKey slot value length).perform anchor state = .error (.error e) state :=
  bind_error (deriveKey_of_invalid anchor checked state)

/-! ## Poisoned contexts -/

/-- A poisoned context refuses every call that is valid and does not close it, and nothing changes. -/
theorem perform_poisoned (anchor : Anchor ω σ) {state : Context σ × ω} (poisoned : state.1.poisoned = true)
    {call : Call} (other : call ≠ .close) (valid : call.Valid) :
    call.perform anchor state = .error (fault .lockPoisoned) state := by
  obtain ⟨context, world⟩ := state
  cases call.form anchor with
  | connect => exact bind_error (connect_poisoned anchor poisoned world)
  | close => exact absurd rfl other
  | invalid checked =>
    obtain ⟨request, passed⟩ := valid
    cases checked.symm.trans passed
  | onSession made => rw [perform_of_onSession made, withSession_poisoned poisoned]

/-- A poisoned context refuses every call but closing, and nothing changes. -/
theorem refused_of_poisoned (anchor : Anchor ω σ) {state : Context σ × ω}
    (poisoned : state.1.poisoned = true) {call : Call} (other : call ≠ .close) :
    ∃ e, call.perform anchor state = .error (.error e) state := by
  cases call.form anchor with
  | connect => exact ⟨_, perform_poisoned anchor poisoned other trivial⟩
  | close => exact absurd rfl other
  | invalid checked => exact ⟨_, perform_invalid anchor checked state⟩
  | onSession made => exact ⟨_, perform_poisoned anchor poisoned other made.valid⟩

/-- As long as a poisoned context is not closed, it stays as it is. -/
theorem run_of_poisoned (anchor : Anchor ω σ) {calls : List Call} {state : Context σ × ω}
    (poisoned : state.1.poisoned = true) (never_closed : Call.close ∉ calls) :
    run anchor calls state = state := by
  induction calls with
  | nil => rfl
  | cons call calls ih =>
    have other : call ≠ .close := by
      rintro rfl
      exact never_closed List.mem_cons_self
    obtain ⟨e, refused⟩ := refused_of_poisoned anchor poisoned other
    show run anchor calls (after (call.perform anchor state)) = state
    rw [refused, after_error]
    exact ih fun later => never_closed (.tail call later)

end Context
end TrustAnchor
