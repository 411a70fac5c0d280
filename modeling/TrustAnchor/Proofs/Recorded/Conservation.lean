import TrustAnchor.Proofs.Recorded.Erasure
import TrustAnchor.Proofs.Recorded.Log

/-!
No context loses a session.

Errors and crashes can come at any call to the trust anchor: while a session is opened, in the middle of an
operation, while it is closed.  The invariant that all these exits keep ties the context to the record of
the calls: the record is `Ordered`, and its live session is the one in the context.  `sessions_conserved`
reads it back over whole runs, up to the moment when the context is given up.
-/

namespace TrustAnchor
namespace Recorded

open Act

variable {ω σ α : Type}

/-! ## What one call records -/

/-- A call is recorded before it is made, so the record holds it however it ends. -/
theorem after_call (event : Nat → Event) (step : Act Fault (σ × ω) α) (session : Session σ)
    (world : World ω) :
    ∃ inner later, after (call event step (session, world)) =
      (⟨inner, session.number⟩,
        ⟨later, world.events ++ [event session.number], world.opened⟩) := by
  unfold call
  cases ran : step (session.inner, world.inner) with
  | ok a state => exact ⟨state.1, state.2, by simp only [World.record, ran, after_ok]⟩
  | error e state => exact ⟨state.1, state.2, by simp only [World.record, ran, after_error]⟩

/-- The end of a session is recorded however the anchor takes it, and nothing else is. -/
theorem after_close (inner : Anchor ω σ) (session : Session σ) (world : World ω) :
    ∃ later, after (close inner session world) =
      ⟨later, world.events ++ [.close session.number], world.opened⟩ := by
  have recorded : (modify (·.record (.close session.number)) : Act Fault (World ω) Unit) world =
      .ok () (world.record (.close session.number)) := rfl
  rw [close, after_bind_ok recorded, unrecorded, after_zoom]
  exact ⟨_, rfl⟩

/-! ## The invariant -/

/-- What a call on a session leaves of the record: the number of the session is the same, and a record that
was in order with this session live still is. -/
structure Confined (s t : Session σ × World ω) : Prop where
  number : t.1.number = s.1.number
  ordered : Ordered s.2.events s.2.opened (some s.1.number) →
    Ordered t.2.events t.2.opened (some t.1.number)

theorem frame_confined : Frame (Confined : Session σ × World ω → _ → Prop) where
  refl _ := ⟨rfl, id⟩
  trans first second := ⟨second.number.trans first.number, second.ordered ∘ first.ordered⟩

theorem confined_call (event : Nat → Event) (target : ∀ n, (event n).target? = some n)
    (stays : ∀ n, event n ≠ .close n) (step : Act Fault (σ × ω) α) : Keeps Confined (call event step) := by
  rintro ⟨session, world⟩
  obtain ⟨_, _, left⟩ := after_call event step session world
  rw [left]
  exact ⟨rfl, fun earlier => earlier.snoc (.used (target _) (stays _))⟩

theorem sessionLaw_anchor (inner : Anchor ω σ) : Context.SessionLaw (anchor inner) Confined where
  frame := frame_confined
  hmac slot message := confined_call (.hmac · slot message) (fun _ => rfl) (fun _ => nofun) _
  random limit := confined_call (.random · limit) (fun _ => rfl) (fun _ => nofun) _
  identity := confined_call .identity (fun _ => rfl) (fun _ => nofun) _
  selfTest := confined_call .selfTest (fun _ => rfl) (fun _ => nofun) _

/-- The record is in order, and its live session is the one in the context. -/
def Tracked (state : Context (Session σ) × World ω) : Prop :=
  Ordered state.2.events state.2.opened (state.1.session.map (·.number))

theorem ordered_close (inner : Anchor ω σ) {session : Session σ} {world : World ω}
    (h : Ordered world.events world.opened (some session.number)) :
    Ordered (after (close inner session world)).events (after (close inner session world)).opened none := by
  obtain ⟨_, left⟩ := after_close inner session world
  rw [left]
  exact h.snoc (.closed _ _)

theorem tracked_connect (inner : Anchor ω σ) :
    Keeps (fun s t => Tracked s → Tracked t) (Context.connect (anchor inner)) := by
  rintro ⟨context, world⟩ tracked
  by_cases poisoned : context.poisoned = true
  · rw [Context.after_connect_poisoned _ poisoned]
    exact tracked
  · have clean := Bool.eq_false_iff.mpr poisoned
    cases held : context.session with
    | some session =>
      rw [Context.after_connect_open _ held]
      exact tracked
    | none =>
      rw [Tracked, held] at tracked
      cases asked : inner.connect world.inner with
      | ok session later =>
        rw [Context.after_connect_ok _ clean held (connect_ok asked)]
        exact tracked.snoc (.opened _)
      | error e later =>
        obtain ⟨_, left⟩ := Context.after_connect_error (anchor inner) clean held
          (connect_error asked)
        rw [left]
        exact tracked.snoc (.refused _)

theorem tracked_takeOut (inner : Anchor ω σ) :
    Keeps (fun s t => Tracked s → Tracked t) (Context.takeOut (anchor inner)) := by
  rintro ⟨context, world⟩ tracked
  cases held : context.session with
  | none =>
    rw [Context.after_takeOut_closed _ held]
    exact tracked
  | some session =>
    obtain ⟨_, left⟩ := Context.after_takeOut_open (anchor inner) held world
    rw [Tracked, held] at tracked
    rw [left]
    exact ordered_close inner tracked

theorem tracked_withSession (operation : Operation)
    {step : Act Fault (Session σ × World ω) α} (kept : Keeps Confined step) :
    Keeps (fun s t => Tracked s → Tracked t) (Context.withSession operation step) := by
  rintro ⟨context, world⟩ tracked
  by_cases poisoned : context.poisoned = true
  · rw [Context.after_withSession_poisoned poisoned]
    exact tracked
  · cases held : context.session with
    | none =>
      rw [Context.after_withSession_closed held]
      exact tracked
    | some session =>
      have clean := Bool.eq_false_iff.mpr poisoned
      obtain ⟨_, left⟩ := Context.after_withSession_open clean held operation step world
      rw [Tracked, held] at tracked
      rw [left]
      exact (kept (session, world)).ordered tracked

theorem callLaw_anchor (inner : Anchor ω σ) :
    Context.CallLaw (anchor inner) Confined fun s t => Tracked s → Tracked t where
  session := sessionLaw_anchor inner
  frame := frame_invariant Tracked
  connect := tracked_connect inner
  takeOut := tracked_takeOut inner
  clearPoison _ tracked := tracked
  withSession := tracked_withSession

/-- Whatever has been called, the record is in order and its live session is the one in the context. -/
theorem tracked_run (inner : Anchor ω σ) (world : ω) (calls : List Context.Call) :
    Tracked (Context.run (anchor inner) calls (.closed, .new world)) :=
  Context.run_keeps (callLaw_anchor inner) calls (.closed, .new world) .start

/-- A context that is given up asks its session to end, and so leaves none live. -/
theorem ordered_discard (inner : Anchor ω σ) {context : Context (Session σ)} {world : World ω}
    (tracked : Tracked (context, world)) :
    let left := after (context.discard (anchor inner) world)
    Ordered left.events left.opened none := by
  unfold Context.discard
  cases held : context.session with
  | none =>
    rw [Tracked, held] at tracked
    exact tracked
  | some session =>
    rw [Tracked, held] at tracked
    have last := after_bind_still (attempt ((anchor inner).close session)) (fun _ => still_pure ()) world
    rw [after_attempt] at last
    simp only [last]
    exact ordered_close inner tracked

/-- Over any run of calls on one context, whatever the trust anchor does at each call, and then giving the
context up: every session that was opened is asked to end exactly once; no call goes to a session after that;
no connection is asked for while a session is live; and after every call the context is open exactly when
one session is live.  The run is that of the anchor itself, apart from the record. -/
theorem sessions_conserved (inner : Anchor ω σ) (world : ω) (calls : List Context.Call) :
    let state := Context.run (anchor inner) calls (.closed, .new world)
    let log := (after (state.1.discard (anchor inner) state.2)).events
    erase state = Context.run inner calls (.closed, world) ∧
      (state.1.isOpen = true ↔ ∃ n, Live state.2.events n) ∧
      (∀ m n, Live state.2.events m → Live state.2.events n → m = n) ∧
      Disciplined log ∧
      ∀ n, .connect (some n) ∈ log → log.count (.close n) = 1 := by
  intro state log
  have tracked : Tracked state := tracked_run inner world calls
  have ended := ordered_discard inner tracked
  have live : ∀ n, Live state.2.events n ↔ state.1.session.map (·.number) = some n := tracked.live_iff
  refine ⟨erase_run inner calls (.closed, .new world), ?_, ?_, ended.disciplined,
    fun n => ended.count_close_of_idle⟩
  · simp only [live, Context.isOpen]
    cases state.1.session <;> simp
  · intro m n hm hn
    rw [live] at hm hn
    exact Option.some.inj (hm.symm.trans hn)

end Recorded
end TrustAnchor
