import TrustAnchor.Anchor.Recorded
import TrustAnchor.Proofs.Context.Run

/-!
Recording changes nothing.

`erase` forgets the record and the numbers of the sessions.  Every call on a context over a recorded anchor
mirrors the same call over the anchor inside, so what is read off the record of a run is about the run
without a record (`erase_run`).
-/

namespace TrustAnchor

open Act

namespace Gather

variable {σ τ : Type} {f : σ → τ} {request : Nat → Act Fault σ Bytes} {image : Nat → Act Fault τ Bytes}

theorem mirrors_collect (same : ∀ n, Mirrors f (request n) (image n)) (n : Nat) :
    Mirrors f (collect request n) (collect image n) := by
  fun_induction collect request n with
  | case1 =>
    rw [collect]
    exact mirrors_pure []
  | case2 n ih =>
    rw [collect]
    refine mirrors_bind (same (n + 1)) fun chunk => ?_
    by_cases h : chunk.length = 0
    · rw [dif_pos h, dif_pos h]
      exact mirrors_fail _
    · rw [dif_neg h, dif_neg h]
      exact mirrors_bind (ih chunk h) fun _ => mirrors_pure _

theorem mirrors_exactly (same : ∀ n, Mirrors f (request n) (image n)) (reserve : Allocator) (length : Nat) :
    Mirrors f (exactly reserve request length) (exactly reserve image length) := by
  unfold exactly
  cases reserve length with
  | error e => exact mirrors_fail _
  | ok _ => exact mirrors_collect same length

end Gather

namespace Recorded

variable {ω σ α : Type}

/-- A session and the world without numbers and record. -/
def eraseSession (state : Session σ × World ω) : σ × ω := (state.1.inner, state.2.inner)

/-- A context and the world without numbers and record. -/
def erase (state : Context (Session σ) × World ω) : Context σ × ω :=
  (⟨state.1.session.map (·.inner), state.1.poisoned⟩, state.2.inner)

theorem mirrors_call (event : Nat → Event) (step : Act Fault (σ × ω) α) :
    Mirrors eraseSession (call event step) step := by
  rintro ⟨session, world⟩
  unfold call eraseSession
  cases ran : step (session.inner, world.inner) with
  | ok a state => simp only [World.record, ran, seen]
  | error e state => simp only [World.record, ran, seen]

theorem mirrors_hmac (inner : Anchor ω σ) (slot : Slot) (message : Bytes) :
    Mirrors eraseSession ((anchor inner).hmac slot message) (inner.hmac slot message) :=
  mirrors_call (.hmac · slot message) _

theorem mirrors_random (inner : Anchor ω σ) (limit : Nat) :
    Mirrors eraseSession ((anchor inner).random limit) (inner.random limit) :=
  mirrors_call (.random · limit) _

theorem mirrors_close (inner : Anchor ω σ) (session : Session σ) :
    Mirrors World.inner (close inner session) (inner.close session.inner) := by
  intro world
  have recorded : (modify (·.record (.close session.number)) : Act Fault (World ω) Unit) world =
      .ok () (world.record (.close session.number)) := rfl
  rw [close, bind_ok recorded]
  unfold unrecorded zoom
  have same : (world.record (.close session.number)).inner = world.inner := rfl
  rw [same]
  cases ran : inner.close session.inner world.inner <;> rfl

theorem mirrors_withSession (operation : Operation) {step : Act Fault (Session σ × World ω) α}
    {image : Act Fault (σ × ω) α} (same : Mirrors eraseSession step image) :
    Mirrors erase (Context.withSession operation step) (Context.withSession operation image) := by
  rintro ⟨⟨held, poisoned⟩, world⟩
  unfold Context.withSession erase
  cases poisoned with
  | true => rfl
  | false =>
    cases held with
    | none => rfl
    | some session =>
      have ended := same (session, world)
      unfold eraseSession at ended
      cases ran : step (session, world) with
      | ok a state =>
        rw [ran] at ended
        simp only [Option.map_some, Bool.false_eq_true, if_false, ended, ran, seen]
      | error e state =>
        rw [ran] at ended
        cases e <;> simp only [Option.map_some, Bool.false_eq_true, if_false, ended, ran, seen]

theorem connect_ok {step : Act Fault ω σ} {world : World ω} {session : σ} {later : ω}
    (made : step world.inner = .ok session later) :
    connect step world = .ok ⟨session, world.opened⟩
      ⟨later, world.events ++ [.connect (some world.opened)], world.opened + 1⟩ := by
  unfold connect
  simp only [made, World.record]

theorem connect_error {step : Act Fault ω σ} {world : World ω} {e : Stop Fault} {later : ω}
    (failed : step world.inner = .error e later) :
    connect step world = .error e ⟨later, world.events ++ [.connect none], world.opened⟩ := by
  unfold connect
  simp only [failed, World.record]

theorem mirrors_connect (inner : Anchor ω σ) :
    Mirrors erase (Context.connect (anchor inner)) (Context.connect inner) := by
  rintro ⟨⟨held, poisoned⟩, world⟩
  unfold Context.connect erase Context.isOpen
  cases poisoned with
  | true => rfl
  | false =>
    cases held with
    | some session => rfl
    | none =>
      cases asked : inner.connect world.inner with
      | ok session later =>
        have ended : (anchor inner).connect world = _ := connect_ok asked
        simp only [Option.map_none, Option.map_some, Option.isSome_none, Bool.false_eq_true, if_false,
          asked, ended, seen]
      | error e later =>
        have ended : (anchor inner).connect world = _ := connect_error asked
        cases e <;> simp only [Option.map_none, Option.isSome_none, Bool.false_eq_true, if_false,
          asked, ended, seen]

theorem mirrors_takeOut (inner : Anchor ω σ) :
    Mirrors erase (Context.takeOut (anchor inner)) (Context.takeOut inner) := by
  rintro ⟨⟨held, poisoned⟩, world⟩
  unfold Context.takeOut erase
  cases held with
  | none => rfl
  | some session =>
    have ended := mirrors_close inner session world
    have closing : (anchor inner).close session world = close inner session world := rfl
    cases ran : close inner session world with
    | ok _ later =>
      rw [ran] at ended
      simp only [Option.map_some, closing, ran, ended, seen, Option.map_none]
    | error e later =>
      rw [ran] at ended
      cases e <;> simp only [Option.map_some, closing, ran, ended, seen, Option.map_none]

theorem mirrors_selfTest (inner : Anchor ω σ) :
    Mirrors erase (Context.selfTest (anchor inner)) (Context.selfTest inner) := by
  refine mirrors_bind (mirrors_withSession _ (mirrors_call .selfTest _)) fun code => ?_
  by_cases h : code ≠ 0
  · rw [if_pos h, if_pos h]
    exact mirrors_fail _
  · rw [if_neg h, if_neg h]
    exact mirrors_pure _

theorem mirrors_getRandom (inner : Anchor ω σ) (length : Nat) :
    Mirrors erase (Context.getRandom (anchor inner) length) (Context.getRandom inner length) :=
  mirrors_withSession _ (Gather.mirrors_exactly (mirrors_random inner) inner.reserve length)

theorem mirrors_deriveKey (inner : Anchor ω σ) (slot : UInt8) (value : Bytes) (length : Nat) :
    Mirrors erase (Context.deriveKey (anchor inner) slot value length)
      (Context.deriveKey inner slot value length) := by
  refine mirrors_bind (mirrors_ofExcept _) fun request => mirrors_withSession _ ?_
  refine mirrors_bind (mirrors_hmac inner request.slot request.message) fun digest => ?_
  unfold KeyRequest.keyOf
  by_cases h : digest.length ≠ keyLengthLimit
  · rw [if_pos h, if_pos h]
    exact mirrors_fail _
  · rw [if_neg h, if_neg h]
    exact mirrors_demand _

theorem mirrors_perform (inner : Anchor ω σ) (call : Context.Call) :
    Mirrors erase (call.perform (anchor inner)) (call.perform inner) := by
  cases call with
  | connect => exact mirrors_bind (mirrors_connect inner) fun _ => mirrors_pure _
  | close =>
    refine mirrors_bind ?_ fun _ => mirrors_pure _
    refine mirrors_bind (mirrors_takeOut inner) fun _ => mirrors_bind (fun _ => rfl) fun _ => ?_
    exact mirrors_mapError _ (mirrors_ofExcept _)
  | deriveKey slot value length =>
    exact mirrors_bind (mirrors_deriveKey inner slot value length) fun _ => mirrors_pure _
  | getRandom length => exact mirrors_bind (mirrors_getRandom inner length) fun _ => mirrors_pure _
  | fillRandom buffer =>
    -- the buffer is no part of the state of a call, so this one is not put together by `bind`
    intro state
    have ended := mirrors_getRandom inner buffer.length state
    unfold Context.Call.perform Context.fillRandom
    cases ran : Context.getRandom (anchor inner) buffer.length state with
    | ok random later =>
      rw [ran] at ended
      by_cases h : random.length = buffer.length <;> simp only [ended, ran, seen, h, if_true, if_false]
    | error e later =>
      rw [ran] at ended
      cases e <;> simp only [ended, ran, seen]
  | getDeviceUuid =>
    refine mirrors_bind (mirrors_withSession _ ?_) fun _ => mirrors_pure _
    exact mirrors_bind (mirrors_call .identity _) fun _ => mirrors_pure _
  | selfTest => exact mirrors_bind (mirrors_selfTest inner) fun _ => mirrors_pure _

/-- The run over a recorded anchor is the run over the anchor inside, with a record beside it. -/
theorem erase_run (inner : Anchor ω σ) (calls : List Context.Call)
    (state : Context (Session σ) × World ω) :
    erase (Context.run (anchor inner) calls state) = Context.run inner calls (erase state) := by
  induction calls generalizing state with
  | nil => rfl
  | cons call calls ih =>
    have same : after (call.perform inner (erase state)) =
        erase (after (call.perform (anchor inner) state)) := by
      rw [mirrors_perform inner call state, after_seen]
    show erase (Context.run (anchor inner) calls (after (call.perform (anchor inner) state))) =
      Context.run inner calls (after (call.perform inner (erase state)))
    rw [ih, same]

end Recorded
end TrustAnchor
