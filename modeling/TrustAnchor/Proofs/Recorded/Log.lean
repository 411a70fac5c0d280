import TrustAnchor.Anchor.Recorded
import TrustAnchor.Proofs.Lists

/-!
Logs of trust anchor calls in which no session is lost.

`Ordered log opened live` derives a log one event at a time: `opened` sessions have been numbered, and `live`
is the one that has not been closed, if there is one.  A connection may be asked for only while no session is
live, and every other call goes to the live session.  The theorems read the derivation back as statements
about the list alone, so that `Disciplined` and `Live` can be understood without it.
-/

namespace TrustAnchor
namespace Recorded

/-- The session that a call goes to.  Asking for a connection is a call to no session. -/
def Event.target? : Event → Option Nat
  | .connect _ => none
  | .hmac session _ _ => some session
  | .random session _ => some session
  | .identity session => some session
  | .selfTest session => some session
  | .close session => some session

/-- The session was opened, and nobody has asked for its end. -/
def Live (log : List Event) (session : Nat) : Prop :=
  .connect (some session) ∈ log ∧ .close session ∉ log

/-- Sessions are used one at a time, and only between their opening and their end. -/
structure Disciplined (log : List Event) : Prop where
  /-- A number stands for one session. -/
  numbered : ∀ n, log.count (.connect (some n)) ≤ 1
  /-- A call goes to a session that has been opened and whose end has not been asked for. -/
  called : ∀ before event after n, log = before ++ event :: after → event.target? = some n →
    .connect (some n) ∈ before ∧ .close n ∉ before
  /-- A connection is asked for only when every earlier session has been asked to end. -/
  exclusive : ∀ before opened after n, log = before ++ .connect opened :: after →
    .connect (some n) ∈ before → .close n ∈ before

/-- How one event changes the number of opened sessions and the live one. -/
inductive Follows : Nat → Option Nat → Event → Nat → Option Nat → Prop
  | refused (opened : Nat) : Follows opened none (.connect none) opened none
  | opened (opened : Nat) : Follows opened none (.connect (some opened)) (opened + 1) (some opened)
  | used {opened live : Nat} {event : Event} (target : event.target? = some live)
      (stays : event ≠ .close live) : Follows opened (some live) event opened (some live)
  | closed (opened live : Nat) : Follows opened (some live) (.close live) opened none

inductive Ordered : List Event → Nat → Option Nat → Prop
  | start : Ordered [] 0 none
  | snoc {log : List Event} {event : Event} {opened opened' : Nat} {live live' : Option Nat}
      (earlier : Ordered log opened live) (next : Follows opened live event opened' live') :
      Ordered (log ++ [event]) opened' live'

namespace Ordered

variable {log : List Event} {opened : Nat} {live : Option Nat}

/-- The live session is the one that was opened last. -/
theorem live_lt (h : Ordered log opened live) {n : Nat} (hn : live = some n) : n < opened := by
  induction h with
  | start => cases hn
  | @snoc log event opened opened' live live' earlier next ih =>
    cases next with
    | refused => cases hn
    | opened => cases hn; omega
    | used => exact ih hn
    | closed => cases hn

theorem mem_connect_iff (h : Ordered log opened live) (n : Nat) :
    .connect (some n) ∈ log ↔ n < opened := by
  induction h with
  | start => simp
  | @snoc log event opened opened' live live' earlier next ih =>
    rw [List.mem_append, ih, List.mem_singleton]
    cases next with
    | refused => simp
    | opened =>
      simp only [Event.connect.injEq, Option.some.injEq]
      omega
    | used target =>
      have other : .connect (some n) ≠ event := fun same => by rw [← same] at target; cases target
      simp [other]
    | closed => simp

/-- The end has been asked for of every opened session but the live one. -/
theorem mem_close_iff (h : Ordered log opened live) (n : Nat) :
    .close n ∈ log ↔ n < opened ∧ live ≠ some n := by
  induction h with
  | start => simp
  | @snoc log event opened opened' live live' earlier next ih =>
    rw [List.mem_append, ih, List.mem_singleton]
    cases next with
    | refused => simp
    | opened =>
      simp only [ne_eq, reduceCtorEq, not_false_eq_true, and_true, or_false, Option.some.injEq]
      omega
    | used target stays =>
      simp only [ne_eq, Option.some.injEq, or_iff_left_iff_imp]
      rintro rfl
      rw [Event.target?, Option.some.injEq] at target
      exact absurd (congrArg Event.close target) stays
    | closed m =>
      have lt := earlier.live_lt rfl
      simp only [ne_eq, Option.some.injEq, Event.close.injEq, reduceCtorEq, not_false_eq_true, and_true]
      omega

theorem live_iff (h : Ordered log opened live) (n : Nat) : Live log n ↔ live = some n := by
  rw [Live, h.mem_connect_iff, h.mem_close_iff]
  constructor
  · rintro ⟨lt, open_⟩
    exact Classical.byContradiction fun ne => open_ ⟨lt, ne⟩
  · intro hn
    exact ⟨h.live_lt hn, fun closed => closed.2 hn⟩

theorem count_close_le (h : Ordered log opened live) (n : Nat) : log.count (.close n) ≤ 1 := by
  induction h with
  | start => simp
  | @snoc log event opened opened' live live' earlier next ih =>
    rw [List.count_append, List.count_singleton]
    by_cases hn : event = .close n
    · subst hn
      have fresh : .close n ∉ log := fun mem => by
        have closed := (earlier.mem_close_iff n).mp mem
        cases next with
        | used target stays => exact stays (congrArg Event.close (Option.some.inj target))
        | closed => exact closed.2 rfl
      simp [List.count_eq_zero.mpr fresh]
    · simpa [hn] using ih

theorem count_connect_le (h : Ordered log opened live) (n : Nat) :
    log.count (.connect (some n)) ≤ 1 := by
  induction h with
  | start => simp
  | @snoc log event opened opened' live live' earlier next ih =>
    rw [List.count_append, List.count_singleton]
    by_cases hn : event = .connect (some n)
    · subst hn
      have fresh : .connect (some n) ∉ log := fun mem => by
        have lt := (earlier.mem_connect_iff n).mp mem
        cases next with
        | opened => exact Nat.lt_irrefl n lt
        | used target => cases target
      simp [List.count_eq_zero.mpr fresh]
    · simpa [hn] using ih

/-- What was derived before an event, and how the event follows it. -/
theorem at_event (h : Ordered log opened live) {before after : List Event} {event : Event}
    (split : log = before ++ event :: after) :
    ∃ opened live opened' live', Ordered before opened live ∧
      Follows opened live event opened' live' := by
  induction h generalizing after with
  | start => cases before <;> cases split
  | @snoc log event opened opened' live live' earlier next ih =>
    rcases split_snoc split with ⟨-, rfl, rfl⟩ | ⟨rest, -, inner⟩
    · exact ⟨_, _, _, _, earlier, next⟩
    · exact ih inner

theorem disciplined (h : Ordered log opened live) : Disciplined log where
  numbered := h.count_connect_le
  called := by
    intro before event after n split target
    obtain ⟨opened, live, _, _, earlier, next⟩ := h.at_event split
    have held : live = some n := by
      cases next with
      | refused => cases target
      | opened => cases target
      | used target' => rw [← target, target']
      | closed => exact target
    exact (earlier.live_iff n).mpr held
  exclusive := by
    intro before asked after n split mem
    obtain ⟨opened, live, _, _, earlier, next⟩ := h.at_event split
    have idle : live = none := by
      cases next with
      | refused => rfl
      | opened => rfl
      | used target => cases target
    rw [earlier.mem_close_iff]
    exact ⟨(earlier.mem_connect_iff n).mp mem, by simp [idle]⟩

/-- Once no session is live, each has been asked to end exactly once. -/
theorem count_close_of_idle (h : Ordered log opened none) {n : Nat}
    (mem : .connect (some n) ∈ log) : log.count (.close n) = 1 := by
  have closed : .close n ∈ log :=
    (h.mem_close_iff n).mpr ⟨(h.mem_connect_iff n).mp mem, by simp⟩
  have := List.count_pos_iff.mpr closed
  have := h.count_close_le n
  omega

end Ordered
end Recorded
end TrustAnchor
