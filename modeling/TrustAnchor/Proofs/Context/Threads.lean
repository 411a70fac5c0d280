import TrustAnchor.Anchor.Scripted
import TrustAnchor.Proofs.Context.Failure

/-!
Contexts that several threads share.

Every call but closing is one step under the lock.  Closing is two: under the lock the session is taken out
and ended, and after the lock has been given back the poison is cleared.  Other threads can come between the
two.  A crash under the lock poisons it, and until the next close begins the context is to refuse every call
but closing.  `crash_kept_iff` says exactly when it does: when no close that was between its two steps at the
crash makes the second in the meantime.  Such a close clears the poison of a crash that is not its own.
-/

namespace TrustAnchor

open Act

namespace Context

variable {ω σ α : Type} {anchor : Anchor ω σ}

/-! ## Crashes -/

/-- If the step crashes, the lock is poisoned afterwards. -/
def Poisons (step : Step ω σ α) : Prop :=
  ∀ state, outcome (step state) = .error .crash → (after (step state)).1.poisoned = true

theorem poisons_takeOut (anchor : Anchor ω σ) : Poisons (Context.takeOut anchor) := by
  intro state crashed
  obtain ⟨⟨held, poisoned⟩, world⟩ := state
  cases held with
  | none => cases crashed
  | some session =>
    rw [takeOut_open] at crashed ⊢
    obtain ⟨_, failed⟩ := outcome_eq_error_iff.mp crashed
    obtain ⟨later, ran⟩ := crash_of_ended failed
    rw [ran]
    rfl

/-- A call that crashes leaves the lock poisoned. -/
theorem poisons_perform (call : Call) : Poisons (call.perform anchor) := by
  intro state crashed
  obtain ⟨_, failed⟩ := outcome_eq_error_iff.mp crashed
  rw [failed]
  exact poisoned_of_crashed failed

/-- A call that crashes leaves the session in the context that was there before it. -/
theorem session_of_crashed {inner : Anchor ω σ} {call : Call}
    {state left : Context (Recorded.Session σ) × Recorded.World ω} (other : call ≠ .close)
    (crashed : call.perform (Recorded.anchor inner) state = .error .crash left) :
    left.1.session.map (·.number) = state.1.session.map (·.number) := by
  cases crashes_of_perform crashed with
  | @connect world later made =>
    have ran : Context.connect (Recorded.anchor inner) (.closed, world) =
        .error .crash (⟨none, true⟩, later) := by
      rw [connect_closed, made]
      rfl
    cases (bind_error ran).symm.trans crashed
    rfl
  | @onSession _ session world later stops =>
    obtain ⟨operation, step, made, ended⟩ := stops.onSession
    have kept := keeps_onSession (Recorded.sessionLaw_anchor inner) made (session, world)
    rw [ended] at kept
    rw [perform_open made, ended] at crashed
    cases crashed
    exact congrArg some kept.number
  | close => exact absurd rfl other

/-! ## Threads -/

/-- One step of one thread.  Closing is made in its two steps. -/
inductive Move
  | perform (thread : Nat) (call : Call)
  | takeOut (thread : Nat)
  | clearPoison (thread : Nat)
  deriving DecidableEq, Repr

/-- What the threads share, and the threads that are between the two steps of closing. -/
structure Shared (ω σ : Type) where
  state : Context σ × ω
  closing : List Nat

namespace Move

/-- A thread makes one call at a time. -/
def Allowed (shared : Shared ω σ) : Move → Prop
  | .perform thread call => call ≠ .close ∧ thread ∉ shared.closing
  | .takeOut thread => thread ∉ shared.closing
  | .clearPoison thread => thread ∈ shared.closing

instance decidableAllowed (shared : Shared ω σ) : (move : Move) → Decidable (move.Allowed shared)
  | .perform thread call => inferInstanceAs (Decidable (call ≠ .close ∧ thread ∉ shared.closing))
  | .takeOut thread => inferInstanceAs (Decidable (thread ∉ shared.closing))
  | .clearPoison thread => inferInstanceAs (Decidable (thread ∈ shared.closing))

/-- The second step of closing is due only if the first one did not crash. -/
def next (anchor : Anchor ω σ) (shared : Shared ω σ) : Move → Shared ω σ
  | .perform _ call => { shared with state := after (call.perform anchor shared.state) }
  | .takeOut thread =>
    match Context.takeOut anchor shared.state with
    | .ok _ state => ⟨state, thread :: shared.closing⟩
    | .error _ state => ⟨state, shared.closing⟩
  | .clearPoison thread =>
    ⟨after (Context.clearPoison shared.state), shared.closing.erase thread⟩

/-- The step ends with a crash of the trust anchor. -/
def Crashes (anchor : Anchor ω σ) (shared : Shared ω σ) : Move → Prop
  | .perform _ call => outcome (call.perform anchor shared.state) = .error .crash
  | .takeOut _ => outcome (Context.takeOut anchor shared.state) = .error .crash
  | .clearPoison _ => False

end Move

/-- The steps one after the other. -/
def play (anchor : Anchor ω σ) (moves : List Move) (shared : Shared ω σ) : Shared ω σ :=
  moves.foldl (fun shared move => move.next anchor shared) shared

/-- Every step is one that its thread can take. -/
def Interleaving (anchor : Anchor ω σ) : List Move → Shared ω σ → Prop
  | [], _ => True
  | move :: moves, shared => move.Allowed shared ∧ Interleaving anchor moves (move.next anchor shared)

instance decidableInterleaving (anchor : Anchor ω σ) :
    (moves : List Move) → (shared : Shared ω σ) → Decidable (Interleaving anchor moves shared)
  | [], _ => inferInstanceAs (Decidable True)
  | move :: moves, shared =>
    have := decidableInterleaving anchor moves (move.next anchor shared)
    inferInstanceAs (Decidable (move.Allowed shared ∧ Interleaving anchor moves (move.next anchor shared)))

theorem Interleaving.front {before rest : List Move} {shared : Shared ω σ}
    (legal : Interleaving anchor (before ++ rest) shared) : Interleaving anchor before shared := by
  induction before generalizing shared with
  | nil => trivial
  | cons move before ih => exact ⟨legal.1, ih legal.2⟩

theorem state_clearPoison (anchor : Anchor ω σ) (before : List Move) (thread : Nat) (shared : Shared ω σ) :
    (play anchor (before ++ [.clearPoison thread]) shared).state =
      after (Context.clearPoison (play anchor before shared).state) := by
  rw [play, List.foldl_append]
  rfl

theorem poisoned_of_crash {shared : Shared ω σ} {move : Move} (crashed : move.Crashes anchor shared) :
    (move.next anchor shared).state.1.poisoned = true ∧
      (move.next anchor shared).closing = shared.closing := by
  cases move with
  | perform thread call => exact ⟨poisons_perform call shared.state crashed, rfl⟩
  | takeOut thread =>
    have poisoned := poisons_takeOut anchor shared.state crashed
    unfold Move.Crashes at crashed
    unfold Move.next
    cases ended : Context.takeOut anchor shared.state with
    | ok _ later =>
      rw [ended] at crashed
      cases crashed
    | error stop later =>
      rw [ended] at poisoned
      exact ⟨poisoned, rfl⟩
  | clearPoison thread => exact crashed.elim

/-- While no close begins and none under way clears the poison, a poisoned context stays as it is. -/
theorem state_of_poisoned {moves : List Move} {shared : Shared ω σ}
    (poisoned : shared.state.1.poisoned = true) (legal : Interleaving anchor moves shared)
    (none_begins : ∀ thread, Move.takeOut thread ∉ moves)
    (none_clears : ∀ thread ∈ shared.closing, Move.clearPoison thread ∉ moves) :
    (play anchor moves shared).state = shared.state := by
  induction moves generalizing shared with
  | nil => rfl
  | cons move moves ih =>
    obtain ⟨allowed, others⟩ := legal
    cases move with
    | perform thread call =>
      obtain ⟨e, refused⟩ := refused_of_poisoned anchor poisoned allowed.1
      have same : (Move.perform thread call).next anchor shared = shared := by
        show (⟨after (call.perform anchor shared.state), shared.closing⟩ : Shared ω σ) = shared
        rw [refused, after_error]
      rw [same] at others
      have rest := ih poisoned others (fun thread member => none_begins thread (.tail _ member))
        fun thread closing member => none_clears thread closing (.tail _ member)
      show (play anchor moves ((Move.perform thread call).next anchor shared)).state = shared.state
      rw [same, rest]
    | takeOut thread => exact absurd List.mem_cons_self (none_begins thread)
    | clearPoison thread => exact absurd List.mem_cons_self (none_clears thread allowed)

/-- However a session is taken out, the context is closed afterwards. -/
theorem session_takeOut (anchor : Anchor ω σ) (state : Context σ × ω) :
    (after (Context.takeOut anchor state)).1.session = none := by
  obtain ⟨context, world⟩ := state
  cases held : context.session with
  | none =>
    rw [after_takeOut_closed anchor held]
    exact held
  | some session =>
    obtain ⟨_, left⟩ := after_takeOut_open anchor held world
    rw [left]

/-! ## Refusal -/

/-- Every call but closing gives an error and changes nothing. -/
def Refuses (anchor : Anchor ω σ) (state : Context σ × ω) : Prop :=
  ∀ call ≠ Call.close, ∃ e, call.perform anchor state = .error (.error e) state

/-- An anchor that is asked is left with a longer record, so the context has not refused. -/
theorem poisoned_of_refuses {inner : Anchor ω σ} {state : Context (Recorded.Session σ) × Recorded.World ω}
    (refuses : Refuses (Recorded.anchor inner) state) : state.1.poisoned = true := by
  obtain ⟨⟨held, poisoned⟩, world⟩ := state
  cases poisoned with
  | true => rfl
  | false =>
    exfalso
    cases held with
    | none =>
      obtain ⟨e, refused⟩ := refuses .connect (by decide)
      obtain ⟨opened, grown⟩ := Recorded.events_connect inner world
      have unchanged : Context.connect (Recorded.anchor inner) (.closed, world) =
          .error (.error e) (.closed, world) := bind_pure_eq_error_iff.mp refused
      rw [connect_closed] at unchanged
      cases made : (Recorded.anchor inner).connect world with
      | ok session later =>
        rw [made] at unchanged
        cases unchanged
      | error stop later =>
        rw [made] at unchanged grown
        cases stop with
        | crash => cases unchanged
        | error f =>
          cases unchanged
          simp at grown
    | some session =>
      obtain ⟨e, refused⟩ := refuses .getDeviceUuid (by decide)
      obtain ⟨inside, later, left⟩ := Recorded.after_call .identity inner.identity session world
      have asked : (Recorded.anchor inner).identity = Recorded.call .identity inner.identity := rfl
      rw [perform_of_onSession .getDeviceUuid] at refused
      have opened : (⟨some session, false⟩ : Context (Recorded.Session σ)).session = some session := rfl
      obtain ⟨_, gone⟩ := after_withSession_open rfl opened .getDeviceUuid
        (((Recorded.anchor inner).identity >>= fun raw => pure (Uuid.ofRaw raw)) >>= fun uuid =>
          pure (Answer.uuid uuid)) world
      rw [refused, after_error, after_bind_still _ fun _ => still_pure _,
        after_bind_still _ fun _ => still_pure _, asked, left] at gone
      have same := congrArg (fun state => state.2.events) gone
      simp at same

theorem refuses_iff {inner : Anchor ω σ} {state : Context (Recorded.Session σ) × Recorded.World ω} :
    Refuses (Recorded.anchor inner) state ↔ state.1.poisoned = true :=
  ⟨poisoned_of_refuses, fun poisoned _ other => refused_of_poisoned _ poisoned other⟩

/-! ## Crashes that are kept -/

/-- One of the closes under way clears the poison. -/
def Clears (closing : List Nat) (moves : List Move) : Prop :=
  ∃ thread ∈ closing, Move.clearPoison thread ∈ moves

/-- Let a step under the lock crash, and let the threads go on in any order until the next close begins.  At
every point in between the context refuses every call but closing, so that no call reaches the session or
succeeds, if and only if no close that was between its two steps at the crash makes the second.  Until the
first one does, the context and the record of the calls to the anchor stay as the crash left them; by making
it, it gives the session that crashed free to every call.  The close that begins next takes the session out. -/
theorem crash_kept_iff (inner : Anchor ω σ) {shared : Shared (Recorded.World ω) (Recorded.Session σ)}
    {move : Move} {between : List Move}
    (legal : Interleaving (Recorded.anchor inner) (move :: between) shared)
    (crashed : move.Crashes (Recorded.anchor inner) shared)
    (none_begins : ∀ thread, Move.takeOut thread ∉ between) :
    let anchor := Recorded.anchor inner
    let left := move.next anchor shared
    (∀ thread call, move = .perform thread call →
      left.state.1.session.map (·.number) = shared.state.1.session.map (·.number)) ∧
    ((∀ before, before <+: between → Refuses anchor (play anchor before left).state) ↔
      ¬ Clears shared.closing between) ∧
    (∀ before, before <+: between → ¬ Clears shared.closing before →
      (play anchor before left).state = left.state ∧
        ∀ thread, before ++ [.clearPoison thread] <+: between →
          (play anchor (before ++ [.clearPoison thread]) left).state =
            ({ left.state.1 with poisoned := false }, left.state.2)) ∧
    (after (Context.takeOut anchor (play anchor between left).state)).1.session = none := by
  intro anchor left
  obtain ⟨poisoned, same_closing⟩ := poisoned_of_crash crashed
  have stays : ∀ before, before <+: between → ¬ Clears shared.closing before →
      (play anchor before left).state = left.state := by
    intro before front none_clears
    obtain ⟨rest, rfl⟩ := front
    refine state_of_poisoned poisoned legal.2.front ?_ ?_
    · intro thread member
      exact none_begins thread (List.mem_append_left rest member)
    · intro thread closing member
      exact none_clears ⟨thread, same_closing ▸ closing, member⟩
  refine ⟨?_, ⟨?_, ?_⟩, ?_, session_takeOut _ _⟩
  · intro thread call same
    subst same
    obtain ⟨after_crash, ran⟩ := outcome_eq_error_iff.mp crashed
    show (after (call.perform anchor shared.state)).1.session.map (·.number) = _
    rw [ran]
    exact session_of_crashed legal.1.1 ran
  · intro refuses clears
    obtain ⟨thread, -, member⟩ := clears
    obtain ⟨before, rest, split⟩ := List.append_of_mem member
    have front : before ++ [.clearPoison thread] <+: between := by
      rw [split]
      exact ⟨rest, List.append_assoc _ _ _⟩
    have still := refuses_iff.mp (refuses _ front)
    rw [state_clearPoison] at still
    cases still
  · intro none_clears before front
    have none_before : ¬ Clears shared.closing before := by
      intro clears
      obtain ⟨thread, closing, member⟩ := clears
      exact none_clears ⟨thread, closing, front.subset member⟩
    rw [stays before front none_before]
    exact refuses_iff.mpr poisoned
  · intro before front none_clears
    have same := stays before front none_clears
    refine ⟨same, fun thread _ => ?_⟩
    rw [state_clearPoison, same]
    rfl

/-! ## Threads that overtake a close -/

/-- A scripted anchor whose sessions crash once at an HMAC. -/
def crashing : Recorded.World Scripted.Script := .new ⟨[], [.crash], [], [], [], []⟩

/-- Before thread 1 clears the poison, thread 2 has opened the next session. -/
def overtaken : Shared (Recorded.World Scripted.Script) (Recorded.Session Unit) :=
  play (Recorded.anchor (Scripted.anchor .simulator)) [.perform 1 .connect, .takeOut 1, .perform 2 .connect]
    ⟨(.closed, crashing), []⟩

/-- The call at which the session crashes. -/
def derivation : Call := .deriveKey 0 (Bytes.zeros 8) 32

/-- The second session crashes, thread 1 clears the poison, and the session that has crashed gives a key. -/
theorem crash_kept_iff_overtaken :
    let anchor := Recorded.anchor (Scripted.anchor .simulator)
    let left := (Move.perform 2 derivation).next anchor overtaken
    let cleared := play anchor [.clearPoison 1] left
    overtaken.closing = [1] ∧ (Move.perform 2 derivation).Crashes anchor overtaken ∧
      Interleaving anchor [.perform 2 derivation, .clearPoison 1, .perform 3 derivation] overtaken ∧
      (¬ ∀ before, before <+: [.clearPoison 1, .perform 3 derivation] →
        Refuses anchor (play anchor before left).state) ∧
      cleared.state = ({ left.state.1 with poisoned := false }, left.state.2) ∧
      ∃ key later, derivation.perform anchor cleared.state = .ok (.bytes key) later ∧
        later.2.events = left.state.2.events ++ [.hmac 1 .first (Bytes.zeros 8)] := by
  intro anchor left cleared
  have crashed : (Move.perform 2 derivation).Crashes anchor overtaken := rfl
  have legal :
      Interleaving anchor [.perform 2 derivation, .clearPoison 1, .perform 3 derivation] overtaken := by decide
  obtain ⟨-, kept_iff, until_cleared, -⟩ := crash_kept_iff (Scripted.anchor .simulator) legal crashed
    fun thread => by simp
  have clears : Clears overtaken.closing [.clearPoison 1, .perform 3 derivation] :=
    ⟨1, .head _, .head _⟩
  have freed := (until_cleared [] List.nil_prefix (by simp [Clears])).2 1 ⟨[.perform 3 derivation], rfl⟩
  exact ⟨rfl, crashed, legal, fun refuses => kept_iff.mp refuses clears, freed, _, _, rfl, rfl⟩

end Context
end TrustAnchor
