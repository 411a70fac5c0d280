import TrustAnchor.Action

/-!
What a step does to the state, however it ends.

A step can stop at any point, so a law about the state after it has to hold of every exit.  `Keeps R` says
that a step takes each state to one that `R` relates to it, whatever the outcome.  If `R` is reflexive and
transitive, a sequence keeps what its parts keep (`keeps_bind`), and the parts are all that the later proofs
look at.  Two instances carry most of them: `Still`, where the state is the same afterwards, and an
invariant, where `R s t` is `I s → I t`.
-/

namespace TrustAnchor
namespace Act

variable {ε ε' σ τ α β : Type}

/-! ## The state after a step -/

@[simp] theorem after_ok (a : α) (s : σ) :
    after (.ok a s : EStateM.Result (Stop ε) σ α) = s := rfl

@[simp] theorem after_error (e : Stop ε) (s : σ) :
    after (.error e s : EStateM.Result (Stop ε) σ α) = s := rfl

theorem get_eq (s : σ) : (get : Act ε σ σ) s = .ok s s := rfl

/-- A sequence stops where its first part does, or else where its second part does. -/
theorem bind_eq_error_iff {step : Act ε σ α} {next : α → Act ε σ β} {s u : σ} {e : Stop ε} :
    (step >>= next) s = .error e u ↔
      step s = .error e u ∨ ∃ a t, step s = .ok a t ∧ next a t = .error e u := by
  cases ran : step s with
  | ok a t =>
    rw [bind_ok ran]
    constructor
    · intro stopped
      exact .inr ⟨a, t, rfl, stopped⟩
    · rintro (stopped | ⟨_, _, same, stopped⟩)
      · cases stopped
      · cases same
        exact stopped
  | error e' t =>
    rw [bind_error ran]
    constructor
    · intro stopped
      cases stopped
      exact .inl rfl
    · rintro (stopped | ⟨_, _, same, _⟩)
      · cases stopped
        rfl
      · cases same

theorem bind_pure_eq_error_iff {step : Act ε σ α} {f : α → β} {s u : σ} {e : Stop ε} :
    (step >>= fun a => (pure (f a) : Act ε σ β)) s = .error e u ↔ step s = .error e u := by
  rw [bind_eq_error_iff]
  constructor
  · rintro (stopped | ⟨_, _, _, returned⟩)
    · exact stopped
    · cases returned
  · exact .inl

theorem after_bind_ok {step : Act ε σ α} {next : α → Act ε σ β} {s t : σ} {a : α}
    (h : step s = .ok a t) : after ((step >>= next) s) = after (next a t) := by
  rw [bind_ok h]

theorem after_bind_error {step : Act ε σ α} {next : α → Act ε σ β} {s t : σ} {e : Stop ε}
    (h : step s = .error e t) : after ((step >>= next) s) = t := by
  rw [bind_error h, after_error]

theorem after_mapError (f : ε → ε') (step : Act ε σ α) (s : σ) :
    after (step.mapError f s) = after (step s) := by
  unfold mapError
  cases step s with
  | ok a t => rfl
  | error e t => cases e <;> rfl

theorem after_attempt (step : Act ε σ α) (s : σ) : after (step.attempt s) = after (step s) := by
  unfold attempt
  cases step s with
  | ok a t => rfl
  | error e t => cases e <;> rfl

theorem after_zoom (get : σ → τ) (set : σ → τ → σ) (step : Act ε τ α) (s : σ) :
    after (zoom get set step s) = set s (after (step (get s))) := by
  unfold zoom
  cases step (get s) <;> rfl

theorem after_onFirst (step : Act ε σ α) (s : σ × τ) :
    after (onFirst step s) = (after (step s.1), s.2) :=
  after_zoom _ _ step s

theorem after_onSecond (step : Act ε τ α) (s : σ × τ) :
    after (onSecond step s) = (s.1, after (step s.2)) :=
  after_zoom _ _ step s

theorem onFirst_eq_ok_iff {step : Act ε σ α} {s t : σ × τ} {a : α} :
    onFirst step s = .ok a t ↔ step s.1 = .ok a t.1 ∧ t.2 = s.2 := by
  obtain ⟨first, second⟩ := t
  unfold onFirst zoom
  cases step s.1 with
  | ok b later => simp [eq_comm, and_assoc]
  | error e later => simp

theorem onSecond_eq_ok_iff {step : Act ε τ α} {s t : σ × τ} {a : α} :
    onSecond step s = .ok a t ↔ step s.2 = .ok a t.2 ∧ t.1 = s.1 := by
  obtain ⟨first, second⟩ := t
  unfold onSecond zoom
  cases step s.2 with
  | ok b later => simp [eq_comm, and_comm, and_assoc]
  | error e later => simp

theorem onSecond_of_ok {step : Act ε τ α} {s : σ × τ} {a : α} {second : τ} (h : step s.2 = .ok a second) :
    onSecond step s = .ok a (s.1, second) := by
  simp only [onSecond, zoom, h]

theorem onSecond_of_error {step : Act ε τ α} {s : σ × τ} {e : Stop ε} {second : τ}
    (h : step s.2 = .error e second) : onSecond step s = .error e (s.1, second) := by
  simp only [onSecond, zoom, h]

theorem not_returned_of_crash {result : EStateM.Result (Stop ε) σ α} {s : σ}
    (crashed : result = .error .crash s) : ¬ Returned result := by
  rw [crashed]
  exact id

theorem returned_of_bind {step : Act ε σ α} {next : α → Act ε σ β} {s : σ}
    (h : Returned ((step >>= next) s)) : Returned (step s) := by
  cases ran : step s with
  | ok a t => trivial
  | error stop t =>
    rw [bind_error ran] at h
    cases stop with
    | error e => trivial
    | crash => exact h

theorem returned_zoom {get : σ → τ} {set : σ → τ → σ} {step : Act ε τ α} {s : σ}
    (h : Returned (step (get s))) : Returned (zoom get set step s) := by
  unfold zoom
  cases ran : step (get s) with
  | ok a t => trivial
  | error stop t =>
    rw [ran] at h
    cases stop with
    | error e => trivial
    | crash => exact h

theorem returned_onFirst {step : Act ε σ α} {s : σ × τ} (h : Returned (step s.1)) :
    Returned (onFirst step s) := returned_zoom h

theorem returned_onSecond {step : Act ε τ α} {s : σ × τ} (h : Returned (step s.2)) :
    Returned (onSecond step s) := returned_zoom h

theorem during_of_ok {activity : Activity} {step : Act Fault σ α} {s t : σ} {a : α} (h : step s = .ok a t) :
    during activity step s = .ok a t := by
  simp only [during, mapError, h]

theorem during_of_error {activity : Activity} {step : Act Fault σ α} {s t : σ} {f : Fault}
    (h : step s = .error (.error f) t) :
    during activity step s = .error (.error (f.during activity)) t := by
  simp only [during, mapError, h]

theorem during_eq_ok_iff {activity : Activity} {step : Act Fault σ α} {s t : σ} {a : α} :
    during activity step s = .ok a t ↔ step s = .ok a t := by
  cases ran : step s with
  | ok b later => rw [during_of_ok ran]
  | error stop later =>
    cases stop with
    | error f =>
      rw [during_of_error ran]
      exact ⟨nofun, nofun⟩
    | crash =>
      unfold during mapError
      rw [ran]

theorem returned_during {activity : Activity} {step : Act Fault σ α} {s : σ} (h : Returned (step s)) :
    Returned (during activity step s) := by
  unfold during mapError
  cases ran : step s with
  | ok a t => trivial
  | error stop t =>
    rw [ran] at h
    cases stop with
    | error f => trivial
    | crash => exact h

theorem returned_ofExcept (result : Except ε α) (s : σ) : Returned (ofExcept result s) := by
  cases result <;> trivial

theorem attempt_of_returned {step : Act ε σ α} {s : σ} (h : Returned (step s)) :
    ∃ result, step.attempt s = .ok result (after (step s)) := by
  unfold attempt
  cases ran : step s with
  | ok a t => exact ⟨.ok a, rfl⟩
  | error stop t =>
    rw [ran] at h
    cases stop with
    | error e => exact ⟨.error e, rfl⟩
    | crash => exact h.elim

theorem returned_attempt {step : Act ε σ α} {s : σ} (h : Returned (step s)) : Returned (step.attempt s) := by
  obtain ⟨result, ran⟩ := attempt_of_returned h
  rw [ran]
  trivial

/-! ## The outcome of a step -/

/-- The value or the stop with which a step ended, without the state. -/
def outcome : EStateM.Result (Stop ε) σ α → Except (Stop ε) α
  | .ok a _ => .ok a
  | .error e _ => .error e

@[simp] theorem outcome_ok (a : α) (s : σ) :
    outcome (.ok a s : EStateM.Result (Stop ε) σ α) = .ok a := rfl

@[simp] theorem outcome_error (e : Stop ε) (s : σ) :
    outcome (.error e s : EStateM.Result (Stop ε) σ α) = .error e := rfl

theorem outcome_eq_ok_iff {result : EStateM.Result (Stop ε) σ α} {a : α} :
    outcome result = .ok a ↔ ∃ s, result = .ok a s := by
  cases result with
  | ok b t => simp
  | error e t => simp

theorem outcome_eq_error_iff {result : EStateM.Result (Stop ε) σ α} {e : Stop ε} :
    outcome result = .error e ↔ ∃ s, result = .error e s := by
  cases result with
  | ok a t =>
    constructor
    · intro failed
      cases failed
    · rintro ⟨_, failed⟩
      cases failed
  | error e' t =>
    constructor
    · intro failed
      cases failed
      exact ⟨t, rfl⟩
    · rintro ⟨_, failed⟩
      cases failed
      rfl

theorem outcome_onSecond (step : Act ε τ α) (s : σ × τ) :
    outcome (onSecond step s) = outcome (step s.2) := by
  unfold onSecond zoom
  cases step s.2 <;> rfl

/-- Of a step that does not crash, an attempt holds the outcome. -/
theorem attempt_outcome {step : Act ε σ α} {s : σ} (h : Returned (step s)) :
    ∃ result, step.attempt s = .ok result (after (step s)) ∧
      outcome (step s) = result.mapError .error := by
  unfold attempt
  cases ran : step s with
  | ok a t => exact ⟨.ok a, rfl, rfl⟩
  | error stop t =>
    rw [ran] at h
    cases stop with
    | error e => exact ⟨.error e, rfl, rfl⟩
    | crash => exact h.elim

/-- What is made of the value at the end shows in the outcome and not in the state. -/
theorem outcome_bind_pure (step : Act ε σ α) (f : α → β) (s : σ) :
    outcome ((step >>= fun a => (pure (f a) : Act ε σ β)) s) = (outcome (step s)).map f := by
  cases h : step s with
  | ok a t =>
    rw [bind_ok h]
    rfl
  | error e t =>
    rw [bind_error h]
    rfl

/-- The outcomes of steps that are taken one after the other, whatever becomes of each. -/
def outcomes {κ : Type} (perform : κ → Act ε σ α) : List κ → σ → List (Except (Stop ε) α)
  | [], _ => []
  | call :: calls, s => outcome (perform call s) :: outcomes perform calls (after (perform call s))

/-! ## Causes of errors -/

/-- If the step ended with an error, its cause is one of `P`. -/
def Blames (P : Cause → Prop) : EStateM.Result (Stop Fault) σ α → Prop
  | .error (.error f) _ => P f.cause
  | _ => True

variable {P Q : Cause → Prop}

theorem blames_mono {result : EStateM.Result (Stop Fault) σ α} (allowed : ∀ cause, P cause → Q cause)
    (h : Blames P result) : Blames Q result := by
  cases result with
  | ok a t => trivial
  | error e t =>
    cases e with
    | error f => exact allowed f.cause h
    | crash => trivial

theorem cause_of_outcome {result : EStateM.Result (Stop Fault) σ α} (h : Blames P result) {f : Fault}
    (failed : outcome result = .error (.error f)) : P f.cause := by
  cases result with
  | ok a t => cases failed
  | error e t =>
    cases failed
    exact h

theorem blames_demand (value : Option α) (s : σ) : Blames P (demand value s) := by
  cases value <;> trivial

theorem blames_ofExcept {result : Except Fault α} (h : ∀ f, result = .error f → P f.cause) (s : σ) :
    Blames P (ofExcept result s) := by
  cases result with
  | ok a => trivial
  | error f => exact h f rfl

theorem blames_bind {step : Act Fault σ α} {next : α → Act Fault σ β} {s : σ} (first : Blames P (step s))
    (second : ∀ a t, step s = .ok a t → Blames P (next a t)) : Blames P ((step >>= next) s) := by
  cases ran : step s with
  | ok a t =>
    rw [bind_ok ran]
    exact second a t ran
  | error e t =>
    rw [bind_error ran]
    rw [ran] at first
    cases e with
    | error f => exact first
    | crash => trivial

theorem blames_during {activity : Activity} {step : Act Fault σ α} {s : σ} (h : Blames P (step s)) :
    Blames P (during activity step s) := by
  unfold during mapError
  cases ran : step s with
  | ok a t => trivial
  | error e t =>
    rw [ran] at h
    cases e with
    | error f => exact h
    | crash => trivial

theorem blames_zoom {get : σ → τ} {set : σ → τ → σ} {step : Act Fault τ α} {s : σ}
    (h : Blames P (step (get s))) : Blames P (zoom get set step s) := by
  unfold zoom
  cases ran : step (get s) with
  | ok a t => trivial
  | error e t =>
    rw [ran] at h
    cases e with
    | error f => exact h
    | crash => trivial

theorem blames_onFirst {step : Act Fault σ α} {s : σ × τ} (h : Blames P (step s.1)) :
    Blames P (onFirst step s) := blames_zoom h

theorem blames_onSecond {step : Act Fault τ α} {s : σ × τ} (h : Blames P (step s.2)) :
    Blames P (onSecond step s) := blames_zoom h

/-- An error that is held back is blamed on the step that it comes from. -/
theorem blames_attempt {step : Act Fault σ α} {s t : σ} {result : Except Fault α}
    (h : Blames P (step s)) (ran : step.attempt s = .ok result t) {f : Fault}
    (failed : result = .error f) : P f.cause := by
  unfold attempt at ran
  cases ended : step s with
  | ok a later =>
    rw [ended] at ran
    cases ran
    cases failed
  | error e later =>
    rw [ended] at ran h
    cases e with
    | error g =>
      cases ran
      cases failed
      exact h
    | crash => cases ran

theorem blames_of_attempt (step : Act Fault σ α) (s : σ) : Blames P (step.attempt s) := by
  unfold attempt
  cases step s with
  | ok a t => trivial
  | error e t => cases e <;> trivial

/-! ## Relations that steps keep -/

/-- However the step ends, `R` relates the state before it to the state after it. -/
def Keeps (R : σ → σ → Prop) (step : Act ε σ α) : Prop := ∀ s, R s (after (step s))

/-- A relation that sequences keep if their parts do. -/
structure Frame (R : σ → σ → Prop) : Prop where
  refl : ∀ s, R s s
  trans : ∀ {s t u}, R s t → R t u → R s u

theorem frame_invariant (I : σ → Prop) : Frame fun s t => I s → I t where
  refl _ := id
  trans first second := second ∘ first

variable {R : σ → σ → Prop}

theorem keeps_pure (frame : Frame R) (a : α) : Keeps R (pure a : Act ε σ α) := frame.refl

theorem keeps_fail (frame : Frame R) (e : ε) : Keeps R (fail e : Act ε σ α) := frame.refl

theorem keeps_ofExcept (frame : Frame R) (result : Except ε α) :
    Keeps R (ofExcept result : Act ε σ α) := by
  cases result with
  | ok a => exact frame.refl
  | error e => exact frame.refl

theorem keeps_demand (frame : Frame R) (value : Option α) :
    Keeps R (demand value : Act ε σ α) := by
  cases value with
  | some a => exact frame.refl
  | none => exact frame.refl

theorem keeps_bind (frame : Frame R) {step : Act ε σ α}
    {next : α → Act ε σ β} (first : Keeps R step) (second : ∀ a, Keeps R (next a)) :
    Keeps R (step >>= next) := by
  intro s
  have kept := first s
  cases h : step s with
  | ok a t =>
    rw [after_bind_ok h]
    rw [h] at kept
    exact frame.trans kept (second a t)
  | error e t =>
    rw [after_bind_error h]
    rw [h] at kept
    exact kept

theorem keeps_mapError {f : ε → ε'} {step : Act ε σ α} (h : Keeps R step) :
    Keeps R (step.mapError f) := by
  intro s
  rw [after_mapError]
  exact h s

theorem keeps_during {activity : Activity} {step : Act Fault σ α} (h : Keeps R step) :
    Keeps R (during activity step) := keeps_mapError h

/-! ## Steps that leave the state alone -/

/-- The state is the same afterwards. -/
abbrev Still (step : Act ε σ α) : Prop := Keeps (fun s t => t = s) step

theorem frame_still : Frame fun s t : σ => t = s where
  refl _ := rfl
  trans first second := second.trans first

theorem still_pure (a : α) : Still (pure a : Act ε σ α) := fun _ => rfl

theorem still_fail (e : ε) : Still (fail e : Act ε σ α) := fun _ => rfl

theorem still_demand (value : Option α) : Still (demand value : Act ε σ α) :=
  keeps_demand frame_still value

theorem still_bind {step : Act ε σ α} {next : α → Act ε σ β} (first : Still step)
    (second : ∀ a, Still (next a)) : Still (step >>= next) :=
  keeps_bind frame_still first second

/-- What comes after the last change does not show in the state. -/
theorem after_bind_still (step : Act ε σ α) {next : α → Act ε σ β} (still : ∀ a, Still (next a))
    (s : σ) : after ((step >>= next) s) = after (step s) := by
  cases h : step s with
  | ok a t => rw [after_bind_ok h, still a t, after_ok]
  | error e t => rw [after_bind_error h, after_error]

/-! ## Steps on a part of what is there

`f` forgets a part of the state that a step only adds to.  The step `Mirrors` another one that works without
that part if the two end alike, and `f` takes the state after one to the state after the other. -/

/-- The outcome, with the state seen through `f`. -/
def seen (f : σ → τ) : EStateM.Result (Stop ε) σ α → EStateM.Result (Stop ε) τ α
  | .ok a s => .ok a (f s)
  | .error e s => .error e (f s)

def Mirrors (f : σ → τ) (step : Act ε σ α) (image : Act ε τ α) : Prop :=
  ∀ s, image (f s) = seen f (step s)

variable {f : σ → τ}

theorem after_seen (result : EStateM.Result (Stop ε) σ α) : after (seen f result) = f (after result) := by
  cases result <;> rfl

theorem returned_seen {result : EStateM.Result (Stop ε) σ α} : Returned (seen f result) ↔ Returned result := by
  cases result with
  | ok a s => rfl
  | error e s => cases e <;> rfl

theorem mirrors_pure (a : α) : Mirrors f (pure a : Act ε σ α) (pure a) := fun _ => rfl

theorem mirrors_fail (e : ε) : Mirrors f (fail e : Act ε σ α) (fail e) := fun _ => rfl

theorem mirrors_ofExcept (result : Except ε α) :
    Mirrors f (ofExcept result : Act ε σ α) (ofExcept result) := by
  intro s
  cases result <;> rfl

theorem mirrors_demand (value : Option α) : Mirrors f (demand value : Act ε σ α) (demand value) := by
  intro s
  cases value <;> rfl

theorem mirrors_bind {step : Act ε σ α} {image : Act ε τ α} {next : α → Act ε σ β}
    {next' : α → Act ε τ β} (first : Mirrors f step image) (second : ∀ a, Mirrors f (next a) (next' a)) :
    Mirrors f (step >>= next) (image >>= next') := by
  intro s
  have same := first s
  cases ran : step s with
  | ok a t =>
    rw [ran] at same
    rw [bind_ok ran, bind_ok same]
    exact second a t
  | error e t =>
    rw [ran] at same
    rw [bind_error ran, bind_error same]
    rfl

theorem mirrors_mapError (g : ε → ε') {step : Act ε σ α} {image : Act ε τ α} (h : Mirrors f step image) :
    Mirrors f (step.mapError g) (image.mapError g) := by
  intro s
  have same := h s
  unfold mapError
  cases ran : step s with
  | ok a t =>
    rw [ran] at same
    simp only [same, seen]
  | error e t =>
    rw [ran] at same
    cases e <;> simp only [same, seen]

/-- The step mirrors another one from the states that are as they should be, and leaves such a state. -/
def MirrorsOn (I : σ → Prop) (f : σ → τ) (step : Act ε σ α) (image : Act ε τ α) : Prop :=
  ∀ s, I s → image (f s) = seen f (step s) ∧ I (after (step s))

section MirrorsOn

variable {I : σ → Prop}

theorem mirrorsOn_of_still {step : Act ε σ α} {image : Act ε τ α} (mirrors : Mirrors f step image)
    (still : Still step) : MirrorsOn I f step image := by
  intro s ok
  rw [still s]
  exact ⟨mirrors s, ok⟩

theorem mirrorsOn_pure (a : α) : MirrorsOn I f (pure a : Act ε σ α) (pure a) :=
  mirrorsOn_of_still (mirrors_pure a) (still_pure a)

theorem mirrorsOn_demand (value : Option α) :
    MirrorsOn I f (demand value : Act ε σ α) (demand value) :=
  mirrorsOn_of_still (mirrors_demand value) (still_demand value)

theorem mirrorsOn_bind {step : Act ε σ α} {image : Act ε τ α} {next : α → Act ε σ β}
    {next' : α → Act ε τ β} (first : MirrorsOn I f step image)
    (second : ∀ a, MirrorsOn I f (next a) (next' a)) : MirrorsOn I f (step >>= next) (image >>= next') := by
  intro s ok
  obtain ⟨same, kept⟩ := first s ok
  cases ran : step s with
  | ok a t =>
    rw [ran] at same kept
    rw [bind_ok ran, bind_ok same]
    exact second a t kept
  | error e t =>
    rw [ran] at same kept
    rw [bind_error ran, bind_error same]
    exact ⟨rfl, kept⟩

end MirrorsOn

/-- The value of a step that needs no state. -/
def value? (step : Act ε Unit α) : Option α :=
  match step () with
  | .ok a _ => some a
  | .error _ _ => none

theorem value?_eq_some_iff {step : Act ε Unit α} {a : α} :
    value? step = some a ↔ step () = .ok a () := by
  unfold value?
  cases step () with
  | ok b _ =>
    constructor
    · intro h
      cases h
      rfl
    · intro h
      cases h
      rfl
  | error e _ =>
    constructor
    · intro h
      cases h
    · intro h
      cases h

/-- A step that leaves the state alone and does not crash either gives a value or reports an error. -/
theorem reports_of_not_ok {step : Act ε σ α} {s : σ} (still : Still step) (returned : Returned (step s))
    (failed : ∀ a t, step s ≠ .ok a t) : ∃ e, step s = .error (.error e) s := by
  have same := still s
  cases h : step s with
  | ok a t => exact absurd h (failed a t)
  | error stop t =>
    rw [h] at same returned
    rw [after_error] at same
    cases stop with
    | error e => exact ⟨e, by rw [same]⟩
    | crash => exact returned.elim

end Act
end TrustAnchor
