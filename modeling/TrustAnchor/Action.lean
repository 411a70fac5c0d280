import TrustAnchor.Fault

/-!
Steps that change a state and may stop early.

A step ends with a value, with an error that it reports, or with a crash.  A crash is the end of a step that
neither returns nor reports: code behind an interface that gives up, or an index outside its bounds.  However
a step ends, the state keeps what was done until then; nothing is rolled back.
-/

namespace TrustAnchor

/-- The two ways to stop early. -/
inductive Stop (ε : Type)
  | error (e : ε)
  | crash
  deriving DecidableEq, Repr

/-- A step over a state `σ` that reports errors of type `ε`. -/
abbrev Act (ε σ α : Type) := EStateM (Stop ε) σ α

namespace Act

variable {ε ε' σ τ α β : Type}

def fail (e : ε) : Act ε σ α := throw (.error e)

def crash : Act ε σ α := throw .crash

def ofExcept : Except ε α → Act ε σ α
  | .ok a => pure a
  | .error e => fail e

/-- A value that has to be there: its absence is a crash, not an error. -/
def demand : Option α → Act ε σ α
  | some a => pure a
  | none => crash

/-- A step that cannot crash. -/
def ofPlain (step : EStateM ε σ α) : Act ε σ α := fun s =>
  match step s with
  | .ok a s => .ok a s
  | .error e s => .error (.error e) s

def mapError (f : ε → ε') (step : Act ε σ α) : Act ε' σ α := fun s =>
  match step s with
  | .ok a s => .ok a s
  | .error (.error e) s => .error (.error (f e)) s
  | .error .crash s => .error .crash s

/-- The step as a part of an activity, which its faults then name. -/
def during (activity : Activity) (step : Act Fault σ α) : Act Fault σ α :=
  step.mapError (·.during activity)

/-- Holds back an error, so that more can be done before it is reported.  A crash is not held back. -/
def attempt (step : Act ε σ α) : Act ε σ (Except ε α) := fun s =>
  match step s with
  | .ok a s => .ok (.ok a) s
  | .error (.error e) s => .ok (.error e) s
  | .error .crash s => .error .crash s

/-- Runs a step on a part of the state. -/
def zoom (get : σ → τ) (set : σ → τ → σ) (step : Act ε τ α) : Act ε σ α := fun s =>
  match step (get s) with
  | .ok a t => .ok a (set s t)
  | .error e t => .error e (set s t)

/-- Runs a step on the first half of the state. -/
def onFirst (step : Act ε σ α) : Act ε (σ × τ) α := zoom Prod.fst (fun s a => (a, s.2)) step

/-- Runs a step on the second half of the state. -/
def onSecond (step : Act ε τ α) : Act ε (σ × τ) α := zoom Prod.snd (fun s b => (s.1, b)) step

/-- The state after a step, however it ended. -/
def after : EStateM.Result (Stop ε) σ α → σ
  | .ok _ s => s
  | .error _ s => s

/-- The step ended with a value or with an error. -/
def Returned : EStateM.Result (Stop ε) σ α → Prop
  | .error .crash _ => False
  | _ => True

/-! ## One step after another -/

theorem bind_ok {step : Act ε σ α} {next : α → Act ε σ β} {s t : σ} {a : α} (h : step s = .ok a t) :
    (step >>= next) s = next a t := by
  simp only [bind, EStateM.bind, h]

theorem bind_error {step : Act ε σ α} {next : α → Act ε σ β} {s t : σ} {e : Stop ε}
    (h : step s = .error e t) : (step >>= next) s = .error e t := by
  simp only [bind, EStateM.bind, h]

/-- A sequence ends with a value exactly when both of its parts do. -/
theorem bind_eq_ok_iff {step : Act ε σ α} {next : α → Act ε σ β} {s u : σ} {b : β} :
    (step >>= next) s = .ok b u ↔ ∃ a t, step s = .ok a t ∧ next a t = .ok b u := by
  constructor
  · intro run
    cases h : step s with
    | ok a t =>
      rw [bind_ok h] at run
      exact ⟨a, t, rfl, run⟩
    | error e t =>
      rw [bind_error h] at run
      cases run
  · rintro ⟨a, t, h, run⟩
    rw [bind_ok h, run]

@[simp] theorem demand_some (a : α) (s : σ) : (demand (some a) : Act ε σ α) s = .ok a s := rfl

/-- A sequence that has not crashed in its first part crashes only in its second one. -/
theorem returned_bind {step : Act ε σ α} {next : α → Act ε σ β} {s : σ} (first : Returned (step s))
    (second : ∀ a t, step s = .ok a t → Returned (next a t)) : Returned ((step >>= next) s) := by
  cases h : step s with
  | ok a t =>
    rw [bind_ok h]
    exact second a t h
  | error e t =>
    rw [bind_error h]
    rw [h] at first
    cases e with
    | error e => trivial
    | crash => exact first

end Act

end TrustAnchor
