import TrustAnchor.Selection

/-!
Requests for the one trust anchor of a process, with their steps in any order.

A request looks at the decision, prepares its own backend if there is none, settles, and compares kinds.
Between any two of these steps other requests can take theirs, so several can find nothing decided and go on
with backends of different kinds.  `selection_pinned` says what holds in every order: the first to settle
decides, and every request ends with this decision or with an error.
-/

namespace TrustAnchor
namespace Selection

/-! ## The steps of a request -/

/-- How far a request has come. -/
inductive Stage
  | waiting
  | looked (seen : Selection)
  | prepared (pending : Pending)
  | settled (decided : Backend)
  | finished (result : Except Error Backend)

namespace Stage

def ofPreparation : Except Fault Pending → Stage
  | .ok pending => .prepared pending
  | .error fault => .finished (.error (.trustAnchor fault))

def ofComparison : Except Fault Backend → Stage
  | .ok decided => .finished (.ok decided)
  | .error fault => .finished (.error (.trustAnchor fault))

/-- The next step of a request, on the decision that all requests share. -/
def advance (config : Config) (stage : Stage) (selection : Selection) : Stage × Selection :=
  match stage with
  | .waiting => (.looked selection, selection)
  | .looked seen => (ofPreparation (prepare seen config), selection)
  | .prepared pending => (.settled (settle pending selection).1, (settle pending selection).2)
  | .settled decided => (ofComparison (compare decided config), selection)
  | .finished result => (.finished result, selection)

end Stage

/-- The decision, and how far each request has come. -/
structure Shared where
  selection : Selection
  stages : Nat → Stage

namespace Shared

/-- Nothing has been decided, and no request has taken a step. -/
def start : Shared := ⟨undecided, fun _ => .waiting⟩

/-- One step of one request. -/
def step (configs : Nat → Config) (shared : Shared) (request : Nat) : Shared :=
  let next := (shared.stages request).advance (configs request) shared.selection
  ⟨next.2, fun other => if other = request then next.1 else shared.stages other⟩

/-- The steps of many requests, in the order in which the requests are listed. -/
def play (configs : Nat → Config) (shared : Shared) (moves : List Nat) : Shared :=
  moves.foldl (step configs) shared

/-- The requests whose steps change the decision. -/
def setters (configs : Nat → Config) (shared : Shared) : List Nat → List Nat
  | [] => []
  | request :: moves =>
    let later := shared.step configs request
    if later.selection = shared.selection then later.setters configs moves
    else request :: later.setters configs moves

variable {configs : Nat → Config} {shared : Shared}

theorem stages_step_self (configs : Nat → Config) (shared : Shared) (request : Nat) :
    (shared.step configs request).stages request =
      ((shared.stages request).advance (configs request) shared.selection).1 :=
  if_pos rfl

theorem stages_step_of_ne {request other : Nat} (differs : other ≠ request) :
    (shared.step configs request).stages other = shared.stages other :=
  if_neg differs

end Shared

/-! ## What one step does -/

variable {config : Config} {selection later : Selection} {stage : Stage} {decided : Backend}

theorem compare_of_eq (same : decided.kind = config.kind) : compare decided config = .ok decided :=
  if_pos same

theorem compare_of_ne (differs : decided.kind ≠ config.kind) :
    compare decided config = .error (Fault.of (.kindPinned decided.kind config.kind)) :=
  if_neg differs

/-- A decision stays as it is. -/
theorem Stage.advance_decided (config : Config) (stage : Stage) (decided : Backend) :
    (stage.advance config (some decided)).2 = some decided := by
  cases stage with
  | prepared pending => cases pending <;> rfl
  | _ => rfl

/-- What a request knows of its configuration and of the decision. -/
def Stage.Sound (config : Config) (selection : Selection) : Stage → Prop
  | .waiting => True
  | .looked seen => seen = none ∨ seen = selection
  | .prepared (.found decided) => selection = some decided
  | .prepared (.built backend) => Backend.ofConfig config = .ok backend
  | .settled decided => selection = some decided
  | .finished (.ok decided) => selection = some decided ∧ decided.kind = config.kind
  | .finished (.error error) =>
    (∃ fault, Backend.ofConfig config = .error fault ∧ error = .trustAnchor fault) ∨
      ∃ decided, selection = some decided ∧ decided.kind ≠ config.kind ∧
        error = .trustAnchor (Fault.of (.kindPinned decided.kind config.kind))

/-- What a request knows stays true while others take their steps. -/
theorem Stage.Sound.of_stands (sound : stage.Sound config selection)
    (stands : ∀ decided, selection = some decided → later = some decided) : stage.Sound config later := by
  cases stage with
  | waiting => trivial
  | looked seen =>
    cases seen with
    | none => exact .inl rfl
    | some decided =>
      rcases sound with unseen | same
      · cases unseen
      · exact .inr (stands decided same.symm).symm
  | prepared pending =>
    cases pending with
    | found decided => exact stands decided sound
    | built backend => exact sound
  | settled decided => exact stands decided sound
  | finished result =>
    cases result with
    | ok decided => exact ⟨stands decided sound.1, sound.2⟩
    | error error =>
      rcases sound with failed | ⟨decided, same, differs, rfl⟩
      · exact .inl failed
      · exact .inr ⟨decided, stands decided same, differs, rfl⟩

/-- A step of a request leaves the decision as it is or puts the request's own backend down as the first
decision, and after it the request knows what it has to. -/
theorem Stage.Sound.advance (sound : stage.Sound config selection) :
    ((stage.advance config selection).2 = selection ∨ ∃ backend, Backend.ofConfig config = .ok backend ∧
      selection = none ∧ (stage.advance config selection).2 = some backend) ∧
    (stage.advance config selection).1.Sound config (stage.advance config selection).2 := by
  cases stage with
  | waiting => exact ⟨.inl rfl, .inr rfl⟩
  | looked seen =>
    cases seen with
    | none =>
      refine ⟨.inl rfl, ?_⟩
      show (ofPreparation ((Backend.ofConfig config).map .built)).Sound config selection
      cases built : Backend.ofConfig config with
      | error fault => exact .inl ⟨fault, built, rfl⟩
      | ok backend => exact built
    | some decided =>
      rcases sound with unseen | same
      · cases unseen
      · exact ⟨.inl rfl, same.symm⟩
  | prepared pending =>
    cases pending with
    | found decided => exact ⟨.inl rfl, sound⟩
    | built backend =>
      cases selection with
      | none => exact ⟨.inr ⟨backend, sound, rfl, rfl⟩, rfl⟩
      | some decided => exact ⟨.inl rfl, rfl⟩
  | settled decided =>
    refine ⟨.inl rfl, ?_⟩
    show (ofComparison (compare decided config)).Sound config selection
    by_cases same : decided.kind = config.kind
    · rw [compare_of_eq same]
      exact ⟨sound, same⟩
    · rw [compare_of_ne same]
      exact .inr ⟨decided, sound, same, rfl⟩
  | finished result => exact ⟨.inl rfl, sound⟩

/-- The steps that a request has still to take, at most. -/
def Stage.left : Stage → Nat
  | .waiting => 4
  | .looked _ => 3
  | .prepared _ => 2
  | .settled _ => 1
  | .finished _ => 0

theorem Stage.left_advance (config : Config) (stage : Stage) (selection : Selection) :
    (stage.advance config selection).1.left ≤ stage.left - 1 := by
  cases stage with
  | looked seen =>
    show (ofPreparation (prepare seen config)).left ≤ 2
    cases prepare seen config with
    | ok pending => exact Nat.le_refl 2
    | error fault => exact Nat.zero_le 2
  | settled decided =>
    show (ofComparison (compare decided config)).left ≤ 0
    cases compare decided config <;> exact Nat.le_refl 0
  | _ => exact Nat.le_refl _

theorem Stage.finished_of_left (done : stage.left = 0) : ∃ result, stage = .finished result := by
  cases stage with
  | finished result => exact ⟨result, rfl⟩
  | _ => cases done

/-- The request has found this decision, or is going to. -/
def Stage.Granted (decided : Backend) : Stage → Prop
  | .waiting => True
  | .looked seen => seen = some decided
  | .prepared pending => pending = .found decided
  | .settled backend => backend = decided
  | .finished result => result = .ok decided

/-- With the decision made for its kind, nothing else in its configuration can stop the request. -/
theorem Stage.Granted.advance (granted : stage.Granted decided) (same : decided.kind = config.kind) :
    (stage.advance config (some decided)).1.Granted decided := by
  cases stage with
  | waiting => rfl
  | looked seen =>
    cases granted
    rfl
  | prepared pending =>
    cases granted
    rfl
  | settled backend =>
    cases granted
    show (ofComparison (compare decided config)).Granted decided
    rw [compare_of_eq same]
    rfl
  | finished result => exact granted

/-! ## What the steps of many requests do -/

namespace Shared

variable {configs : Nat → Config} {shared : Shared}

/-- Every request knows what it has to. -/
def Sound (configs : Nat → Config) (shared : Shared) : Prop :=
  ∀ request, (shared.stages request).Sound (configs request) shared.selection

theorem sound_start (configs : Nat → Config) : start.Sound configs := fun _ => trivial

theorem selection_step (configs : Nat → Config) (request : Nat) (done : shared.selection = some decided) :
    (shared.step configs request).selection = some decided := by
  show ((shared.stages request).advance (configs request) shared.selection).2 = some decided
  rw [done]
  exact Stage.advance_decided _ _ decided

theorem selection_play (configs : Nat → Config) (moves : List Nat) (done : shared.selection = some decided) :
    (shared.play configs moves).selection = some decided := by
  induction moves generalizing shared with
  | nil => exact done
  | cons request moves ih => exact ih (selection_step configs request done)

theorem sound_step (sound : shared.Sound configs) (request : Nat) :
    (shared.step configs request).Sound configs := by
  intro other
  by_cases own : other = request
  · rw [own, stages_step_self]
    exact (sound request).advance.2
  · rw [stages_step_of_ne own]
    exact (sound other).of_stands fun decided done => selection_step configs request done

theorem sound_play (sound : shared.Sound configs) (moves : List Nat) :
    (shared.play configs moves).Sound configs := by
  induction moves generalizing shared with
  | nil => exact sound
  | cons request moves ih => exact ih (sound_step sound request)

theorem setters_of_decided (moves : List Nat) (done : shared.selection = some decided) :
    shared.setters configs moves = [] := by
  induction moves generalizing shared with
  | nil => rfl
  | cons request moves ih =>
    have kept := selection_step configs request done
    rw [setters, if_pos (kept.trans done.symm)]
    exact ih kept

/-- As long as nothing is decided nobody has changed anything, and the one who does has built the backend that
is decided on from then on. -/
theorem setters_of_undecided (sound : shared.Sound configs) (undone : shared.selection = none)
    (moves : List Nat) :
    (shared.setters configs moves = [] ∧ (shared.play configs moves).selection = none) ∨
      ∃ request backend, shared.setters configs moves = [request] ∧
        Backend.ofConfig (configs request) = .ok backend ∧
          (shared.play configs moves).selection = some backend := by
  induction moves generalizing shared with
  | nil => exact .inl ⟨rfl, undone⟩
  | cons request moves ih =>
    have later_sound := sound_step sound request
    rcases (sound request).advance.1 with same | ⟨backend, built, -, set⟩
    · have same : (shared.step configs request).selection = shared.selection := same
      rw [setters, if_pos same]
      exact ih later_sound (same.trans undone)
    · have set : (shared.step configs request).selection = some backend := set
      have changed : ¬ (shared.step configs request).selection = shared.selection := by
        rw [set, undone]
        nofun
      refine .inr ⟨request, backend, ?_, built, selection_play configs moves set⟩
      rw [setters, if_neg changed, setters_of_decided moves set]

/-- Every step of a request brings it nearer to its end, and the steps of others do not touch it. -/
theorem left_play (configs : Nat → Config) (shared : Shared) (moves : List Nat) (request : Nat) :
    ((shared.play configs moves).stages request).left ≤
      (shared.stages request).left - moves.count request := by
  induction moves generalizing shared with
  | nil => exact Nat.le_refl _
  | cons first moves ih =>
    have others := ih (shared.step configs first)
    by_cases own : first = request
    · subst own
      have nearer := Stage.left_advance (configs first) (shared.stages first) shared.selection
      rw [stages_step_self] at others
      rw [List.count_cons_self]
      exact Nat.le_trans others (by omega)
    · rw [stages_step_of_ne (Ne.symm own)] at others
      rw [List.count_cons_of_ne own]
      exact others

theorem finished_play (configs : Nat → Config) (shared : Shared) {moves : List Nat} {request : Nat}
    (enough : (shared.stages request).left ≤ moves.count request) :
    ∃ result, (shared.play configs moves).stages request = .finished result := by
  refine Stage.finished_of_left ?_
  have few := left_play configs shared moves request
  omega

theorem granted_play {request : Nat} (same : decided.kind = (configs request).kind)
    (done : shared.selection = some decided) (granted : (shared.stages request).Granted decided)
    (moves : List Nat) : ((shared.play configs moves).stages request).Granted decided := by
  induction moves generalizing shared with
  | nil => exact granted
  | cons first moves ih =>
    refine ih (selection_step configs first done) ?_
    by_cases own : first = request
    · rw [own, stages_step_self, done]
      exact granted.advance same
    · rw [stages_step_of_ne (Ne.symm own)]
      exact granted

theorem step_own (configs : Nat → Config) {request : Nat} (reached : shared.stages request = stage)
    (stands : shared.selection = selection) :
    (shared.step configs request).stages request = (stage.advance (configs request) selection).1 ∧
      (shared.step configs request).selection = (stage.advance (configs request) selection).2 := by
  subst reached stands
  exact ⟨stages_step_self configs shared request, rfl⟩

/-- A request that no other request comes between is `init`. -/
theorem play_alone (configs : Nat → Config) {request : Nat} (waiting : shared.stages request = .waiting) :
    let later := shared.play configs [request, request, request, request]
    ∃ result, later.stages request = .finished result ∧
      init (configs request) shared.selection =
        match result with
        | .ok decided => .ok decided later.selection
        | .error error => .error error later.selection := by
  intro later
  obtain ⟨looked, stands⟩ := step_own configs waiting rfl
  obtain ⟨ready, stands⟩ := step_own configs looked stands
  cases prepared : prepare shared.selection (configs request) with
  | error fault =>
    have ready : _ = Stage.ofPreparation (prepare shared.selection (configs request)) := ready
    rw [prepared] at ready
    obtain ⟨ended, stands⟩ := step_own configs ready stands
    obtain ⟨ended, stands⟩ := step_own configs ended stands
    refine ⟨_, ended, ?_⟩
    show init (configs request) shared.selection = .error (.trustAnchor fault) later.selection
    rw [show later.selection = shared.selection from stands]
    simp only [init, prepared]
  | ok pending =>
    have ready : _ = Stage.ofPreparation (prepare shared.selection (configs request)) := ready
    rw [prepared] at ready
    obtain ⟨ended, stands⟩ := step_own configs ready stands
    obtain ⟨ended, stands⟩ := step_own configs ended stands
    have ended : later.stages request =
      Stage.ofComparison (compare (settle pending shared.selection).1 (configs request)) := ended
    have stands : later.selection = (settle pending shared.selection).2 := stands
    cases compared : compare (settle pending shared.selection).1 (configs request) with
    | ok decided =>
      rw [compared] at ended
      refine ⟨_, ended, ?_⟩
      simp only [init, prepared, compared, stands]
    | error fault =>
      rw [compared] at ended
      refine ⟨_, ended, ?_⟩
      simp only [init, prepared, compared, stands]

end Shared

/-! ## One decision -/

/-- What holds of the decision and of the requests `now`, after these steps from the start. -/
structure Pinned (configs : Nat → Config) (moves : List Nat) (now : Shared) : Prop where
  /-- At most one step has changed the decision, and it put down the backend of its request. -/
  once : (Shared.start.setters configs moves = [] ∧ now.selection = none) ∨
    ∃ request backend, Shared.start.setters configs moves = [request] ∧
      Backend.ofConfig (configs request) = .ok backend ∧ now.selection = some backend
  kept : ∀ decided later, now.selection = some decided →
    (now.play configs later).selection = some decided
  /-- A request whose backend cannot be built changes nothing, and says so if it has found nothing decided. -/
  unbuilt : ∀ request fault, Backend.ofConfig (configs request) = .error fault →
    (now.step configs request).selection = now.selection ∧
      (now.stages request = .looked none →
        (now.step configs request).stages request = .finished (.error (.trustAnchor fault)))
  returned : ∀ request, 4 ≤ moves.count request → ∃ result, now.stages request = .finished result
  /-- All that is returned is the one decision, to requests for its kind. -/
  agreed : ∀ request decided, now.stages request = .finished (.ok decided) →
    now.selection = some decided ∧ decided.kind = (configs request).kind
  refused : ∀ request decided result, now.selection = some decided →
    decided.kind ≠ (configs request).kind → now.stages request = .finished result →
      ∃ fault, result = .error (.trustAnchor fault)
  /-- Of a request that finds a decision for its kind no other setting matters. -/
  granted : ∀ request decided later, now.selection = some decided →
    now.stages request = .waiting ∨ now.stages request = .looked (some decided) →
      decided.kind = (configs request).kind → 4 ≤ later.count request →
        (now.play configs later).stages request = .finished (.ok decided)

/-- In whatever order any number of requests take their steps, the backend of the process is decided once and
never changes, and every request ends with it or with an error. -/
theorem selection_pinned (configs : Nat → Config) (moves : List Nat) :
    Pinned configs moves (Shared.start.play configs moves) := by
  have sound : (Shared.start.play configs moves).Sound configs :=
    Shared.sound_play (Shared.sound_start configs) moves
  refine ⟨?once, ?kept, ?unbuilt, ?returned, ?agreed, ?refused, ?granted⟩
  case once => exact Shared.setters_of_undecided (Shared.sound_start configs) rfl moves
  case kept =>
    intro decided later done
    exact Shared.selection_play configs later done
  case unbuilt =>
    intro request fault failed
    constructor
    · rcases (sound request).advance.1 with same | ⟨backend, built, -⟩
      · exact same
      · rw [failed] at built
        cases built
    · intro looked
      rw [Shared.stages_step_self, looked]
      show Stage.ofPreparation ((Backend.ofConfig (configs request)).map .built) = _
      rw [failed]
      rfl
  case returned =>
    intro request enough
    exact Shared.finished_play configs Shared.start enough
  case agreed =>
    intro request decided finished
    have known := sound request
    rw [finished] at known
    exact known
  case refused =>
    intro request decided result done differs finished
    have known := sound request
    rw [finished] at known
    cases result with
    | ok other =>
      rw [Option.some.inj (done.symm.trans known.1)] at differs
      exact absurd known.2 differs
    | error error =>
      rcases known with ⟨fault, -, rfl⟩ | ⟨other, -, -, rfl⟩
      · exact ⟨fault, rfl⟩
      · exact ⟨_, rfl⟩
  case granted =>
    intro request decided later done found same enough
    have granted : ((Shared.start.play configs moves).stages request).Granted decided := by
      rcases found with waiting | looked
      · rw [waiting]
        trivial
      · rw [looked]
        rfl
    have few : ((Shared.start.play configs moves).stages request).left ≤ 4 := by
      rcases found with waiting | looked
      · rw [waiting]
        exact Nat.le_refl 4
      · rw [looked]
        exact Nat.le_succ 3
    obtain ⟨result, finished⟩ := Shared.finished_play configs (Shared.start.play configs moves)
      (Nat.le_trans few enough)
    have ends := Shared.granted_play same done granted later
    rw [finished] at ends ⊢
    rw [show result = .ok decided from ends]

/-- A simulator, a device, and a device with handles that no validation accepts. -/
def contenders : Nat → Config
  | 0 => .simulator "/etc/machine-id"
  | 1 => .default
  | _ => { Config.default with keyHandles := ⟨1, 2⟩ }

/-- The first two look before either has settled, and the one that looked last decides.  The third comes later
and gets the handle in spite of its handles. -/
example :
    let now := Shared.start.play contenders [0, 1, 0, 1, 1, 0, 0, 1, 2, 2, 2, 2]
    now.stages 0 = .finished (.error (.trustAnchor (Fault.of (.kindPinned .tpmDevice .simulator)))) ∧
      now.stages 1 = .finished (.ok (.tpmDevice ⟨none, ⟨0x81000000, 0x81000001⟩, none⟩)) ∧
        now.stages 2 = now.stages 1 :=
  ⟨rfl, rfl, rfl⟩

end Selection
end TrustAnchor
