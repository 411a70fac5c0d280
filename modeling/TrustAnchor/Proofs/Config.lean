import TrustAnchor.Config.Environment

/-!
Where each setting of a configuration comes from.

There are three layers: variables lie over a document, and the document lies over the defaults.  What a layer
says of a setting is said by a relation (`Sets`, `Says`), and `Same` goes down to the layer below.
`configuration_layered` says of every setting which layer decides it, and when there is no configuration at all.

Documents are read member by member, each setting at most once, so that a setting that was made stays as it is
while the others are made (`ofMembers?_made`).
-/

namespace TrustAnchor

namespace Anchor.Kind

/-- The text is one of the two names of the kind. -/
def Named (kind : Kind) (text : String) : Prop := text = kind.name ∨ text = kind.secondName

theorem parse?_eq_some_iff {text : String} {kind : Kind} : parse? text = some kind ↔ kind.Named text := by
  constructor
  · intro found
    have named := List.find?_some found
    rw [Bool.or_eq_true, beq_iff_eq, beq_iff_eq] at named
    exact named.imp Eq.symm Eq.symm
  · intro named
    obtain rfl | rfl := named
    · exact parse?_name kind
    · exact parse?_secondName kind

theorem parse?_eq_none_iff {text : String} : parse? text = none ↔ ∀ kind : Kind, ¬ kind.Named text := by
  rw [Option.eq_none_iff_forall_ne_some]
  constructor
  · intro unknown kind named
    exact unknown kind (parse?_eq_some_iff.mpr named)
  · intro unnamed kind found
    exact unnamed kind (parse?_eq_some_iff.mp found)

end Anchor.Kind

namespace Config

variable {ω : Type}

/-! ## One setting -/

/-- The two configurations are the same in this setting. -/
def Same (config other : Config) : Setting → Prop
  | .kind => config.kind = other.kind
  | .tpmDevice => config.tpmDevice = other.tpmDevice
  | .keyHandles => config.keyHandles = other.keyHandles
  | .saltHandle => config.saltHandle = other.saltHandle
  | .machineIdPath => config.machineIdPath = other.machineIdPath

/-- The setting is what an entry of a document says. -/
def Says (entry : Json) (config : Config) : Setting → Prop
  | .kind => kindOf? entry = some config.kind
  | .tpmDevice => optional? stringOf? entry = some config.tpmDevice
  | .keyHandles => handlesOf? entry = some config.keyHandles
  | .saltHandle => optional? handleOf? entry = some config.saltHandle
  | .machineIdPath => stringOf? entry = some config.machineIdPath

/-- The setting is what the text of a variable says. -/
def Sets (text : String) (config : Config) : Setting → Prop
  | .kind => config.kind.Named text
  | .tpmDevice => config.tpmDevice = some text
  | .machineIdPath => config.machineIdPath = text
  | .keyHandles => False
  | .saltHandle => False

variable {config other later : Config} {setting : Setting}

theorem Same.refl (config : Config) (setting : Setting) : Same config config setting := by
  cases setting <;> rfl

theorem Same.trans (first : Same config other setting) (second : Same other later setting) :
    Same config later setting := by
  cases setting <;> exact Eq.trans first second

theorem Says.of_same {entry : Json} (said : Says entry other setting) (same : Same config other setting) :
    Says entry config setting := by
  cases setting <;> exact said.trans (congrArg some same.symm)

/-- Making a setting from an entry makes what the entry says, and no other setting changes. -/
theorem withSetting?_spec {entry : Json} (made : config.withSetting? entry setting = some later) :
    Says entry later setting ∧ ∀ other, other ≠ setting → Same later config other := by
  cases setting <;>
    · obtain ⟨value, read, rfl⟩ := Option.map_eq_some_iff.mp made
      refine ⟨read, ?_⟩
      intro other differs
      cases other <;> simp [Same] at differs ⊢

/-! ## Documents -/

/-- What a document says of a setting, if it says anything. -/
def entryFor (document : Json) (setting : Setting) : Option Json :=
  match document with
  | .object members => members.lookup setting.name
  | .array elements => (Setting.all.zip elements).lookup setting
  | _ => none

/-- The setting is what a document says, and what it was before if the document says nothing. -/
def Made (config before : Config) (setting : Setting) : Option Json → Prop
  | none => Same config before setting
  | some entry => Says entry config setting

theorem Made.of_same {between before : Config} {entry : Option Json} (made : Made config between setting entry)
    (same : Same between before setting) : Made config before setting entry := by
  cases entry with
  | none => exact Same.trans made same
  | some entry => exact made

theorem Setting.ofName?_eq_some_iff {name : String} {setting : Setting} :
    Setting.ofName? name = some setting ↔ setting.name = name := by
  constructor
  · intro found
    have named := List.find?_some found
    exact beq_iff_eq.mp named
  · intro named
    rw [← named]
    cases setting <;> decide

theorem Setting.name_injective {first second : Setting} (same : first.name = second.name) : first = second := by
  have found : Setting.ofName? second.name = some first := Setting.ofName?_eq_some_iff.mpr same
  rw [Setting.ofName?_eq_some_iff.mpr rfl] at found
  exact (Option.some.inj found).symm

/-- The members make their settings and no others, each of them once. -/
theorem ofMembers?_made {made : List Setting} {members : List (String × Json)}
    (read : ofMembers? made config members = some later) (setting : Setting) :
    (setting ∈ made → Same later config setting) ∧
      (setting ∉ made → Made later config setting (members.lookup setting.name)) := by
  induction members generalizing made config with
  | nil =>
    cases read
    exact ⟨fun _ => Same.refl _ _, fun _ => Same.refl _ _⟩
  | cons member rest ih =>
    obtain ⟨name, entry⟩ := member
    obtain ⟨first, named, read⟩ := Option.bind_eq_some_iff.mp read
    have named := Setting.ofName?_eq_some_iff.mp named
    by_cases repeated : first ∈ made
    · rw [if_pos repeated] at read
      cases read
    · rw [if_neg repeated] at read
      obtain ⟨between, first_made, read⟩ := Option.bind_eq_some_iff.mp read
      obtain ⟨said, others⟩ := withSetting?_spec first_made
      obtain ⟨stays, goes_on⟩ := ih read
      by_cases own : setting = first
      · rw [own] at stays ⊢
        have same := stays List.mem_cons_self
        refine ⟨fun member => absurd member repeated, fun _ => ?_⟩
        rw [List.lookup_cons, named, beq_self_eq_true]
        exact said.of_same same
      · have same := others setting own
        have skipped : (setting.name == name) = false := by
          rw [← named]
          exact beq_false_of_ne fun same => own (Setting.name_injective same)
        rw [List.lookup_cons, skipped]
        refine ⟨fun member => (stays (.tail _ member)).trans same, fun unmade => ?_⟩
        refine Made.of_same (goes_on ?_) same
        rw [List.mem_cons, not_or]
        exact ⟨own, unmade⟩

theorem lookup_zip_of_not_mem {settings : List Setting} (absent : setting ∉ settings) (elements : List Json) :
    (settings.zip elements).lookup setting = none := by
  rw [List.lookup_eq_none_iff]
  intro pair member
  have other : setting ≠ pair.1 := by
    intro same
    rw [same] at absent
    exact absent (List.of_mem_zip member).1
  simpa using other

/-- The elements make the settings that stand at their places, and no others. -/
theorem ofElements?_made {settings : List Setting} (once : settings.Nodup) {elements : List Json}
    (read : ofElements? config settings elements = some later) (setting : Setting) :
    Made later config setting ((settings.zip elements).lookup setting) := by
  induction settings generalizing config elements with
  | nil =>
    cases elements with
    | nil =>
      cases read
      exact Same.refl _ _
    | cons entry rest => cases read
  | cons first settings ih =>
    cases elements with
    | nil =>
      cases read
      exact Same.refl _ _
    | cons entry rest =>
      obtain ⟨absent, once⟩ := List.nodup_cons.mp once
      obtain ⟨between, first_made, read⟩ := Option.bind_eq_some_iff.mp read
      obtain ⟨said, others⟩ := withSetting?_spec first_made
      have goes_on := ih once read
      rw [List.zip_cons_cons, List.lookup_cons]
      by_cases own : setting = first
      · rw [own] at goes_on ⊢
        rw [lookup_zip_of_not_mem absent] at goes_on
        rw [beq_self_eq_true]
        exact said.of_same goes_on
      · rw [beq_false_of_ne own]
        exact goes_on.of_same (others setting own)

/-- Of an acceptable document every setting is what it says, and the default if it says nothing. -/
theorem ofJson?_made {document : Json} (read : ofJson? document = some config) (setting : Setting) :
    Made config default setting (entryFor document setting) := by
  cases document with
  | object members => exact (ofMembers?_made read setting).2 List.not_mem_nil
  | array elements => exact ofElements?_made (by decide) read setting
  | _ => cases read

theorem readText_ok_iff {host : Host ω} {path : String} {world : ω} {bytes : Bytes} :
    host.readText path world = .ok bytes ↔
      host.contents path world = .ok bytes ∧ (Utf8.decode? bytes).isSome = true := by
  rw [Host.readText]
  cases host.contents path world with
  | error error => simp
  | ok stored =>
    by_cases text : (Utf8.decode? stored).isSome = true
    · simp only [text, if_true, Except.ok.injEq]
      constructor
      · intro same
        rw [← same]
        exact ⟨rfl, text⟩
      · intro h
        exact h.1
    · simp only [text]
      constructor
      · intro read
        cases read
      · intro h
        obtain ⟨same, decoded⟩ := h
        cases same
        exact absurd decoded text

/-- A document is loaded if its file can be read, is a text, and this text is an acceptable document. -/
theorem load_ok_iff {host : Host ω} {path : String} {world : ω} :
    load host path world = .ok config ↔ ∃ bytes text document, host.contents path world = .ok bytes ∧
      Utf8.decode? bytes = some text ∧ host.readJson? text = some document ∧
        ofJson? document = some config := by
  constructor
  · intro loaded
    cases read : host.readText path world with
    | error fault =>
      rw [load, read] at loaded
      cases loaded
    | ok bytes =>
      obtain ⟨stored, decoded⟩ := readText_ok_iff.mp read
      obtain ⟨text, decoded⟩ := Option.isSome_iff_exists.mp decoded
      rw [load, read] at loaded
      cases parsed : parse? host.readJson? text with
      | none =>
        simp only [bind, Except.bind, decoded, Option.bind, parsed] at loaded
        cases loaded
      | some given =>
        simp only [bind, Except.bind, decoded, Option.bind, parsed] at loaded
        cases loaded
        obtain ⟨document, json, accepted⟩ := Option.bind_eq_some_iff.mp parsed
        exact ⟨bytes, text, document, stored, decoded, json, accepted⟩
  · intro h
    obtain ⟨bytes, text, document, stored, decoded, json, accepted⟩ := h
    have read : host.readText path world = .ok bytes := readText_ok_iff.mpr ⟨stored, by rw [decoded]; rfl⟩
    have parsed : parse? host.readJson? text = some config :=
      Option.bind_eq_some_iff.mpr ⟨document, json, accepted⟩
    rw [load, read]
    simp only [bind, Except.bind, decoded, Option.bind, parsed]
    rfl

/-! ## Variables -/

/-- The variable that lies over a setting. -/
def Setting.variable? : Setting → Option String
  | .kind => some kindVariable
  | .tpmDevice => some tpmDeviceVariable
  | .machineIdPath => some machineIdVariable
  | .keyHandles => none
  | .saltHandle => none

/-- The setting is what its variable says, and what it was before if there is no variable or it is not set. -/
def Overridden (lookup : String → Option String) (config before : Config) (setting : Setting) : Prop :=
  match setting.variable?.bind lookup with
  | none => Same config before setting
  | some text => Sets text config setting

/-- The configuration after the variables, with the kind that they leave it with. -/
def withVariables (lookup : String → Option String) (kind : Anchor.Kind) (config : Config) : Config :=
  { config with
    kind
    tpmDevice := (lookup tpmDeviceVariable).or config.tpmDevice
    machineIdPath := (lookup machineIdVariable).getD config.machineIdPath }

theorem applyVariables_of_unset {lookup : String → Option String} (unset : lookup kindVariable = none)
    (config : Config) : applyVariables lookup config = .ok () (withVariables lookup config.kind config) := by
  rw [applyVariables, withVariables, unset]
  cases lookup tpmDeviceVariable <;> cases lookup machineIdVariable <;> rfl

theorem applyVariables_of_known {lookup : String → Option String} {text : String} {kind : Anchor.Kind}
    (set : lookup kindVariable = some text) (named : kind.Named text) (config : Config) :
    applyVariables lookup config = .ok () (withVariables lookup kind config) := by
  have known := Anchor.Kind.parse?_eq_some_iff.mpr named
  rw [applyVariables, withVariables, set]
  simp only [readKind, known]
  cases lookup tpmDeviceVariable <;> cases lookup machineIdVariable <;> rfl

theorem applyVariables_of_unknown {lookup : String → Option String} {text : String}
    (set : lookup kindVariable = some text) (unnamed : ∀ kind : Anchor.Kind, ¬ kind.Named text)
    (config : Config) :
    applyVariables lookup config =
      .error ((Fault.of (.unknownKind text)).during (.applyVariable kindVariable)) config := by
  have unknown := Anchor.Kind.parse?_eq_none_iff.mpr unnamed
  rw [applyVariables, set]
  simp only [readKind, unknown]
  rfl

theorem overridden_withVariables {lookup : String → Option String} {kind : Anchor.Kind}
    (kind_ok : Overridden lookup (withVariables lookup kind config) config .kind) (setting : Setting) :
    Overridden lookup (withVariables lookup kind config) config setting := by
  cases setting with
  | kind => exact kind_ok
  | tpmDevice =>
    simp only [Overridden, Setting.variable?, Option.bind_some]
    cases set : lookup tpmDeviceVariable <;> simp [Same, Sets, withVariables, set]
  | machineIdPath =>
    simp only [Overridden, Setting.variable?, Option.bind_some]
    cases set : lookup machineIdVariable <;> simp [Same, Sets, withVariables, set]
  | keyHandles => rfl
  | saltHandle => rfl

/-- Either the variables can be applied, or the text for the kind is no name of one, and nothing is made. -/
theorem applyVariables_cases (lookup : String → Option String) (config : Config) :
    (∃ later, applyVariables lookup config = .ok () later ∧
      ∀ setting, Overridden lookup later config setting) ∨
    ∃ text, lookup kindVariable = some text ∧ (∀ kind : Anchor.Kind, ¬ kind.Named text) ∧
      applyVariables lookup config =
        .error ((Fault.of (.unknownKind text)).during (.applyVariable kindVariable)) config := by
  cases set : lookup kindVariable with
  | none =>
    refine .inl ⟨_, applyVariables_of_unset set config, overridden_withVariables ?_⟩
    simp only [Overridden, Setting.variable?, Option.bind_some, set]
    rfl
  | some text =>
    by_cases known : ∃ kind : Anchor.Kind, kind.Named text
    · obtain ⟨kind, named⟩ := known
      refine .inl ⟨_, applyVariables_of_known set named config, overridden_withVariables ?_⟩
      simp only [Overridden, Setting.variable?, Option.bind_some, set]
      exact named
    · have unnamed : ∀ kind : Anchor.Kind, ¬ kind.Named text := not_exists.mp known
      exact .inr ⟨text, rfl, unnamed, applyVariables_of_unknown set unnamed config⟩

/-! ## The layers -/

/-- The configuration that variables are laid over: the defaults, or the document that is named. -/
def LiesBelow (host : Host ω) (lookup : String → Option String) (world : ω) (config : Config) : Prop :=
  match lookup documentVariable with
  | none => config = default
  | some path => load host path world = .ok config

variable {host : Host ω} {lookup : String → Option String} {world : ω}

theorem base_ok_iff : base host lookup world = .ok config ↔ LiesBelow host lookup world config := by
  unfold base LiesBelow
  cases lookup documentVariable with
  | none => simp [eq_comm]
  | some path => rfl

theorem base_error_iff {fault : Fault} : base host lookup world = .error fault ↔
    ∃ path, lookup documentVariable = some path ∧ load host path world = .error fault := by
  unfold base
  cases lookup documentVariable with
  | none => simp
  | some path => simp

theorem ofVariables_of_base_error {fault : Fault} (failed : base host lookup world = .error fault) :
    ofVariables host lookup world = .error fault := by
  rw [ofVariables, failed]
  rfl

theorem ofVariables_of_applied {below : Config} (based : base host lookup world = .ok below)
    (applied : applyVariables lookup below = .ok () config) : ofVariables host lookup world = .ok config := by
  rw [ofVariables, based]
  simp only [bind, Except.bind, applied]
  rfl

theorem ofVariables_of_refused {below : Config} {fault : Fault} (based : base host lookup world = .ok below)
    (refused : applyVariables lookup below = .error fault later) :
    ofVariables host lookup world = .error fault := by
  rw [ofVariables, based]
  simp only [bind, Except.bind, refused]
  rfl

theorem ofVariables_error_iff : (∃ fault, ofVariables host lookup world = .error fault) ↔
    (∃ path fault, lookup documentVariable = some path ∧ load host path world = .error fault) ∨
      ∃ text, lookup kindVariable = some text ∧ ∀ kind : Anchor.Kind, ¬ kind.Named text := by
  constructor
  · intro h
    obtain ⟨fault, failed⟩ := h
    cases based : base host lookup world with
    | error fault =>
      obtain ⟨path, named, unloaded⟩ := base_error_iff.mp based
      exact .inl ⟨path, fault, named, unloaded⟩
    | ok below =>
      obtain ⟨later, applied, -⟩ | ⟨text, set, unnamed, -⟩ := applyVariables_cases lookup below
      · rw [ofVariables_of_applied based applied] at failed
        cases failed
      · exact .inr ⟨text, set, unnamed⟩
  · intro h
    cases based : base host lookup world with
    | error fault => exact ⟨fault, ofVariables_of_base_error based⟩
    | ok below =>
      obtain ⟨path, fault, named, unloaded⟩ | ⟨text, set, unnamed⟩ := h
      · rw [base_error_iff.mpr ⟨path, named, unloaded⟩] at based
        cases based
      · exact ⟨_, ofVariables_of_refused based (applyVariables_of_unknown set unnamed below)⟩

theorem overridden_of_ofVariables (made : ofVariables host lookup world = .ok config) :
    ∃ below, LiesBelow host lookup world below ∧ ∀ setting, Overridden lookup config below setting := by
  cases based : base host lookup world with
  | error fault =>
    rw [ofVariables_of_base_error based] at made
    cases made
  | ok below =>
    obtain ⟨later, applied, overridden⟩ | ⟨text, -, -, refused⟩ := applyVariables_cases lookup below
    · rw [ofVariables_of_applied based applied] at made
      cases made
      exact ⟨below, base_ok_iff.mp based, overridden⟩
    · rw [ofVariables_of_refused based refused] at made
      cases made

theorem eq_of_applyVariables_error {fault : Fault} (failed : applyVariables lookup config = .error fault later) :
    later = config := by
  obtain ⟨_, applied, -⟩ | ⟨text, -, -, refused⟩ := applyVariables_cases lookup config
  · rw [applied] at failed
    cases failed
  · rw [refused] at failed
    cases failed
    rfl

/-- What the layers make of a host's files and a process's variables. -/
structure Layered (host : Host ω) (lookup : String → Option String) (world : ω) : Prop where
  /-- There is no configuration exactly if a document is named and cannot be loaded, or if the text for the
  kind is no name of one. -/
  refused : (∃ fault, ofVariables host lookup world = .error fault) ↔
    (∃ path fault, lookup documentVariable = some path ∧ load host path world = .error fault) ∨
      ∃ text, lookup kindVariable = some text ∧ ∀ kind : Anchor.Kind, ¬ kind.Named text
  /-- Otherwise each setting is what its variable says, and else what lies below. -/
  above : ∀ config, ofVariables host lookup world = .ok config →
    ∃ below, LiesBelow host lookup world below ∧ ∀ setting, Overridden lookup config below setting
  /-- In a document that was loaded each setting is what the document says, and else the default. -/
  below : ∀ path file, load host path world = .ok file → ∃ bytes text document,
    host.contents path world = .ok bytes ∧ Utf8.decode? bytes = some text ∧
      host.readJson? text = some document ∧ ∀ setting, Made file default setting (entryFor document setting)
  /-- Variables that cannot be applied change nothing. -/
  untouched : ∀ config fault later, applyVariables lookup config = .error fault later → later = config

/-- Three layers, whatever the files and the variables are. -/
theorem configuration_layered (host : Host ω) (lookup : String → Option String) (world : ω) :
    Layered host lookup world where
  refused := ofVariables_error_iff
  above := by
    intro config made
    exact overridden_of_ofVariables made
  below := by
    intro path file loaded
    obtain ⟨bytes, text, document, stored, decoded, json, accepted⟩ := load_ok_iff.mp loaded
    exact ⟨bytes, text, document, stored, decoded, json, ofJson?_made accepted⟩
  untouched := by
    intro config fault later failed
    exact eq_of_applyVariables_error failed

end Config
end TrustAnchor
