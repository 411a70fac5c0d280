import TrustAnchor.Backend
import TrustAnchor.Proofs.Anchor.Release
import TrustAnchor.Proofs.Blank

/-!
Which path a connection asks the host to open.

A configured path is checked as it stands, and it is opened without the scheme that may stand before it.
`Host.noting` is a host that also notes the paths it is asked to open.  `configured_path_asked` says for every
configuration with a device which paths these are, and that one of them can be blank: when there is nothing but
white space behind the scheme, which the check does not look behind.
-/

namespace TrustAnchor

open Act

variable {ω : Type}

/-! ## What the check accepts -/

namespace Config

variable {config : Config}

/-- The handles in the settings are those of persistent objects. -/
structure HandlesPersist (config : Config) : Prop where
  keys : ∀ slot, (config.keyHandles.get slot).IsPersistent
  salt : ∀ handle, config.saltHandle = some handle → handle.IsPersistent

theorem isBlankText_iff {text : String} : isBlankText text = true ↔ Blank text.toList := by
  rw [isBlankText, List.isEmpty_iff, trim_eq_nil_iff]

theorem checkTpmDevice_of_some {path : String} (given : config.tpmDevice = some path) :
    config.checkTpmDevice = if Blank path.toList then .error (Fault.of .blankDevicePath) else .ok () := by
  simp only [checkTpmDevice, given, isBlankText_iff]

theorem validate_of_handles (persist : config.HandlesPersist) : config.validate = config.checkTpmDevice := by
  have first : config.checkKeyHandle .first = .ok () := if_pos (persist.keys .first)
  have second : config.checkKeyHandle .second = .ok () := if_pos (persist.keys .second)
  have salt : config.checkSaltHandle = .ok () := by
    unfold checkSaltHandle
    cases held : config.saltHandle with
    | none => rfl
    | some handle => exact if_pos (persist.salt handle held)
  rw [validate, first, second, salt]
  rfl

theorem error_behind (first : Except Fault Unit) {next : Except Fault Unit}
    (failed : ∃ fault, next = .error fault) : ∃ fault, (first >>= fun _ => next) = .error fault := by
  cases first with
  | error fault => exact ⟨fault, rfl⟩
  | ok _ => exact failed

/-- Whatever else is wrong, a blank path is not accepted. -/
theorem validate_of_blank {path : String} (given : config.tpmDevice = some path) (blank : Blank path.toList) :
    ∃ fault, config.validate = .error fault := by
  have refused : ∃ fault, config.checkTpmDevice = .error fault := by
    rw [checkTpmDevice_of_some given, if_pos blank]
    exact ⟨_, rfl⟩
  exact error_behind _ (error_behind _ (error_behind _ refused))

end Config

/-! ## The path that is opened -/

namespace Tpm.Device

theorem targetPath_of_scheme {configured : String} {path : List Char}
    (behind : configured.toList = scheme ++ path) : (targetPath configured).toList = path := by
  have starts : scheme.isPrefixOf configured.toList = true := by
    rw [behind, List.isPrefixOf_iff_prefix]
    exact List.prefix_append scheme path
  rw [targetPath, if_pos starts, String.toList_ofList, behind, List.drop_left]

theorem targetPath_of_not_scheme {configured : String}
    (plain : ∀ path, configured.toList ≠ scheme ++ path) : targetPath configured = configured := by
  refine if_neg ?_
  intro starts
  obtain ⟨path, behind⟩ := List.isPrefixOf_iff_prefix.mp starts
  exact plain path behind.symm

/-- A path that is not blank may have a scheme, and what is opened is blank only then. -/
theorem blank_targetPath_iff {configured : String} (shown : ¬ Blank configured.toList) :
    Blank (targetPath configured).toList ↔ ∃ path, Blank path ∧ configured.toList = scheme ++ path := by
  constructor
  · intro blank
    by_cases schemed : ∃ path, configured.toList = scheme ++ path
    · obtain ⟨path, behind⟩ := schemed
      rw [targetPath_of_scheme behind] at blank
      exact ⟨path, blank, behind⟩
    · rw [targetPath_of_not_scheme (not_exists.mp schemed)] at blank
      exact absurd blank shown
  · intro h
    obtain ⟨path, blank, behind⟩ := h
    rw [targetPath_of_scheme behind]
    exact blank

theorem not_blank_of_scheme {configured : String} {path : List Char}
    (behind : configured.toList = scheme ++ path) : ¬ Blank configured.toList := by
  rw [behind, blank_append_iff]
  intro blank
  exact absurd blank.1 (by decide)

end Tpm.Device

/-! ## A host that notes what it is asked to open -/

namespace Host

/-- A step of the world that leaves the notes as they are. -/
def keeping {ε α : Type} (step : EStateM ε ω α) : EStateM ε (ω × List String) α := fun state =>
  match step state.1 with
  | .ok a world => .ok a (world, state.2)
  | .error e world => .error e (world, state.2)

section Keeping

variable {ε ε' α β : Type}

theorem keeping_bind (step : EStateM ε ω α) (next : α → EStateM ε ω β) :
    (keeping step >>= fun a => keeping (next a)) = keeping (step >>= next) := by
  funext state
  simp only [bind, EStateM.bind, keeping]
  cases step state.1 <;> rfl

theorem keeping_adaptExcept (f : ε → ε') (step : EStateM ε ω α) :
    (keeping step).adaptExcept f = keeping (step.adaptExcept f) := by
  funext state
  simp only [EStateM.adaptExcept, keeping]
  cases step state.1 <;> rfl

end Keeping

/-- The host with a list of the paths that it was asked to open, the oldest first. -/
def noting (host : Host ω) : Host (ω × List String) where
  present path state := host.present path state.1
  openFile path := fun state => keeping (host.openFile path) (state.1, state.2 ++ [path])
  write number data := keeping (host.write number data)
  read number limit := keeping (host.read number limit)
  contents path state := host.contents path state.1
  reserve := host.reserve
  readJson? := host.readJson?

end Host

namespace Machine

/-- The machine of the host without its notes. -/
def unnoted (machine : Machine (ω × List String)) : Machine ω :=
  ⟨machine.world.1, machine.entropy, machine.transcript⟩

end Machine

namespace Tpm.Device

theorem transmit_noting (host : Host ω) (number : Nat) (command : Bytes) :
    transmit host.noting number command = Host.keeping (transmit host number command) := by
  unfold transmit
  rw [← Host.keeping_bind, ← Host.keeping_adaptExcept, ← Host.keeping_adaptExcept]
  rfl

end Tpm.Device

namespace TpmDevice

open Tpm Tpm.Device

variable {settings : TpmDevice} {configured : String} {host : Host ω}

theorem after_connectionStart (channel : Channel ω) (keyHandles : PerSlot Handle) (machine : Machine ω) :
    after (Connection.start channel keyHandles machine) =
      (machine.drawn nonceLength).exchanged channel (HmacSession.opening machine) := by
  unfold Connection.start
  rw [after_bind_still _ fun session => still_pure _]
  unfold during
  rw [after_mapError, HmacSession.after_start]

/-- The device that a connection is to, when the host has opened the path for it. -/
def channelTo (host : Host ω) (configured : String) (number : Nat) : Channel ω :=
  ⟨targetPath configured, transmit host number⟩

theorem after_connect_of_opened (machine : Machine ω) {number : Nat} {world : ω}
    (given : settings.path = some configured) (unsalted : settings.saltHandle = none)
    (opened : host.openFile (targetPath configured) machine.world = .ok number world) :
    after (connect (dial host) settings machine) =
      (({ machine with world } : Machine ω).drawn nonceLength).exchanged (channelTo host configured number)
        (HmacSession.opening machine) := by
  let moved : Machine ω := { machine with world }
  have dialled : dial host settings.path machine.world =
      .ok (channelTo host configured number) moved.world := by
    rw [given]
    simp only [dial, openAt, bind, EStateM.bind, EStateM.adaptExcept, opened]
    rfl
  have connected : connect (dial host) settings machine =
      Connection.start (channelTo host configured number) settings.keyHandles moved :=
    connect_eq unsalted dialled
  rw [connected, after_connectionStart]
  rfl

theorem after_connect_of_not_opened (machine : Machine ω) {error : IoError} {world : ω}
    (given : settings.path = some configured) (unsalted : settings.saltHandle = none)
    (failed : host.openFile (targetPath configured) machine.world = .error error world) :
    after (connect (dial host) settings machine) = { machine with world } := by
  have outside : ∃ stop, Machine.outside (dial host settings.path) machine =
      .error stop { machine with world } := by
    rw [given]
    simp only [Machine.outside, zoom, ofPlain, dial, openAt, bind, EStateM.bind, EStateM.adaptExcept, failed]
    exact ⟨_, rfl⟩
  obtain ⟨stop, outside⟩ := outside
  unfold connect
  rw [unsalted]
  exact after_bind_error outside

theorem exchanged_noting (host : Host ω) (configured : String) (number : Nat) (command : Bytes)
    (machine : Machine (ω × List String)) :
    let left := machine.exchanged (channelTo host.noting configured number) command
    left.world.2 = machine.world.2 ∧
      left.unnoted = machine.unnoted.exchanged (channelTo host configured number) command := by
  unfold Machine.exchanged Machine.unnoted Channel.next Channel.answer channelTo
  simp only [transmit_noting, Host.keeping]
  cases transmit host number command machine.world.1 with
  | ok reply world => exact ⟨rfl, rfl⟩
  | error fault world => exact ⟨rfl, rfl⟩

/-- The path is asked for once, without its scheme, and nothing else is.  The notes change nothing. -/
theorem noted_by_connect (host : Host ω) (machine : Machine (ω × List String))
    (given : settings.path = some configured) (unsalted : settings.saltHandle = none) :
    let left := after (connect (dial host.noting) settings machine)
    left.world.2 = machine.world.2 ++ [targetPath configured] ∧
      left.unnoted = after (connect (dial host) settings machine.unnoted) := by
  intro left
  let asked := machine.world.2 ++ [targetPath configured]
  cases came : host.openFile (targetPath configured) machine.world.1 with
  | ok number world =>
    have opened : host.noting.openFile (targetPath configured) machine.world = .ok number (world, asked) := by
      simp only [Host.noting, Host.keeping, came, asked]
    have same := after_connect_of_opened machine.unnoted given unsalted came
    have kept := exchanged_noting host configured number (HmacSession.opening machine)
      (({ machine with world := (world, asked) } : Machine (ω × List String)).drawn nonceLength)
    rw [same]
    rw [← after_connect_of_opened machine given unsalted opened] at kept
    exact kept
  | error error world =>
    have failed : host.noting.openFile (targetPath configured) machine.world =
        .error error (world, asked) := by
      simp only [Host.noting, Host.keeping, came, asked]
    have same := after_connect_of_not_opened machine.unnoted given unsalted came
    have kept : left = { machine with world := (world, asked) } :=
      after_connect_of_not_opened machine given unsalted failed
    rw [same, kept]
    exact ⟨rfl, rfl⟩

end TpmDevice

namespace Backend

open Tpm Tpm.Device

/-- What becomes of a configured path, from the check to the host. -/
structure PathLaw (config : Config) (configured : String) : Prop where
  /-- A path that is blank as it stands is refused, whatever else is wrong. -/
  refused : Blank configured.toList → ∃ fault, ofConfig config = .error fault
  blamed : Blank configured.toList → config.HandlesPersist →
    ofConfig config = .error (Fault.of .blankDevicePath)
  /-- A connection asks for the path without its scheme, once, unless it is to be salted. -/
  asked : ∀ backend, ofConfig config = .ok backend → ∀ {ω : Type} (host : Host ω) machine,
    let left := after (backend.connect host.noting machine)
    left.world.2 = machine.world.2 ++ (if config.saltHandle = none then [targetPath configured] else []) ∧
      left.unnoted = after (backend.connect host machine.unnoted)
  /-- What an accepted configuration asks for is blank only behind a scheme. -/
  blank_iff : ∀ backend, ofConfig config = .ok backend →
    (Blank (targetPath configured).toList ↔ ∃ path, Blank path ∧ configured.toList = scheme ++ path)
  /-- White space behind a scheme is no reason to refuse a configuration. -/
  accepted : ∀ path, configured.toList = scheme ++ path → config.HandlesPersist →
    ∃ backend, ofConfig config = .ok backend

theorem ofConfig_device {config : Config} (kind : config.kind = .tpmDevice) (valid : config.validate = .ok ()) :
    ofConfig config = .ok (.tpmDevice ⟨config.tpmDevice, config.keyHandles, config.saltHandle⟩) := by
  unfold ofConfig
  rw [valid, kind]
  rfl

theorem ofConfig_of_refused {config : Config} {fault : Fault} (refused : config.validate = .error fault) :
    ofConfig config = .error fault := by
  unfold ofConfig
  rw [refused]
  rfl

theorem validate_of_accepted {config : Config} {backend : Backend} (accepted : ofConfig config = .ok backend) :
    config.validate = .ok () := by
  cases checked : config.validate with
  | ok _ => rfl
  | error fault =>
    rw [ofConfig_of_refused checked] at accepted
    cases accepted

theorem after_connect (host : Host ω) (settings : TpmDevice) (machine : Machine ω) :
    after (connect host (.tpmDevice settings) machine) =
      after (TpmDevice.connect (dial host) settings machine) :=
  after_bind_still _ (fun _ => still_pure _) machine

/-- The check looks at a configured path as it stands, and the host is asked to open what is behind the
scheme.  So an accepted configuration can have the host asked for a blank path; it does if and only if there is
nothing but white space behind the scheme. -/
theorem configured_path_asked {config : Config} {configured : String} (kind : config.kind = .tpmDevice)
    (given : config.tpmDevice = some configured) : PathLaw config configured where
  refused := by
    intro blank
    obtain ⟨fault, refused⟩ := Config.validate_of_blank given blank
    exact ⟨fault, ofConfig_of_refused refused⟩
  blamed := by
    intro blank persist
    apply ofConfig_of_refused
    rw [Config.validate_of_handles persist, Config.checkTpmDevice_of_some given, if_pos blank]
  asked := by
    intro backend accepted ω host machine
    rw [ofConfig_device kind (validate_of_accepted accepted)] at accepted
    cases accepted
    rw [after_connect, after_connect]
    cases salted : config.saltHandle with
    | none =>
      rw [if_pos rfl]
      exact TpmDevice.noted_by_connect host machine given rfl
    | some handle =>
      rw [if_neg nofun, List.append_nil]
      exact ⟨rfl, rfl⟩
  blank_iff := by
    intro backend accepted
    apply blank_targetPath_iff
    intro blank
    obtain ⟨fault, refused⟩ := Config.validate_of_blank given blank
    rw [ofConfig_of_refused refused] at accepted
    cases accepted
  accepted := by
    intro path behind persist
    refine ⟨_, ofConfig_device kind ?_⟩
    rw [Config.validate_of_handles persist, Config.checkTpmDevice_of_some given,
      if_neg (not_blank_of_scheme behind)]

/-- One blank behind the scheme. -/
theorem configured_path_asked_blank :
    let config : Config := { Config.default with tpmDevice := some "device: " }
    config.kind = .tpmDevice ∧ config.tpmDevice = some "device: " ∧
      ∃ backend, ofConfig config = .ok backend ∧ Blank " ".toList ∧
        ∀ {ω : Type} (host : Host ω) machine,
          (after (backend.connect host.noting machine)).world.2 = machine.world.2 ++ [" "] := by
  intro config
  have law : PathLaw config "device: " := configured_path_asked rfl rfl
  have persist : config.HandlesPersist := by
    refine ⟨?_, nofun⟩
    intro slot
    cases slot <;> decide
  have behind : "device: ".toList = scheme ++ [' '] := by decide
  obtain ⟨backend, accepted⟩ := law.accepted [' '] behind persist
  refine ⟨rfl, rfl, backend, accepted, by decide, ?_⟩
  intro ω host machine
  have target : targetPath "device: " = " " := by
    rw [← String.ofList_toList (s := targetPath "device: "), targetPath_of_scheme behind]
  have asked := (law.asked backend accepted host machine).1
  rw [target] at asked
  exact asked

end Backend
end TrustAnchor
