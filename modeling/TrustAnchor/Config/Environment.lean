import TrustAnchor.Config.Document
import TrustAnchor.Host

/-!
Where a configuration comes from: the defaults, a document named by a variable of the environment, and other
variables on top of that.
-/

namespace TrustAnchor

/-- The variables of a process; their values are bytes. -/
structure Environment where
  value? : String → Option Bytes

/-- A variable's text.  A value that is no text counts as unset. -/
def Environment.text? (env : Environment) (name : String) : Option String :=
  (env.value? name).bind Utf8.decode?

namespace Config

variable {ω : Type}

/-- Names the document. -/
def documentVariable : String := "UTA_CONFIG"

def kindVariable : String := "UTA_BACKEND"

def tpmDeviceVariable : String := "UTA_TPM_DEVICE"

def machineIdVariable : String := "UTA_MACHINE_ID"

/-- The configuration in the document at a path. -/
def load (host : Host ω) (path : String) (world : ω) : Except Fault Config := do
  let bytes ← host.readText path world
  match (Utf8.decode? bytes).bind (parse? host.readJson?) with
  | some config => return config
  | none => throw ((Fault.of .malformedConfig).during (.parseConfig path))

/-- The kind with this name or second name. -/
def readKind (text : String) : Except Fault Anchor.Kind :=
  match Anchor.Kind.parse? text with
  | some kind => .ok kind
  | none => .error (Fault.of (.unknownKind text))

/-- Makes the settings for which there are variables.  An unknown kind is a fault, and then none of the
others is made either. -/
def applyVariables (lookup : String → Option String) : EStateM Fault Config Unit := do
  match lookup kindVariable with
  | none => pure ()
  | some text =>
    match readKind text with
    | .error fault => throw (fault.during (.applyVariable kindVariable))
    | .ok kind => modify fun config => { config with kind }
  match lookup tpmDeviceVariable with
  | none => pure ()
  | some path => modify fun config => { config with tpmDevice := some path }
  match lookup machineIdVariable with
  | none => pure ()
  | some path => modify fun config => { config with machineIdPath := path }

/-- What the settings of variables are made on: the named document, or the defaults. -/
def base (host : Host ω) (lookup : String → Option String) (world : ω) : Except Fault Config :=
  match lookup documentVariable with
  | none => .ok default
  | some path => load host path world

/-- The configuration that variables describe. -/
def ofVariables (host : Host ω) (lookup : String → Option String) (world : ω) : Except Fault Config := do
  let config ← base host lookup world
  match applyVariables lookup config with
  | .ok () config => return config
  | .error fault _ => throw fault

def ofEnvironment (host : Host ω) (env : Environment) (world : ω) : Except Fault Config :=
  ofVariables host env.text? world

end Config
end TrustAnchor
