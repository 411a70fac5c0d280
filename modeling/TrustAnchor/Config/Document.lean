import TrustAnchor.Config
import TrustAnchor.Text.Json

/-!
Configurations written as JSON documents.

A document is an object with a member for each setting, or an array of the settings in their order.  Settings
that are left out have their default; a setting that is unknown or given twice makes the document
unacceptable.
-/

namespace TrustAnchor
namespace Config

/-! ## Single settings -/

/-- A kind is its name, or an object whose only member has that name and the value null. -/
def kindOf? : Json → Option Anchor.Kind
  | .string name => Anchor.Kind.ofName? name
  | .object [(name, .null)] => Anchor.Kind.ofName? name
  | _ => none

def stringOf? : Json → Option String
  | .string text => some text
  | _ => none

def handleOf? : Json → Option Tpm.Handle
  | .natural n => if n < 4294967296 then some (UInt32.ofNat n) else none
  | _ => none

def handlesOf? : Json → Option (PerSlot Tpm.Handle)
  | .array [first, second] => do
    let first ← handleOf? first
    let second ← handleOf? second
    return ⟨first, second⟩
  | _ => none

/-- Null stands for a setting that is not made. -/
def optional? (read : Json → Option α) : Json → Option (Option α)
  | .null => some none
  | json => (read json).map some

/-! ## Documents -/

inductive Setting
  | kind
  | tpmDevice
  | keyHandles
  | saltHandle
  | machineIdPath
  deriving DecidableEq, Repr

/-- The settings in the order of an array. -/
def Setting.all : List Setting := [.kind, .tpmDevice, .keyHandles, .saltHandle, .machineIdPath]

def Setting.name : Setting → String
  | .kind => "backend"
  | .tpmDevice => "tpm-device"
  | .keyHandles => "key-handles"
  | .saltHandle => "salt-handle"
  | .machineIdPath => "machine-id-path"

def Setting.ofName? (name : String) : Option Setting :=
  all.find? fun setting => setting.name == name

/-- The configuration with one setting made. -/
def withSetting? (config : Config) (json : Json) : Setting → Option Config
  | .kind => (kindOf? json).map fun kind => { config with kind }
  | .tpmDevice => (optional? stringOf? json).map fun tpmDevice => { config with tpmDevice }
  | .keyHandles => (handlesOf? json).map fun keyHandles => { config with keyHandles }
  | .saltHandle => (optional? handleOf? json).map fun saltHandle => { config with saltHandle }
  | .machineIdPath => (stringOf? json).map fun machineIdPath => { config with machineIdPath }

/-- Makes the settings of an object's members, none of them twice.  `made` lists those made before. -/
def ofMembers? (made : List Setting) (config : Config) : List (String × Json) → Option Config
  | [] => some config
  | (name, json) :: rest => do
    let setting ← Setting.ofName? name
    if setting ∈ made then none
    else
      let config ← config.withSetting? json setting
      ofMembers? (setting :: made) config rest

/-- Makes the settings of an array's elements; there may be fewer elements than settings, but not more. -/
def ofElements? (config : Config) : List Setting → List Json → Option Config
  | _, [] => some config
  | [], _ :: _ => none
  | setting :: settings, json :: rest => do
    let config ← config.withSetting? json setting
    ofElements? config settings rest

def ofJson? : Json → Option Config
  | .object members => ofMembers? [] default members
  | .array elements => ofElements? default Setting.all elements
  | _ => none

/-- The configuration that a document describes, by a reader of JSON texts. -/
def parse? (readJson? : String → Option Json) (document : String) : Option Config :=
  (readJson? document).bind ofJson?

end Config
end TrustAnchor
