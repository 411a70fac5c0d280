/-!
The kinds of trust anchor, their names and their tags.
-/

namespace TrustAnchor

namespace Anchor

inductive Kind
  /-- A software stand-in with constant keys. -/
  | simulator
  /-- A TPM 2.0 behind its character device. -/
  | tpmDevice
  /-- A TPM 2.0 behind the software stack of the Trusted Computing Group. -/
  | tpmStack
  deriving DecidableEq, Repr

namespace Kind

def all : List Kind := [.simulator, .tpmDevice, .tpmStack]

/-- The number that a version descriptor shows. -/
def tag : Kind → Nat
  | .simulator => 0
  | .tpmDevice => 1
  | .tpmStack => 2

def name : Kind → String
  | .simulator => "simulator"
  | .tpmDevice => "tpm-device"
  | .tpmStack => "tpm-esapi"

/-- The second name under which a kind can be asked for. -/
def secondName : Kind → String
  | .simulator => "sim"
  | .tpmDevice => "tpm-ibm"
  | .tpmStack => "tpm-tcg"

/-- The name in diagnostic output. -/
def label : Kind → String
  | .simulator => "Simulator"
  | .tpmDevice => "TpmDevice"
  | .tpmStack => "TpmEsapi"

/-- The kind with exactly this name; second names do not count. -/
def ofName? (text : String) : Option Kind :=
  all.find? fun kind => kind.name == text

/-- The kind with this name or second name. -/
def parse? (text : String) : Option Kind :=
  all.find? fun kind => kind.name == text || kind.secondName == text

theorem parse?_name (kind : Kind) : parse? kind.name = some kind := by
  cases kind <;> decide

theorem parse?_secondName (kind : Kind) : parse? kind.secondName = some kind := by
  cases kind <;> decide

end Kind
end Anchor
end TrustAnchor
