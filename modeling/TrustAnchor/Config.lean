import TrustAnchor.Fault
import TrustAnchor.Text.Blank

/-!
Configurations: which kind of trust anchor to use, and with which settings.
-/

namespace TrustAnchor

structure Config where
  kind : Anchor.Kind
  /-- The TPM's character device; found out when none is given. -/
  tpmDevice : Option String
  /-- The persistent handles of the two master keys. -/
  keyHandles : PerSlot Tpm.Handle
  /-- The persistent key that salts sessions, for the software stack only. -/
  saltHandle : Option Tpm.Handle
  /-- The file that the simulator takes its identity from. -/
  machineIdPath : String
  deriving DecidableEq, Repr

namespace Config

def default : Config where
  kind := .tpmDevice
  tpmDevice := none
  keyHandles := ⟨0x81000000, 0x81000001⟩
  saltHandle := none
  machineIdPath := "/etc/machine-id"

/-- A simulator with its machine id file. -/
def simulator (machineIdPath : String) : Config :=
  { default with kind := .simulator, machineIdPath }

/-- A text with nothing but white space in it. -/
def isBlankText (text : String) : Bool := (trim text.toList).isEmpty

def checkKeyHandle (config : Config) (slot : Slot) : Except Fault Unit :=
  let handle := config.keyHandles.get slot
  if handle.IsPersistent then .ok () else .error (Fault.of (.keyNotPersistent slot handle))

def checkSaltHandle (config : Config) : Except Fault Unit :=
  match config.saltHandle with
  | none => .ok ()
  | some handle =>
    if handle.IsPersistent then .ok () else .error (Fault.of (.saltNotPersistent handle))

def checkTpmDevice (config : Config) : Except Fault Unit :=
  match config.tpmDevice with
  | none => .ok ()
  | some path => if isBlankText path then .error (Fault.of .blankDevicePath) else .ok ()

/-- Checks the settings in a fixed order, whichever kind they are for. -/
def validate (config : Config) : Except Fault Unit := do
  config.checkKeyHandle .first
  config.checkKeyHandle .second
  config.checkSaltHandle
  config.checkTpmDevice

end Config

end TrustAnchor
