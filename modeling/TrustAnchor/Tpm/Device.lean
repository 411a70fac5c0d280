import TrustAnchor.Host
import TrustAnchor.Machine

/-!
TPMs behind a character device: one write carries a command, one read brings the reply.
-/

namespace TrustAnchor
namespace Tpm
namespace Device

variable {ω : Type}

/-- The most bytes that one read brings. -/
def replyLimit : Nat := 4096

/-- The devices that are tried when none is configured, the resource manager first. -/
def defaultPaths : List String := ["/dev/tpmrm0", "/dev/tpm0"]

/-- What may stand before a path to say that it is one. -/
def scheme : List Char := "device:".toList

/-- The path that is opened for a configured one: the scheme, if it is there, is taken off once. -/
def targetPath (configured : String) : String :=
  if scheme.isPrefixOf configured.toList then String.ofList (configured.toList.drop scheme.length)
  else configured

/-- An error of the host while a device is used. -/
def ioFault (activity : Activity) (error : IoError) : Fault :=
  (Fault.of (.io error)).during activity

/-- Writes a command and reads the reply of an open device. -/
def transmit (host : Host ω) (number : Nat) (command : Bytes) : EStateM Fault ω Bytes := do
  (host.write number command).adaptExcept (ioFault .writeCommand)
  (host.read number replyLimit).adaptExcept (ioFault .readResponse)

/-- Opens the device at a configured path. -/
def openAt (host : Host ω) (configured : String) : EStateM Fault ω (Channel ω) := do
  let path := targetPath configured
  let number ← (host.openFile path).adaptExcept (ioFault (.openDevice path))
  return { path, transmit := transmit host number }

/-- Opens the first default device that is there. -/
def detect (host : Host ω) : EStateM Fault ω (Channel ω) := do
  let world ← get
  match defaultPaths.find? fun path => host.present path world with
  | some path => openAt host path
  | none => throw (Fault.of .deviceNotFound)

/-- Opens the configured device, or a default one when none is configured. -/
def dial (host : Host ω) : Option String → EStateM Fault ω (Channel ω)
  | some configured => openAt host configured
  | none => detect host

end Device
end Tpm
end TrustAnchor
