import TrustAnchor.Anchor.Basic
import TrustAnchor.Hash.Hmac
import TrustAnchor.Machine
import TrustAnchor.MachineId

/-!
A trust anchor in software, for development.  Its master keys are known to everyone.
-/

namespace TrustAnchor

/-- The settings of a simulated trust anchor. -/
structure Simulator where
  machineIdPath : String
  deriving DecidableEq, Repr

namespace Simulator

variable {ω : Type}

/-- The master key of a slot: the first counts up from 0, the second counts down from 31. -/
def masterKey : Slot → Bytes
  | .first => (List.range 32).map UInt8.ofNat
  | .second => (List.range 32).reverse.map UInt8.ofNat

/-- The most random bytes that one request gives. -/
def chunkLimit : Nat := 4096

/-- An open session; it holds nothing but the settings. -/
structure Session where
  machineIdPath : String
  deriving DecidableEq, Repr

def hmac (slot : Slot) (message : Bytes) : Act Fault (Session × Machine ω) Bytes :=
  pure (Hmac.sha256 (masterKey slot) message)

def random (limit : Nat) : Act Fault (Session × Machine ω) Bytes :=
  Act.onSecond (Machine.draw (min limit chunkLimit))

def identity (host : Host ω) : Act Fault (Session × Machine ω) RawIdentity := do
  let (session, machine) ← get
  MachineId.load host session.machineIdPath machine.world

/-- The simulator on a host. -/
def anchor (host : Host ω) (settings : Simulator) : Anchor (Machine ω) Session where
  kind := .simulator
  reserve := host.reserve
  connect := pure { machineIdPath := settings.machineIdPath }
  hmac := hmac
  random := random
  identity := identity host
  selfTest := pure 0
  close _ := pure ()
  abandon _ := pure ()

end Simulator
end TrustAnchor
