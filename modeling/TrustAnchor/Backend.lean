import TrustAnchor.Anchor.Simulator
import TrustAnchor.Anchor.TpmDevice
import TrustAnchor.Config
import TrustAnchor.Tpm.Device

/-!
The trust anchor that a configuration asks for, and one anchor type for all kinds of it.
-/

namespace TrustAnchor

/-- A trust anchor with its settings. -/
inductive Backend
  | simulator (settings : Simulator)
  | tpmDevice (settings : TpmDevice)
  deriving DecidableEq, Repr

namespace Backend

variable {ω α : Type}

def kind : Backend → Anchor.Kind
  | .simulator _ => .simulator
  | .tpmDevice _ => .tpmDevice

/-- The software stack is not part of this library, so a configuration that asks for it is refused after its
settings have been checked. -/
def ofConfig (config : Config) : Except Fault Backend := do
  config.validate
  match config.kind with
  | .simulator => .ok (.simulator ⟨config.machineIdPath⟩)
  | .tpmDevice => .ok (.tpmDevice ⟨config.tpmDevice, config.keyHandles, config.saltHandle⟩)
  | .tpmStack => .error (Fault.of .stackNotBuilt)

/-- A session of either kind. -/
inductive Session (ω : Type)
  | simulator (session : Simulator.Session)
  | tpmDevice (connection : TpmDevice.Connection ω)

/-- Runs a step of the kind that the session is of. -/
def dispatch (simulated : Act Fault (Simulator.Session × Machine ω) α)
    (device : Act Fault (TpmDevice.Connection ω × Machine ω) α) :
    Act Fault (Session ω × Machine ω) α := fun
  | (.simulator session, machine) =>
    match simulated (session, machine) with
    | .ok a (session, machine) => .ok a (.simulator session, machine)
    | .error e (session, machine) => .error e (.simulator session, machine)
  | (.tpmDevice connection, machine) =>
    match device (connection, machine) with
    | .ok a (connection, machine) => .ok a (.tpmDevice connection, machine)
    | .error e (connection, machine) => .error e (.tpmDevice connection, machine)

def connect (host : Host ω) : Backend → Act Fault (Machine ω) (Session ω)
  | .simulator settings => do
    let session ← (Simulator.anchor host settings).connect
    return .simulator session
  | .tpmDevice settings => do
    let connection ← TpmDevice.connect (Tpm.Device.dial host) settings
    return .tpmDevice connection

def closeSession : Session ω → Act Fault (Machine ω) Unit
  | .simulator _ => pure ()
  | .tpmDevice connection => connection.close

def abandonSession : Session ω → Act Fault (Machine ω) Unit
  | .simulator _ => pure ()
  | .tpmDevice connection => connection.abandon

/-- The backend as a trust anchor on a host. -/
def anchor (host : Host ω) (backend : Backend) : Anchor (Machine ω) (Session ω) where
  kind := backend.kind
  reserve := host.reserve
  connect := backend.connect host
  hmac slot message :=
    dispatch (Simulator.hmac slot message) (TpmDevice.Connection.hmac slot message)
  random limit := dispatch (Simulator.random limit) (TpmDevice.Connection.random limit)
  identity := dispatch (Simulator.identity host) TpmDevice.Connection.identity
  selfTest := dispatch (pure 0) TpmDevice.Connection.selfTest
  close := closeSession
  abandon := abandonSession

end Backend
end TrustAnchor
