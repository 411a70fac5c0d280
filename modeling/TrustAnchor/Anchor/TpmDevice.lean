import TrustAnchor.Anchor.Basic
import TrustAnchor.Tpm.Operations

/-!
A trust anchor that is a TPM at the end of a channel.

The master keys are persistent objects.  Their names are read once in a session, when a slot is first used.
The identity key is created anew for each request and flushed before the request ends.
-/

namespace TrustAnchor

/-- The settings of a TPM trust anchor. -/
structure TpmDevice where
  /-- Where the TPM is; found out when none is given. -/
  path : Option String
  keyHandles : PerSlot Tpm.Handle
  saltHandle : Option Tpm.Handle
  deriving DecidableEq, Repr

namespace TpmDevice

variable {ω α : Type}

/-- An open connection with its session. -/
structure Connection (ω : Type) where
  channel : Channel ω
  /-- The HMAC session, until it is ended. -/
  session : Option Tpm.HmacSession
  keyHandles : PerSlot Tpm.Handle
  /-- The slot keys whose names have been read. -/
  keys : PerSlot (Option Tpm.KeyObject)

namespace Connection

/-- Runs a step on the HMAC session and the machine. -/
def onSession (step : Act Fault (Tpm.HmacSession × Machine ω) α) :
    Act Fault (Connection ω × Machine ω) α := fun (connection, machine) =>
  match connection.session with
  | none => .error (.error (Fault.of .sessionClosed)) (connection, machine)
  | some session =>
    match step (session, machine) with
    | .ok a (session, machine) => .ok a ({ connection with session := some session }, machine)
    | .error e (session, machine) => .error e ({ connection with session := some session }, machine)

/-- Starts the HMAC session of a connection. -/
def start (channel : Channel ω) (keyHandles : PerSlot Tpm.Handle) :
    Act Fault (Machine ω) (Connection ω) := do
  let session ← Act.during .startSession (Tpm.HmacSession.start channel)
  return { channel, session := some session, keyHandles, keys := .both none }

/-- The key of a slot; its name is asked for only until it is known. -/
def slotKey (slot : Slot) : Act Fault (Connection ω × Machine ω) Tpm.KeyObject := do
  let (connection, _) ← get
  match connection.keys.get slot with
  | some key => return key
  | none =>
    let (key, _) ← Act.during (.lookUpKey slot)
      (Act.onSecond (Tpm.readPublic connection.channel (connection.keyHandles.get slot)))
    modify fun (connection, machine) =>
      ({ connection with keys := connection.keys.set slot (some key) }, machine)
    return key

def hmacWith (key : Tpm.KeyObject) (message : Bytes) : Act Fault (Connection ω × Machine ω) Bytes := do
  let (connection, _) ← get
  onSession (Tpm.hmac connection.channel key message)

def hmac (slot : Slot) (message : Bytes) : Act Fault (Connection ω × Machine ω) Bytes := do
  let key ← slotKey slot
  hmacWith key message

/-- The most random bytes that one command can ask for. -/
def randomLimit : Nat := 65535

def random (limit : Nat) : Act Fault (Connection ω × Machine ω) Bytes := do
  let (connection, _) ← get
  Act.onSecond (Tpm.getRandom connection.channel (UInt16.ofNat (min limit randomLimit)))

/-- The message whose HMAC under the identity key is the identity of the device: DEVICEID in ASCII. -/
def identityLabel : Bytes := [0x44, 0x45, 0x56, 0x49, 0x43, 0x45, 0x49, 0x44]

/-- The identity key is flushed whatever the HMAC gave.  If both fail, the fault of the HMAC is reported. -/
def identity : Act Fault (Connection ω × Machine ω) RawIdentity := do
  let (connection, _) ← get
  let channel := connection.channel
  let key ← Act.during .createIdentityKey
    (Act.onSecond (Tpm.createPrimary channel Tpm.Handle.endorsement Tpm.Template.hmacKey))
  let digest ← Act.attempt (hmacWith key identityLabel)
  let flushed ← Act.attempt (Act.onSecond (Tpm.flushContext channel key.handle))
  let digest ← Act.ofExcept digest
  Act.during .flushIdentityKey (Act.ofExcept flushed)
  RawIdentity.ofDigest digest

def selfTest : Act Fault (Connection ω × Machine ω) UInt32 := do
  let (connection, _) ← get
  Act.onSecond (Tpm.selfTest connection.channel true)
  let (_, code) ← Act.onSecond (Tpm.getTestResult connection.channel)
  return code

/-- Ends the HMAC session if that has not been done; what the TPM says to it is lost. -/
def abandon (connection : Connection ω) : Act Fault (Machine ω) Unit :=
  match connection.session with
  | none => pure ()
  | some session => do
    let _ ← Act.attempt (session.flush connection.channel)

/-- Ends the HMAC session, once, and gives up the connection also when the TPM refuses. -/
def close (connection : Connection ω) : Act Fault (Machine ω) Unit := do
  let flushed ← Act.attempt <|
    match connection.session with
    | none => pure ()
    | some session => session.flush connection.channel
  abandon { connection with session := none }
  Act.ofExcept flushed

end Connection

/-- Opens the channel and starts a session on it.  Salted sessions are for the software stack only. -/
def connect (dial : Option String → EStateM Fault ω (Channel ω)) (settings : TpmDevice) :
    Act Fault (Machine ω) (Connection ω) := do
  match settings.saltHandle with
  | some handle => Act.fail (Fault.of (.saltUnsupported handle))
  | none =>
    let channel ← Machine.outside (dial settings.path)
    Connection.start channel settings.keyHandles

/-- The trust anchor whose channel is opened by `dial`. -/
def anchor (reserve : Allocator) (dial : Option String → EStateM Fault ω (Channel ω)) (settings : TpmDevice) :
    Anchor (Machine ω) (Connection ω) where
  kind := .tpmDevice
  reserve := reserve
  connect := connect dial settings
  hmac := Connection.hmac
  random := Connection.random
  identity := Connection.identity
  selfTest := Connection.selfTest
  close := Connection.close
  abandon := Connection.abandon

end TpmDevice
end TrustAnchor
