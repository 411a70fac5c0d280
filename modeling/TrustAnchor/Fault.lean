import TrustAnchor.Text.Hex
import TrustAnchor.Text.Quoted
import TrustAnchor.Tpm.Code
import TrustAnchor.Tpm.Handle
import TrustAnchor.Anchor.Kind
import TrustAnchor.Slot

/-!
What can go wrong below the public operations.

A fault is a cause and the activities during which it arose, the outermost first.  Causes and activities
are values; `Fault.message` is the only place where they become text.
-/

namespace TrustAnchor

/-- What a reader was asked for when the bytes ran out. -/
inductive Field
  | u8
  | u16
  | u32
  | bytes
  deriving DecidableEq, Repr

def Field.name : Field → String
  | .u8 => "u8"
  | .u16 => "u16"
  | .u32 => "u32"
  | .bytes => "bytes"

/-- Failures that the operating system reports for a file. -/
inductive IoError
  | notFound
  | notDirectory
  | isDirectory
  | noSpace
  | nameTooLong
  | nulInPath
  | invalidUtf8
  deriving DecidableEq, Repr

def IoError.message : IoError → String
  | .notFound => "No such file or directory (os error 2)"
  | .notDirectory => "Not a directory (os error 20)"
  | .isDirectory => "Is a directory (os error 21)"
  | .noSpace => "No space left on device (os error 28)"
  | .nameTooLong => "File name too long (os error 36)"
  | .nulInPath => "file name contained an unexpected NUL byte"
  | .invalidUtf8 => "stream did not contain valid UTF-8"

/-- The operations of a context that need an open session. -/
inductive Operation
  | deriveKey
  | getRandom
  | getDeviceUuid
  | selfTest
  deriving DecidableEq, Repr

def Operation.name : Operation → String
  | .deriveKey => "derive_key"
  | .getRandom => "get_random"
  | .getDeviceUuid => "get_device_uuid"
  | .selfTest => "self_test"

/-- Why memory for a number of bytes cannot be reserved. -/
inductive ReserveError
  /-- The size is beyond what any object may have. -/
  | capacityOverflow
  /-- No memory of that size can be had. -/
  | outOfMemory
  deriving DecidableEq, Repr

def ReserveError.message : ReserveError → String
  | .capacityOverflow =>
    "memory allocation failed because the computed capacity exceeded the collection's maximum"
  | .outOfMemory => "memory allocation failed because the memory allocator returned an error"

/-- Memory for so many bytes, or the reason why there is none. -/
abbrev Allocator := Nat → Except ReserveError Unit

/-- The root cause of a fault. -/
inductive Cause
  -- Bytes received from a TPM
  | underflow (field : Field) (needed remaining : Nat)
  | trailing (count : Nat)
  | shortResponse (length : Nat)
  | unknownTag (raw : UInt16)
  | sizeMismatch (expected actual : Nat)
  | rejected (code : UInt32)
  | noAuthorizationArea
  | noResponseSession
  | responseHmacMismatch (command : Tpm.CommandCode)
  | excessRandom (received requested : Nat)
  -- Commands to a TPM
  | oversizedBuffer (length : Nat)
  | deviceNotFound
  | io (error : IoError)
  -- Sessions of a trust anchor
  | saltUnsupported (handle : Tpm.Handle)
  | sessionClosed
  | shortIdentityDigest (length : Nat)
  -- Files
  | fileNotOpened (path : String) (error : IoError)
  | fileNotRead (path : String) (error : IoError)
  | shortMachineId
  | notHex (digit : Hex.BadDigit)
  -- Configuration
  | malformedConfig
  | unknownKind (name : String)
  | keyNotPersistent (slot : Slot) (handle : Tpm.Handle)
  | saltNotPersistent (handle : Tpm.Handle)
  | blankDevicePath
  | stackNotBuilt
  | kindPinned (selected requested : Anchor.Kind)
  -- Contexts
  | lockPoisoned
  | notOpen (operation : Operation)
  | alreadyOpen
  | digestLength (length : Nat)
  | unreservable (length : Nat) (error : ReserveError)
  | noRandom (outstanding : Nat)
  | selfTestFailed (code : UInt32)
  /-- A failure that a trust anchor or a transport reports in its own words. -/
  | reported (text : String)
  deriving DecidableEq, Repr

/-- How a response code is described. -/
def describeResponse (code : UInt32) : String :=
  if code = 0 then "success"
  else s!"TPM error: 0x{Hex.ofU32 code} ({(Tpm.ResponseCode.ofCode code).name})"

def Cause.message : Cause → String
  | .underflow field needed remaining =>
    s!"buffer underflow reading {field.name} ({needed} bytes, remaining: {remaining})"
  | .trailing count => s!"{count} trailing bytes in TPM response"
  | .shortResponse length => s!"TPM response too short: {length} bytes"
  | .unknownTag raw => s!"invalid response tag: 0x{Hex.ofU16 raw}"
  | .sizeMismatch expected actual => s!"TPM response size mismatch: expected {expected}, got {actual}"
  | .rejected code => describeResponse code
  | .noAuthorizationArea => "response carries no authorization area"
  | .noResponseSession => "HMAC response carries no session"
  | .responseHmacMismatch command => s!"response HMAC mismatch for {command.name}"
  | .excessRandom received requested => s!"GetRandom returned {received} bytes, requested {requested}"
  | .oversizedBuffer length => s!"buffer of {length} bytes exceeds TPM2B_MAX_BUFFER (1024 bytes)"
  | .deviceNotFound => "TPM device not found"
  | .io error => error.message
  | .saltUnsupported handle =>
    s!"salted sessions (salt key 0x{Hex.ofU32 handle}) need the tpm-esapi backend"
  | .sessionClosed => "TPM session already closed"
  | .shortIdentityDigest length => s!"identity digest too short: {length} bytes"
  | .fileNotOpened path error => s!"failed to open file `{path}`: {error.message}"
  | .fileNotRead path error => s!"failed to read from file `{path}`: {error.message}"
  | .shortMachineId => "fewer than 32 hex characters"
  | .notHex digit => s!"Invalid character {Quoted.latin1 digit.byte} at position {digit.position}"
  | .malformedConfig => "malformed configuration"
  | .unknownKind name => s!"unknown backend: {name}"
  | .keyNotPersistent slot handle =>
    s!"key slot {slot.index}: 0x{Hex.ofU32 handle} is not a persistent handle"
  | .saltNotPersistent handle => s!"salt key 0x{Hex.ofU32 handle} is not a persistent handle"
  | .blankDevicePath => "empty TPM device path"
  | .stackNotBuilt => "tpm-esapi backend not compiled in (feature \"esapi\")"
  | .kindPinned selected requested =>
    s!"backend already set to {selected.name}, cannot switch to {requested.name}"
  | .lockPoisoned => "context lock poisoned"
  | .notOpen operation => s!"{operation.name}: context is not open"
  | .alreadyOpen => "context is already open"
  | .digestLength length => s!"trust anchor returned a {length}-byte digest"
  | .unreservable length error => s!"cannot buffer {length} random bytes: {error.message}"
  | .noRandom outstanding => s!"trust anchor returned no random bytes ({outstanding} outstanding)"
  | .selfTestFailed code => s!"self test failed with 0x{Hex.ofNat code.toNat}"
  | .reported text => text

/-- What was being done when a fault arose. -/
inductive Activity
  | command (code : Tpm.CommandCode)
  | hmacWith (key : Tpm.Handle)
  | readPublicOf (handle : Tpm.Handle)
  | openDevice (path : String)
  | writeCommand
  | readResponse
  | startSession
  | lookUpKey (slot : Slot)
  | createIdentityKey
  | flushIdentityKey
  | readMachineId (path : String)
  | decodeHex
  | parseConfig (path : String)
  | applyVariable (name : String)
  /-- Something that a trust anchor or a transport describes in its own words. -/
  | reported (text : String)
  deriving DecidableEq, Repr

def Activity.message : Activity → String
  | .command code => s!"{code.name} failed"
  | .hmacWith key => s!"HMAC with key 0x{Hex.ofU32 key} failed"
  | .readPublicOf handle => s!"ReadPublic of 0x{Hex.ofU32 handle} failed"
  | .openDevice path => s!"failed to open TPM device: {path}"
  | .writeCommand => "failed to write TPM command"
  | .readResponse => "failed to read TPM response"
  | .startSession => "failed to start HMAC session"
  | .lookUpKey slot => s!"key slot {slot.index} not provisioned"
  | .createIdentityKey => "failed to create identity key"
  | .flushIdentityKey => "failed to flush identity key"
  | .readMachineId path => s!"malformed machine id in {path}"
  | .decodeHex => "invalid hex"
  | .parseConfig path => s!"failed to parse config {path}"
  | .applyVariable name => s!"invalid {name}"
  | .reported text => text

/-- A cause and the activities around it, the outermost first. -/
structure Fault where
  cause : Cause
  activities : List Activity
  deriving DecidableEq, Repr

namespace Fault

def of (cause : Cause) : Fault := ⟨cause, []⟩

/-- The same fault, seen from one activity further out. -/
def during (fault : Fault) (activity : Activity) : Fault :=
  { fault with activities := activity :: fault.activities }

/-- The activities from the outside in, then the cause. -/
def message (fault : Fault) : String :=
  ": ".intercalate (fault.activities.map Activity.message ++ [fault.cause.message])

end Fault

end TrustAnchor
