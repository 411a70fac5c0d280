import TrustAnchor.Machine
import TrustAnchor.Tpm.Attributes
import TrustAnchor.Tpm.Command
import TrustAnchor.Tpm.Response
import TrustAnchor.Tpm.Structure

/-!
HMAC sessions: how they are started, how a command is authorized through one, how the response to it is
checked, and how they end.

Either side contributes a nonce to every HMAC.  The TPM sends a new nonce with each response, and the
session takes it over whether or not the response's HMAC holds, because the TPM has moved on in any case.
-/

namespace TrustAnchor
namespace Tpm

variable {ω : Type}

/-- Seals a command, sends it and reads the header of what comes back. -/
def execute (channel : Channel ω) (command : Command) : Act Fault (Machine ω) Response := do
  let bytes ← command.sealed
  let reply ← Machine.exchange channel bytes
  Response.parse reply

/-- Executes a command that has to succeed. -/
def perform (channel : Channel ω) (command : Command) (activity : Activity) :
    Act Fault (Machine ω) Response := do
  let response ← execute channel command
  Act.during activity response.ensureSuccess
  return response

/-- Frees what a handle stands for inside the TPM. -/
def flushContext (channel : Channel ω) (handle : Handle) : Act Fault (Machine ω) Unit := do
  let _ ← perform channel (.plain .flushContext [.u32 handle]) (.command .flushContext)

/-- The bytes in a caller nonce: as many as the session's hash has. -/
def nonceLength : Nat := 32

structure HmacSession where
  handle : Handle
  hashAlgorithm : Algorithm
  nonceTpm : Bytes
  attributes : UInt8
  deriving DecidableEq, Repr

namespace HmacSession

/-- The command that starts a session: neither salted nor bound, without parameter encryption. -/
def startCommand (nonceCaller : Bytes) : Command :=
  .plain .startAuthSession
    [.u32 Handle.null, .u32 Handle.null, .sized nonceCaller, .sized [], .u8 0,
      .raw SymmetricDef.null.encode, .u16 Algorithm.sha256.code]

/-- The handle and the first nonce of a started session. -/
def readStarted : Wire.Read (Handle × Bytes) := do
  let handle ← Wire.Reader.u32
  let nonceTpm ← Wire.Reader.sized
  return (handle, nonceTpm)

/-- Starts a session that stays open across commands. -/
def start (channel : Channel ω) : Act Fault (Machine ω) HmacSession := do
  let nonceCaller ← Machine.draw nonceLength
  let response ← perform channel (startCommand nonceCaller) (.command .startAuthSession)
  let (handle, nonceTpm) ← readStarted.within response.data
  return { handle, hashAlgorithm := .sha256, nonceTpm, attributes := continueSession }

/-- The authorization of a command with a given caller nonce. -/
def authorizeWith (session : HmacSession) (command : CommandCode) (names : List Bytes)
    (parameters nonceCaller : Bytes) : Authorization where
  handle := session.handle
  nonceCaller := nonceCaller
  attributes := session.attributes
  hmac := sessionHmac (commandHash command names parameters) nonceCaller session.nonceTpm
    session.attributes

/-- The authorization of a command on objects with the given names, with a fresh nonce. -/
def authorize (session : HmacSession) (command : CommandCode) (names : List Bytes)
    (parameters : Bytes) : Act Fault (Machine ω) Authorization := do
  let nonceCaller ← Machine.draw nonceLength
  return session.authorizeWith command names parameters nonceCaller

/-- The HMAC that a response entry must carry. -/
def expectedHmac (command : CommandCode) (sent : Authorization) (parameters : Bytes)
    (received : ResponseAuth) : Bytes :=
  sessionHmac (responseHash command parameters) received.nonceTpm sent.nonceCaller received.attributes

/-- Takes over the TPM's new nonce, then checks the HMAC of the response. -/
def verify (command : CommandCode) (sent : Authorization) (parameters : Bytes)
    (received : ResponseAuth) : Act Fault HmacSession Unit := do
  modify fun session => { session with nonceTpm := received.nonceTpm }
  if received.hmac ≠ expectedHmac command sent parameters received then
    Act.fail (Fault.of (.responseHmacMismatch command))

/-- Ends the session. -/
def flush (channel : Channel ω) (session : HmacSession) : Act Fault (Machine ω) Unit :=
  flushContext channel session.handle

end HmacSession

end Tpm
end TrustAnchor
