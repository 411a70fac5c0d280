import TrustAnchor.Tpm.Session
import TrustAnchor.Tpm.Template

/-!
The TPM commands that trust anchors use, each as one step: build the command, send it, check the response
and take the answer out of it.
-/

namespace TrustAnchor
namespace Tpm

open Wire (Read Reader)

variable {ω : Type}

/-! ## Random numbers -/

/-- Asks once for `n` random bytes.  A TPM may give fewer; more than asked for is an error. -/
def getRandom (channel : Channel ω) (n : UInt16) : Act Fault (Machine ω) Bytes := do
  let response ← perform channel (.plain .getRandom [.u16 n]) (.command .getRandom)
  let random ← Reader.sized.within response.data
  if n.toNat < random.length then
    Act.fail (Fault.of (.excessRandom random.length n.toNat))
  else
    return random

/-! ## Keyed hashes -/

/-- The parameters of an HMAC command. -/
def hmacParameters (session : HmacSession) (data : Bytes) : Except Fault Bytes :=
  (maxBuffer data).map fun buffer => buffer ++ Bytes.ofU16 session.hashAlgorithm.code

/-- The HMAC command for a key with its authorization. -/
def hmacCommand (key : KeyObject) (auth : Authorization) (parameters : Bytes) : Command :=
  .authorized .hmac [.u32 key.handle, .raw (Authorization.area [auth]), .raw parameters]

/-- A digest with nothing behind it. -/
def readDigest : Read Bytes := do
  let digest ← Reader.sized
  Reader.finish
  return digest

/-- The HMAC of data under a loaded key, authorized through the session.  Data that is too long is refused
before a nonce is drawn. -/
def hmac (channel : Channel ω) (key : KeyObject) (data : Bytes) :
    Act Fault (HmacSession × Machine ω) Bytes := do
  let (session, _) ← get
  let parameters ← Act.ofExcept (hmacParameters session data)
  let auth ← Act.onSecond (session.authorize .hmac [key.name] parameters)
  let response ← Act.onSecond (perform channel (hmacCommand key auth parameters) (.hmacWith key.handle))
  let reply ← response.sessionReply 0
  match reply.auth.head? with
  | none => Act.fail (Fault.of .noResponseSession)
  | some received =>
    Act.onFirst (HmacSession.verify .hmac auth reply.parameters received)
    readDigest.within reply.parameters

/-! ## Objects -/

/-- Public area, name and qualified name; the last is dropped. -/
def readPublicAnswer : Read (Bytes × Bytes) := do
  let publicArea ← Reader.sized
  let name ← Reader.sized
  let _ ← Reader.sized
  return (publicArea, name)

/-- The name of a loaded object, with its public area. -/
def readPublic (channel : Channel ω) (handle : Handle) : Act Fault (Machine ω) (KeyObject × Bytes) := do
  let response ← perform channel (.plain .readPublic [.u32 handle]) (.readPublicOf handle)
  let (publicArea, name) ← readPublicAnswer.within response.data
  return ({ handle, name }, publicArea)

/-- The command that creates a primary object: no authorization value, no secret of the caller's, no outside
data, no PCRs. -/
def createPrimaryCommand (hierarchy : Handle) (template : Template) : Command :=
  .authorized .createPrimary
    [.u32 hierarchy, .raw (Authorization.area [Authorization.password]),
      .raw SensitiveCreate.empty.encode, .sized template.encode, .sized [], .raw noPcrs]

/-- The name at the end of the parameters of a CreatePrimary response. -/
def readPrimaryName : Read Bytes := do
  let _publicArea ← Reader.sized
  let _creationData ← Reader.sized
  let _creationHash ← Reader.sized
  let _ticket ← CreationTicket.read
  Reader.sized

/-- Creates a transient primary object in a hierarchy. -/
def createPrimary (channel : Channel ω) (hierarchy : Handle) (template : Template) :
    Act Fault (Machine ω) KeyObject := do
  let response ← perform channel (createPrimaryCommand hierarchy template) (.command .createPrimary)
  let reply ← response.sessionReply 1
  let handle ← Act.demand reply.handles.head?
  let name ← readPrimaryName.within reply.parameters
  return { handle, name }

/-! ## Self test -/

/-- Runs the self test.  A TPM that answers that it is still testing has accepted the command. -/
def selfTest (channel : Channel ω) (full : Bool) : Act Fault (Machine ω) Unit := do
  let response ← execute channel (.plain .selfTest [.u8 (if full then 1 else 0)])
  if ResponseCode.ofCode response.code = .testing then
    return ()
  else
    Act.during (.command .selfTest) response.ensureSuccess

/-- The vendor's data and the result of the last self test. -/
def readTestResult : Read (Bytes × UInt32) := do
  let data ← Reader.sized
  let code ← Reader.u32
  return (data, code)

def getTestResult (channel : Channel ω) : Act Fault (Machine ω) (Bytes × UInt32) := do
  let response ← perform channel (.plain .getTestResult []) (.command .getTestResult)
  readTestResult.within response.data

end Tpm
end TrustAnchor
