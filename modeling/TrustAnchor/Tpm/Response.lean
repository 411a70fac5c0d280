import TrustAnchor.Action
import TrustAnchor.Wire.Reader
import TrustAnchor.Tpm.Authorization
import TrustAnchor.Tpm.Handle

/-!
Responses: a header of ten bytes with the size of the whole, then the data.  Bytes behind that size belong
to no response and are ignored.
-/

namespace TrustAnchor
namespace Tpm

open Wire (Read Reader)

/-- The number of bytes in a header. -/
def headerLength : Nat := 10

structure Response where
  tag : Tag
  code : UInt32
  data : Bytes
  deriving DecidableEq, Repr

/-- The data of a response to a command with an authorization area. -/
structure SessionReply where
  handles : List Handle
  parameters : Bytes
  auth : List ResponseAuth
  deriving DecidableEq, Repr

namespace Response

/-- Reads the header; `received` is the whole of what arrived. -/
def readFrom (received : Bytes) : Read Response := do
  let raw ← Reader.u16
  match Tag.ofCode? raw with
  | none => Act.fail (Fault.of (.unknownTag raw))
  | some tag =>
    let size ← Reader.u32
    if size.toNat < headerLength ∨ received.length < size.toNat then
      Act.fail (Fault.of (.sizeMismatch size.toNat received.length))
    else
      let code ← Reader.u32
      let data ← Act.demand (Bytes.slice? headerLength size.toNat received)
      return { tag, code, data }

/-- The response that received bytes begin with. -/
def parse {σ : Type} (received : Bytes) : Act Fault σ Response :=
  if received.length < headerLength then
    Act.fail (Fault.of (.shortResponse received.length))
  else
    (readFrom received).within received

def isSuccess (response : Response) : Bool := response.code == 0

/-- Accepts a response with the code for success. -/
def ensureSuccess {σ : Type} (response : Response) : Act Fault σ Unit :=
  if response.isSuccess then pure () else Act.fail (Fault.of (.rejected response.code))

/-- Handles, parameters and authorization area, in this order. -/
def readSessionReply (handleCount : Nat) : Read SessionReply := do
  let handles ← Reader.u32s handleCount
  let parameterSize ← Reader.u32
  let parameters ← Reader.bytes parameterSize.toNat
  let auth ← ResponseAuth.readAll
  return { handles, parameters, auth }

/-- Takes apart the data of a response with an authorization area. -/
def sessionReply {σ : Type} (response : Response) (handleCount : Nat) : Act Fault σ SessionReply :=
  if response.tag ≠ .sessions then
    Act.fail (Fault.of .noAuthorizationArea)
  else
    (readSessionReply handleCount).within response.data

end Response

end Tpm
end TrustAnchor
