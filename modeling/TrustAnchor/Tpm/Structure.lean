import TrustAnchor.Wire.Item
import TrustAnchor.Wire.Reader
import TrustAnchor.Tpm.Algorithm
import TrustAnchor.Tpm.Handle

/-!
The smaller structures in commands and responses.
-/

namespace TrustAnchor
namespace Tpm

/-- The most bytes that one command can carry for hashing. -/
def maxBufferLength : Nat := 1024

/-- Accepts data that one command can carry, and gives it its written form. -/
def maxBuffer (data : Bytes) : Except Fault Bytes :=
  if maxBufferLength < data.length then .error (Fault.of (.oversizedBuffer data.length))
  else .ok (Wire.sized data)

/-- What a new object is to keep secret. -/
structure SensitiveCreate where
  userAuth : Bytes
  data : Bytes
  deriving DecidableEq, Repr

namespace SensitiveCreate

/-- No authorization value and no key material of the caller's. -/
def empty : SensitiveCreate := ⟨[], []⟩

def encode (sensitive : SensitiveCreate) : Bytes :=
  Wire.sized (Wire.sized sensitive.userAuth ++ Wire.sized sensitive.data)

end SensitiveCreate

/-- A symmetric cipher.  Key length and mode are written only if there is a cipher. -/
structure SymmetricDef where
  algorithm : Algorithm
  keyBits : UInt16
  mode : Algorithm
  deriving DecidableEq, Repr

namespace SymmetricDef

def null : SymmetricDef := ⟨.null, 0, .null⟩

def encode (cipher : SymmetricDef) : Bytes :=
  Bytes.ofU16 cipher.algorithm.code ++
    (if cipher.algorithm = .null then []
    else Bytes.ofU16 cipher.keyBits ++ Bytes.ofU16 cipher.mode.code)

end SymmetricDef

/-- The list of no PCRs. -/
def noPcrs : Bytes := Bytes.ofU32 0

/-- The TPM's proof that it created an object. -/
structure CreationTicket where
  tag : UInt16
  hierarchy : Handle
  digest : Bytes
  deriving DecidableEq, Repr

open Wire (Read Reader)

def CreationTicket.read : Read CreationTicket := do
  let tag ← Reader.u16
  let hierarchy ← Reader.u32
  let digest ← Reader.sized
  return { tag, hierarchy, digest }

/-- A loaded object and the name that authorizations of it are computed over. -/
structure KeyObject where
  handle : Handle
  name : Bytes
  deriving DecidableEq, Repr

end Tpm
end TrustAnchor
