import TrustAnchor.Wire.Item
import TrustAnchor.Tpm.Algorithm
import TrustAnchor.Tpm.Attributes

/-!
Public areas of keyed-hash objects.

A TPM derives a primary key from the bytes of its public area, so a template is the name of a key: it is
written field by field, without anything that is not in the template.
-/

namespace TrustAnchor
namespace Tpm

/-- The scheme of a keyed-hash object, with the hash that it uses if it uses one. -/
structure KeyedHashScheme where
  scheme : Algorithm
  hash : Option Algorithm
  deriving DecidableEq, Repr

namespace KeyedHashScheme

/-- HMAC with a hash. -/
def hmac (hash : Algorithm) : KeyedHashScheme := ⟨.hmac, some hash⟩

def encode (parameters : KeyedHashScheme) : Bytes :=
  Bytes.ofU16 parameters.scheme.code ++
    (match parameters.hash with
    | some hash => Bytes.ofU16 hash.code
    | none => [])

end KeyedHashScheme

/-- TPMT_PUBLIC of a keyed-hash object. -/
structure Template where
  type : Algorithm
  nameAlgorithm : Algorithm
  attributes : UInt32
  authPolicy : Bytes
  parameters : KeyedHashScheme
  unique : Bytes
  deriving DecidableEq, Repr

namespace Template

/-- An HMAC-SHA256 key that comes from the seed of its hierarchy.  Identities depend on every byte of it. -/
def hmacKey : Template where
  type := .keyedHash
  nameAlgorithm := .sha256
  attributes := ObjectAttribute.word
    [.fixedTpm, .fixedParent, .sensitiveDataOrigin, .userWithAuth, .noDa, .signEncrypt]
  authPolicy := []
  parameters := .hmac .sha256
  unique := []

/-- The public area. -/
def encode (template : Template) : Bytes :=
  Bytes.ofU16 template.type.code ++ Bytes.ofU16 template.nameAlgorithm.code ++
    Bytes.ofU32 template.attributes ++ Wire.sized template.authPolicy ++
    template.parameters.encode ++ Wire.sized template.unique

example : hmacKey.attributes = 0x00040472 := by decide

end Template

end Tpm
end TrustAnchor
