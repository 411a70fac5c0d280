import TrustAnchor.Action
import TrustAnchor.Text.Hex

/-!
Device identifiers: sixteen bytes in the form of an RFC 4122 identifier of version 4.
-/

namespace TrustAnchor

/-- The bytes in an identifier. -/
abbrev uuidLength : Nat := 16

/-- Identity bytes as a trust anchor gives them, before they become an identifier. -/
abbrev RawIdentity := Vector UInt8 uuidLength

/-- Bytes of the right number as a vector. -/
def Bytes.toVector? (n : Nat) (bytes : Bytes) : Option (Vector UInt8 n) :=
  if h : bytes.length = n then some ⟨bytes.toArray, by simp [h]⟩ else none

/-- The leading sixteen bytes of a digest. -/
def RawIdentity.ofDigest {σ : Type} (digest : Bytes) : Act Fault σ RawIdentity :=
  if digest.length < uuidLength then
    Act.fail (Fault.of (.shortIdentityDigest digest.length))
  else
    Act.demand ((Bytes.slice? 0 uuidLength digest).bind (Bytes.toVector? uuidLength))

structure Uuid where
  bytes : Vector UInt8 uuidLength
  deriving DecidableEq, Repr

namespace Uuid

/-- Sets the four version bits to 4 and the two variant bits to those of RFC 4122. -/
def ofRaw (raw : RawIdentity) : Uuid where
  bytes := (raw.set 6 ((raw[6] &&& 0x0F) ||| 0x40)).set 8 ((raw[8] &&& 0x3F) ||| 0x80)

/-- The digits in groups of eight, four, four, four and twelve. -/
def toText (uuid : Uuid) : String :=
  let digits := Hex.encode uuid.bytes.toList
  let group (lo hi : Nat) : String := Hex.text ((digits.drop lo).take (hi - lo))
  "-".intercalate [group 0 8, group 8 12, group 12 16, group 16 20, group 20 32]

end Uuid

end TrustAnchor
