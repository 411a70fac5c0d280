import TrustAnchor.Action
import TrustAnchor.Error
import TrustAnchor.Uuid

/-!
What a key is derived from, and what of the digest becomes the key.

A request is checked in a fixed order before anything else happens: the length of the derivation value, the
length of the key, the slot.
-/

namespace TrustAnchor

/-- The input that tells one derived key from another. -/
abbrev DerivationValue := Vector UInt8 derivationLength

def DerivationValue.ofBytes (bytes : Bytes) : Except Error DerivationValue :=
  match Bytes.toVector? derivationLength bytes with
  | some value => .ok value
  | none => .error (.derivationValueLength bytes.length)

def Slot.ofNumber (number : UInt8) : Except Error Slot :=
  match Slot.ofNumber? number with
  | some slot => .ok slot
  | none => .error (.keySlot number)

/-- A request for a key that has passed its checks. -/
structure KeyRequest where
  slot : Slot
  value : DerivationValue
  length : Nat
  length_le : length ≤ keyLengthLimit
  deriving DecidableEq, Repr

namespace KeyRequest

def check (number : UInt8) (value : Bytes) (length : Nat) : Except Error KeyRequest := do
  let value ← DerivationValue.ofBytes value
  if h : length ≤ keyLengthLimit then
    let slot ← Slot.ofNumber number
    return ⟨slot, value, length, h⟩
  else
    throw (.keyLength length)

/-- The message that the master key is applied to. -/
def message (request : KeyRequest) : Bytes := request.value.toList

/-- The leading bytes of a full digest.  A digest of any other length is refused. -/
def keyOf {σ : Type} (request : KeyRequest) (digest : Bytes) : Act Fault σ Bytes :=
  if digest.length ≠ keyLengthLimit then
    Act.fail (Fault.of (.digestLength digest.length))
  else
    Act.demand (Bytes.slice? 0 request.length digest)

end KeyRequest

end TrustAnchor
