import TrustAnchor.Fault

/-!
The errors that users of a context see, and their integer return codes.

Wrong arguments have errors of their own.  All that goes wrong behind the arguments is one error, with one
return code; what exactly it was is kept for its text.
-/

namespace TrustAnchor

/-- The longest key that can be derived: one digest. -/
def keyLengthLimit : Nat := 32

/-- The bytes in a derivation value. -/
def derivationLength : Nat := 8

inductive Error
  | keyLength (length : Nat)
  | derivationValueLength (length : Nat)
  | keySlot (number : UInt8)
  | trustAnchor (fault : Fault)
  deriving DecidableEq, Repr

inductive ReturnCode
  | success
  | keyLength
  | derivationValueLength
  | keySlot
  | trustAnchor
  deriving DecidableEq, Repr

namespace ReturnCode

def code : ReturnCode → Nat
  | .success => 0x00
  | .keyLength => 0x01
  | .derivationValueLength => 0x02
  | .keySlot => 0x03
  | .trustAnchor => 0x10

def name : ReturnCode → String
  | .success => "Success"
  | .keyLength => "InvalidKeyLength"
  | .derivationValueLength => "InvalidDvLength"
  | .keySlot => "InvalidKeySlot"
  | .trustAnchor => "TaError"

end ReturnCode

namespace Error

def message : Error → String
  | .keyLength length => s!"invalid key length: {length} (at most {keyLengthLimit})"
  | .derivationValueLength length =>
    s!"invalid derivation value length: {length} (expected {derivationLength})"
  | .keySlot number => s!"invalid key slot: {number.toNat}"
  | .trustAnchor fault => s!"trust anchor error: {fault.message}"

def returnCode : Error → ReturnCode
  | .keyLength _ => .keyLength
  | .derivationValueLength _ => .derivationValueLength
  | .keySlot _ => .keySlot
  | .trustAnchor _ => .trustAnchor

def isTrustAnchor : Error → Bool
  | .trustAnchor _ => true
  | _ => false

end Error

/-- The return code of a result. -/
def ReturnCode.of : Except Error α → ReturnCode
  | .ok _ => .success
  | .error error => error.returnCode

end TrustAnchor
