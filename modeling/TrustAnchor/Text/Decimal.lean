/-!
Decimal numbers below a limit.  Any number of leading zeros is allowed, a sign is not.

A number is given up at the digit that takes it to the limit, so the length of a text does not matter to the
size of the numbers worked with.
-/

namespace TrustAnchor
namespace Decimal

def digitValue? (c : Char) : Option Nat :=
  if '0'.toNat ≤ c.toNat ∧ c.toNat ≤ '9'.toNat then some (c.toNat - '0'.toNat) else none

/-- The number that digits spell behind a number already read, as long as it stays below the limit. -/
def valueFrom (limit acc : Nat) : List Char → Option Nat
  | [] => some acc
  | c :: rest =>
    match digitValue? c with
    | none => none
    | some d => if acc * 10 + d < limit then valueFrom limit (acc * 10 + d) rest else none

/-- The number that one or more digits spell, if it is below the limit. -/
def below? (limit : Nat) : List Char → Option Nat
  | [] => none
  | text => valueFrom limit 0 text

/-- A number that fits in 32 bits. -/
def u32? (text : List Char) : Option UInt32 := (below? 4294967296 text).map UInt32.ofNat

end Decimal
end TrustAnchor
