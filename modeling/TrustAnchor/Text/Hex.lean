import TrustAnchor.Bytes

/-!
Hexadecimal text: bytes as pairs of lower-case digits, and the reading of digits in either case.

Reading names the first byte that is no digit and where it stands, so that the message about a bad file
can point at it.  Main statement: what was written reads back.
-/

namespace TrustAnchor
namespace Hex

/-- The lower-case digit of a number below sixteen. -/
def digit (n : Nat) : UInt8 :=
  UInt8.ofNat (if n < 10 then 48 + n else 87 + n)

/-- The value of the digit with a character code, in either case. -/
def codeValue? (n : Nat) : Option Nat :=
  if 48 ≤ n ∧ n ≤ 57 then some (n - 48)
  else if 65 ≤ n ∧ n ≤ 70 then some (n - 55)
  else if 97 ≤ n ∧ n ≤ 102 then some (n - 87)
  else none

def digitValue? (b : UInt8) : Option Nat := codeValue? b.toNat

/-- Two digits for each byte, the high one first. -/
def encode (bytes : Bytes) : Bytes :=
  bytes.flatMap fun b => [digit (b.toNat / 16), digit (b.toNat % 16)]

/-- A byte that is no digit, and its position in the text. -/
structure BadDigit where
  byte : UInt8
  position : Nat
  deriving DecidableEq, Repr

/-- Reads pairs of digits.  `start` is the position of the first one; a single digit left over at the end
is not looked at, because callers pass texts of even length. -/
def decodeFrom (start : Nat) : Bytes → Except BadDigit Bytes
  | high :: low :: rest =>
    match digitValue? high with
    | none => .error ⟨high, start⟩
    | some h =>
      match digitValue? low with
      | none => .error ⟨low, start + 1⟩
      | some l => (decodeFrom (start + 2) rest).map (UInt8.ofNat (h * 16 + l) :: ·)
  | _ => .ok []

def decode (text : Bytes) : Except BadDigit Bytes := decodeFrom 0 text

/-- ASCII bytes as a string. -/
def text (bytes : Bytes) : String :=
  String.ofList (bytes.map fun b => Char.ofNat b.toNat)

/-- The digits of a byte string as text. -/
def ofBytes (bytes : Bytes) : String := text (encode bytes)

/-- The significant digits of a number, at least one. -/
def ofNat (n : Nat) : String := String.ofList (Nat.toDigits 16 n)

/-- Eight digits, as handles and response codes are shown. -/
def ofU32 (v : UInt32) : String := ofBytes (Bytes.ofU32 v)

/-- Four digits, as tags are shown. -/
def ofU16 (v : UInt16) : String := ofBytes (Bytes.ofU16 v)

theorem digitValue?_digit {n : Nat} (h : n < 16) : digitValue? (digit n) = some n := by
  have all : ∀ m : Fin 16, digitValue? (digit m.val) = some m.val := by decide
  exact all ⟨n, h⟩

theorem length_encode (bytes : Bytes) : (encode bytes).length = 2 * bytes.length := by
  induction bytes with
  | nil => rfl
  | cons b rest ih =>
    simp only [encode, List.flatMap_cons, List.length_append, List.length_cons] at ih ⊢
    simp only [List.length_nil]
    omega

theorem decodeFrom_encode (start : Nat) (bytes : Bytes) :
    decodeFrom start (encode bytes) = .ok bytes := by
  induction bytes generalizing start with
  | nil => rfl
  | cons b rest ih =>
    have hb := b.toNat_lt
    have high : digitValue? (digit (b.toNat / 16)) = some (b.toNat / 16) :=
      digitValue?_digit (by omega)
    have low : digitValue? (digit (b.toNat % 16)) = some (b.toNat % 16) :=
      digitValue?_digit (Nat.mod_lt _ (by decide))
    have back : UInt8.ofNat (b.toNat / 16 * 16 + b.toNat % 16) = b := by
      rw [Nat.div_add_mod' b.toNat 16]
      simp
    have ih' := ih (start + 2)
    rw [encode] at ih'
    simp only [encode, List.flatMap_cons, List.cons_append, List.nil_append, decodeFrom, high, low, ih',
      Except.map, back]

theorem decode_encode (bytes : Bytes) : decode (encode bytes) = .ok bytes :=
  decodeFrom_encode 0 bytes

end Hex
end TrustAnchor
