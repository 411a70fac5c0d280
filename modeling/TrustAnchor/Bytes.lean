/-!
Byte strings and the big-endian numbers in them.

Bytes are a list, because a list is what a proof can take apart.  Every cut checks its bounds: `slice?`
and `cut?` give nothing outside the string, so an index that is out of range shows up as a missing value
and never as a made-up byte.
-/

namespace TrustAnchor

abbrev Bytes := List UInt8

namespace Bytes

/-- The two bytes of a 16-bit number, most significant first. -/
def ofU16 (v : UInt16) : Bytes :=
  [UInt8.ofNat (v.toNat / 256), UInt8.ofNat v.toNat]

/-- The four bytes of a 32-bit number, most significant first. -/
def ofU32 (v : UInt32) : Bytes :=
  [UInt8.ofNat (v.toNat / 16777216), UInt8.ofNat (v.toNat / 65536), UInt8.ofNat (v.toNat / 256),
    UInt8.ofNat v.toNat]

/-- The number that bytes spell, most significant first. -/
def value (bytes : Bytes) : Nat :=
  bytes.foldl (fun acc byte => acc * 256 + byte.toNat) 0

def toU16 (bytes : Bytes) : UInt16 := UInt16.ofNat bytes.value

def toU32 (bytes : Bytes) : UInt32 := UInt32.ofNat bytes.value

/-- Whether there are `n` bytes.  No more than that many are counted, however long the string is. -/
def has (n : Nat) (bytes : Bytes) : Bool := (bytes.take n).length == n

/-- The first `n` bytes and what follows them, when there are that many. -/
def cut? (n : Nat) (bytes : Bytes) : Option (Bytes × Bytes) :=
  if bytes.has n then some (bytes.take n, bytes.drop n) else none

/-- The bytes at the positions from `lo` up to but not including `hi`, when all of them exist. -/
def slice? (lo hi : Nat) (bytes : Bytes) : Option Bytes :=
  if lo ≤ hi ∧ hi ≤ bytes.length then some ((bytes.drop lo).take (hi - lo)) else none

/-- Puts `new` over the bytes that stand at `pos`, when it fits inside the string. -/
def overwrite? (pos : Nat) (new bytes : Bytes) : Option Bytes :=
  if pos + new.length ≤ bytes.length then
    some (bytes.take pos ++ new ++ bytes.drop (pos + new.length))
  else none

/-- `n` zero bytes. -/
def zeros (n : Nat) : Bytes := List.replicate n 0

/-- Zero bytes at the end until the string is `n` bytes long; a longer string stays as it is. -/
def padTo (n : Nat) (bytes : Bytes) : Bytes :=
  bytes ++ zeros (n - bytes.length)

/-! ## Widths -/

@[simp] theorem length_ofU16 (v : UInt16) : (ofU16 v).length = 2 := rfl

@[simp] theorem length_ofU32 (v : UInt32) : (ofU32 v).length = 4 := rfl

@[simp] theorem length_zeros (n : Nat) : (zeros n).length = n := by simp [zeros]

/-! ## Reading back what was written -/

@[simp] theorem toU16_ofU16 (v : UInt16) : toU16 (ofU16 v) = v := by
  apply UInt16.toNat_inj.mp
  have := v.toNat_lt
  simp [toU16, ofU16, value]
  omega

@[simp] theorem toU32_ofU32 (v : UInt32) : toU32 (ofU32 v) = v := by
  apply UInt32.toNat_inj.mp
  have := v.toNat_lt
  simp [toU32, ofU32, value]
  omega

/-! ## Cutting -/

theorem has_iff {n : Nat} {bytes : Bytes} : bytes.has n = true ↔ n ≤ bytes.length := by
  rw [has, beq_iff_eq, List.length_take]
  omega

theorem cut?_of_has {n : Nat} {bytes : Bytes} (h : bytes.has n = true) :
    cut? n bytes = some (bytes.take n, bytes.drop n) := if_pos h

end Bytes

end TrustAnchor
