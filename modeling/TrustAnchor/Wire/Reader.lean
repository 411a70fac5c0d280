import TrustAnchor.Action
import TrustAnchor.Wire.Item

/-!
Reading what a TPM sent.

A reader stands somewhere in a byte string: `position` counts the bytes handed out, `rest` holds the others.
A read that fails leaves the reader where it then stands, so a sized string whose body is missing has used
up its two size bytes.  Main statements: each read gives back what was written in front of the rest, and
gives the rest on.
-/

namespace TrustAnchor
namespace Wire

structure Reader where
  position : Nat
  rest : Bytes
  deriving DecidableEq, Repr

/-- A step that reads. -/
abbrev Read (α : Type) := Act Fault Reader α

namespace Reader

/-- A reader at the start of a byte string. -/
def ofBytes (data : Bytes) : Reader := ⟨0, data⟩

def remaining (reader : Reader) : Nat := reader.rest.length

def isAtEnd (reader : Reader) : Bool := reader.rest.isEmpty

/-- The next `n` bytes.  `field` names what they are for in the message about missing ones. -/
def take (n : Nat) (field : Field) : Read Bytes := do
  let reader ← get
  if reader.rest.has n then
    let (front, rest) ← Act.demand (Bytes.cut? n reader.rest)
    set ({ position := reader.position + n, rest } : Reader)
    return front
  else
    Act.fail (Fault.of (.underflow field n reader.remaining))

def u8 : Read UInt8 := do
  let data ← take 1 .u8
  Act.demand data.head?

def u16 : Read UInt16 := do
  let data ← take 2 .u16
  return Bytes.toU16 data

def u32 : Read UInt32 := do
  let data ← take 4 .u32
  return Bytes.toU32 data

def bytes (n : Nat) : Read Bytes := take n .bytes

/-- A byte string behind its 16-bit size. -/
def sized : Read Bytes := do
  let size ← u16
  bytes size.toNat

/-- Accepts only a reader that has handed out everything. -/
def finish : Read Unit := do
  let reader ← get
  if !reader.isAtEnd then
    Act.fail (Fault.of (.trailing reader.remaining))

/-- The next `n` 32-bit numbers. -/
def u32s : Nat → Read (List UInt32)
  | 0 => pure []
  | n + 1 => do
    let first ← u32
    let others ← u32s n
    return first :: others

/-! ## Reading what was written

Each read takes exactly the bytes of its value off the front and leaves the others, whatever they are. -/

theorem take_of_le {n : Nat} {field : Field} {reader : Reader} (h : n ≤ reader.remaining) :
    take n field reader =
      .ok (reader.rest.take n) ⟨reader.position + n, reader.rest.drop n⟩ := by
  have start : (get : Read Reader) reader = .ok reader reader := rfl
  have has : reader.rest.has n = true := Bytes.has_iff.mpr h
  rw [take, Act.bind_ok start, if_pos has, Bytes.cut?_of_has has]
  rfl

theorem take_of_lt {n : Nat} {field : Field} {reader : Reader} (h : reader.remaining < n) :
    take n field reader =
      .error (.error (Fault.of (.underflow field n reader.remaining))) reader := by
  have start : (get : Read Reader) reader = .ok reader reader := rfl
  have has : ¬ reader.rest.has n = true := fun has => Nat.not_le.mpr h (Bytes.has_iff.mp has)
  rw [take, Act.bind_ok start, if_neg has]
  rfl

/-- Reading takes off the front what it gives. -/
theorem take_append {front rest : Bytes} {n : Nat} {field : Field} (position : Nat)
    (width : front.length = n) :
    take n field ⟨position, front ++ rest⟩ = .ok front ⟨position + n, rest⟩ := by
  subst width
  rw [take_of_le (by simp [remaining])]
  simp

theorem u8_cons (v : UInt8) (rest : Bytes) (position : Nat) :
    u8 ⟨position, v :: rest⟩ = .ok v ⟨position + 1, rest⟩ := by
  have read : take 1 .u8 ⟨position, [v] ++ rest⟩ = .ok [v] ⟨position + 1, rest⟩ :=
    take_append position rfl
  exact Act.bind_ok read

theorem u16_append (v : UInt16) (rest : Bytes) (position : Nat) :
    u16 ⟨position, Bytes.ofU16 v ++ rest⟩ = .ok v ⟨position + 2, rest⟩ := by
  rw [u16, Act.bind_ok (take_append position (Bytes.length_ofU16 v)), Bytes.toU16_ofU16]
  rfl

theorem u32_append (v : UInt32) (rest : Bytes) (position : Nat) :
    u32 ⟨position, Bytes.ofU32 v ++ rest⟩ = .ok v ⟨position + 4, rest⟩ := by
  rw [u32, Act.bind_ok (take_append position (Bytes.length_ofU32 v)), Bytes.toU32_ofU32]
  rfl

theorem bytes_append (data rest : Bytes) (position : Nat) :
    bytes data.length ⟨position, data ++ rest⟩ = .ok data ⟨position + data.length, rest⟩ :=
  take_append position rfl

/-- A string behind its size reads back if its length fits in the size field. -/
theorem sized_append {data : Bytes} (fits : data.length < 65536) (rest : Bytes) (position : Nat) :
    sized ⟨position, Wire.sized data ++ rest⟩ = .ok data ⟨position + 2 + data.length, rest⟩ := by
  have size : (UInt16.ofNat data.length).toNat = data.length := UInt16.toNat_ofNat_of_lt' fits
  rw [sized, Wire.sized, List.append_assoc, Act.bind_ok (u16_append _ _ _), size]
  exact bytes_append data rest _

theorem finish_nil (position : Nat) : finish ⟨position, []⟩ = .ok () ⟨position, []⟩ := rfl

end Reader

namespace Read

/-- Reads from the start of a byte string; what follows the value is ignored. -/
def fromBytes (read : Read α) (data : Bytes) : Except (Stop Fault) α :=
  match read (Reader.ofBytes data) with
  | .ok a _ => .ok a
  | .error e _ => .error e

/-- Reads from a byte string of its own inside a step over another state. -/
def within {σ : Type} (read : Read α) (data : Bytes) : Act Fault σ α := fun s =>
  match read (Reader.ofBytes data) with
  | .ok a _ => .ok a s
  | .error e _ => .error e s

end Read

end Wire
end TrustAnchor
