import TrustAnchor.Action

/-!
Memory for byte strings whose length is known beforehand.

A length can be too large for any object, or for the memory that a process is given.  Code that reserves
memory is told so and goes on; code that takes it for granted crashes when no object is that large.  What a
process is given is for its host to say, and the limit here is one that a host can have.
-/

namespace TrustAnchor
namespace Memory

variable {ε σ : Type}

/-- No object is larger than this. -/
def objectLimit : Nat := 9223372036854775807

/-- A tebibyte. -/
def processLimit : Nat := 1099511627776

/-- Memory on a host that gives a process less than a tebibyte at a time. -/
def reserve : Allocator := fun length =>
  if objectLimit < length then .error .capacityOverflow
  else if processLimit ≤ length then .error .outOfMemory
  else .ok ()

/-- Memory for the bytes, taken for granted. -/
def allot (length : Nat) : Act ε σ Unit := if objectLimit < length then Act.crash else pure ()

/-- An empty byte string with room for so many bytes. -/
def roomFor (capacity : Nat) : Act ε σ Bytes := do
  allot capacity
  return []

/-- So many times the same byte. -/
def filled (length : Nat) (byte : UInt8) : Act ε σ Bytes := do
  allot length
  return List.replicate length byte

end Memory
end TrustAnchor
