import TrustAnchor.Bytes

/-!
Random bytes as a stream and a position in it.

The stream is part of the state of whoever draws from it: two draws never overlap, because each one starts
where the one before ended.
-/

namespace TrustAnchor

structure Entropy where
  source : Nat → UInt8
  drawn : Nat

namespace Entropy

/-- Listed bytes, then zeros. -/
def ofBytes (bytes : Bytes) : Entropy where
  source := let known := bytes.toArray; fun i => known.getD i 0
  drawn := 0

/-- The `n` bytes of the stream from a position on. -/
def block (entropy : Entropy) (start n : Nat) : Bytes :=
  (List.range n).map fun i => entropy.source (start + i)

/-- The bytes that the next draw gives. -/
def next (entropy : Entropy) (n : Nat) : Bytes := entropy.block entropy.drawn n

def advance (entropy : Entropy) (n : Nat) : Entropy := { entropy with drawn := entropy.drawn + n }

@[simp] theorem length_block (entropy : Entropy) (start n : Nat) :
    (entropy.block start n).length = n := by
  simp [block]

@[simp] theorem length_next (entropy : Entropy) (n : Nat) : (entropy.next n).length = n :=
  length_block _ _ _

theorem advance_advance (entropy : Entropy) (m n : Nat) :
    (entropy.advance m).advance n = entropy.advance (m + n) := by
  simp only [advance, Nat.add_assoc]

end Entropy

end TrustAnchor
