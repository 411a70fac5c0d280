import TrustAnchor.Host
import TrustAnchor.Uuid

/-!
The machine id: a file whose first 32 characters are the hexadecimal digits of the identity bytes.
-/

namespace TrustAnchor
namespace MachineId

variable {ω σ : Type}

/-- The digits that are read. -/
def digitCount : Nat := 2 * uuidLength

/-- The first `n` bytes of a text, if it has them and no character straddles the cut. -/
def leading? (n : Nat) (text : Bytes) : Option Bytes :=
  if text.length < n then none
  else if (text.drop n).head?.any Utf8.isContinuation then none
  else some (text.take n)

/-- The identity bytes in the text of a machine id.  Whatever stands behind the digits is ignored. -/
def parse (text : Bytes) : Act Fault σ RawIdentity :=
  match leading? digitCount text with
  | none => Act.fail (Fault.of .shortMachineId)
  | some digits =>
    match Hex.decode digits with
    | .error digit => Act.fail ((Fault.of (.notHex digit)).during .decodeHex)
    | .ok bytes => Act.demand (Bytes.toVector? uuidLength bytes)

/-- The identity bytes in the machine id file at a path. -/
def load (host : Host ω) (path : String) (world : ω) : Act Fault σ RawIdentity := do
  let text ← Act.ofExcept (host.readText path world)
  Act.during (.readMachineId path) (parse text)

end MachineId
end TrustAnchor
