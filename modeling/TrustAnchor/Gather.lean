import TrustAnchor.Action

/-!
Gathering random bytes from a source that may give fewer than it is asked for.

The memory is reserved before the first request.  Each request asks for all that is outstanding.  An empty
answer ends the gathering with an error, so every request but the last makes the outstanding number smaller.
-/

namespace TrustAnchor
namespace Gather

variable {σ : Type}

/-- Requests until nothing is outstanding.  Of an answer that is too long the end is dropped. -/
def collect (request : Nat → Act Fault σ Bytes) : Nat → Act Fault σ Bytes
  | 0 => pure []
  | n + 1 => do
    let chunk ← request (n + 1)
    if h : chunk.length = 0 then
      Act.fail (Fault.of (.noRandom (n + 1)))
    else
      let others ← collect request (n + 1 - chunk.length)
      return chunk.take (n + 1) ++ others
termination_by n => n

/-- Exactly so many bytes, or a fault and none at all.  `reserve` says whether there is memory for them. -/
def exactly (reserve : Allocator) (request : Nat → Act Fault σ Bytes) (length : Nat) : Act Fault σ Bytes :=
  match reserve length with
  | .error e => Act.fail (Fault.of (.unreservable length e))
  | .ok () => collect request length

end Gather
end TrustAnchor
