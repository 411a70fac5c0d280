import TrustAnchor.Action
import TrustAnchor.Uuid

/-!
Trust anchors as their users see them.

An anchor opens sessions, and a session offers the few primitives that keys and identities are made from.
The anchor's state is in two parts: `ω` is shared by everything that runs, `σ` belongs to one session.  Any
call may end with a value, with a fault or with a crash, and may change both parts however it ends. 
-/

namespace TrustAnchor

structure Anchor (ω σ : Type) where
  kind : Anchor.Kind
  /-- The memory of the host that it runs on. -/
  reserve : Allocator
  /-- Opens a session. -/
  connect : Act Fault ω σ
  /-- The HMAC of a message under the master key of a slot. -/
  hmac : Slot → Bytes → Act Fault (σ × ω) Bytes
  /-- Random bytes, at most so many. -/
  random : Nat → Act Fault (σ × ω) Bytes
  /-- The identity bytes of the device. -/
  identity : Act Fault (σ × ω) RawIdentity
  /-- The result of a self test; zero means passed. -/
  selfTest : Act Fault (σ × ω) UInt32
  /-- Ends a session and gives back everything that it holds, also when a part of that fails. -/
  close : σ → Act Fault ω Unit
  /-- What becomes of a session that is given up without being closed. -/
  abandon : σ → Act Fault ω Unit

end TrustAnchor
