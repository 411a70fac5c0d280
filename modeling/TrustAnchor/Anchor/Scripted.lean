import TrustAnchor.Anchor.Basic
import TrustAnchor.Memory

/-!
A trust anchor that answers from a script.

Each call takes the next outcome of its own list: the usual answer, a given value, a fault or a crash.  A
list that has run out goes on with usual answers.  So a script can put any failure at any call.
-/

namespace TrustAnchor
namespace Scripted

/-- What a call is to do. -/
inductive Outcome (α : Type)
  | usual
  | value (a : α)
  | fault (fault : Fault)
  | crash

/-- The outcomes still to come, for each call. -/
structure Script where
  connect : List (Outcome Unit)
  hmac : List (Outcome Bytes)
  random : List (Outcome Bytes)
  identity : List (Outcome RawIdentity)
  selfTest : List (Outcome UInt32)
  close : List (Outcome Unit)

variable {α : Type}

/-- Takes the next outcome of the list that `get` finds in the script and `set` puts back. -/
def play (get : Script → List (Outcome α)) (set : Script → List (Outcome α) → Script)
    (usual : Act Fault Script α) : Act Fault Script α := fun script =>
  match get script with
  | [] => usual script
  | outcome :: later =>
    let script := set script later
    match outcome with
    | .usual => usual script
    | .value a => .ok a script
    | .fault fault => .error (.error fault) script
    | .crash => .error .crash script

/-- The usual digest: 32 bytes that count up from a number made of the slot and the message. -/
def usualDigest (slot : Slot) (message : Bytes) : Bytes :=
  let first := message.foldl (fun total byte => total + byte.toNat) (64 * slot.index)
  (List.range 32).map fun i => UInt8.ofNat (first + i)

/-- The byte that usual random answers repeat. -/
def usualByte : UInt8 := 0x5a

/-- The usual identity is all ones. -/
def usualIdentity : RawIdentity := Vector.replicate uuidLength 0xff

def close : Act Fault Script Unit :=
  play Script.close (fun script later => { script with close := later }) (pure ())

/-- The anchor of a kind whose sessions answer from the script.  Giving up a session without closing it is
no call. -/
def anchor (kind : Anchor.Kind) : Anchor Script Unit where
  kind := kind
  reserve := Memory.reserve
  connect := play Script.connect (fun script later => { script with connect := later }) (pure ())
  hmac slot message := Act.onSecond <|
    play Script.hmac (fun script later => { script with hmac := later })
      (pure (usualDigest slot message))
  random limit := Act.onSecond <|
    play Script.random (fun script later => { script with random := later })
      (Memory.filled limit usualByte)
  identity := Act.onSecond <|
    play Script.identity (fun script later => { script with identity := later })
      (pure usualIdentity)
  selfTest := Act.onSecond <|
    play Script.selfTest (fun script later => { script with selfTest := later }) (pure 0)
  close _ := close
  abandon _ := pure ()

end Scripted
end TrustAnchor
