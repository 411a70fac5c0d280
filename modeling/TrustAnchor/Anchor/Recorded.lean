import TrustAnchor.Anchor.Basic

/-!
Any trust anchor with a record of the calls made to it.

Sessions are numbered in the order in which they were opened, so the record tells which session a call went
to.  A call is recorded whatever its end.  Otherwise the recorded anchor behaves as the one inside.
-/

namespace TrustAnchor
namespace Recorded

/-- A call to a trust anchor.  Calls on a session carry its number. -/
inductive Event
  /-- A connection was asked for; if a session was opened, under which number. -/
  | connect (opened : Option Nat)
  | hmac (session : Nat) (slot : Slot) (message : Bytes)
  | random (session : Nat) (limit : Nat)
  | identity (session : Nat)
  | selfTest (session : Nat)
  | close (session : Nat)
  deriving DecidableEq, Repr

/-- One line of a record.  The number of the session is left out. -/
def Event.text : Event → String
  | .connect _ => "connect"
  | .hmac _ slot message => s!"hmac {slot.index} {Hex.ofBytes message}"
  | .random _ limit => s!"random {limit}"
  | .identity _ => "identity"
  | .selfTest _ => "self_test"
  | .close _ => "close"

/-- The shared state with the record, the oldest event first, and the number of sessions opened so far. -/
structure World (ω : Type) where
  inner : ω
  events : List Event
  opened : Nat

/-- A session and its number. -/
structure Session (σ : Type) where
  inner : σ
  number : Nat

variable {ω σ α : Type}

def World.new (inner : ω) : World ω := ⟨inner, [], 0⟩

def World.record (world : World ω) (event : Event) : World ω :=
  { world with events := world.events ++ [event] }

/-- Opens a session under the next number.  The number is used up only if a session was opened. -/
def connect (step : Act Fault ω σ) : Act Fault (World ω) (Session σ) := fun world =>
  match step world.inner with
  | .ok session inner =>
    .ok ⟨session, world.opened⟩
      { ({ world with inner }).record (.connect (some world.opened)) with opened := world.opened + 1 }
  | .error e inner => .error e (({ world with inner }).record (.connect none))

/-- A call on a session, recorded before it is made. -/
def call (event : Nat → Event) (step : Act Fault (σ × ω) α) :
    Act Fault (Session σ × World ω) α := fun (session, world) =>
  let world := world.record (event session.number)
  match step (session.inner, world.inner) with
  | .ok a (inner, shared) => .ok a ({ session with inner }, { world with inner := shared })
  | .error e (inner, shared) => .error e ({ session with inner }, { world with inner := shared })

/-- A step on the shared state alone. -/
def unrecorded (step : Act Fault ω α) : Act Fault (World ω) α :=
  Act.zoom World.inner (fun world inner => { world with inner }) step

def close (anchor : Anchor ω σ) (session : Session σ) : Act Fault (World ω) Unit := do
  modify (·.record (.close session.number))
  unrecorded (anchor.close session.inner)

/-- The anchor with a record of its calls. -/
def anchor (inner : Anchor ω σ) : Anchor (World ω) (Session σ) where
  kind := inner.kind
  reserve := inner.reserve
  connect := connect inner.connect
  hmac slot message := call (.hmac · slot message) (inner.hmac slot message)
  random limit := call (.random · limit) (inner.random limit)
  identity := call .identity inner.identity
  selfTest := call .selfTest inner.selfTest
  close := close inner
  abandon session := unrecorded (inner.abandon session.inner)

end Recorded
end TrustAnchor
