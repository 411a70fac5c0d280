import TrustAnchor.Anchor.Basic
import TrustAnchor.Derivation
import TrustAnchor.Gather

/-!
Contexts: what a user holds to work with a trust anchor.

A context is closed until `connect` succeeds, and closed again after `close`.  While it is open it owns one
session, behind a lock that every operation holds from its first look at the session to its last.  A crash
under the lock poisons it: the operations then report that, and only `close` clears it.
-/

namespace TrustAnchor

/-- The slot for a session behind the lock, and whether a crash has poisoned the lock. -/
structure Context (σ : Type) where
  session : Option σ
  poisoned : Bool
  deriving DecidableEq, Repr

namespace Context

variable {ω σ α : Type}

/-- A step on a context and the state it shares with others. -/
abbrev Step (ω σ α : Type) := Act Error (Context σ × ω) α

/-- A closed context. -/
def closed : Context σ := ⟨none, false⟩

def isOpen (context : Context σ) : Bool := context.session.isSome

/-- The context as diagnostic output shows it. -/
def describe (anchor : Anchor ω σ) (context : Context σ) : String :=
  s!"Context \x7b backend: {anchor.kind.label}, open: {context.isOpen} \x7d"

def fault (cause : Cause) : Stop Error := .error (.trustAnchor (Fault.of cause))

/-- Runs a step on the open session under the lock.  Its fault leaves the session as it is; its crash
poisons the lock. -/
def withSession (operation : Operation) (step : Act Fault (σ × ω) α) : Step ω σ α :=
  fun (context, world) =>
    if context.poisoned then .error (fault .lockPoisoned) (context, world)
    else
      match context.session with
      | none => .error (fault (.notOpen operation)) (context, world)
      | some session =>
        match step (session, world) with
        | .ok a (session, world) => .ok a ({ context with session := some session }, world)
        | .error (.error f) (session, world) =>
          .error (.error (.trustAnchor f)) ({ context with session := some session }, world)
        | .error .crash (session, world) =>
          .error .crash ({ session := some session, poisoned := true }, world)

/-- Opens a session.  On an error the context stays closed. -/
def connect (anchor : Anchor ω σ) : Step ω σ Unit := fun (context, world) =>
  if context.poisoned then .error (fault .lockPoisoned) (context, world)
  else if context.isOpen then .error (fault .alreadyOpen) (context, world)
  else
    match anchor.connect world with
    | .ok session world => .ok () ({ context with session := some session }, world)
    | .error (.error f) world => .error (.error (.trustAnchor f)) (context, world)
    | .error .crash world => .error .crash ({ context with poisoned := true }, world)

/-! ## Closing

Closing has two parts that other users of the context can come between: under the lock the session is taken
out and ended, and after the lock has been given back the poison is cleared. -/

/-- Under the lock, poisoned or not: takes the session out and ends it.  A fault of the anchor is held back.
A crash poisons the lock, and nothing follows it. -/
def takeOut (anchor : Anchor ω σ) : Step ω σ (Except Fault Unit) := fun (context, world) =>
  match context.session with
  | none => .ok (.ok ()) (context, world)
  | some session =>
    match anchor.close session world with
    | .ok () world => .ok (.ok ()) ({ context with session := none }, world)
    | .error (.error f) world => .ok (.error f) ({ context with session := none }, world)
    | .error .crash world => .error .crash (⟨none, true⟩, world)

/-- Without the lock: forgets that there was a crash. -/
def clearPoison : Step ω σ Unit :=
  modify fun (context, world) => ({ context with poisoned := false }, world)

/-- Ends the session.  The context is closed afterwards also when the anchor reports a fault; closing a
closed context does nothing else than clear the poison. -/
def close (anchor : Anchor ω σ) : Step ω σ Unit := do
  let ended ← takeOut anchor
  clearPoison
  (Act.ofExcept ended).mapError Error.trustAnchor

/-! ## Operations -/

/-- The first bytes of the HMAC of a derivation value under the master key of a slot. -/
def deriveKey (anchor : Anchor ω σ) (slot : UInt8) (value : Bytes) (length : Nat) : Step ω σ Bytes := do
  let request ← Act.ofExcept (KeyRequest.check slot value length)
  withSession .deriveKey do
    let digest ← anchor.hmac request.slot request.message
    request.keyOf digest

/-- Exactly so many random bytes, or none at all. -/
def getRandom (anchor : Anchor ω σ) (length : Nat) : Step ω σ Bytes :=
  withSession .getRandom (Gather.exactly anchor.reserve anchor.random length)

/-- Fills a buffer with random bytes.  On an error the buffer is left with zeros. -/
def fillRandom (anchor : Anchor ω σ) : Act Error (Bytes × Context σ × ω) Unit := fun (buffer, state) =>
  match getRandom anchor buffer.length state with
  | .ok random state =>
    if random.length = buffer.length then .ok () (random, state) else .error .crash (buffer, state)
  | .error (.error e) state => .error (.error e) (Bytes.zeros buffer.length, state)
  | .error .crash state => .error .crash (buffer, state)

def getDeviceUuid (anchor : Anchor ω σ) : Step ω σ Uuid :=
  withSession .getDeviceUuid do
    let raw ← anchor.identity
    return Uuid.ofRaw raw

/-- Runs the self test; a result other than zero is an error. -/
def selfTest (anchor : Anchor ω σ) : Step ω σ Unit := do
  let code ← withSession .selfTest anchor.selfTest
  if code ≠ 0 then
    Act.fail (.trustAnchor (Fault.of (.selfTestFailed code)))

/-- What becomes of the session of a context that is given up: it is closed, and nobody hears of a fault. -/
def discard (anchor : Anchor ω σ) (context : Context σ) : Act Fault ω Unit :=
  match context.session with
  | none => pure ()
  | some session => do
    let _ ← Act.attempt (anchor.close session)

end Context

end TrustAnchor
