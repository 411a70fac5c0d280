import TrustAnchor.Action
import TrustAnchor.Entropy

/-!
What a trust anchor runs on.

`ω` is the world outside: files, devices, whatever answers at the other end of a channel.  Around it a
machine keeps the entropy and a transcript of every command that was sent with what came back.
-/

namespace TrustAnchor

/-- A command that was sent, and the bytes or the fault that came back. -/
structure Exchange where
  command : Bytes
  answer : Except Fault Bytes

/-- A way to a TPM and back: one command out, one reply in. -/
structure Channel (ω : Type) where
  /-- Where the commands go. -/
  path : String
  transmit : Bytes → EStateM Fault ω Bytes

structure Machine (ω : Type) where
  world : ω
  entropy : Entropy
  /-- The oldest exchange comes first. -/
  transcript : List Exchange

namespace Machine

variable {ω ε α : Type}

/-- A machine that has sent nothing yet. -/
def new (world : ω) (entropy : Entropy) : Machine ω := ⟨world, entropy, []⟩

/-- The commands that were sent, the oldest first. -/
def sent (machine : Machine ω) : List Bytes := machine.transcript.map (·.command)

/-- The next `n` bytes of entropy. -/
def draw (n : Nat) : Act ε (Machine ω) Bytes := fun machine =>
  .ok (machine.entropy.next n) { machine with entropy := machine.entropy.advance n }

/-- Sends a command and waits for the reply.  The exchange is recorded also when it fails. -/
def exchange (channel : Channel ω) (command : Bytes) : Act Fault (Machine ω) Bytes := fun machine =>
  match channel.transmit command machine.world with
  | .ok reply world =>
    .ok reply { machine with world, transcript := machine.transcript ++ [⟨command, .ok reply⟩] }
  | .error fault world =>
    .error (.error fault)
      { machine with world, transcript := machine.transcript ++ [⟨command, .error fault⟩] }

/-- A step of the world alone. -/
def outside (step : EStateM Fault ω α) : Act Fault (Machine ω) α :=
  Act.zoom Machine.world (fun machine world => { machine with world }) (Act.ofPlain step)

end Machine

end TrustAnchor
