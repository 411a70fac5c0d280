import TrustAnchor.Machine

/-!
A channel that answers from a list: each command takes the next reply, or the next failure, whatever the
command is.  So the list decides all that a TPM could say in one run.
-/

namespace TrustAnchor
namespace Tpm

/-- Replies and failures still to come. -/
abbrev Replies := List (Except Fault Bytes)

/-- The channel whose world is the list; after its end every command fails. -/
def scriptedChannel : Channel Replies where
  path := "scripted"
  transmit _ := fun replies =>
    match replies with
    | [] => .error (Fault.of (.reported "no response left")) []
    | .ok reply :: later => .ok reply later
    | .error fault :: later => .error fault later

end Tpm
end TrustAnchor
