import TrustAnchor.Action
import TrustAnchor.Wire.Item
import TrustAnchor.Tpm.Code

/-!
Commands: a header of ten bytes, then handles, authorizations and parameters in the order of the command.

A command is drafted with zero in its size field; sealing writes the number of bytes into it.
-/

namespace TrustAnchor
namespace Tpm

structure Command where
  tag : Tag
  code : CommandCode
  items : List Wire.Item
  deriving DecidableEq, Repr

namespace Command

/-- Where the size field stands. -/
def sizeOffset : Nat := 2

/-- A command without an authorization area. -/
def plain (code : CommandCode) (items : List Wire.Item) : Command := ⟨.noSessions, code, items⟩

/-- A command with an authorization area among its items. -/
def authorized (code : CommandCode) (items : List Wire.Item) : Command := ⟨.sessions, code, items⟩

/-- The command with zero in its size field. -/
def draft (command : Command) : Bytes :=
  Bytes.ofU16 command.tag.code ++ Bytes.ofU32 0 ++ Bytes.ofU32 command.code.code ++
    Wire.encodeAll command.items

/-- The command as it is sent. -/
def sealed {σ : Type} (command : Command) : Act Fault σ Bytes :=
  let draft := command.draft
  Act.demand (Bytes.overwrite? sizeOffset (Bytes.ofU32 (UInt32.ofNat draft.length)) draft)

end Command

end Tpm
end TrustAnchor
