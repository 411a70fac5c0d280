import TrustAnchor.Text.Hex

/-!
Single characters of the Latin-1 range between quotes, for messages that point at a byte.

A character that can be seen stands for itself.  The quote, the backslash and whatever cannot be seen are
escaped, so that the message stays on one line and shows which byte it was.
-/

namespace TrustAnchor
namespace Quoted

/-- The codes that show nothing: the two blocks of control characters, the space that does not break and the
hyphen that is seen only at the end of a line. -/
def isInvisible (code : Nat) : Bool :=
  code < 32 || (127 ≤ code && code ≤ 160) || code = 173

/-- The escapes of a single letter or sign, by code. -/
def shortEscapes : List (Nat × String) :=
  [(0, "\\0"), (9, "\\t"), (10, "\\n"), (13, "\\r"), (39, "\\'"), (92, "\\\\")]

/-- What stands between the quotes. -/
def body (code : Nat) : String :=
  match shortEscapes.lookup code with
  | some escape => escape
  | none =>
    if isInvisible code then "\\u\x7b" ++ Hex.ofNat code ++ "\x7d"
    else String.singleton (Char.ofNat code)

/-- A byte, read as a character of Latin-1, between single quotes. -/
def latin1 (byte : UInt8) : String := "'" ++ body byte.toNat ++ "'"

end Quoted
end TrustAnchor
