import TrustAnchor.Bytes

/-!
Texts as bytes.  A byte string is a text exactly when it is valid UTF-8; there is no repair of a bad one.
-/

namespace TrustAnchor
namespace Utf8

def encode (text : String) : Bytes := text.toUTF8.toList

/-- The text that bytes spell, if they are valid UTF-8. -/
def decode? (bytes : Bytes) : Option String := String.fromUTF8? ⟨bytes.toArray⟩

/-- A continuation byte stands inside a character: no character starts there. -/
def isContinuation (b : UInt8) : Bool := 0x80 ≤ b && b < 0xC0

end Utf8
end TrustAnchor
