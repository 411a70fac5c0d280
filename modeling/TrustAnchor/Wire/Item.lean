import TrustAnchor.Bytes

/-!
What TPM commands are put together from: big-endian numbers, bytes as they are, and byte strings behind
their 16-bit size.
-/

namespace TrustAnchor
namespace Wire

/-- A byte string behind its size.  The size field has 16 bits: of a string longer than 65535 bytes it
holds the length modulo 65536, and all the bytes follow. -/
def sized (data : Bytes) : Bytes :=
  Bytes.ofU16 (UInt16.ofNat data.length) ++ data

/-- One piece of a message. -/
inductive Item
  | u8 (v : UInt8)
  | u16 (v : UInt16)
  | u32 (v : UInt32)
  | raw (data : Bytes)
  | sized (data : Bytes)
  deriving DecidableEq, Repr

namespace Item

def encode : Item → Bytes
  | .u8 v => [v]
  | .u16 v => Bytes.ofU16 v
  | .u32 v => Bytes.ofU32 v
  | .raw data => data
  | .sized data => Wire.sized data

end Item

/-- The pieces of a message one after the other. -/
def encodeAll (items : List Item) : Bytes := items.flatMap Item.encode

@[simp] theorem length_sized (data : Bytes) : (sized data).length = 2 + data.length := by
  simp [sized]

@[simp] theorem encodeAll_nil : encodeAll [] = [] := rfl

@[simp] theorem encodeAll_cons (item : Item) (items : List Item) :
    encodeAll (item :: items) = item.encode ++ encodeAll items := rfl

@[simp] theorem encodeAll_append (items more : List Item) :
    encodeAll (items ++ more) = encodeAll items ++ encodeAll more :=
  List.flatMap_append

end Wire
end TrustAnchor
