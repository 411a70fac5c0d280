import TrustAnchor.Hash.Sha256

/-!
HMAC with SHA-256: the hash of the message under the inner key, hashed again under the outer key.
-/

namespace TrustAnchor
namespace Hmac

/-- A key is brought to one block of 64 bytes; a key that is longer is hashed first. -/
def blockKey (key : Bytes) : Bytes :=
  Bytes.padTo 64 (if 64 < key.length then Sha256.hash key else key)

def mask (byte : UInt8) (key : Bytes) : Bytes := key.map (· ^^^ byte)

/-- The HMAC-SHA256 of a message under a key. -/
def sha256 (key message : Bytes) : Bytes :=
  let block := blockKey key
  Sha256.hash (mask 0x5c block ++ Sha256.hash (mask 0x36 block ++ message))

@[simp] theorem length_sha256 (key message : Bytes) : (sha256 key message).length = 32 :=
  Sha256.length_hash _

end Hmac
end TrustAnchor
