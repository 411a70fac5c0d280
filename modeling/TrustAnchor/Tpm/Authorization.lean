import TrustAnchor.Hash.Hmac
import TrustAnchor.Wire.Item
import TrustAnchor.Wire.Reader
import TrustAnchor.Tpm.Code
import TrustAnchor.Tpm.Handle

/-!
Authorization areas of commands and responses, and the HMACs in them.

Sessions are neither salted nor bound, and the objects that are used have an empty authorization value, so
every HMAC here has the empty key.
-/

namespace TrustAnchor
namespace Tpm

open Wire (Read Reader)

/-- One entry of a command's authorization area. -/
structure Authorization where
  handle : Handle
  nonceCaller : Bytes
  attributes : UInt8
  hmac : Bytes
  deriving DecidableEq, Repr

namespace Authorization

/-- The empty password. -/
def password : Authorization := ⟨Handle.password, [], 0, []⟩

def encode (entry : Authorization) : Bytes :=
  Bytes.ofU32 entry.handle ++ Wire.sized entry.nonceCaller ++ [entry.attributes] ++ Wire.sized entry.hmac

/-- An authorization area: the entries behind the number of their bytes. -/
def area (entries : List Authorization) : Bytes :=
  let body := entries.flatMap encode
  Bytes.ofU32 (UInt32.ofNat body.length) ++ body

end Authorization

/-- One entry of a response's authorization area. -/
structure ResponseAuth where
  nonceTpm : Bytes
  attributes : UInt8
  hmac : Bytes
  deriving DecidableEq, Repr

namespace ResponseAuth

def encode (entry : ResponseAuth) : Bytes :=
  Wire.sized entry.nonceTpm ++ [entry.attributes] ++ Wire.sized entry.hmac

def read : Read ResponseAuth := do
  let nonceTpm ← Reader.sized
  let attributes ← Reader.u8
  let hmac ← Reader.sized
  return { nonceTpm, attributes, hmac }

/-- At most `n` entries, as long as bytes are left. -/
def readUpTo : Nat → Read (List ResponseAuth)
  | 0 => pure []
  | n + 1 => do
    let reader ← get
    if reader.isAtEnd then
      return []
    else
      let first ← read
      let others ← readUpTo n
      return first :: others

/-- Entries until no byte is left.  An entry has at least five bytes, so there are never more entries than
bytes. -/
def readAll : Read (List ResponseAuth) := do
  let reader ← get
  readUpTo reader.remaining

end ResponseAuth

/-! ## What the HMACs are computed over -/

/-- The hash of a command: its code, the names of its objects, its parameters. -/
def commandHash (command : CommandCode) (names : List Bytes) (parameters : Bytes) : Bytes :=
  Sha256.hash (Bytes.ofU32 command.code ++ names.flatten ++ parameters)

/-- The input of the hash of a successful response. -/
def responseHashInput (command : CommandCode) (parameters : Bytes) : Bytes :=
  Bytes.ofU32 ResponseCode.success.code ++ Bytes.ofU32 command.code ++ parameters

/-- The hash of a successful response: its code, the code of its command, its parameters. -/
def responseHash (command : CommandCode) (parameters : Bytes) : Bytes :=
  Sha256.hash (responseHashInput command parameters)

/-- The input of a session HMAC.  The newer nonce is that of the side that computes the HMAC. -/
def sessionHmacInput (hash nonceNewer nonceOlder : Bytes) (attributes : UInt8) : Bytes :=
  hash ++ nonceNewer ++ nonceOlder ++ [attributes]

def sessionHmac (hash nonceNewer nonceOlder : Bytes) (attributes : UInt8) : Bytes :=
  Hmac.sha256 [] (sessionHmacInput hash nonceNewer nonceOlder attributes)

end Tpm
end TrustAnchor
