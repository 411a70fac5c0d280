/-!
TPM 2.0 algorithm identifiers.
-/

namespace TrustAnchor
namespace Tpm

inductive Algorithm
  | null
  | sha1
  | hmac
  | sha256
  | sha384
  | sha512
  | aes
  | cfb
  | keyedHash
  deriving DecidableEq, Repr

namespace Algorithm

def all : List Algorithm :=
  [.null, .sha1, .hmac, .sha256, .sha384, .sha512, .aes, .cfb, .keyedHash]

/-- TPM_ALG_ID. -/
def code : Algorithm → UInt16
  | .null => 0x10
  | .sha1 => 0x04
  | .hmac => 0x05
  | .sha256 => 0x0B
  | .sha384 => 0x0C
  | .sha512 => 0x0D
  | .aes => 0x06
  | .cfb => 0x43
  | .keyedHash => 0x08

def name : Algorithm → String
  | .null => "Null"
  | .sha1 => "Sha1"
  | .hmac => "Hmac"
  | .sha256 => "Sha256"
  | .sha384 => "Sha384"
  | .sha512 => "Sha512"
  | .aes => "Aes"
  | .cfb => "Cfb"
  | .keyedHash => "KeyedHash"

def ofCode? (code : UInt16) : Option Algorithm :=
  all.find? fun algorithm => algorithm.code == code

theorem ofCode?_code (algorithm : Algorithm) : ofCode? algorithm.code = some algorithm := by
  cases algorithm <;> decide

/-- Two algorithms never share an identifier. -/
theorem code_injective {a b : Algorithm} (h : a.code = b.code) : a = b := by
  have := congrArg ofCode? h
  rw [ofCode?_code, ofCode?_code] at this
  exact Option.some.inj this

end Algorithm

end Tpm
end TrustAnchor
