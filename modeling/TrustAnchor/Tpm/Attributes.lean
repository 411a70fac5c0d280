/-!
Attribute words: sets of flags packed into one number.
-/

namespace TrustAnchor
namespace Tpm

/-- The object attributes that a key template can ask for. -/
inductive ObjectAttribute
  | fixedTpm
  | fixedParent
  | sensitiveDataOrigin
  | userWithAuth
  | noDa
  | signEncrypt
  deriving DecidableEq, Repr

namespace ObjectAttribute

def all : List ObjectAttribute :=
  [.fixedTpm, .fixedParent, .sensitiveDataOrigin, .userWithAuth, .noDa, .signEncrypt]

def name : ObjectAttribute → String
  | .fixedTpm => "fixed_tpm"
  | .fixedParent => "fixed_parent"
  | .sensitiveDataOrigin => "sensitive_data_origin"
  | .userWithAuth => "user_with_auth"
  | .noDa => "no_da"
  | .signEncrypt => "sign_encrypt"

def ofName? (name : String) : Option ObjectAttribute :=
  all.find? fun flag => flag.name == name

/-- The place of the flag in TPMA_OBJECT. -/
def bit : ObjectAttribute → UInt32
  | .fixedTpm => 1
  | .fixedParent => 4
  | .sensitiveDataOrigin => 5
  | .userWithAuth => 6
  | .noDa => 10
  | .signEncrypt => 18

def mask (flag : ObjectAttribute) : UInt32 := 1 <<< flag.bit

/-- The word in which exactly the listed flags are set. -/
def word (flags : List ObjectAttribute) : UInt32 :=
  flags.foldl (fun word flag => word ||| flag.mask) 0

end ObjectAttribute

/-- The session attribute that keeps a session open after a command. -/
def continueSession : UInt8 := 1

end Tpm
end TrustAnchor
