/-!
TPM 2.0 handles: what a handle refers to is written in its most significant byte.
-/

namespace TrustAnchor
namespace Tpm

abbrev Handle := UInt32

inductive HandleType
  | pcr
  | nvIndex
  | hmacSession
  | policySession
  | permanent
  | transient
  | persistent
  deriving DecidableEq, Repr

namespace HandleType

def all : List HandleType :=
  [.pcr, .nvIndex, .hmacSession, .policySession, .permanent, .transient, .persistent]

/-- TPM_HT. -/
def code : HandleType → UInt8
  | .pcr => 0x00
  | .nvIndex => 0x01
  | .hmacSession => 0x02
  | .policySession => 0x03
  | .permanent => 0x40
  | .transient => 0x80
  | .persistent => 0x81

def name : HandleType → String
  | .pcr => "Pcr"
  | .nvIndex => "NvIndex"
  | .hmacSession => "HmacSession"
  | .policySession => "PolicySession"
  | .permanent => "Permanent"
  | .transient => "Transient"
  | .persistent => "Persistent"

/-- The type of a handle, unless its most significant byte is none of the known ones. -/
def of? (handle : Handle) : Option HandleType :=
  all.find? fun type => type.code == UInt8.ofNat (handle.toNat / 16777216)

end HandleType

namespace Handle

/-- The handle that stands for no object. -/
def null : Handle := 0x40000007

/-- The endorsement hierarchy. -/
def endorsement : Handle := 0x4000000B

/-- The handle of a password authorization. -/
def password : Handle := 0x40000009

def IsPersistent (handle : Handle) : Prop := HandleType.of? handle = some .persistent

instance (handle : Handle) : Decidable handle.IsPersistent :=
  inferInstanceAs (Decidable (_ = _))

end Handle

end Tpm
end TrustAnchor
