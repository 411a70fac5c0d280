import TrustAnchor.Anchor.Kind
import TrustAnchor.Text.Blank
import TrustAnchor.Text.Decimal

/-!
Versions of three numbers, and what a trust anchor says about itself.
-/

namespace TrustAnchor

structure Version where
  major : UInt32
  minor : UInt32
  patch : UInt32
  deriving DecidableEq, Repr

namespace Version

/-- The version of this library. -/
def current : Version := ⟨1, 2, 0⟩

/-- The parts of a text between points; there is always at least one. -/
def components : List Char → List (List Char)
  | [] => [[]]
  | c :: rest =>
    if c = '.' then [] :: components rest
    else
      match components rest with
      | [] => [[c]]
      | first :: others => (c :: first) :: others

/-- Where a note on the release or the build begins. -/
def startsNote (c : Char) : Bool := c = '-' || c = '+'

/-- Reads two or three numbers.  White space around them is dropped, and so are notes and whatever stands
behind the third number; a third number that is missing or cannot be read counts as zero. -/
def parse? (text : String) : Option Version :=
  match components ((trim text.toList).takeWhile fun c => !startsNote c) with
  | major :: minor :: others => do
    let major ← Decimal.u32? major
    let minor ← Decimal.u32? minor
    let patch := (others.head?.bind Decimal.u32?).getD 0
    return { major, minor, patch }
  | _ => none

def toText (version : Version) : String :=
  s!"{version.major.toNat}.{version.minor.toNat}.{version.patch.toNat}"

/-- The tag of a kind and the version of this library. -/
def describe (kind : Anchor.Kind) : String := s!"{kind.tag} {current.toText}"

end Version
end TrustAnchor
