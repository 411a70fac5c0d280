import TrustAnchor.Fault
import TrustAnchor.Text.Json
import TrustAnchor.Text.Utf8

/-!
What a program finds where it runs: device files that are open for writing and reading, whole files that are
read once, memory, and a reader of JSON texts.
-/

namespace TrustAnchor

/-- Why a whole file could not be read: it did not open, or it opened and did not read. -/
inductive FileError
  | opening (error : IoError)
  | reading (error : IoError)
  deriving DecidableEq, Repr

def FileError.fault (path : String) : FileError → Fault
  | .opening error => Fault.of (.fileNotOpened path error)
  | .reading error => Fault.of (.fileNotRead path error)

structure Host (ω : Type) where
  /-- Whether something is at a path. -/
  present : String → ω → Bool
  /-- Opens for reading and writing, and gives the number under which the file is open. -/
  openFile : String → EStateM IoError ω Nat
  /-- Writes all the bytes. -/
  write : Nat → Bytes → EStateM IoError ω Unit
  /-- Reads once, at most so many bytes. -/
  read : Nat → Nat → EStateM IoError ω Bytes
  /-- The content of a whole file. -/
  contents : String → ω → Except FileError Bytes
  reserve : Allocator
  /-- The value that a JSON text stands for, if it is one. -/
  readJson? : String → Option Json

namespace Host

variable {ω : Type}

/-- The text in a file, as the bytes of valid UTF-8. -/
def readText (host : Host ω) (path : String) (world : ω) : Except Fault Bytes :=
  match host.contents path world with
  | .error error => .error (error.fault path)
  | .ok bytes =>
    if (Utf8.decode? bytes).isSome then .ok bytes
    else .error (Fault.of (.fileNotRead path .invalidUtf8))

end Host

end TrustAnchor
