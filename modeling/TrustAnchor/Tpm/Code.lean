/-!
The numbers that name TPM 2.0 commands, responses and structure tags.
-/

namespace TrustAnchor
namespace Tpm

/-- The commands that are sent. -/
inductive CommandCode
  | createPrimary
  | selfTest
  | hmac
  | flushContext
  | readPublic
  | startAuthSession
  | getRandom
  | getTestResult
  deriving DecidableEq, Repr

namespace CommandCode

def all : List CommandCode :=
  [.createPrimary, .selfTest, .hmac, .flushContext, .readPublic, .startAuthSession, .getRandom,
    .getTestResult]

/-- TPM_CC. -/
def code : CommandCode → UInt32
  | .createPrimary => 0x131
  | .selfTest => 0x143
  | .hmac => 0x155
  | .flushContext => 0x165
  | .readPublic => 0x173
  | .startAuthSession => 0x176
  | .getRandom => 0x17B
  | .getTestResult => 0x17C

def name : CommandCode → String
  | .createPrimary => "CreatePrimary"
  | .selfTest => "SelfTest"
  | .hmac => "Hmac"
  | .flushContext => "FlushContext"
  | .readPublic => "ReadPublic"
  | .startAuthSession => "StartAuthSession"
  | .getRandom => "GetRandom"
  | .getTestResult => "GetTestResult"

def ofName? (name : String) : Option CommandCode :=
  all.find? fun command => command.name == name

theorem mem_all (command : CommandCode) : command ∈ all := by
  cases command <;> decide

/-- Two commands never share a code. -/
theorem code_injective {a b : CommandCode} (h : a.code = b.code) : a = b := by
  have distinct : ∀ a ∈ all, ∀ b ∈ all, a.code = b.code → a = b := by decide
  exact distinct a a.mem_all b b.mem_all h

end CommandCode

/-- The response codes with a name of their own. -/
inductive ResponseCode
  | success
  | uninitialized
  | failure
  | needsTest
  | value
  | handle
  | authFail
  | testing
  | retry
  | objectMemory
  | sessionMemory
  deriving DecidableEq, Repr

namespace ResponseCode

def all : List ResponseCode :=
  [.success, .uninitialized, .failure, .needsTest, .value, .handle, .authFail, .testing, .retry,
    .objectMemory, .sessionMemory]

/-- TPM_RC. -/
def code : ResponseCode → UInt32
  | .success => 0
  | .uninitialized => 0x100
  | .failure => 0x101
  | .needsTest => 0x153
  | .value => 0x184
  | .handle => 0x8B
  | .authFail => 0x98E
  | .testing => 0x90A
  | .retry => 0x922
  | .objectMemory => 0x902
  | .sessionMemory => 0x903

def name : ResponseCode → String
  | .success => "Success"
  | .uninitialized => "Initialize"
  | .failure => "Failure"
  | .needsTest => "NeedsTest"
  | .value => "Value"
  | .handle => "Handle"
  | .authFail => "AuthFail"
  | .testing => "Testing"
  | .retry => "Retry"
  | .objectMemory => "ObjectMemory"
  | .sessionMemory => "SessionMemory"

/-- What a code means.  A code without a name counts as a general failure. -/
def ofCode (code : UInt32) : ResponseCode :=
  (all.find? fun response => response.code == code).getD .failure

theorem ofCode_code (response : ResponseCode) : ofCode response.code = response := by
  cases response <;> decide

/-- A code has no other meaning than its own; a general failure alone is said by many codes. -/
theorem ofCode_eq_iff {response : ResponseCode} (named : response ≠ .failure) {code : UInt32} :
    ofCode code = response ↔ code = response.code := by
  constructor
  · intro h
    unfold ofCode at h
    cases found : all.find? fun response => response.code == code with
    | none =>
      rw [found] at h
      exact absurd h.symm named
    | some other =>
      rw [found] at h
      have same := List.find?_some found
      rw [← h]
      exact (beq_iff_eq.mp same).symm
  · intro h
    rw [h]
    exact ofCode_code response

end ResponseCode

/-- The tag that opens a command or a response. -/
inductive Tag
  | noSessions
  | sessions
  | rspCommand
  deriving DecidableEq, Repr

namespace Tag

def all : List Tag := [.noSessions, .sessions, .rspCommand]

/-- TPM_ST. -/
def code : Tag → UInt16
  | .noSessions => 0x8001
  | .sessions => 0x8002
  | .rspCommand => 0x00C4

def name : Tag → String
  | .noSessions => "NoSessions"
  | .sessions => "Sessions"
  | .rspCommand => "RspCommand"

def ofCode? (code : UInt16) : Option Tag :=
  all.find? fun tag => tag.code == code

theorem ofCode?_code (tag : Tag) : ofCode? tag.code = some tag := by
  cases tag <;> decide

theorem code_of_ofCode? {code : UInt16} {tag : Tag} (h : ofCode? code = some tag) : tag.code = code :=
  beq_iff_eq.mp (List.find?_some (p := fun tag : Tag => tag.code == code) h)

end Tag

end Tpm
end TrustAnchor
