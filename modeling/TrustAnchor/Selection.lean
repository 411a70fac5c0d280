import TrustAnchor.Backend
import TrustAnchor.Config.Environment
import TrustAnchor.Error

/-!
The one trust anchor of a process.

Which backend a process uses is decided once, by the first request that succeeds.  A request looks at the
decision, builds its backend if nothing has been decided, then puts it down unless another request was
faster, and at the end compares kinds.  Other requests can come between any two of these steps.
-/

namespace TrustAnchor

/-- The backend decided on, if there is one. -/
abbrev Selection := Option Backend

namespace Selection

variable {ω : Type}

def undecided : Selection := none

/-- What a request goes on with after its first look. -/
inductive Pending
  /-- A decision had been made. -/
  | found (decided : Backend)
  /-- Nothing had been decided, and this is the request's own backend. -/
  | built (backend : Backend)
  deriving DecidableEq, Repr

/-- Looks at the decision; without one, builds the backend of the configuration. -/
def prepare (seen : Selection) (config : Config) : Except Fault Pending :=
  match seen with
  | some decided => .ok (.found decided)
  | none => (Backend.ofConfig config).map .built

/-- Puts a backend that was built down, unless a decision has been made since, and gives the decision. -/
def settle (pending : Pending) (selection : Selection) : Backend × Selection :=
  match pending, selection with
  | .found decided, selection => (decided, selection)
  | .built _, some decided => (decided, some decided)
  | .built backend, none => (backend, some backend)

/-- Accepts a decision for the kind that was asked for. -/
def compare (decided : Backend) (config : Config) : Except Fault Backend :=
  if decided.kind = config.kind then .ok decided
  else .error (Fault.of (.kindPinned decided.kind config.kind))

/-- A whole request without another one in between. -/
def init (config : Config) : EStateM Error Selection Backend := fun selection =>
  match prepare selection config with
  | .error fault => .error (.trustAnchor fault) selection
  | .ok pending =>
    let (decided, selection) := settle pending selection
    match compare decided config with
    | .ok decided => .ok decided selection
    | .error fault => .error (.trustAnchor fault) selection

/-- A request with the configuration that the environment describes. -/
def initFromEnvironment (host : Host ω) (env : Environment) (world : ω) :
    EStateM Error Selection Backend := fun selection =>
  match Config.ofEnvironment host env world with
  | .error fault => .error (.trustAnchor fault) selection
  | .ok config => init config selection

end Selection
end TrustAnchor
