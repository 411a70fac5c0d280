import TrustAnchor.Proofs.Lists
import TrustAnchor.Proofs.Recorded.Erasure

/-!
What a source of random bytes is asked for, and what becomes of its answers.

A source may give fewer bytes than it is asked for, or more, or none, and it may fail at any request.
`Gathers length log outcome` derives the requests of one gathering from the number of bytes that are
outstanding, one request at a time, and with them how the gathering ends; `gathers_collect` says that the
loop follows it.  `random_gathered` reads the derivation back as statements about the list of requests.
-/

namespace TrustAnchor

open Act

namespace Gather

variable {σ : Type}

/-- A request for so many bytes, and its answer. -/
structure Request where
  asked : Nat
  answer : Except (Stop Fault) Bytes

namespace Request

/-- The bytes that came. -/
def chunk (request : Request) : Bytes :=
  match request.answer with
  | .ok chunk => chunk
  | .error _ => []

/-- Why the gathering ends with this request, if not because all has come. -/
def stop? (request : Request) : Option (Stop Fault) :=
  match request.answer with
  | .ok [] => some (.error (Fault.of (.noRandom request.asked)))
  | .ok _ => none
  | .error stop => some stop

theorem stop?_of_chunk {n : Nat} {chunk : Bytes} (some_came : chunk.length ≠ 0) :
    stop? ⟨n, .ok chunk⟩ = none := by
  cases chunk with
  | nil => exact absurd rfl some_came
  | cons byte others => rfl

theorem chunk_pos_of_stop? {request : Request} (going : request.stop? = none) :
    0 < request.chunk.length := by
  obtain ⟨n, answer⟩ := request
  cases answer with
  | error stop => cases going
  | ok chunk =>
    cases chunk with
    | nil => cases going
    | cons byte others => exact Nat.succ_pos _

end Request

/-- All the bytes that came, in the order in which they came. -/
def received (log : List Request) : Bytes := log.flatMap Request.chunk

theorem received_cons (request : Request) (log : List Request) :
    received (request :: log) = request.chunk ++ received log := List.flatMap_cons

/-- The same source with a log of its requests beside the state, the oldest first. -/
def logged (request : Nat → Act Fault σ Bytes) (n : Nat) : Act Fault (σ × List Request) Bytes :=
  fun (s, log) =>
    match request n s with
    | .ok chunk s => .ok chunk (s, log ++ [⟨n, .ok chunk⟩])
    | .error stop s => .error stop (s, log ++ [⟨n, .error stop⟩])

theorem mirrors_logged (request : Nat → Act Fault σ Bytes) (n : Nat) :
    Mirrors Prod.fst (logged request n) (request n) := by
  intro s
  unfold logged
  cases ran : request n s.1 <;> simp only [ran, seen]

theorem after_logged (request : Nat → Act Fault σ Bytes) (n : Nat) (s : σ) (log : List Request) :
    after (logged request n (s, log)) = (after (request n s), log ++ [⟨n, outcome (request n s)⟩]) := by
  unfold logged
  cases ran : request n s <;> simp only [ran, after_ok, after_error, outcome_ok, outcome_error]

/-! ## Requests in order -/

/-- The requests of a gathering of so many bytes. -/
structure InOrder (length : Nat) (log : List Request) : Prop where
  /-- A request asks for all that has not come yet, and something has not. -/
  asked : ∀ before request after, log = before ++ request :: after →
    request.asked + (received before).length = length ∧ 0 < request.asked
  /-- A request asks for fewer bytes than every one before it. -/
  falling : log.Pairwise fun earlier later => later.asked < earlier.asked
  /-- Nothing is requested after a failure or an empty answer. -/
  going : ∀ before request after, log = before ++ request :: after → after ≠ [] → request.stop? = none

/-- The end of a gathering: the reason for it in the last request, or else the first bytes that came. -/
def verdict (length : Nat) (log : List Request) : Except (Stop Fault) Bytes :=
  match log.getLast?.bind Request.stop? with
  | some stop => .error stop
  | none => .ok ((received log).take length)

namespace InOrder

theorem nil : InOrder 0 [] where
  asked before request after split := by cases before <;> cases split
  falling := List.Pairwise.nil
  going before request after split := by cases before <;> cases split

theorem single {request : Request} {n : Nat} (first : request.asked = n + 1) :
    InOrder (n + 1) [request] where
  asked before other after split := by
    obtain ⟨rfl, rfl, -⟩ := split_single split
    rw [first]
    exact ⟨rfl, Nat.succ_pos n⟩
  falling := List.pairwise_singleton _ _
  going before other after split more := by
    obtain ⟨-, -, rfl⟩ := split_single split
    exact absurd rfl more

theorem cons {request : Request} {n : Nat} {log : List Request} (first : request.asked = n + 1)
    (going : request.stop? = none) (others : InOrder (n + 1 - request.chunk.length) log) :
    InOrder (n + 1) (request :: log) where
  asked before other after split := by
    cases before with
    | nil =>
      cases split
      rw [first]
      exact ⟨rfl, Nat.succ_pos n⟩
    | cons head tail =>
      cases split
      have later := others.asked tail other after rfl
      rw [received_cons, List.length_append]
      omega
  falling := by
    refine List.Pairwise.cons (fun other member => ?_) others.falling
    obtain ⟨before, after, split⟩ := List.append_of_mem member
    have later := others.asked before other after split
    have some_came := Request.chunk_pos_of_stop? going
    omega
  going before other after split more := by
    cases before with
    | nil =>
      cases split
      exact going
    | cons head tail =>
      cases split
      exact others.going tail other after rfl more

end InOrder

/-! ## The derivation -/

/-- How a gathering goes on while `length` bytes are outstanding. -/
inductive Gathers : Nat → List Request → Except (Stop Fault) Bytes → Prop
  | done : Gathers 0 [] (.ok [])
  | stopped {n : Nat} {request : Request} {stop : Stop Fault} (first : request.asked = n + 1)
      (ended : request.stop? = some stop) : Gathers (n + 1) [request] (.error stop)
  | more {n : Nat} {request : Request} {log : List Request} {ending : Except (Stop Fault) Bytes}
      (first : request.asked = n + 1) (going : request.stop? = none)
      (others : Gathers (n + 1 - request.chunk.length) log ending) :
      Gathers (n + 1) (request :: log) (ending.map (request.chunk.take (n + 1) ++ ·))

namespace Gathers

variable {length : Nat} {log : List Request} {ending : Except (Stop Fault) Bytes}

theorem inOrder (h : Gathers length log ending) : InOrder length log := by
  induction h with
  | done => exact .nil
  | stopped first ended => exact .single first
  | more first going others ih => exact .cons first going ih

/-- Every request that is followed by another one has brought at least one byte. -/
theorem log_length_le (h : Gathers length log ending) : log.length ≤ length := by
  induction h with
  | done => exact Nat.le_refl 0
  | stopped first ended => exact Nat.succ_le_succ (Nat.zero_le _)
  | more first going others ih =>
    have some_came := Request.chunk_pos_of_stop? going
    rw [List.length_cons]
    omega

theorem length_of_ok (h : Gathers length log ending) {bytes : Bytes} (whole : ending = .ok bytes) :
    bytes.length = length := by
  induction h generalizing bytes with
  | done =>
    cases whole
    rfl
  | stopped first ended => cases whole
  | @more n request log ending first going others ih =>
    cases ending with
    | error stop => cases whole
    | ok rest =>
      have rest_length := ih rfl
      cases whole
      rw [List.length_append, List.length_take]
      omega

theorem eq_verdict (h : Gathers length log ending) : ending = verdict length log := by
  induction h with
  | done => rfl
  | stopped first ended =>
    unfold verdict
    rw [List.getLast?_singleton, Option.bind_some, ended]
  | @more n request log ending first going others ih =>
    have tail : (request :: log).getLast?.bind Request.stop? = log.getLast?.bind Request.stop? := by
      rw [List.getLast?_cons]
      cases log.getLast? with
      | none => exact going
      | some last => rfl
    rw [ih]
    unfold verdict
    rw [tail]
    cases log.getLast?.bind Request.stop? with
    | some stop => rfl
    | none =>
      show Except.ok (request.chunk.take (n + 1) ++ _) = _
      rw [received_cons, List.take_append]

end Gathers

/-- The loop follows the derivation, whatever the source does. -/
theorem gathers_collect (request : Nat → Act Fault σ Bytes) (n : Nat) (s : σ) (earlier : List Request) :
    ∃ log, (after (collect (logged request) n (s, earlier))).2 = earlier ++ log ∧
      Gathers n log (outcome (collect (logged request) n (s, earlier))) := by
  induction n using Nat.strongRecOn generalizing s earlier with
  | _ n ih =>
    cases n with
    | zero =>
      rw [collect]
      exact ⟨[], (List.append_nil earlier).symm, .done⟩
    | succ n =>
      rw [collect]
      cases answered : request (n + 1) s with
      | error stop t =>
        have ran : logged request (n + 1) (s, earlier) =
            .error stop (t, earlier ++ [⟨n + 1, .error stop⟩]) := by
          simp only [logged, answered]
        rw [bind_error ran]
        exact ⟨_, rfl, .stopped rfl rfl⟩
      | ok chunk t =>
        have ran : logged request (n + 1) (s, earlier) =
            .ok chunk (t, earlier ++ [⟨n + 1, .ok chunk⟩]) := by
          simp only [logged, answered]
        rw [bind_ok ran]
        by_cases empty : chunk.length = 0
        · rw [dif_pos empty]
          have no_bytes : chunk = [] := List.length_eq_zero_iff.mp empty
          subst no_bytes
          exact ⟨_, rfl, .stopped rfl rfl⟩
        · rw [dif_neg empty, outcome_bind_pure, after_bind_still _ fun _ => still_pure _]
          obtain ⟨log, grown, others⟩ :=
            ih (n + 1 - chunk.length) (by omega) t (earlier ++ [⟨n + 1, .ok chunk⟩])
          refine ⟨⟨n + 1, .ok chunk⟩ :: log, ?_, .more rfl (Request.stop?_of_chunk empty) others⟩
          rw [grown, List.append_assoc]
          rfl

/-! ## All or nothing -/

theorem exactly_of_error {reserve : Allocator} {request : Nat → Act Fault σ Bytes} {length : Nat}
    {e : ReserveError} (refused : reserve length = .error e) (s : σ) :
    exactly reserve request length s = .error (.error (Fault.of (.unreservable length e))) s := by
  rw [exactly, refused]
  rfl

theorem exactly_of_ok {reserve : Allocator} {request : Nat → Act Fault σ Bytes} {length : Nat}
    (reserved : reserve length = .ok ()) (s : σ) :
    exactly reserve request length s = collect request length s := by
  rw [exactly, reserved]

/-- If memory can be reserved, a gathering follows the derivation, and the log beside it is in the way of
nothing. -/
theorem gathers_exactly {reserve : Allocator} {length : Nat} (reserved : reserve length = .ok ())
    (request : Nat → Act Fault σ Bytes) (s : σ) :
    Gathers length (after (exactly reserve (logged request) length (s, []))).2
      (outcome (exactly reserve request length s)) := by
  obtain ⟨log, grown, derived⟩ := gathers_collect request length s []
  have same : exactly reserve request length s =
      seen Prod.fst (exactly reserve (logged request) length (s, [])) :=
    mirrors_exactly (mirrors_logged request) reserve length (s, [])
  have ending : outcome (exactly reserve request length s) =
      outcome (exactly reserve (logged request) length (s, [])) := by
    rw [same]
    cases exactly reserve (logged request) length (s, []) <;> rfl
  rw [ending, exactly_of_ok reserved, grown, List.nil_append]
  exact derived

theorem length_of_exactly {reserve : Allocator} {request : Nat → Act Fault σ Bytes} {length : Nat} {s t : σ}
    {bytes : Bytes} (ran : exactly reserve request length s = .ok bytes t) : bytes.length = length := by
  cases reserved : reserve length with
  | error e =>
    rw [exactly_of_error reserved] at ran
    cases ran
  | ok _ =>
    refine (gathers_exactly reserved request s).length_of_ok ?_
    rw [ran, outcome_ok]

/-! ## What is left, told by the log -/

/-- `P` says what the requests of a log make of a state: it holds of a request by itself, and of requests one
after the other. -/
structure Accounts (request : Nat → Act Fault σ Bytes) (P : σ → List Request → σ → Prop) : Prop where
  none : ∀ s, P s [] s
  append : ∀ {s t u : σ} {log others : List Request}, P s log t → P t others u → P s (log ++ others) u
  one : ∀ n s, P s [⟨n, outcome (request n s)⟩] (after (request n s))

theorem Accounts.exactly {request : Nat → Act Fault σ Bytes} {P : σ → List Request → σ → Prop}
    (accounts : Accounts request P) (reserve : Allocator) (length : Nat) (s : σ) :
    P s (after (exactly reserve (logged request) length (s, []))).2
      (after (exactly reserve request length s)) := by
  let R (before later : σ × List Request) := ∃ log, later.2 = before.2 ++ log ∧ P before.1 log later.1
  have frame : Frame R := by
    refine ⟨fun before => ⟨[], (List.append_nil _).symm, accounts.none before.1⟩, ?_⟩
    intro before between later first second
    obtain ⟨log, grown, told⟩ := first
    obtain ⟨others, grown', told'⟩ := second
    exact ⟨log ++ others, by rw [grown', grown, List.append_assoc], accounts.append told told'⟩
  have kept : ∀ n, Keeps R (logged request n) := by
    intro n before
    show ∃ log, (after (logged request n (before.1, before.2))).2 = _ ∧ _
    rw [after_logged]
    exact ⟨_, rfl, accounts.one n before.1⟩
  obtain ⟨log, grown, told⟩ := keeps_exactly frame kept reserve length (s, [])
  have same : TrustAnchor.Gather.exactly reserve request length s = _ :=
    mirrors_exactly (mirrors_logged request) reserve length (s, [])
  rw [same, after_seen, grown, List.nil_append]
  exact told

end Gather

namespace Context

variable {ω σ α : Type}

/-- On an open context an operation ends as its step does, with the faults of the anchor wrapped. -/
theorem outcome_withSession_open (operation : Operation) (step : Act Fault (σ × ω) α) (session : σ)
    (world : ω) :
    outcome (withSession operation step (⟨some session, false⟩, world)) =
      outcome (step.mapError Error.trustAnchor (session, world)) := by
  rw [withSession_open, mapError]
  cases step (session, world) with
  | ok a state => rfl
  | error e state => cases e <;> rfl

/-- Whatever the source of random bytes does: if memory for the bytes cannot be reserved, nothing is
requested, and the error says why.  Otherwise each request asks for exactly what has not come yet, which is
less each time and never nothing, so that there are at most as many requests as bytes; a failure and an empty
answer end the gathering with an error at once; and if neither comes, exactly so many bytes are returned, the
first ones of all that came.  The requests are those of the source itself, and a user of the context sees the
same end. -/
theorem random_gathered (anchor : Anchor ω σ) (session : σ) (world : ω) (length : Nat) :
    let gathering := Gather.exactly anchor.reserve (Gather.logged anchor.random) length ((session, world), [])
    let log := (after gathering).2
    let gathered := Gather.exactly anchor.reserve anchor.random length (session, world)
    gathered = seen Prod.fst gathering ∧
    outcome (getRandom anchor length (⟨some session, false⟩, world)) =
      outcome ((Gather.exactly anchor.reserve anchor.random length).mapError Error.trustAnchor
        (session, world)) ∧
    match anchor.reserve length with
    | .error e => log = [] ∧ outcome gathered = .error (.error (Fault.of (.unreservable length e)))
    | .ok () => Gather.InOrder length log ∧ log.length ≤ length ∧
        outcome gathered = Gather.verdict length log ∧
          ∀ bytes, outcome gathered = .ok bytes → bytes.length = length := by
  intro gathering log gathered
  have same : gathered = seen Prod.fst gathering :=
    Gather.mirrors_exactly (Gather.mirrors_logged anchor.random) anchor.reserve length ((session, world), [])
  refine ⟨same, outcome_withSession_open _ _ session world, ?_⟩
  cases reserved : anchor.reserve length with
  | error e =>
    have ended : gathering = .error (.error (Fault.of (.unreservable length e))) ((session, world), []) :=
      Gather.exactly_of_error reserved _
    have ended' : gathered = .error (.error (Fault.of (.unreservable length e))) (session, world) :=
      Gather.exactly_of_error reserved _
    refine ⟨?_, ?_⟩
    · show (after gathering).2 = []
      rw [ended, after_error]
    · rw [ended', outcome_error]
  | ok _ =>
    have derived : Gather.Gathers length log (outcome gathered) :=
      Gather.gathers_exactly reserved anchor.random (session, world)
    exact ⟨derived.inOrder, derived.log_length_le, derived.eq_verdict, fun bytes => derived.length_of_ok⟩

end Context
end TrustAnchor
