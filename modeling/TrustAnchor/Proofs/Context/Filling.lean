import TrustAnchor.Proofs.Context.Operations

/-!
Filling a buffer with random bytes.

A buffer may hold anything before it is filled, and the filling may fail at any point: at the lock, for want
of a session or of memory, or at any request after some bytes have come.  `fillRandom_whole_or_zeros` says
what is in the buffer afterwards.  It is stated against getting as many random bytes from the same state, and
over a recorded anchor, so that the calls to the anchor are a part of what has to agree.
-/

namespace TrustAnchor

open Act

namespace Gather

theorem Request.answer_of_crash {request : Request} (ended : request.stop? = some .crash) :
    request.answer = .error .crash := by
  obtain ⟨n, answer⟩ := request
  cases answer with
  | ok chunk => cases chunk <;> cases ended
  | error stop =>
    cases ended
    rfl

/-- A gathering ends at its last request, or no request stops it and all the bytes have come. -/
theorem Gathers.last_or_whole {length : Nat} {log : List Request} {ending : Except (Stop Fault) Bytes}
    (h : Gathers length log ending) :
    (∃ earlier request stop, log = earlier ++ [request] ∧ request.stop? = some stop ∧
      ending = .error stop) ∨
    (∀ request ∈ log, request.stop? = none) ∧ ending = .ok ((received log).take length) := by
  induction h with
  | done => exact .inr ⟨by simp, rfl⟩
  | @stopped n request stop first ended => exact .inl ⟨[], request, stop, rfl, ended, rfl⟩
  | @more n request log ending first going others ih =>
    obtain ⟨earlier, last, stop, split, ended, failed⟩ | ⟨all_going, whole⟩ := ih
    · refine .inl ⟨request :: earlier, last, stop, ?_, ended, ?_⟩
      · rw [split, List.cons_append]
      · rw [failed]
        rfl
    · refine .inr ⟨?_, ?_⟩
      · simp only [List.mem_cons, forall_eq_or_imp]
        exact ⟨going, all_going⟩
      · rw [whole, received_cons, List.take_append]
        rfl

end Gather

namespace Recorded

variable {ω σ : Type}

/-- The record of requests for random bytes that were made of one session. -/
def requested (session : Nat) (log : List Gather.Request) : List Event :=
  log.map fun request => .random session request.asked

theorem requested_append (session : Nat) (log others : List Gather.Request) :
    requested session (log ++ others) = requested session log ++ requested session others :=
  List.map_append

/-- The session keeps its number, and the record grows by the requests of the log. -/
def OnRecord (s : Session σ × World ω) (log : List Gather.Request) (t : Session σ × World ω) : Prop :=
  t.1.number = s.1.number ∧ t.2.events = s.2.events ++ requested s.1.number log

theorem accounts_random (inner : Anchor ω σ) : Gather.Accounts (anchor inner).random OnRecord where
  none s := ⟨rfl, (List.append_nil _).symm⟩
  append {s t u log others} first second := by
    obtain ⟨number, events⟩ := first
    obtain ⟨number', events'⟩ := second
    refine ⟨number'.trans number, ?_⟩
    rw [events', events, number, requested_append, List.append_assoc]
  one n s := by
    obtain ⟨session, world⟩ := s
    have asked : (anchor inner).random n = call (.random · n) (inner.random n) := rfl
    rw [asked, call, OnRecord]
    simp only [World.record]
    cases inner.random n (session.inner, world.inner) with
    | ok chunk later => exact ⟨rfl, rfl⟩
    | error stop later => exact ⟨rfl, rfl⟩

end Recorded

namespace Context

variable {ω σ : Type} {anchor : Anchor ω σ}

/-- The requests that a call for so many random bytes makes of the open session, with their answers. -/
def requests (anchor : Anchor ω σ) (length : Nat) (state : Context σ × ω) : List Gather.Request :=
  match state.1 with
  | ⟨some session, false⟩ =>
    (after (Gather.exactly anchor.reserve (Gather.logged anchor.random) length ((session, state.2), []))).2
  | _ => []

/-- How a call for so many random bytes ends on a context, with the requests that it has made until then. -/
inductive Asks (reserve : Allocator) (length : Nat) :
    Context σ → List Gather.Request → Except (Stop Error) Bytes → Prop
  | poisoned {context : Context σ} (h : context.poisoned = true) :
      Asks reserve length context [] (.error (fault .lockPoisoned))
  | notOpen : Asks reserve length .closed [] (.error (fault (.notOpen .getRandom)))
  | unreservable {session : σ} {e : ReserveError} (refused : reserve length = .error e) :
      Asks reserve length ⟨some session, false⟩ [] (.error (fault (.unreservable length e)))
  /-- The last request was answered with a fault, or with no bytes at all. -/
  | failed {session : σ} {earlier : List Gather.Request} {last : Gather.Request} {f : Fault}
      (ordered : Gather.InOrder length (earlier ++ [last])) (ended : last.stop? = some (.error f)) :
      Asks reserve length ⟨some session, false⟩ (earlier ++ [last]) (.error (.error (.trustAnchor f)))
  | crashed {session : σ} {earlier : List Gather.Request} {last : Gather.Request}
      (ordered : Gather.InOrder length (earlier ++ [last])) (ended : last.answer = .error .crash) :
      Asks reserve length ⟨some session, false⟩ (earlier ++ [last]) (.error .crash)
  | whole {session : σ} {log : List Gather.Request} (ordered : Gather.InOrder length log)
      (going : ∀ request ∈ log, request.stop? = none) :
      Asks reserve length ⟨some session, false⟩ log (.ok ((Gather.received log).take length))

/-- The end of a gathering, as a user of the context sees it. -/
theorem asks_of_gathers {reserve : Allocator} {length : Nat} {log : List Gather.Request} {session : σ}
    {gathered : EStateM.Result (Stop Fault) (σ × ω) Bytes}
    (derived : Gather.Gathers length log (outcome gathered)) :
    Asks reserve length (⟨some session, false⟩ : Context σ) log (outcome (stepped gathered)) := by
  have ordered := derived.inOrder
  obtain ⟨earlier, last, stop, split, ended, failed⟩ | ⟨going, whole⟩ := derived.last_or_whole
  · rw [split] at ordered ⊢
    obtain ⟨left, ran⟩ := outcome_eq_error_iff.mp failed
    rw [ran]
    cases stop with
    | error f => exact .failed ordered ended
    | crash => exact .crashed ordered (Gather.Request.answer_of_crash ended)
  · obtain ⟨left, ran⟩ := outcome_eq_ok_iff.mp whole
    rw [ran]
    exact .whole ordered going

theorem asks_getRandom (anchor : Anchor ω σ) (length : Nat) (state : Context σ × ω) :
    Asks anchor.reserve length state.1 (requests anchor length state)
      (outcome (getRandom anchor length state)) := by
  obtain ⟨⟨held, poisoned⟩, world⟩ := state
  cases poisoned with
  | true =>
    have none_made : requests anchor length (⟨held, true⟩, world) = [] := by cases held <;> rfl
    rw [none_made, getRandom, withSession_poisoned rfl]
    exact .poisoned rfl
  | false =>
    cases held with
    | none => exact .notOpen
    | some session =>
      rw [getRandom, withSession_open]
      cases reserved : anchor.reserve length with
      | error e =>
        have ended : Gather.exactly anchor.reserve anchor.random length (session, world) = _ :=
          Gather.exactly_of_error reserved _
        have none_made : requests anchor length (⟨some session, false⟩, world) = [] := by
          show (after (Gather.exactly anchor.reserve (Gather.logged anchor.random) length
            ((session, world), []))).2 = []
          rw [Gather.exactly_of_error reserved, after_error]
        rw [ended, none_made]
        exact .unreservable reserved
      | ok _ => exact asks_of_gathers (Gather.gathers_exactly reserved anchor.random (session, world))

/-- The calls to the anchor are the requests, and those of the open session. -/
theorem events_getRandom (inner : Anchor ω σ) (length : Nat)
    (state : Context (Recorded.Session σ) × Recorded.World ω) :
    (after (getRandom (Recorded.anchor inner) length state)).2.events = state.2.events ++
      state.1.session.elim [] fun session =>
        Recorded.requested session.number (requests (Recorded.anchor inner) length state) := by
  obtain ⟨⟨held, poisoned⟩, world⟩ := state
  cases held with
  | none =>
    rw [getRandom, after_withSession_closed rfl]
    exact (List.append_nil _).symm
  | some session =>
    cases poisoned with
    | true =>
      rw [getRandom, after_withSession_poisoned rfl]
      exact (List.append_nil _).symm
    | false =>
      have opened : (⟨some session, false⟩ : Context (Recorded.Session σ)).session = some session := rfl
      obtain ⟨poisoned, left⟩ := after_withSession_open rfl opened .getRandom
        (Gather.exactly (Recorded.anchor inner).reserve (Recorded.anchor inner).random length) world
      rw [getRandom, left]
      exact ((Recorded.accounts_random inner).exactly inner.reserve length (session, world)).2

/-- A buffer that is filled, against as many bytes that are got from the same state. -/
structure Fills (buffer : Bytes) (got : EStateM.Result (Stop Error) (Context σ × ω) Bytes)
    (filled : EStateM.Result (Stop Error) (Bytes × Context σ × ω) Unit) : Prop where
  /-- The context and the world are left the same, and with the world the record of calls. -/
  left : (after filled).2 = after got
  length : (after filled).1.length = buffer.length
  ok_iff : outcome filled = .ok () ↔ ∃ bytes, outcome got = .ok bytes
  whole : ∀ bytes, outcome got = .ok bytes → (after filled).1 = bytes
  error_iff : ∀ stop, outcome filled = .error stop ↔ outcome got = .error stop
  zeros : ∀ e, outcome filled = .error (.error e) → ∀ byte ∈ (after filled).1, byte = 0

theorem fills_fillRandom (anchor : Anchor ω σ) (buffer : Bytes) (state : Context σ × ω) :
    Fills buffer (getRandom anchor buffer.length state) (fillRandom anchor (buffer, state)) := by
  unfold fillRandom
  cases ran : getRandom anchor buffer.length state with
  | ok random later =>
    have fits := length_of_getRandom ran
    simp only [ran, fits, if_true]
    exact {
      left := rfl
      length := fits
      ok_iff := by simp
      whole := by simp
      error_iff := by simp
      zeros := by simp }
  | error stop later =>
    cases stop with
    | error e =>
      simp only [ran]
      exact {
        left := rfl
        length := Bytes.length_zeros buffer.length
        ok_iff := by simp
        whole := by simp
        error_iff := by simp
        zeros := fun _ _ _ member => List.eq_of_mem_replicate member }
    | crash =>
      simp only [ran]
      exact {
        left := rfl
        length := rfl
        ok_iff := by simp
        whole := by simp
        error_iff := by simp
        zeros := by simp }

/-- Whatever the state of the context, the trust anchor and the buffer are: filling the buffer succeeds
exactly when getting as many random bytes does, makes the same calls to the anchor and leaves the same
context.  The buffer is as long as before.  It holds exactly the bytes that are got, or after an error
nothing but zeros: a poisoned lock, a closed context, want of memory, and a fault or an empty answer at any
request after any bytes.  Neither call crashes unless a request for random bytes does. -/
theorem fillRandom_whole_or_zeros (inner : Anchor ω σ) (buffer : Bytes)
    (state : Context (Recorded.Session σ) × Recorded.World ω) :
    let anchor := Recorded.anchor inner
    let got := getRandom anchor buffer.length state
    let log := requests anchor buffer.length state
    Fills buffer got (fillRandom anchor (buffer, state)) ∧
      Asks anchor.reserve buffer.length state.1 log (outcome got) ∧
      (after got).2.events = state.2.events ++
        state.1.session.elim [] fun session => Recorded.requested session.number log :=
  ⟨fills_fillRandom _ buffer state, asks_getRandom _ buffer.length state,
    events_getRandom inner buffer.length state⟩

end Context
end TrustAnchor
