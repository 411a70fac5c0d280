import TrustAnchor.Anchor.Scripted
import TrustAnchor.Proofs.Context.Keys
import TrustAnchor.Proofs.Context.Operations
import TrustAnchor.Proofs.Recorded.Conservation

/-!
What the failures of a trust anchor leave behind.

A call to the trust anchor ends with a value, with a fault or with a crash, and the context answers each of
them in its own way: after a fault the session is open as before, after a crash the lock is poisoned until
the next close, and a close that returns leaves a closed context whatever it reports.  Every state of a
context is considered, not only those that a run reaches.  The anchor is recorded, for two reasons: the
number of a session says whether it is the same one, and a state that stays as it is has no new call to the
anchor in its record.
-/

namespace TrustAnchor

open Act

namespace Gather

variable {σ : Type} {request : Nat → Act Fault σ Bytes}

/-- One of the requests of a gathering of so many bytes does not end with a value: how it ends, and what it
leaves. -/
inductive Stops (request : Nat → Act Fault σ Bytes) : Nat → σ → Stop Fault → σ → Prop
  | now {n : Nat} {s t : σ} {stop : Stop Fault} (ended : request (n + 1) s = .error stop t) :
      Stops request (n + 1) s stop t
  | later {n : Nat} {s t u : σ} {chunk : Bytes} {stop : Stop Fault}
      (answered : request (n + 1) s = .ok chunk t) (some_came : chunk.length ≠ 0)
      (others : Stops request (n + 1 - chunk.length) t stop u) : Stops request (n + 1) s stop u

/-- It is a request that ended so. -/
theorem Stops.asked {n : Nat} {s t : σ} {stop : Stop Fault} (stops : Stops request n s stop t) :
    ∃ asked earlier, request asked earlier = .error stop t := by
  induction stops with
  | now ended => exact ⟨_, _, ended⟩
  | later _ _ _ ih => exact ih

theorem collect_of_stops {n : Nat} {s t : σ} {stop : Stop Fault} (stops : Stops request n s stop t) :
    collect request n s = .error stop t := by
  induction stops with
  | now ended =>
    rw [collect]
    exact bind_error ended
  | later answered some_came others ih =>
    rw [collect, bind_ok answered, dif_neg some_came]
    exact bind_error ih

theorem exactly_of_stops {reserve : Allocator} {n : Nat} {s t : σ} {stop : Stop Fault}
    (reserved : reserve n = .ok ()) (stops : Stops request n s stop t) :
    exactly reserve request n s = .error stop t := by
  rw [exactly_of_ok reserved]
  exact collect_of_stops stops

/-- A gathering crashes only where a request does. -/
theorem stops_of_crash {n : Nat} {s t : σ} (ran : collect request n s = .error .crash t) :
    Stops request n s .crash t := by
  fun_induction collect request n generalizing s with
  | case1 => cases ran
  | case2 n ih =>
    obtain crashed | ⟨chunk, u, answered, others⟩ := bind_eq_error_iff.mp ran
    · exact .now crashed
    · by_cases empty : chunk.length = 0
      · rw [dif_pos empty] at others
        cases others
      · rw [dif_neg empty] at others
        exact .later answered empty (ih chunk empty (bind_pure_eq_error_iff.mp others))

theorem stops_of_exactly {reserve : Allocator} {n : Nat} {s t : σ}
    (ran : exactly reserve request n s = .error .crash t) :
    reserve n = .ok () ∧ Stops request n s .crash t := by
  cases reserved : reserve n with
  | error e =>
    rw [exactly_of_error reserved] at ran
    cases ran
  | ok _ =>
    rw [exactly_of_ok reserved] at ran
    exact ⟨rfl, stops_of_crash ran⟩

end Gather

namespace Recorded

variable {ω σ : Type}

/-- An attempt to connect is recorded however it ends. -/
theorem events_connect (inner : Anchor ω σ) (world : World ω) :
    ∃ opened, (after ((anchor inner).connect world)).events = world.events ++ [.connect opened] := by
  show ∃ opened, (after (connect inner.connect world)).events = world.events ++ [.connect opened]
  cases made : inner.connect world.inner with
  | ok session later =>
    rw [connect_ok made]
    exact ⟨_, rfl⟩
  | error stop later =>
    rw [connect_error made]
    exact ⟨_, rfl⟩

end Recorded

namespace Context

variable {ω σ : Type} {anchor : Anchor ω σ}

/-! ## Calls to the anchor that fail -/

namespace Call

/-- One of the calls that an operation makes on the open session does not end with a value: how it ends, and
what it leaves. -/
inductive Stops (anchor : Anchor ω σ) : Call → σ × ω → Stop Fault → σ × ω → Prop
  | hmac {slot : UInt8} {value : Bytes} {length : Nat} {request : KeyRequest} {s t : σ × ω} {stop : Stop Fault}
      (checked : KeyRequest.check slot value length = .ok request)
      (ended : anchor.hmac request.slot request.message s = .error stop t) :
      Stops anchor (.deriveKey slot value length) s stop t
  | random {length : Nat} {s t : σ × ω} {stop : Stop Fault} (reserved : anchor.reserve length = .ok ())
      (ended : Gather.Stops anchor.random length s stop t) : Stops anchor (.getRandom length) s stop t
  | fill {buffer : Bytes} {s t : σ × ω} {stop : Stop Fault} (reserved : anchor.reserve buffer.length = .ok ())
      (ended : Gather.Stops anchor.random buffer.length s stop t) : Stops anchor (.fillRandom buffer) s stop t
  | identity {s t : σ × ω} {stop : Stop Fault} (ended : anchor.identity s = .error stop t) :
      Stops anchor .getDeviceUuid s stop t
  | selfTest {s t : σ × ω} {stop : Stop Fault} (ended : anchor.selfTest s = .error stop t) :
      Stops anchor .selfTest s stop t

/-- The step of the operation ends as the call to the anchor did. -/
theorem Stops.onSession {call : Call} {s t : σ × ω} {stop : Stop Fault} (stops : call.Stops anchor s stop t) :
    ∃ operation step, call.OnSession anchor operation step ∧ step s = .error stop t := by
  cases stops with
  | hmac checked ended => exact ⟨_, _, .deriveKey checked, bind_error (bind_error ended)⟩
  | random reserved ended =>
    exact ⟨_, _, .getRandom _, bind_error (Gather.exactly_of_stops reserved ended)⟩
  | fill reserved ended =>
    exact ⟨_, _, .fillRandom _, bind_error (Gather.exactly_of_stops reserved ended)⟩
  | identity ended => exact ⟨_, _, .getDeviceUuid, bind_error (bind_error ended)⟩
  | selfTest ended => exact ⟨_, _, .selfTest, bind_error (bind_error ended)⟩

/-- The step of an operation crashes only where a call to the anchor does. -/
theorem stops_of_crash {call : Call} {operation : Operation} {step : Act Fault (σ × ω) Answer} {s t : σ × ω}
    (made : call.OnSession anchor operation step) (ran : step s = .error .crash t) :
    call.Stops anchor s .crash t := by
  cases made with
  | @deriveKey slot value length request checked =>
    obtain crashed | ⟨digest, u, _, crashed⟩ := bind_eq_error_iff.mp (bind_pure_eq_error_iff.mp ran)
    · exact .hmac checked crashed
    · have returned := returned_keyOf request digest u
      rw [crashed] at returned
      exact returned.elim
  | getRandom length =>
    obtain ⟨reserved, stops⟩ := Gather.stops_of_exactly (bind_pure_eq_error_iff.mp ran)
    exact .random reserved stops
  | fillRandom buffer =>
    obtain ⟨reserved, stops⟩ := Gather.stops_of_exactly (bind_pure_eq_error_iff.mp ran)
    exact .fill reserved stops
  | getDeviceUuid => exact .identity (bind_pure_eq_error_iff.mp (bind_pure_eq_error_iff.mp ran))
  | selfTest =>
    obtain crashed | ⟨code, u, _, judged⟩ := bind_eq_error_iff.mp (bind_pure_eq_error_iff.mp ran)
    · exact .selfTest crashed
    · by_cases failed : code ≠ 0
      · rw [if_pos failed] at judged
        cases judged
      · rw [if_neg failed] at judged
        cases judged

/-- A call to the anchor crashes, and it is made under the lock: to open a session, on the open one, or to
end it. -/
inductive Crashes (anchor : Anchor ω σ) : Call → Context σ × ω → Prop
  | connect {world later : ω} (crashed : anchor.connect world = .error .crash later) :
      Crashes anchor .connect (.closed, world)
  | onSession {call : Call} {session : σ} {world : ω} {left : σ × ω}
      (crashed : call.Stops anchor (session, world) .crash left) :
      Crashes anchor call (⟨some session, false⟩, world)
  | close {session : σ} {poisoned : Bool} {world later : ω}
      (crashed : anchor.close session world = .error .crash later) :
      Crashes anchor .close (⟨some session, poisoned⟩, world)

end Call

/-! ## What closing leaves -/

theorem close_none (anchor : Anchor ω σ) (poisoned : Bool) (world : ω) :
    Context.close anchor (⟨none, poisoned⟩, world) = .ok () (.closed, world) := rfl

theorem close_of_ok {session : σ} {world later : ω} (ended : anchor.close session world = .ok () later)
    (poisoned : Bool) :
    Context.close anchor (⟨some session, poisoned⟩, world) = .ok () (.closed, later) := by
  have out : takeOut anchor (⟨some session, poisoned⟩, world) = .ok (.ok ()) (⟨none, poisoned⟩, later) := by
    rw [takeOut_open, ended]
    rfl
  exact bind_ok out

theorem close_of_error {session : σ} {world later : ω} {f : Fault}
    (ended : anchor.close session world = .error (.error f) later) (poisoned : Bool) :
    Context.close anchor (⟨some session, poisoned⟩, world) =
      .error (.error (.trustAnchor f)) (.closed, later) := by
  have out : takeOut anchor (⟨some session, poisoned⟩, world) =
      .ok (.error f) (⟨none, poisoned⟩, later) := by
    rw [takeOut_open, ended]
    rfl
  exact bind_ok out

theorem close_of_crash {session : σ} {world later : ω}
    (ended : anchor.close session world = .error .crash later) (poisoned : Bool) :
    Context.close anchor (⟨some session, poisoned⟩, world) = .error .crash (⟨none, true⟩, later) := by
  have out : takeOut anchor (⟨some session, poisoned⟩, world) = .error .crash (⟨none, true⟩, later) := by
    rw [takeOut_open, ended]
    rfl
  exact bind_error out

theorem closed_of_returned {state : Context σ × ω} (returned : Returned (Context.close anchor state)) :
    ∃ later, after (Context.close anchor state) = (.closed, later) := by
  obtain ⟨⟨held, poisoned⟩, world⟩ := state
  cases held with
  | none => exact ⟨world, rfl⟩
  | some session =>
    cases ended : anchor.close session world with
    | ok _ later => exact ⟨later, by rw [close_of_ok ended, after_ok]⟩
    | error stop later =>
      cases stop with
      | error f => exact ⟨later, by rw [close_of_error ended, after_error]⟩
      | crash =>
        rw [close_of_crash ended] at returned
        exact returned.elim

/-! ## What a crash leaves -/

/-- Where a call to the anchor crashes, the call does, and it leaves the lock poisoned. -/
theorem perform_of_crashes {call : Call} {state : Context σ × ω} (crashes : call.Crashes anchor state) :
    ∃ left, call.perform anchor state = .error .crash left ∧ left.1.poisoned = true := by
  cases crashes with
  | @connect world later crashed =>
    have ran : Context.connect anchor (.closed, world) = .error .crash (⟨none, true⟩, later) := by
      rw [connect_closed, crashed]
      rfl
    exact ⟨_, bind_error ran, rfl⟩
  | onSession crashed =>
    obtain ⟨operation, step, made, ended⟩ := crashed.onSession
    rw [perform_open made, ended]
    exact ⟨_, rfl, rfl⟩
  | close crashed => exact ⟨_, bind_error (close_of_crash crashed _), rfl⟩

/-- A call crashes only where a call to the anchor does. -/
theorem crashes_of_perform {call : Call} {state later : Context σ × ω}
    (crashed : call.perform anchor state = .error .crash later) : call.Crashes anchor state := by
  obtain ⟨context, world⟩ := state
  cases call.form anchor with
  | connect =>
    have crashed : Context.connect anchor (context, world) = .error .crash later :=
      bind_pure_eq_error_iff.mp crashed
    obtain ⟨cause, refused⟩ | ⟨closed, made⟩ := connect_cases anchor (context, world)
    · cases refused.symm.trans crashed
    · have closed : context = .closed := closed
      subst closed
      obtain ⟨left, ran⟩ := crash_of_connected (made.symm.trans crashed)
      exact .connect ran
  | close =>
    have crashed : Context.close anchor (context, world) = .error .crash later :=
      bind_pure_eq_error_iff.mp crashed
    obtain ⟨held, poisoned⟩ := context
    cases held with
    | none => cases crashed
    | some session =>
      cases ended : anchor.close session world with
      | ok _ left => cases (close_of_ok ended poisoned).symm.trans crashed
      | error stop left =>
        cases stop with
        | error f => cases (close_of_error ended poisoned).symm.trans crashed
        | crash => exact .close ended
  | invalid checked => cases (perform_invalid anchor checked _).symm.trans crashed
  | @onSession _ operation step made =>
    have crashed : withSession operation step (context, world) = .error .crash later :=
      (perform_of_onSession made _).symm.trans crashed
    obtain ⟨cause, refused⟩ | ⟨session, held, ran⟩ := withSession_cases operation step (context, world)
    · cases refused.symm.trans crashed
    · have held : context = ⟨some session, false⟩ := held
      subst held
      obtain ⟨left, ended⟩ := crash_of_stepped (ran.symm.trans crashed)
      exact .onSession (Call.stops_of_crash made ended)

theorem poisoned_of_crashed {call : Call} {state later : Context σ × ω}
    (crashed : call.perform anchor state = .error .crash later) : later.1.poisoned = true := by
  obtain ⟨left, ran, poisoned⟩ := perform_of_crashes (crashes_of_perform crashed)
  cases ran.symm.trans crashed
  exact poisoned

/-! ## Anchors that do not crash -/

/-- No call to the anchor crashes. -/
structure Calm (anchor : Anchor ω σ) : Prop where
  connect : ∀ world, Returned (anchor.connect world)
  hmac : ∀ slot message state, Returned (anchor.hmac slot message state)
  random : ∀ limit state, Returned (anchor.random limit state)
  identity : ∀ state, Returned (anchor.identity state)
  selfTest : ∀ state, Returned (anchor.selfTest state)
  close : ∀ session world, Returned (anchor.close session world)

theorem not_crashes_of_calm (calm : Calm anchor) {call : Call} {state : Context σ × ω} :
    ¬ call.Crashes anchor state := by
  intro crashes
  cases crashes with
  | connect crashed => exact not_returned_of_crash crashed (calm.connect _)
  | close crashed => exact not_returned_of_crash crashed (calm.close _ _)
  | onSession stops =>
    cases stops with
    | hmac checked crashed => exact not_returned_of_crash crashed (calm.hmac _ _ _)
    | random reserved stops =>
      obtain ⟨asked, earlier, crashed⟩ := stops.asked
      exact not_returned_of_crash crashed (calm.random asked earlier)
    | fill reserved stops =>
      obtain ⟨asked, earlier, crashed⟩ := stops.asked
      exact not_returned_of_crash crashed (calm.random asked earlier)
    | identity crashed => exact not_returned_of_crash crashed (calm.identity _)
    | selfTest crashed => exact not_returned_of_crash crashed (calm.selfTest _)

/-- Over an anchor that does not crash, no call does. -/
theorem returned_perform (calm : Calm anchor) (call : Call) (state : Context σ × ω) :
    Returned (call.perform anchor state) := by
  cases ran : call.perform anchor state with
  | ok answer later => trivial
  | error stop later =>
    cases stop with
    | error e => trivial
    | crash => exact not_crashes_of_calm calm (crashes_of_perform ran)

theorem unpoisoned_stepped {α : Type} {result : EStateM.Result (Stop Fault) (σ × ω) α}
    (returned : Returned (stepped result)) :
    ∃ left : σ × ω, after (stepped result) = (⟨some left.1, false⟩, left.2) := by
  cases result with
  | ok a left => exact ⟨left, rfl⟩
  | error stop left =>
    cases stop with
    | error f => exact ⟨left, rfl⟩
    | crash => exact returned.elim

theorem unpoisoned_connected {result : EStateM.Result (Stop Fault) ω σ}
    (returned : Returned (connected result)) : (after (connected result)).1.poisoned = false := by
  cases result with
  | ok session left => rfl
  | error stop left =>
    cases stop with
    | error f => rfl
    | crash => exact returned.elim

/-- Nothing but a crash poisons: after a call that returns, a lock that was not poisoned still is not. -/
theorem unpoisoned_perform {call : Call} {state : Context σ × ω} (sound : state.1.poisoned = false)
    (returned : Returned (call.perform anchor state)) :
    (after (call.perform anchor state)).1.poisoned = false := by
  cases call.form anchor with
  | connect =>
    have same : after (Call.connect.perform anchor state) = after (Context.connect anchor state) :=
      after_bind_still _ (fun _ => still_pure _) state
    rw [same]
    rcases connect_cases anchor state with ⟨cause, refused⟩ | ⟨-, made⟩
    · rw [refused, after_error]
      exact sound
    · rw [made]
      refine unpoisoned_connected ?_
      rw [← made]
      exact returned_of_bind returned
  | close =>
    have same : after (Call.close.perform anchor state) = after (Context.close anchor state) :=
      after_bind_still _ (fun _ => still_pure _) state
    rcases closed_of_returned (returned_of_bind returned) with ⟨later, closed⟩
    rw [same, closed]
    rfl
  | invalid checked =>
    rw [perform_invalid anchor checked, after_error]
    exact sound
  | @onSession _ operation step made =>
    rw [perform_of_onSession made] at returned ⊢
    rcases withSession_cases operation step state with ⟨cause, refused⟩ | ⟨session, -, ran⟩
    · rw [refused, after_error]
      exact sound
    · rw [ran] at returned ⊢
      rcases unpoisoned_stepped returned with ⟨left, open_as⟩
      rw [open_as]

/-- Over an anchor that does not crash, no run poisons. -/
theorem unpoisoned_run (calm : Calm anchor) (calls : List Call) {state : Context σ × ω}
    (sound : state.1.poisoned = false) : (run anchor calls state).1.poisoned = false := by
  induction calls generalizing state with
  | nil => exact sound
  | cons call calls ih => exact ih (unpoisoned_perform sound (returned_perform calm call state))

/-! ## The discipline -/

/-- What a context does about the failures of its trust anchor. -/
structure FailureDiscipline (anchor : Anchor (Recorded.World ω) (Recorded.Session σ)) : Prop where
  /-- If no session can be opened, the context stays closed. -/
  connect_error : ∀ (world later : Recorded.World ω) (f : Fault),
    anchor.connect world = .error (.error f) later →
      Context.connect anchor (.closed, world) = .error (.error (.trustAnchor f)) (.closed, later)
  /-- A fault of a call on the open session is the end of the operation.  The same session is still open
  under a lock that is not poisoned, and the step of the next operation is made on it. -/
  operation_error : ∀ (call : Call) (session : Recorded.Session σ) (world : Recorded.World ω) (f : Fault)
    (left : Recorded.Session σ × Recorded.World ω), call.Stops anchor (session, world) (.error f) left →
      call.perform anchor (⟨some session, false⟩, world) =
        .error (.error (.trustAnchor f)) (⟨some left.1, false⟩, left.2) ∧
      left.1.number = session.number ∧
      ∀ (next : Call) (operation : Operation) step, next.OnSession anchor operation step →
        next.perform anchor (⟨some left.1, false⟩, left.2) = stepped (step left)
  /-- A crash of a call under the lock poisons it.  Until the context is closed, nothing changes, and every
  call whose arguments are valid reports the poison. -/
  crash : ∀ (call : Call) (state : Context (Recorded.Session σ) × Recorded.World ω),
    call.Crashes anchor state →
      ∃ left, call.perform anchor state = .error .crash left ∧ left.1.poisoned = true ∧
        ∀ between : List Call, Call.close ∉ between →
          let later := run anchor between left
          later = left ∧ ∀ next : Call, next ≠ .close → next.Valid →
            next.perform anchor later = .error (fault .lockPoisoned) later
  /-- A close that returns leaves the context closed, and the next attempt to connect it reaches the
  anchor. -/
  close_returned : ∀ state : Context (Recorded.Session σ) × Recorded.World ω,
    Returned (Context.close anchor state) →
      ∃ later, after (Context.close anchor state) = (.closed, later) ∧
        Context.connect anchor (.closed, later) = connected (anchor.connect later) ∧
        ∃ opened, (after (anchor.connect later)).events = later.events ++ [.connect opened]
  /-- If the end of a session crashes, the session is out of the context and the lock is poisoned until the
  next close, which calls nothing. -/
  close_crash : ∀ (session : Recorded.Session σ) (poisoned : Bool) (world left : Recorded.World ω),
    anchor.close session world = .error .crash left →
      Context.close anchor (⟨some session, poisoned⟩, world) = .error .crash (⟨none, true⟩, left) ∧
      (∀ between : List Call, Call.close ∉ between →
        run anchor between (⟨none, true⟩, left) = (⟨none, true⟩, left)) ∧
      Context.close anchor (⟨none, true⟩, left) = .ok () (.closed, left)

/-- Whatever a trust anchor does, a context keeps the discipline. -/
theorem failure_discipline (inner : Anchor ω σ) : FailureDiscipline (Recorded.anchor inner) where
  connect_error := by
    intro world later f failed
    rw [connect_closed, failed]
    rfl
  operation_error := by
    intro call session world f left stops
    obtain ⟨operation, step, made, ended⟩ := stops.onSession
    refine ⟨?_, ?_, fun next _ _ others => perform_open others left.1 left.2⟩
    · rw [perform_open made, ended]
      rfl
    · have kept := keeps_onSession (Recorded.sessionLaw_anchor inner) made (session, world)
      rw [ended] at kept
      exact kept.number
  crash := by
    intro call state crashes
    obtain ⟨left, ran, poisoned⟩ := perform_of_crashes crashes
    refine ⟨left, ran, poisoned, fun between never_closed => ?_⟩
    have stays := run_of_poisoned (Recorded.anchor inner) poisoned never_closed
    refine ⟨stays, fun next other valid => ?_⟩
    rw [stays]
    exact perform_poisoned _ poisoned other valid
  close_returned := by
    intro state returned
    obtain ⟨later, closed⟩ := closed_of_returned returned
    exact ⟨later, closed, connect_closed _ later, Recorded.events_connect inner later⟩
  close_crash := by
    intro session poisoned world left ended
    exact ⟨close_of_crash ended poisoned, fun between => run_of_poisoned _ rfl, close_none _ true left⟩

/-- A self test that fails; then either another one on the same session that crashes, or a close that does. -/
theorem failure_discipline_scripted :
    let anchor := Recorded.anchor (Scripted.anchor .simulator)
    let lost := Fault.of .sessionClosed
    let world : Recorded.World Scripted.Script := .new ⟨[], [], [], [], [.fault lost, .crash], [.crash]⟩
    let opened := after (Context.connect anchor (.closed, world))
    let failed := after (Call.selfTest.perform anchor opened)
    Call.selfTest.perform anchor opened = .error (.error (.trustAnchor lost)) failed ∧
    (∃ crashed, Call.selfTest.perform anchor failed = .error .crash crashed ∧
      run anchor [.connect, .getRandom 4] crashed = crashed ∧
      Call.getDeviceUuid.perform anchor crashed = .error (fault .lockPoisoned) crashed) ∧
    ∃ later, Context.close anchor failed = .error .crash (⟨none, true⟩, later) ∧
      run anchor [.connect, .getRandom 4] (⟨none, true⟩, later) = (⟨none, true⟩, later) ∧
      Context.close anchor (⟨none, true⟩, later) = .ok () (.closed, later) := by
  intro anchor lost world opened failed
  have discipline := failure_discipline (Scripted.anchor .simulator)
  have never_closed : Call.close ∉ [Call.connect, Call.getRandom 4] := by decide
  obtain ⟨kept, -, -⟩ := discipline.operation_error .selfTest ⟨(), 0⟩ opened.2 lost (⟨(), 0⟩, failed.2)
    (.selfTest rfl)
  obtain ⟨crashed, ran, -, after_crash⟩ := discipline.crash .selfTest failed (.onSession (.selfTest rfl))
  obtain ⟨stays, refused⟩ := after_crash _ never_closed
  have poisoned := refused .getDeviceUuid (by decide) trivial
  rw [stays] at poisoned
  obtain ⟨ended, stays', cleared⟩ := discipline.close_crash ⟨(), 0⟩ false failed.2 _ rfl
  exact ⟨kept, ⟨crashed, ran, stays, poisoned⟩, _, ended, stays' _ never_closed, cleared⟩

end Context
end TrustAnchor
