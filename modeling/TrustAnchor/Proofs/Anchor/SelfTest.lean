import TrustAnchor.Proofs.Anchor.Malformed
import TrustAnchor.Proofs.Tpm.SessionReply

/-!
The verdict of a self test.

Three codes decide, each of them in a layer of its own.  The code of the first response may be that of a TPM
which is still testing; the code of the second one may not, and the result in its data has to be zero.  `AcceptsTest`
and `BringsResult` say by the bytes of an answer what it has to be, and `selfTest_verdict` holds for every pair of
answers: how the call ends, which commands are sent for it, and that the context is left as it was.
-/

namespace TrustAnchor

open Act Wire

variable {ω : Type}

namespace Tpm

variable {channel : Channel ω}

/-! ## Answers -/

/-- The answer to a SelfTest command is a response that says that the TPM has done it, or is still at it. -/
def AcceptsTest (answer : Except Fault Bytes) : Prop :=
  ∃ received, answer = .ok received ∧ Response.Framed received ∧
    (Response.codeField received = 0 ∨ Response.codeField received = 0x90A)

/-- The vendor's string, of any length, and the result.  Anything may follow. -/
inductive ResultForm (result : UInt32) : Bytes → Prop
  | intro {vendor front : Bytes} (sized : SizedForm vendor front) (rest : Bytes) :
      ResultForm result (front ++ Bytes.ofU32 result ++ rest)

/-- The answer to a GetTestResult command is a successful response with this result in it. -/
def BringsResult (answer : Except Fault Bytes) (result : UInt32) : Prop :=
  ∃ received, answer = .ok received ∧ Response.Framed received ∧ Response.codeField received = 0 ∧
    ResultForm result (Response.dataField received)

/-! ## The two commands -/

theorem bytes_selfTestCommand :
    (selfTestCommand true).bytes = [0x80, 0x01, 0, 0, 0, 11, 0, 0, 0x01, 0x43, 0x01] := by
  decide

theorem bytes_testResultCommand :
    testResultCommand.bytes = [0x80, 0x01, 0, 0, 0, 10, 0, 0, 0x01, 0x7c] := by
  decide

theorem judged_ok_iff {σ : Type} {response : Response} {s t : σ} :
    (if ResponseCode.ofCode response.code = .testing then pure ()
      else Act.during (.command .selfTest) response.ensureSuccess : Act Fault σ Unit) s = .ok () t ↔
        t = s ∧ (response.code = 0 ∨ response.code = 0x90A) := by
  have meaning : ResponseCode.ofCode response.code = .testing ↔ response.code = 0x90A :=
    ResponseCode.ofCode_eq_iff (by decide : ResponseCode.testing ≠ .failure)
  by_cases testing : ResponseCode.ofCode response.code = .testing
  · rw [if_pos testing]
    constructor
    · intro ran
      cases ran
      exact ⟨rfl, .inr (meaning.mp testing)⟩
    · intro h
      rw [h.1]
      rfl
  · rw [if_neg testing, during_eq_ok_iff, ensureSuccess_ok_iff]
    constructor
    · intro h
      exact ⟨h.1, .inl h.2⟩
    · intro h
      rcases h with ⟨state, good | busy⟩
      · exact ⟨state, good⟩
      · exact absurd (meaning.mpr busy) testing

theorem selfTest_ok_iff {full : Bool} {machine later : Machine ω} :
    selfTest channel full machine = .ok () later ↔
      later = machine.exchanged channel (selfTestCommand full).bytes ∧
        AcceptsTest (channel.answer (selfTestCommand full).bytes machine.world) := by
  constructor
  · intro ran
    rcases bind_eq_ok_iff.mp ran with ⟨response, left, executed, judged⟩
    rcases judged_ok_iff.mp judged with ⟨rfl, code⟩
    rcases execute_ok_iff.mp executed with ⟨state, received, came, framed, -, code_eq, -⟩
    rw [code_eq] at code
    exact ⟨state, received, came, framed, code⟩
  · intro h
    rcases h with ⟨state, received, came, framed, code⟩
    rcases framed.known with ⟨tag, known⟩
    have executed : execute channel (selfTestCommand full) machine =
        .ok ⟨tag, Response.codeField received, Response.dataField received⟩ later :=
      execute_ok_iff.mpr ⟨state, received, came, framed, Tag.code_of_ofCode? known, rfl, rfl⟩
    rw [selfTest]
    show (execute channel (selfTestCommand full) >>= _) machine = _
    rw [bind_ok executed]
    exact judged_ok_iff.mpr ⟨rfl, code⟩

theorem getTestResult_ok_iff {machine later : Machine ω} {result : UInt32} :
    (∃ vendor, getTestResult channel machine = .ok (vendor, result) later) ↔
      later = machine.exchanged channel testResultCommand.bytes ∧
        BringsResult (channel.answer testResultCommand.bytes machine.world) result := by
  constructor
  · intro h
    rcases h with ⟨vendor, ran⟩
    rcases bind_eq_ok_iff.mp ran with ⟨response, left, performed, read⟩
    rcases perform_ok_iff.mp performed with ⟨executed, good⟩
    rcases execute_ok_iff.mp executed with ⟨state, received, came, framed, -, code_eq, data_eq⟩
    rcases decodes_readTestResult.within_ok_iff.mp read with ⟨rfl, form, rest, ⟨fits, written⟩, split⟩
    have result_form : ResultForm result (Response.dataField received) := by
      rw [← data_eq, split, written]
      exact .intro (sizedForm_iff.mpr ⟨fits, rfl⟩) rest
    exact ⟨state, received, came, framed, code_eq ▸ good, result_form⟩
  · intro h
    rcases h with ⟨state, received, came, framed, good, form⟩
    generalize data_eq : Response.dataField received = data at form
    cases form with
    | @intro vendor front sized rest =>
      rcases sizedForm_iff.mp sized with ⟨fits, written⟩
      rcases framed.known with ⟨tag, known⟩
      have executed : execute channel testResultCommand machine =
          .ok ⟨tag, Response.codeField received, front ++ Bytes.ofU32 result ++ rest⟩ later :=
        execute_ok_iff.mpr ⟨state, received, came, framed, Tag.code_of_ofCode? known, rfl, data_eq.symm⟩
      refine ⟨vendor, ?_⟩
      show (perform channel testResultCommand _ >>= _) machine = _
      rw [bind_ok (perform_ok_iff.mpr ⟨executed, good⟩)]
      refine decodes_readTestResult.within_ok_iff.mpr ⟨rfl, _, rest, ⟨fits, rfl⟩, ?_⟩
      rw [written]

end Tpm

namespace Context

/-! ## The result -/

section PassSelfTest

variable {σ : Type} {anchor : Anchor ω σ} {s t : σ × ω}

theorem passSelfTest_of_ok {code : UInt32} (gave : anchor.selfTest s = .ok code t) :
    passSelfTest anchor s =
      if code = 0 then .ok () t else .error (.error (Fault.of (.selfTestFailed code))) t := by
  rw [passSelfTest, bind_ok gave]
  by_cases zero : code = 0
  · rw [if_pos zero, if_neg (not_not_intro zero)]
    rfl
  · rw [if_neg zero, if_pos zero]
    rfl

theorem passSelfTest_ok_iff : passSelfTest anchor s = .ok () t ↔ anchor.selfTest s = .ok 0 t := by
  constructor
  · intro passed
    rcases bind_eq_ok_iff.mp passed with ⟨code, left, gave, -⟩
    rw [passSelfTest_of_ok gave] at passed
    by_cases zero : code = 0
    · rw [if_pos zero] at passed
      cases passed
      rw [← zero]
      exact gave
    · rw [if_neg zero] at passed
      cases passed
  · intro gave
    rw [passSelfTest_of_ok gave, if_pos rfl]

theorem returned_passSelfTest (returned : Returned (anchor.selfTest s)) :
    Returned (passSelfTest anchor s) := by
  refine returned_bind returned fun code later _ => ?_
  by_cases zero : code = 0
  · rw [if_neg (not_not_intro zero)]
    trivial
  · rw [if_pos zero]
    trivial

theorem after_passSelfTest (anchor : Anchor ω σ) (s : σ × ω) :
    after (passSelfTest anchor s) = after (anchor.selfTest s) := by
  refine after_bind_still _ (fun code => ?_) s
  by_cases zero : code = 0
  · rw [if_neg (not_not_intro zero)]
    exact still_pure ()
  · rw [if_pos zero]
    exact still_fail _

end PassSelfTest

/-! ## The test of an open context -/

section Open

variable {σ : Type} {anchor : Anchor ω σ} {session : σ} {world : ω}

theorem selfTest_open (anchor : Anchor ω σ) (session : σ) (world : ω) :
    Context.selfTest anchor (⟨some session, false⟩, world) = stepped (passSelfTest anchor (session, world)) := by
  rw [selfTest_eq, withSession_open]

theorem selfTest_passes_iff :
    outcome (Context.selfTest anchor (⟨some session, false⟩, world)) = .ok () ↔
      ∃ later, anchor.selfTest (session, world) = .ok 0 later := by
  rw [selfTest_open]
  constructor
  · intro passed
    cases ran : passSelfTest anchor (session, world) with
    | ok _ later => exact ⟨later, passSelfTest_ok_iff.mp ran⟩
    | error stop later =>
      rw [ran] at passed
      cases stop <;> cases passed
  · intro h
    rcases h with ⟨later, gave⟩
    rw [passSelfTest_ok_iff.mpr gave]
    rfl

/-- A test that does not crash ends with success or with a fault of the anchor, and the context is open then. -/
theorem selfTest_returns (returned : Returned (anchor.selfTest (session, world))) :
    let tested := Context.selfTest anchor (⟨some session, false⟩, world)
    let left := after (anchor.selfTest (session, world))
    after tested = (⟨some left.1, false⟩, left.2) ∧
      (outcome tested = .ok () ∨ ∃ fault, outcome tested = .error (.error (.trustAnchor fault))) := by
  intro tested left
  rcases attempt_outcome (returned_passSelfTest returned) with ⟨ending, -, ended⟩
  have stepped_as := stepped_of_outcome ended
  rw [← selfTest_open, after_passSelfTest] at stepped_as
  refine ⟨stepped_as.1, ?_⟩
  cases ending with
  | ok _ => exact .inl stepped_as.2
  | error fault => exact .inr ⟨fault, stepped_as.2⟩

theorem selfTest_of_nonzero {code : UInt32} {later : σ × ω}
    (gave : anchor.selfTest (session, world) = .ok code later) (nonzero : code ≠ 0) :
    outcome (Context.selfTest anchor (⟨some session, false⟩, world)) =
      .error (.error (.trustAnchor (Fault.of (.selfTestFailed code)))) := by
  rw [selfTest_open, passSelfTest_of_ok gave, if_neg nonzero]
  rfl

end Open

end Context

namespace TpmDevice

open Tpm

namespace Connection

variable {connection : Connection ω} {machine : Machine ω}

theorem selfTest_ok_iff {result : UInt32} {later : Connection ω × Machine ω} :
    let tested := machine.exchanged connection.channel (selfTestCommand true).bytes
    selfTest (connection, machine) = .ok result later ↔
      later = (connection, tested.exchanged connection.channel testResultCommand.bytes) ∧
        AcceptsTest (connection.channel.answer (selfTestCommand true).bytes machine.world) ∧
          BringsResult (connection.channel.answer testResultCommand.bytes tested.world) result := by
  intro tested
  rw [selfTest, bind_ok (get_eq (connection, machine))]
  constructor
  · intro ran
    rcases bind_eq_ok_iff.mp ran with ⟨_, ⟨first, middle⟩, accepted, rest⟩
    rcases bind_eq_ok_iff.mp rest with ⟨⟨vendor, code⟩, ⟨second, last⟩, gave, finished⟩
    rcases onSecond_eq_ok_iff.mp accepted with ⟨accepted, same⟩
    rcases onSecond_eq_ok_iff.mp gave with ⟨gave, same'⟩
    cases finished
    rcases Tpm.selfTest_ok_iff.mp accepted with ⟨middle_eq, accepts⟩
    cases middle_eq
    rcases getTestResult_ok_iff.mp ⟨vendor, gave⟩ with ⟨last_eq, reports⟩
    cases last_eq
    cases same
    cases same'
    exact ⟨rfl, accepts, reports⟩
  · intro h
    rcases h with ⟨rfl, accepts, reports⟩
    have accepted : Tpm.selfTest connection.channel true machine = .ok () tested :=
      Tpm.selfTest_ok_iff.mpr ⟨rfl, accepts⟩
    rcases getTestResult_ok_iff.mpr ⟨rfl, reports⟩ with ⟨vendor, gave⟩
    show (onSecond (Tpm.selfTest connection.channel true) >>= _) (connection, machine) = _
    rw [bind_ok (onSecond_of_ok accepted), bind_ok (onSecond_of_ok gave)]
    rfl

/-- The result is asked for exactly when the test was accepted. -/
theorem left_by_selfTest (connection : Connection ω) (machine : Machine ω) :
    let accepted := AcceptsTest (connection.channel.answer (selfTestCommand true).bytes machine.world)
    let tested := machine.exchanged connection.channel (selfTestCommand true).bytes
    accepted ∧ after (selfTest (connection, machine)) =
        (connection, tested.exchanged connection.channel testResultCommand.bytes) ∨
      ¬ accepted ∧ after (selfTest (connection, machine)) = (connection, tested) := by
  intro accepted tested
  by_cases accepts : accepted
  · have passed : Tpm.selfTest connection.channel true machine = .ok () tested :=
      Tpm.selfTest_ok_iff.mpr ⟨rfl, accepts⟩
    exact .inl ⟨accepts, after_selfTest_of_ok passed⟩
  · refine .inr ⟨accepts, ?_⟩
    have left := Tpm.after_selfTest connection.channel true machine
    cases ran : Tpm.selfTest connection.channel true machine with
    | ok _ later => exact absurd (Tpm.selfTest_ok_iff.mp ran).2 accepts
    | error stop later =>
      rw [ran, after_error] at left
      rw [after_selfTest_of_error ran, left]

end Connection

/-- What becomes of a self test on an open context, by what comes back for the two commands. -/
structure Verdict (connection : Connection ω) (machine : Machine ω) (first second : Exchange)
    (tested : EStateM.Result (Stop Error) (Context (Connection ω) × Machine ω) Unit) : Prop where
  passed_iff : outcome tested = .ok () ↔ AcceptsTest first.answer ∧ BringsResult second.answer 0
  failed : ¬ (AcceptsTest first.answer ∧ BringsResult second.answer 0) →
    ∃ fault, outcome tested = .error (.error (.trustAnchor fault))
  /-- A result other than zero is what the error is about. -/
  nonzero : ∀ result, AcceptsTest first.answer → BringsResult second.answer result → result ≠ 0 →
    outcome tested = .error (.error (.trustAnchor (Fault.of (.selfTestFailed result))))
  /-- The second command follows an answer that accepts the first; none is sent twice. -/
  sent : AcceptsTest first.answer ∧ (after tested).2.transcript = machine.transcript ++ [first, second] ∨
    ¬ AcceptsTest first.answer ∧ (after tested).2.transcript = machine.transcript ++ [first]
  kept : (after tested).1 = ⟨some connection, false⟩

/-- A self test succeeds if and only if the TPM has accepted it, and the result that it then reports is zero.
Whatever the two answers are, there is nothing between that and an error of the trust anchor, the result is asked
for exactly when the test was accepted, and the session stays open as it was.  That the lock is not poisoned is no
restriction: no run poisons it. -/
theorem selfTest_verdict (reserve : Allocator) (dial : Option String → EStateM Fault ω (Channel ω))
    (settings : TpmDevice) (connection : Connection ω) (machine : Machine ω) :
    let channel := connection.channel
    let test : Bytes := [0x80, 0x01, 0, 0, 0, 11, 0, 0, 0x01, 0x43, 0x01]
    let ask : Bytes := [0x80, 0x01, 0, 0, 0, 10, 0, 0, 0x01, 0x7c]
    Verdict connection machine ⟨test, channel.answer test machine.world⟩
        ⟨ask, channel.answer ask (channel.next test machine.world)⟩
        (Context.selfTest (anchor reserve dial settings) (⟨some connection, false⟩, machine)) ∧
      ∀ calls, (Context.run (anchor reserve dial settings) calls (.closed, machine)).1.poisoned = false := by
  intro channel test ask
  have calm := calm_anchor reserve dial settings
  have test_eq : test = (selfTestCommand true).bytes := bytes_selfTestCommand.symm
  have ask_eq : ask = testResultCommand.bytes := bytes_testResultCommand.symm
  have ends := Context.selfTest_returns (calm.selfTest (connection, machine))
  have gives : ∀ result, (∃ later, Connection.selfTest (connection, machine) = .ok result later) ↔
      AcceptsTest (channel.answer test machine.world) ∧
        BringsResult (channel.answer ask (channel.next test machine.world)) result := by
    intro result
    rw [test_eq, ask_eq]
    constructor
    · intro h
      rcases h with ⟨later, gave⟩
      exact (Connection.selfTest_ok_iff.mp gave).2
    · intro h
      exact ⟨_, Connection.selfTest_ok_iff.mpr ⟨rfl, h⟩⟩
  have passed_iff :
      outcome (Context.selfTest (anchor reserve dial settings) (⟨some connection, false⟩, machine)) = .ok () ↔
      AcceptsTest (channel.answer test machine.world) ∧
        BringsResult (channel.answer ask (channel.next test machine.world)) 0 := by
    rw [Context.selfTest_passes_iff]
    exact gives 0
  refine ⟨⟨passed_iff, ?failed, ?nonzero, ?sent, ?kept⟩, fun calls => Context.unpoisoned_run calm calls rfl⟩
  case failed =>
    intro other
    rcases ends.2 with passed | failed
    · exact absurd (passed_iff.mp passed) other
    · exact failed
  case nonzero =>
    intro result accepts reports nonzero
    rcases (gives result).mpr ⟨accepts, reports⟩ with ⟨later, gave⟩
    exact Context.selfTest_of_nonzero gave nonzero
  case sent =>
    rw [ends.1, test_eq, ask_eq]
    rcases Connection.left_by_selfTest connection machine with ⟨accepts, left⟩ | ⟨refuses, left⟩
    · refine .inl ⟨accepts, ?_⟩
      show (after (Connection.selfTest (connection, machine))).2.transcript = _
      rw [left]
      exact List.append_assoc _ _ _
    · refine .inr ⟨refuses, ?_⟩
      show (after (Connection.selfTest (connection, machine))).2.transcript = _
      rw [left]
      rfl
  case kept =>
    rw [ends.1]
    show Context.mk (some (after (Connection.selfTest (connection, machine))).1) false = _
    rcases Connection.left_by_selfTest connection machine with ⟨-, left⟩ | ⟨-, left⟩
    · rw [left]
    · rw [left]

/-- A TPM is still testing when it is first asked, and then has tested itself well: it passes.  If it is still
testing when it is asked for the result, it does not. -/
theorem selfTest_verdict_testing :
    let testing : Bytes := [0x80, 0x01, 0, 0, 0, 10, 0, 0, 0x09, 0x0a]
    let well : Bytes := [0x80, 0x01, 0, 0, 0, 18, 0, 0, 0, 0, 0, 2, 0xab, 0xcd, 0, 0, 0, 0]
    let settings : TpmDevice := ⟨none, .both 0x81000001, none⟩
    let test := fun replies : Replies => Context.selfTest
      (anchor Memory.reserve (fun _ => pure scriptedChannel) settings)
      (⟨some Connection.scripted, false⟩, .new replies (.ofBytes []))
    outcome (test [.ok testing, .ok well]) = .ok () ∧
      ∃ fault, outcome (test [.ok testing, .ok testing]) = .error (.error (.trustAnchor fault)) := by
  intro testing well settings test
  have accepts : AcceptsTest (.ok testing) := ⟨testing, rfl, ⟨by decide, by decide, by decide, by decide⟩, by decide⟩
  have vendor : SizedForm [0xab, 0xcd] [0, 2, 0xab, 0xcd] := .intro 2 rfl
  have data : ResultForm 0 [0, 2, 0xab, 0xcd, 0, 0, 0, 0] := .intro vendor []
  have reports : BringsResult (.ok well) 0 :=
    ⟨well, rfl, ⟨by decide, by decide, by decide, by decide⟩, by decide, data⟩
  have no_result : ¬ BringsResult (.ok testing) 0 := by
    intro h
    rcases h with ⟨received, same, -, good, -⟩
    cases same
    exact absurd good (by decide)
  have verdict := fun replies : Replies =>
    (selfTest_verdict Memory.reserve (fun _ => pure scriptedChannel) settings Connection.scripted
      (.new replies (.ofBytes []))).1
  exact ⟨(verdict [.ok testing, .ok well]).passed_iff.mpr ⟨accepts, reports⟩,
    (verdict [.ok testing, .ok testing]).failed fun passes => no_result passes.2⟩

end TpmDevice
end TrustAnchor
