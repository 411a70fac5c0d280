import TrustAnchor.Proofs.Tpm.Header

/-!
One command and what it does to the machine.

Whatever an operation makes of the answer, all that it leaves behind on the machine is the exchange of its
command (`Machine.exchanged`).  Whether it goes on after that depends on `success?`, the response that came
back if there was one and it reports success: `perform_of_some` and `perform_of_none` are the two cases.
-/

namespace TrustAnchor

open Act Wire

variable {ω : Type}

namespace Channel

/-- What comes back for a command. -/
def answer (channel : Channel ω) (command : Bytes) (world : ω) : Except Fault Bytes :=
  match channel.transmit command world with
  | .ok reply _ => .ok reply
  | .error fault _ => .error fault

/-- The world after a command. -/
def next (channel : Channel ω) (command : Bytes) (world : ω) : ω :=
  match channel.transmit command world with
  | .ok _ world => world
  | .error _ world => world

end Channel

namespace Machine

def drawn (n : Nat) (machine : Machine ω) : Machine ω :=
  { machine with entropy := machine.entropy.advance n }

/-- The machine after a command. -/
def exchanged (channel : Channel ω) (command : Bytes) (machine : Machine ω) : Machine ω where
  world := channel.next command machine.world
  entropy := machine.entropy
  transcript := machine.transcript ++ [⟨command, channel.answer command machine.world⟩]

theorem exchange_of_ok {channel : Channel ω} {command reply : Bytes} {machine : Machine ω}
    (h : channel.answer command machine.world = .ok reply) :
    exchange channel command machine = .ok reply (machine.exchanged channel command) := by
  unfold Channel.answer at h
  unfold exchange exchanged Channel.answer Channel.next
  cases ran : channel.transmit command machine.world with
  | ok reply' world =>
    rw [ran] at h
    cases h
    rfl
  | error fault world =>
    rw [ran] at h
    cases h

theorem exchange_of_error {channel : Channel ω} {command : Bytes} {fault : Fault} {machine : Machine ω}
    (h : channel.answer command machine.world = .error fault) :
    exchange channel command machine = .error (.error fault) (machine.exchanged channel command) := by
  unfold Channel.answer at h
  unfold exchange exchanged Channel.answer Channel.next
  cases ran : channel.transmit command machine.world with
  | ok reply world =>
    rw [ran] at h
    cases h
  | error fault' world =>
    rw [ran] at h
    cases h
    rfl

theorem after_exchange (channel : Channel ω) (command : Bytes) (machine : Machine ω) :
    after (exchange channel command machine) = machine.exchanged channel command := by
  cases h : channel.answer command machine.world with
  | ok reply => rw [exchange_of_ok h, after_ok]
  | error fault => rw [exchange_of_error h, after_error]

/-- The command was sent between two states of a machine. -/
def SentBetween (before later : Machine ω) (command : Bytes) : Prop :=
  ∃ traffic, later.transcript = before.transcript ++ traffic ∧
    ∃ exchange ∈ traffic, exchange.command = command

theorem sentBetween_exchanged_iff {channel : Channel ω} {before machine : Machine ω}
    {sent command : Bytes} (same : machine.transcript = before.transcript) :
    SentBetween before (machine.exchanged channel sent) command ↔ sent = command := by
  constructor
  · rintro ⟨traffic, grown, exchange, member, rfl⟩
    rw [exchanged, same] at grown
    rw [← List.append_cancel_left grown, List.mem_singleton] at member
    rw [member]
  · rintro rfl
    exact ⟨_, by rw [exchanged, same], _, List.mem_singleton_self _, rfl⟩

theorem sentBetween_exchanged {before machine : Machine ω} {traffic : List Exchange}
    (grown : machine.transcript = before.transcript ++ traffic) (channel : Channel ω) (command : Bytes) :
    SentBetween before (machine.exchanged channel command) command := by
  let last : Exchange := ⟨command, channel.answer command machine.world⟩
  refine ⟨traffic ++ [last], ?_, last, ?_, rfl⟩
  · rw [exchanged, grown, List.append_assoc]
  · exact List.mem_append_right _ (List.mem_singleton_self _)

end Machine

namespace Tpm

/-! ## Answers that report success -/

/-- The response in what came back, if it reports success. -/
def success? : Except Fault Bytes → Option Response
  | .error _ => none
  | .ok reply => (value? (Response.parse reply)).filter (·.isSuccess)

/-- An answer reports success if it begins with a response that has code zero. -/
theorem success?_eq_some_iff {answer : Except Fault Bytes} {response : Response} :
    success? answer = some response ↔ response.code = 0 ∧
      headerLength + response.data.length < 4294967296 ∧
        ∃ padding, answer = .ok (response.bytes ++ padding) := by
  cases answer with
  | error fault =>
    constructor
    · intro h
      cases h
    · rintro ⟨-, -, padding, h⟩
      cases h
  | ok reply =>
    rw [success?, Option.filter_eq_some_iff, value?_eq_some_iff, Response.parse_ok_iff]
    constructor
    · rintro ⟨⟨-, fits, padding, rfl⟩, good⟩
      exact ⟨beq_iff_eq.mp good, fits, padding, rfl⟩
    · rintro ⟨code, fits, padding, h⟩
      cases h
      exact ⟨⟨rfl, fits, padding, rfl⟩, beq_iff_eq.mpr code⟩

/-! ## Executing a command -/

variable {channel : Channel ω} {command : Command} {machine : Machine ω}

theorem execute_eq (channel : Channel ω) (command : Command) (machine : Machine ω) :
    execute channel command machine =
      (Machine.exchange channel command.bytes >>= Response.parse) machine :=
  bind_ok (command.sealed_eq machine)

theorem after_execute (channel : Channel ω) (command : Command) (machine : Machine ω) :
    after (execute channel command machine) = machine.exchanged channel command.bytes := by
  rw [execute_eq, after_bind_still _ Response.still_parse, Machine.after_exchange]

theorem still_ensureSuccess {σ : Type} (response : Response) :
    Still (response.ensureSuccess : Act Fault σ Unit) := by
  unfold Response.ensureSuccess
  by_cases good : response.isSuccess = true
  · rw [if_pos good]
    exact still_pure ()
  · rw [if_neg good]
    exact still_fail _

theorem perform_of_some (activity : Activity) (machine : Machine ω) {response : Response}
    (h : success? (channel.answer command.bytes machine.world) = some response) :
    perform channel command activity machine =
      .ok response (machine.exchanged channel command.bytes) := by
  obtain ⟨code, fits, padding, came⟩ := success?_eq_some_iff.mp h
  have good : response.isSuccess = true := beq_iff_eq.mpr code
  have ran : execute channel command machine =
      .ok response (machine.exchanged channel command.bytes) := by
    rw [execute_eq, bind_ok (Machine.exchange_of_ok came)]
    exact Response.parse_ok_iff.mpr ⟨rfl, fits, padding, rfl⟩
  rw [perform, bind_ok ran, Response.ensureSuccess, if_pos good]
  rfl

theorem perform_of_error (activity : Activity) {fault : Fault}
    (came : channel.answer command.bytes machine.world = .error fault) :
    perform channel command activity machine =
      .error (.error fault) (machine.exchanged channel command.bytes) := by
  rw [perform, bind_error]
  rw [execute_eq, bind_error (Machine.exchange_of_error came)]

theorem perform_of_none (activity : Activity) (machine : Machine ω)
    (h : success? (channel.answer command.bytes machine.world) = none) :
    ∃ fault, perform channel command activity machine =
      .error (.error fault) (machine.exchanged channel command.bytes) := by
  cases came : channel.answer command.bytes machine.world with
  | error fault => exact ⟨fault, perform_of_error activity came⟩
  | ok reply =>
    let later := machine.exchanged channel command.bytes
    have ran : execute channel command machine = Response.parse reply later := by
      rw [execute_eq, bind_ok (Machine.exchange_of_ok came)]
    by_cases parsed : ∃ response, Response.parse reply later = .ok response later
    · obtain ⟨response, parsed⟩ := parsed
      obtain ⟨-, fits, padding, rfl⟩ := Response.parse_ok_iff.mp parsed
      have bad : ¬ response.isSuccess = true := by
        intro good
        have := success?_eq_some_iff.mpr ⟨beq_iff_eq.mp good, fits, padding, came⟩
        rw [h] at this
        cases this
      refine ⟨(Fault.of (.rejected response.code)).during activity, ?_⟩
      rw [perform, bind_ok (ran.trans parsed), Response.ensureSuccess, if_neg bad]
      rfl
    · obtain ⟨fault, failed⟩ := reports_of_not_ok (Response.still_parse reply)
        (Response.returned_parse reply later) fun response later' parsed' => by
          obtain ⟨rfl, -⟩ := Response.parse_ok_iff.mp parsed'
          exact parsed ⟨response, parsed'⟩
      refine ⟨fault, ?_⟩
      rw [perform, bind_error (ran.trans failed)]

theorem after_perform (channel : Channel ω) (command : Command) (activity : Activity)
    (machine : Machine ω) :
    after (perform channel command activity machine) = machine.exchanged channel command.bytes := by
  cases h : success? (channel.answer command.bytes machine.world) with
  | some response => rw [perform_of_some _ _ h, after_ok]
  | none =>
    obtain ⟨fault, failed⟩ := perform_of_none activity machine h
    rw [failed, after_error]

theorem returned_perform (channel : Channel ω) (command : Command) (activity : Activity)
    (machine : Machine ω) : Returned (perform channel command activity machine) := by
  cases h : success? (channel.answer command.bytes machine.world) with
  | some response =>
    rw [perform_of_some _ _ h]
    trivial
  | none =>
    obtain ⟨fault, failed⟩ := perform_of_none activity machine h
    rw [failed]
    trivial

/-- An operation that only looks at the response leaves its exchange behind, and nothing else. -/
theorem after_perform_bind {α : Type} {activity : Activity} {next : Response → Act Fault (Machine ω) α}
    (still : ∀ response, Still (next response)) :
    after ((perform channel command activity >>= next) machine) =
      machine.exchanged channel command.bytes := by
  rw [after_bind_still _ still, after_perform]

/-! ## Commands that succeed -/

theorem execute_ok_iff {later : Machine ω} {response : Response} :
    execute channel command machine = .ok response later ↔
      later = machine.exchanged channel command.bytes ∧
        ∃ received, channel.answer command.bytes machine.world = .ok received ∧ Response.Framed received ∧
          response.tag.code = Response.tagField received ∧ response.code = Response.codeField received ∧
            response.data = Response.dataField received := by
  rw [execute_eq]
  cases came : channel.answer command.bytes machine.world with
  | error fault =>
    rw [bind_error (Machine.exchange_of_error came)]
    constructor
    · intro ran
      cases ran
    · intro h
      rcases h with ⟨-, received, same, -⟩
      cases same
  | ok received =>
    rw [bind_ok (Machine.exchange_of_ok came), Response.parse_ok_iff_fields]
    constructor
    · intro h
      exact ⟨h.1, received, rfl, h.2⟩
    · intro h
      rcases h with ⟨state, _, same, fields⟩
      cases same
      exact ⟨state, fields⟩

theorem ensureSuccess_ok_iff {σ : Type} {response : Response} {s t : σ} :
    response.ensureSuccess s = .ok () t ↔ t = s ∧ response.code = 0 := by
  unfold Response.ensureSuccess
  by_cases good : response.isSuccess = true
  · rw [if_pos good]
    constructor
    · intro ran
      cases ran
      exact ⟨rfl, beq_iff_eq.mp good⟩
    · intro h
      rw [h.1]
      rfl
  · rw [if_neg good]
    constructor
    · intro ran
      cases ran
    · intro h
      exact absurd (beq_iff_eq.mpr h.2) good

theorem perform_ok_iff {activity : Activity} {later : Machine ω} {response : Response} :
    perform channel command activity machine = .ok response later ↔
      execute channel command machine = .ok response later ∧ response.code = 0 := by
  constructor
  · intro ran
    rcases bind_eq_ok_iff.mp ran with ⟨other, left, executed, rest⟩
    rcases bind_eq_ok_iff.mp rest with ⟨_, _, ensured, last⟩
    cases last
    rcases ensureSuccess_ok_iff.mp (during_eq_ok_iff.mp ensured) with ⟨rfl, good⟩
    exact ⟨executed, good⟩
  · intro h
    have ensured : during activity response.ensureSuccess later = .ok () later :=
      during_eq_ok_iff.mpr (ensureSuccess_ok_iff.mpr ⟨rfl, h.2⟩)
    rw [perform, bind_ok h.1, bind_ok ensured]
    rfl

/-! ## The operations without a session -/

def flushCommand (handle : Handle) : Command := .plain .flushContext [.u32 handle]

def randomCommand (n : UInt16) : Command := .plain .getRandom [.u16 n]

def readPublicCommand (handle : Handle) : Command := .plain .readPublic [.u32 handle]

def selfTestCommand (full : Bool) : Command := .plain .selfTest [.u8 (if full then 1 else 0)]

def testResultCommand : Command := .plain .getTestResult []

/-- A FlushContext command byte by byte. -/
theorem bytes_flushCommand (handle : Handle) : (flushCommand handle).bytes =
    [0x80, 0x01, 0x00, 0x00, 0x00, 0x0e, 0x00, 0x00, 0x01, 0x65] ++ Bytes.ofU32 handle := by
  have split : (flushCommand handle).bytes =
      Bytes.ofU16 Tag.noSessions.code ++ Bytes.ofU32 (UInt32.ofNat 14) ++
        Bytes.ofU32 CommandCode.flushContext.code ++ Bytes.ofU32 handle := rfl
  rw [split]
  rfl

theorem after_flushContext (channel : Channel ω) (handle : Handle) (machine : Machine ω) :
    after (flushContext channel handle machine) =
      machine.exchanged channel (flushCommand handle).bytes :=
  after_perform_bind fun _ => still_pure ()

theorem after_getRandom (channel : Channel ω) (n : UInt16) (machine : Machine ω) :
    after (getRandom channel n machine) = machine.exchanged channel (randomCommand n).bytes := by
  refine after_perform_bind fun response => still_bind (still_within _ _) fun random => ?_
  by_cases more : n.toNat < random.length
  · rw [if_pos more]
    exact still_fail _
  · rw [if_neg more]
    exact still_pure _

theorem after_readPublic (channel : Channel ω) (handle : Handle) (machine : Machine ω) :
    after (readPublic channel handle machine) =
      machine.exchanged channel (readPublicCommand handle).bytes :=
  after_perform_bind fun _ => still_bind (still_within _ _) fun _ => still_pure _

theorem after_createPrimary (channel : Channel ω) (hierarchy : Handle) (template : Template)
    (machine : Machine ω) :
    after (createPrimary channel hierarchy template machine) =
      machine.exchanged channel (createPrimaryCommand hierarchy template).bytes :=
  after_perform_bind fun response =>
    still_bind (response.still_sessionReply 1) fun _ =>
      still_bind (still_demand _) fun _ => still_bind (still_within _ _) fun _ => still_pure _

theorem after_selfTest (channel : Channel ω) (full : Bool) (machine : Machine ω) :
    after (selfTest channel full machine) = machine.exchanged channel (selfTestCommand full).bytes := by
  unfold selfTest
  rw [after_bind_still _ ?_, ← after_execute]
  · rfl
  · intro response
    by_cases testing : ResponseCode.ofCode response.code = .testing
    · rw [if_pos testing]
      exact still_pure ()
    · rw [if_neg testing]
      exact keeps_during (still_ensureSuccess response)

theorem after_getTestResult (channel : Channel ω) (machine : Machine ω) :
    after (getTestResult channel machine) = machine.exchanged channel testResultCommand.bytes :=
  after_perform_bind fun _ => still_within _ _

end Tpm
end TrustAnchor
