import Mathlib.Data.List.Forall2
import TrustAnchor.Proofs.Anchor.Connection
import TrustAnchor.Proofs.Gather

/-!
Random bytes from a TPM, command by command.

Three layers take part when random bytes are got: the gathering asks for all that is outstanding, the
connection for as much of it as one command can say, and the command checks what it is given.
`random_on_wire` says what becomes of them together, for any number of bytes and whatever the TPM replies.
A number that is too large for the field of a command must neither wrap around nor become zero, so the
commands are given byte by byte.
-/

namespace TrustAnchor

open Act Wire

variable {ω : Type}

namespace Tpm

/-! ## One command -/

/-- The random bytes that an answer brings, be they as many as were asked for or not. -/
def random? (answer : Except Fault Bytes) : Option Bytes :=
  (success? answer).bind fun response => value? (Reader.sized.within response.data)

/-- They are the first string in a successful response. -/
theorem random?_eq_some_iff {answer : Except Fault Bytes} {chunk : Bytes} :
    random? answer = some chunk ↔ chunk.length < 65536 ∧ ∃ tag rest padding,
      headerLength + (Wire.sized chunk ++ rest).length < 4294967296 ∧
        answer = .ok (Response.bytes ⟨tag, 0, Wire.sized chunk ++ rest⟩ ++ padding) := by
  unfold random?
  constructor
  · intro brought
    obtain ⟨⟨tag, code, data⟩, success, read⟩ := Option.bind_eq_some_iff.mp brought
    obtain ⟨zero, total, padding, came⟩ := success?_eq_some_iff.mp success
    obtain ⟨-, _, rest, ⟨fits, rfl⟩, split⟩ :=
      Reader.decodes_sized.within_ok_iff.mp (value?_eq_some_iff.mp read)
    subst zero split
    exact ⟨fits, tag, rest, padding, total, came⟩
  · intro ⟨fits, tag, rest, padding, total, came⟩
    refine Option.bind_eq_some_iff.mpr ⟨_, success?_eq_some_iff.mpr ⟨rfl, total, padding, came⟩, ?_⟩
    exact value?_eq_some_iff.mpr (Reader.decodes_sized.within_ok_iff.mpr ⟨rfl, _, rest, ⟨fits, rfl⟩, rfl⟩)

/-- A GetRandom command byte by byte. -/
theorem bytes_randomCommand (n : UInt16) : (randomCommand n).bytes =
    [0x80, 0x01, 0x00, 0x00, 0x00, 0x0c, 0x00, 0x00, 0x01, 0x7b] ++ Bytes.ofU16 n := by
  have split : (randomCommand n).bytes =
      Bytes.ofU16 Tag.noSessions.code ++ Bytes.ofU32 (UInt32.ofNat 12) ++
        Bytes.ofU32 CommandCode.getRandom.code ++ Bytes.ofU16 n := rfl
  rw [split]
  rfl

/-- What a command for at most `limit` bytes gives, by the bytes that its answer brings. -/
inductive Gives (limit : Nat) : Option Bytes → Except (Stop Fault) Bytes → Prop
  | fitting {chunk : Bytes} (fits : chunk.length ≤ limit) : Gives limit (some chunk) (.ok chunk)
  | excess {chunk : Bytes} (more : limit < chunk.length) :
      Gives limit (some chunk) (.error (.error (Fault.of (.excessRandom chunk.length limit))))
  | failing (fault : Fault) : Gives limit none (.error (.error fault))

theorem gives_getRandom (channel : Channel ω) (n : UInt16) (machine : Machine ω) :
    Gives n.toNat (random? (channel.answer (randomCommand n).bytes machine.world))
      (outcome (getRandom channel n machine)) := by
  let later := machine.exchanged channel (randomCommand n).bytes
  cases granted : success? (channel.answer (randomCommand n).bytes machine.world) with
  | none =>
    obtain ⟨fault, failed⟩ := perform_of_none (.command .getRandom) machine granted
    have ran : getRandom channel n machine = .error (.error fault) later := bind_error failed
    rw [ran, random?, granted]
    exact .failing fault
  | some response =>
    have performed := perform_of_some (.command .getRandom) machine granted
    rw [random?, granted, Option.bind_some]
    cases read : value? (Reader.sized.within response.data) with
    | none =>
      obtain ⟨fault, failed⟩ := within_of_none Reader.decodes_sized.returned read later
      have ran : getRandom channel n machine = .error (.error fault) later :=
        (bind_ok performed).trans (bind_error failed)
      rw [ran]
      exact .failing fault
    | some chunk =>
      have ran : getRandom channel n machine = _ :=
        (bind_ok performed).trans (bind_ok (within_of_some read later))
      rw [ran]
      by_cases more : n.toNat < chunk.length
      · rw [if_pos more]
        exact .excess more
      · rw [if_neg more]
        exact .fitting (Nat.le_of_not_lt more)

end Tpm

namespace TpmDevice
namespace Connection

open Tpm

/-! ## A gathering over the channel -/

/-- All the random bytes that came with the replies, in their order. -/
def payloads (traffic : List Exchange) : Bytes :=
  traffic.flatMap fun exchange => (random? exchange.answer).getD []

theorem payloads_cons {exchange : Exchange} {chunk : Bytes} (brought : random? exchange.answer = some chunk)
    (traffic : List Exchange) : payloads (exchange :: traffic) = chunk ++ payloads traffic := by
  rw [payloads, List.flatMap_cons, brought]
  rfl

/-- How many bytes one command asks for while so many are outstanding. -/
def share (outstanding : Nat) : Nat := min outstanding 65535

theorem toNat_share (outstanding : Nat) : (UInt16.ofNat (share outstanding)).toNat = share outstanding := by
  refine UInt16.toNat_ofNat_of_lt' ?_
  show share outstanding < 65536
  unfold share
  omega

example : (UInt16.ofNat (share 131072)).toNat = 65535 := by decide

/-- A reply that brings bytes, and no more than were asked for. -/
structure Serves (outstanding : Nat) (answer : Except Fault Bytes) (chunk : Bytes) : Prop where
  brought : random? answer = some chunk
  some_came : chunk ≠ []
  fits : chunk.length ≤ share outstanding

/-- A reply that ends the gathering with a fault: it brings nothing to be read, or too much, or no bytes. -/
inductive Refuses (outstanding : Nat) (answer : Except Fault Bytes) : Fault → Prop
  | failing (fault : Fault) (unread : random? answer = none) : Refuses outstanding answer fault
  | excess {chunk : Bytes} (brought : random? answer = some chunk)
      (more : share outstanding < chunk.length) :
      Refuses outstanding answer (Fault.of (.excessRandom chunk.length (share outstanding)))
  | empty (brought : random? answer = some []) :
      Refuses outstanding answer (Fault.of (.noRandom outstanding))

/-- The traffic of a gathering of so many bytes, and its end. -/
structure OnWire (length : Nat) (traffic : List Exchange) (ending : Except Fault Bytes) : Prop where
  /-- Every command is GetRandom, for the bytes that are outstanding or for as many as it can ask for. -/
  asked : ∀ before exchange after, traffic = before ++ exchange :: after → ∃ n : UInt16,
    exchange.command = [0x80, 0x01, 0x00, 0x00, 0x00, 0x0c, 0x00, 0x00, 0x01, 0x7b] ++ Bytes.ofU16 n ∧
      n.toNat = min (length - (payloads before).length) 65535 ∧ n ≠ 0
  /-- Only a reply that serves is followed by another command. -/
  going : ∀ before exchange after, traffic = before ++ exchange :: after → after ≠ [] →
    ∃ chunk, Serves (length - (payloads before).length) exchange.answer chunk
  /-- Bytes are given if every reply serves, and then they are all that came. -/
  whole : ∀ bytes, ending = .ok bytes → bytes = payloads traffic ∧ bytes.length = length ∧
    ∀ before exchange after, traffic = before ++ exchange :: after →
      ∃ chunk, Serves (length - (payloads before).length) exchange.answer chunk
  /-- A fault is that of the last reply. -/
  refused : ∀ fault, ending = .error fault → ∃ before last, traffic = before ++ [last] ∧
    Refuses (length - (payloads before).length) last.answer fault

theorem asked_of_command {exchange : Exchange} {outstanding : Nat} (pos : 0 < outstanding)
    (sent : exchange.command = (randomCommand (UInt16.ofNat (share outstanding))).bytes) :
    ∃ n : UInt16,
      exchange.command = [0x80, 0x01, 0x00, 0x00, 0x00, 0x0c, 0x00, 0x00, 0x01, 0x7b] ++ Bytes.ofU16 n ∧
        n.toNat = min outstanding 65535 ∧ n ≠ 0 := by
  have same := toNat_share outstanding
  refine ⟨UInt16.ofNat (share outstanding), sent.trans (bytes_randomCommand _), same, ?_⟩
  intro zero
  rw [zero, share] at same
  have none_asked : (0 : UInt16).toNat = 0 := rfl
  omega

/-- What is outstanding behind the first reply. -/
theorem outstanding_cons {n : Nat} {exchange : Exchange} {chunk : Bytes}
    (brought : random? exchange.answer = some chunk) (tail : List Exchange) :
    n - (payloads (exchange :: tail)).length = n - chunk.length - (payloads tail).length := by
  rw [payloads_cons brought, List.length_append]
  omega

theorem served_cons {n : Nat} {exchange other : Exchange} {chunk : Bytes}
    {traffic before after : List Exchange} (first : Serves n exchange.answer chunk)
    (split : exchange :: traffic = before ++ other :: after)
    (others : ∀ tail, traffic = tail ++ other :: after →
      ∃ chunk', Serves (n - chunk.length - (payloads tail).length) other.answer chunk') :
    ∃ chunk', Serves (n - (payloads before).length) other.answer chunk' := by
  cases before with
  | nil =>
    cases split
    exact ⟨chunk, first⟩
  | cons head tail =>
    cases split
    rw [outstanding_cons first.brought]
    exact others tail rfl

namespace OnWire

theorem done : OnWire 0 [] (.ok []) where
  asked before exchange after split := by cases before <;> cases split
  going before exchange after split := by cases before <;> cases split
  whole bytes given := by
    cases given
    refine ⟨rfl, rfl, ?_⟩
    intro before exchange after split
    cases before <;> cases split
  refused fault failed := by cases failed

theorem stopped {n : Nat} {exchange : Exchange} {fault : Fault}
    (sent : exchange.command = (randomCommand (UInt16.ofNat (share (n + 1)))).bytes)
    (refused : Refuses (n + 1) exchange.answer fault) : OnWire (n + 1) [exchange] (.error fault) where
  asked before other after split := by
    obtain ⟨rfl, rfl, -⟩ := split_single split
    exact asked_of_command (Nat.succ_pos n) sent
  going before other after split more := by
    obtain ⟨-, -, rfl⟩ := split_single split
    exact absurd rfl more
  whole bytes given := by cases given
  refused fault failed := by
    cases failed
    exact ⟨[], exchange, rfl, refused⟩

theorem more {n : Nat} {exchange : Exchange} {chunk : Bytes} {traffic : List Exchange}
    {ending : Except Fault Bytes}
    (sent : exchange.command = (randomCommand (UInt16.ofNat (share (n + 1)))).bytes)
    (served : Serves (n + 1) exchange.answer chunk)
    (others : OnWire (n + 1 - chunk.length) traffic ending) :
    OnWire (n + 1) (exchange :: traffic) (ending.map (chunk ++ ·)) := by
  refine ⟨?asked, ?going, ?whole, ?refused⟩
  case asked =>
    intro before other after split
    cases before with
    | nil =>
      cases split
      exact asked_of_command (Nat.succ_pos n) sent
    | cons head tail =>
      cases split
      rw [outstanding_cons served.brought]
      exact others.asked tail other after rfl
  case going =>
    intro before other after split followed
    exact served_cons served split fun tail split' => others.going tail other after split' followed
  case whole =>
    intro bytes given
    cases ending with
    | error fault => cases given
    | ok rest =>
      cases given
      obtain ⟨came, whole, all_served⟩ := others.whole rest rfl
      refine ⟨?_, ?_, ?_⟩
      · rw [payloads_cons served.brought, came]
      · have fits := served.fits
        unfold share at fits
        show (chunk ++ rest).length = n + 1
        rw [List.length_append, whole]
        omega
      · intro before other after split
        exact served_cons served split fun tail split' => all_served tail other after split'
  case refused =>
    intro fault failed
    cases ending with
    | ok rest => cases failed
    | error fault' =>
      cases failed
      obtain ⟨before, last, split, refused⟩ := others.refused fault rfl
      refine ⟨exchange :: before, last, ?_, ?_⟩
      · rw [split, List.cons_append]
      · rw [outstanding_cons served.brought]
        exact refused

end OnWire

/-! ## The requests of a gathering as commands -/

/-- What becomes of a request for random bytes on the wire. -/
structure Carries (request : Gather.Request) (exchange : Exchange) : Prop where
  sent : exchange.command = (randomCommand (UInt16.ofNat (share request.asked))).bytes
  gives : Gives (share request.asked) (random? exchange.answer) request.answer

/-- The connection stays as it is, and every request of the log becomes a command. -/
def Transmits (s : Connection ω × Machine ω) (log : List Gather.Request) (t : Connection ω × Machine ω) :
    Prop :=
  t.1 = s.1 ∧ ∃ traffic, t.2.transcript = s.2.transcript ++ traffic ∧ List.Forall₂ Carries log traffic

theorem outcome_random (limit : Nat) (connection : Connection ω) (machine : Machine ω) :
    outcome (random limit (connection, machine)) =
      outcome (getRandom connection.channel (UInt16.ofNat (share limit)) machine) := by
  rw [random, bind_ok (get_eq (connection, machine))]
  exact outcome_onSecond _ _

theorem accounts_random : Gather.Accounts (random (ω := ω)) Transmits where
  none s := ⟨rfl, [], (List.append_nil _).symm, .nil⟩
  append {s t u log others} first second := by
    obtain ⟨kept, traffic, grown, carried⟩ := first
    obtain ⟨kept', traffic', grown', carried'⟩ := second
    refine ⟨kept'.trans kept, traffic ++ traffic', ?_, List.rel_append carried carried'⟩
    rw [grown', grown, List.append_assoc]
  one n s := by
    obtain ⟨connection, machine⟩ := s
    have gives := gives_getRandom connection.channel (UInt16.ofNat (share n)) machine
    rw [toNat_share, ← outcome_random] at gives
    rw [after_random]
    exact ⟨rfl, [_], rfl, .cons ⟨rfl, gives⟩ .nil⟩

theorem Carries.refuses {request : Gather.Request} {exchange : Exchange} {stop : Stop Fault}
    (carries : Carries request exchange) (ended : request.stop? = some stop) :
    ∃ fault, stop = .error fault ∧ Refuses request.asked exchange.answer fault := by
  obtain ⟨asked, answer⟩ := request
  have gives : Gives (share asked) (random? exchange.answer) answer := carries.gives
  cases brought : random? exchange.answer with
  | none =>
    rw [brought] at gives
    cases gives with
    | failing fault =>
      cases ended
      exact ⟨fault, rfl, .failing fault brought⟩
  | some chunk =>
    rw [brought] at gives
    cases gives with
    | excess more =>
      cases ended
      exact ⟨_, rfl, .excess brought more⟩
    | fitting fits =>
      cases chunk with
      | nil =>
        cases ended
        exact ⟨_, rfl, .empty brought⟩
      | cons byte others => cases ended

theorem Carries.serves {request : Gather.Request} {exchange : Exchange} (carries : Carries request exchange)
    (going : request.stop? = none) : Serves request.asked exchange.answer request.chunk := by
  obtain ⟨asked, answer⟩ := request
  have some_came := List.ne_nil_of_length_pos (Gather.Request.chunk_pos_of_stop? going)
  have gives : Gives (share asked) (random? exchange.answer) answer := carries.gives
  cases brought : random? exchange.answer with
  | none =>
    rw [brought] at gives
    cases gives
    cases going
  | some chunk =>
    rw [brought] at gives
    cases gives with
    | excess more => cases going
    | fitting fits => exact ⟨brought, some_came, fits⟩

/-- A gathering whose requests are carried by the traffic is one on the wire. -/
theorem onWire_of_gathers {length : Nat} {log : List Gather.Request} {gathered : Except (Stop Fault) Bytes}
    {traffic : List Exchange} (derived : Gather.Gathers length log gathered)
    (carried : List.Forall₂ Carries log traffic) :
    ∃ ending : Except Fault Bytes, gathered = ending.mapError .error ∧ OnWire length traffic ending := by
  induction derived generalizing traffic with
  | done =>
    cases carried
    exact ⟨.ok [], rfl, .done⟩
  | @stopped n request stop first ended =>
    obtain ⟨exchange, traffic, carries, last, rfl⟩ := List.forall₂_cons_left_iff.mp carried
    cases last
    obtain ⟨fault, rfl, refused⟩ := carries.refuses ended
    have sent := carries.sent
    rw [first] at sent refused
    exact ⟨.error fault, rfl, .stopped sent refused⟩
  | @more n request log gathered first going others ih =>
    obtain ⟨exchange, traffic, carries, rest, rfl⟩ := List.forall₂_cons_left_iff.mp carried
    obtain ⟨ending, rfl, gathered⟩ := ih rest
    have served := carries.serves going
    have sent := carries.sent
    rw [first] at sent served
    have all_kept : request.chunk.take (n + 1) = request.chunk := by
      have fits := served.fits
      unfold share at fits
      exact List.take_of_length_le (by omega)
    refine ⟨ending.map (request.chunk ++ ·), ?_, .more sent served gathered⟩
    rw [all_kept]
    cases ending <;> rfl

end Connection

open Connection

/-- Getting random bytes through a connection, on the wire.  If memory for the bytes cannot be reserved,
nothing is sent.  Otherwise every command is a GetRandom command for what is outstanding, or for 65535 bytes
if that is more, and never for none; a reply that fails, that brings nothing or that brings more than was
asked for is the last one, and the fault is its own; and if no reply is such, what is given is all that the
replies have brought, in their order.  The context stays open and the connection as it was. -/
theorem random_on_wire (reserve : Allocator) (dial : Option String → EStateM Fault ω (Channel ω))
    (settings : TpmDevice) (connection : Connection ω) (machine : Machine ω) (length : Nat) :
    let result := Context.getRandom (anchor reserve dial settings) length (⟨some connection, false⟩, machine)
    (after result).1 = ⟨some connection, false⟩ ∧
    ∃ (traffic : List Exchange) (ending : Except Fault Bytes),
      (after result).2.transcript = machine.transcript ++ traffic ∧
      outcome result = ending.mapError (fun fault => .error (.trustAnchor fault)) ∧
      match reserve length with
      | .error e => traffic = [] ∧ ending = .error (Fault.of (.unreservable length e))
      | .ok () => OnWire length traffic ending := by
  intro result
  have result_eq : result = Context.stepped (Gather.exactly reserve random length (connection, machine)) :=
    Context.withSession_open _ _ _ _
  cases reserved : reserve length with
  | error e =>
    rw [Gather.exactly_of_error reserved] at result_eq
    rw [result_eq]
    exact ⟨rfl, [], .error _, (List.append_nil _).symm, rfl, rfl, rfl⟩
  | ok _ =>
    have derived := Gather.gathers_exactly reserved random (connection, machine)
    obtain ⟨kept, traffic, grown, carried⟩ := accounts_random.exactly reserve length (connection, machine)
    obtain ⟨ending, ended, gathered⟩ := onWire_of_gathers derived carried
    obtain ⟨left, outcome_eq⟩ := Context.stepped_of_outcome ended
    rw [result_eq, left, kept]
    exact ⟨rfl, traffic, ending, grown, outcome_eq, gathered⟩

end TpmDevice
end TrustAnchor
