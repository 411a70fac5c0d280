import Mathlib.Data.List.Induction
import TrustAnchor.Proofs.Anchor.Identity
import TrustAnchor.Proofs.Anchor.Trace

/-!
The names of the slot keys.

A command is authorized for the name of its key, and the name is what the TPM says it is.  A connection asks
for the name of a slot key when the slot is first used, and then never again.  `names_read_once` says so for
every run: which name an HMAC command is authorized for can be read off the replies that came before it.  It
is carried by `Traced`, a history of calls in which each call follows `Looks`; the calls may come in any order
and fail in any way.
-/

namespace TrustAnchor

open Act Wire

variable {ω : Type}

namespace Tpm

/-! ## One look-up -/

/-- The name that an answer to ReadPublic brings. -/
def name? (answer : Except Fault Bytes) : Option Bytes :=
  (success? answer).bind fun response => (value? (readPublicAnswer.within response.data)).map (·.2)

/-- It is the second of three strings in a successful response. -/
theorem name?_eq_some_iff {answer : Except Fault Bytes} {name : Bytes} :
    name? answer = some name ↔ ∃ tag publicArea qualified rest padding,
      let data := Wire.sized publicArea ++ (Wire.sized name ++ Wire.sized qualified) ++ rest
      (publicArea.length < 65536 ∧ name.length < 65536 ∧ qualified.length < 65536) ∧
        headerLength + data.length < 4294967296 ∧
          answer = .ok (Response.bytes ⟨tag, 0, data⟩ ++ padding) := by
  unfold name?
  constructor
  · intro brought
    obtain ⟨⟨tag, code, data⟩, success, read⟩ := Option.bind_eq_some_iff.mp brought
    obtain ⟨zero, total, padding, came⟩ := success?_eq_some_iff.mp success
    obtain ⟨⟨publicArea, _⟩, found, rfl⟩ := Option.map_eq_some_iff.mp read
    obtain ⟨-, _, rest, ⟨area_fits, name_fits, qualified, qualified_fits, rfl⟩, split⟩ :=
      decodes_readPublicAnswer.within_ok_iff.mp (value?_eq_some_iff.mp found)
    subst zero split
    exact ⟨tag, publicArea, qualified, rest, padding, ⟨area_fits, name_fits, qualified_fits⟩, total, came⟩
  · intro ⟨tag, publicArea, qualified, rest, padding, fits, total, came⟩
    obtain ⟨area_fits, name_fits, qualified_fits⟩ := fits
    refine Option.bind_eq_some_iff.mpr ⟨_, success?_eq_some_iff.mpr ⟨rfl, total, padding, came⟩, ?_⟩
    refine Option.map_eq_some_iff.mpr ⟨(publicArea, name), value?_eq_some_iff.mpr ?_, rfl⟩
    exact decodes_readPublicAnswer.within_ok_iff.mpr
      ⟨rfl, _, rest, ⟨area_fits, name_fits, qualified, qualified_fits, rfl⟩, rfl⟩

theorem name?_of_provisioned {channel : Channel ω} {keyHandles : PerSlot Handle} {keys : Slot → Bytes}
    {ready : ω → Prop} {holds : Held → ω → Prop} (tpm : Provisioned channel keyHandles keys ready holds)
    {held : Held} {world : ω} (holding : holds held world) (slot : Slot) :
    name? (channel.answer (readPublicCommand (keyHandles.get slot)).bytes world) =
      some (held.names (keyHandles.get slot)) := by
  obtain ⟨publicArea, qualified, area_fits, qualified_fits, name_fits, ⟨total, padding, came⟩, -⟩ :=
    tpm.named held world slot holding
  rw [← List.append_nil (Wire.sized publicArea ++ _)] at total came
  exact name?_eq_some_iff.mpr ⟨.noSessions, publicArea, qualified, [], padding,
    ⟨area_fits, name_fits, qualified_fits⟩, total, came⟩

section ReadPublic

variable {channel : Channel ω} {handle : Handle} {machine : Machine ω}

theorem readPublic_of_name {name : Bytes}
    (brought : name? (channel.answer (readPublicCommand handle).bytes machine.world) = some name) :
    ∃ publicArea, readPublic channel handle machine =
      .ok (⟨handle, name⟩, publicArea) (machine.exchanged channel (readPublicCommand handle).bytes) := by
  obtain ⟨response, granted, read⟩ := Option.bind_eq_some_iff.mp brought
  obtain ⟨⟨publicArea, _⟩, found, rfl⟩ := Option.map_eq_some_iff.mp read
  exact ⟨publicArea, (bind_ok (perform_of_some (.readPublicOf handle) machine granted)).trans
    (bind_ok (within_of_some found _))⟩

theorem readPublic_of_nameless
    (brought : name? (channel.answer (readPublicCommand handle).bytes machine.world) = none) :
    ∃ fault, readPublic channel handle machine =
      .error (.error fault) (machine.exchanged channel (readPublicCommand handle).bytes) := by
  cases granted : success? (channel.answer (readPublicCommand handle).bytes machine.world) with
  | none =>
    obtain ⟨fault, failed⟩ := perform_of_none (.readPublicOf handle) machine granted
    exact ⟨fault, bind_error failed⟩
  | some response =>
    rw [name?, granted, Option.bind_some, Option.map_eq_none_iff] at brought
    obtain ⟨fault, failed⟩ := within_of_none decodes_readPublicAnswer.returned brought
      (machine.exchanged channel (readPublicCommand handle).bytes)
    exact ⟨fault, (bind_ok (perform_of_some (.readPublicOf handle) machine granted)).trans
      (bind_error failed)⟩

end ReadPublic

end Tpm

namespace TpmDevice
namespace Connection

open Tpm

/-! ## Histories -/

/-- A call, the exchanges that it has made, and its outcome. -/
structure Served where
  call : Call
  sent : List Exchange
  outcome : Except (Stop Fault) Answer

def served (call : Call) (state : Connection ω × Machine ω) : Served where
  call := call
  sent := (after (call.perform state)).2.transcript.drop state.2.transcript.length
  outcome := outcome (call.perform state)

theorem sent_of_left {call : Call} {state later : Connection ω × Machine ω} {part : List Exchange}
    (left : after (call.perform state) = later)
    (grown : later.2.transcript = state.2.transcript ++ part) : (served call state).sent = part := by
  subst left
  show (after (call.perform state)).2.transcript.drop state.2.transcript.length = part
  rw [grown, List.drop_left]

/-- The calls of a run, each with what became of it. -/
def history : List Call → Connection ω × Machine ω → List Served
  | [], _ => []
  | call :: calls, state => served call state :: history calls (after (call.perform state))

theorem history_snoc (calls : List Call) (call : Call) (state : Connection ω × Machine ω) :
    history (calls ++ [call]) state = history calls state ++ [served call (run calls state)] := by
  induction calls generalizing state with
  | nil => rfl
  | cons first calls ih =>
    rw [List.cons_append, history, ih, history, List.cons_append]
    rfl

theorem run_snoc (calls : List Call) (call : Call) (state : Connection ω × Machine ω) :
    run (calls ++ [call]) state = after (call.perform (run calls state)) := by
  rw [run, List.foldl_append]
  rfl

def isLookUp (exchange : Exchange) : Bool :=
  Command.codeOf exchange.command == CommandCode.readPublic.code

/-- The requests for the name of a slot key.  Two slots may have the same key, so the command alone does not
say which slot it is for. -/
def Served.lookUps (slot : Slot) (served : Served) : List Exchange :=
  match served.call with
  | .hmac other _ => if other = slot then served.sent.filter isLookUp else []
  | _ => []

section

variable {slot other : Slot} {message : Bytes} {sent : List Exchange} {ending : Except (Stop Fault) Answer}

theorem lookUps_hmac : Served.lookUps slot ⟨.hmac slot message, sent, ending⟩ = sent.filter isLookUp :=
  if_pos rfl

theorem lookUps_hmac_of_ne (h : other ≠ slot) :
    Served.lookUps slot ⟨.hmac other message, sent, ending⟩ = [] :=
  if_neg h

end

def lookUps (slot : Slot) (past : List Served) : List Exchange := past.flatMap (Served.lookUps slot)

/-- The name that the first successful reply has brought. -/
def firstName? (slot : Slot) (past : List Served) : Option Bytes :=
  (lookUps slot past).findSome? fun exchange => name? exchange.answer

theorem lookUps_snoc (slot : Slot) (past : List Served) (last : Served) :
    lookUps slot (past ++ [last]) = lookUps slot past ++ last.lookUps slot := by
  rw [lookUps, List.flatMap_append, List.flatMap_singleton]
  rfl

theorem firstName?_snoc (slot : Slot) (past : List Served) (last : Served) :
    firstName? slot (past ++ [last]) = (firstName? slot past).or
      ((last.lookUps slot).findSome? fun exchange => name? exchange.answer) := by
  rw [firstName?, lookUps_snoc, List.findSome?_append]
  rfl

/-! ## One call -/

/-- What a call sends, how it ends, and what it makes of the keys that are known. -/
inductive Looks (keyHandles : PerSlot Handle) (handle : Handle) (keys : PerSlot (Option KeyObject)) :
    Served → PerSlot (Option KeyObject) → Prop
  /-- The name is known: it is not asked for. -/
  | known {slot : Slot} {message : Bytes} {key : KeyObject} {keyed : Option Exchange}
      {ending : Except (Stop Fault) Answer} (known : keys.get slot = some key)
      (authorized : ∀ exchange ∈ keyed, AuthorizedBy handle key message exchange.command) :
      Looks keyHandles handle keys ⟨.hmac slot message, keyed.toList, ending⟩ keys
  /-- The name is not known, and the TPM gives it. -/
  | named {slot : Slot} {message name : Bytes} {asked : Exchange} {keyed : Option Exchange}
      {ending : Except (Stop Fault) Answer} (unknown : keys.get slot = none)
      (command : asked.command = (readPublicCommand (keyHandles.get slot)).bytes)
      (brought : name? asked.answer = some name)
      (authorized : ∀ exchange ∈ keyed,
        AuthorizedBy handle ⟨keyHandles.get slot, name⟩ message exchange.command) :
      Looks keyHandles handle keys ⟨.hmac slot message, asked :: keyed.toList, ending⟩
        (keys.set slot (some ⟨keyHandles.get slot, name⟩))
  /-- The name is not known, and the TPM does not give it. -/
  | nameless {slot : Slot} {message : Bytes} {asked : Exchange} {fault : Fault}
      (unknown : keys.get slot = none)
      (command : asked.command = (readPublicCommand (keyHandles.get slot)).bytes)
      (brought : name? asked.answer = none) :
      Looks keyHandles handle keys ⟨.hmac slot message, [asked], .error (.error fault)⟩ keys
  | other {call : Call} {sent : List Exchange} {ending : Except (Stop Fault) Answer}
      (other : ∀ slot message, call ≠ .hmac slot message)
      (silent : ∀ exchange ∈ sent, isLookUp exchange = false) :
      Looks keyHandles handle keys ⟨call, sent, ending⟩ keys

section Step

variable {channel : Channel ω} {keyHandles : PerSlot Handle} {handle : Handle} {connection : Connection ω}

theorem hmac_looks (holds : Holds channel keyHandles handle connection) (slot : Slot) (message : Bytes)
    (machine : Machine ω) :
    let result := (Call.hmac slot message).perform (connection, machine)
    Holds channel keyHandles handle (after result).1 ∧
      ∃ sent, (after result).2.transcript = machine.transcript ++ sent ∧
        Looks keyHandles handle connection.keys ⟨.hmac slot message, sent, outcome result⟩
          (after result).1.keys := by
  intro result
  have same := holds
  obtain ⟨rfl, rfl, -, -⟩ := same
  have left : after result = after (Connection.hmac slot message (connection, machine)) :=
    after_perform_hmac slot message (connection, machine)
  cases known : connection.keys.get slot with
  | some key =>
    obtain ⟨still_holds, keys, keyed, grown, authorized, -⟩ := hmacWith_spec holds key message machine
    rw [after_hmac_of_known known] at left
    rw [left, keys]
    exact ⟨still_holds, keyed.toList, grown, .known known authorized⟩
  | none =>
    let command := (readPublicCommand (connection.keyHandles.get slot)).bytes
    let asked : Exchange := ⟨command, connection.channel.answer command machine.world⟩
    let later := machine.exchanged connection.channel command
    cases brought : name? asked.answer with
    | some name =>
      let key : KeyObject := ⟨connection.keyHandles.get slot, name⟩
      obtain ⟨publicArea, read⟩ := readPublic_of_name brought
      have same : key.handle = connection.keyHandles.get slot := rfl
      obtain ⟨still_holds, keys, keyed, grown, authorized, -⟩ :=
        hmacWith_spec (holds.named same) key message later
      rw [after_hmac_of_read holds known read] at left
      rw [left, keys]
      refine ⟨still_holds, asked :: keyed.toList, ?_, .named known rfl brought authorized⟩
      rw [grown]
      exact List.append_assoc _ _ _
    | none =>
      obtain ⟨fault, failed⟩ := readPublic_of_nameless brought
      have stopped : result = _ := bind_error (bind_error (slotKey_of_error known failed))
      rw [stopped]
      exact ⟨holds, [asked], rfl, .nameless known rfl brought⟩

/-- What is sent for other operations asks for no name. -/
theorem silent_of_sends {call : Call} {part : List Exchange} (sends : Sends keyHandles handle call part)
    (other : ∀ slot message, call ≠ .hmac slot message) {exchange : Exchange} (member : exchange ∈ part) :
    isLookUp exchange = false := by
  have plain : ∀ {command : Command}, exchange.command = command.bytes → command.code ≠ .readPublic →
      isLookUp exchange = false := by
    intro command sent code
    rw [isLookUp, sent]
    exact beq_eq_false_iff_ne.mpr (Command.codeOf_ne code)
  cases sends with
  | hmac => exact absurd rfl (other _ _)
  | random command =>
    rw [List.mem_singleton] at member
    subst member
    exact plain command nofun
  | noIdentityKey command =>
    rw [List.mem_singleton] at member
    subst member
    exact plain command nofun
  | identity command granted describes authorized released =>
    simp only [List.mem_cons, List.not_mem_nil, or_false] at member
    obtain rfl | rfl | rfl := member
    · exact plain command nofun
    · rw [isLookUp, authorized.code_eq]
      rfl
    · exact plain released nofun
  | selfTest asked command result =>
    obtain rfl | second := List.mem_cons.mp member
    · exact plain command nofun
    · exact plain (result exchange (Option.mem_toList.mp second)) nofun

/-- Operations other than an HMAC leave the names alone. -/
theorem keys_perform_other {call : Call} (other : ∀ slot message, call ≠ .hmac slot message)
    (machine : Machine ω) : (after (call.perform (connection, machine))).1.keys = connection.keys := by
  cases call with
  | hmac slot message => exact absurd rfl (other slot message)
  | random limit => rw [Call.perform, after_bind_still _ fun _ => still_pure _, after_random]
  | identity =>
    rw [Call.perform, after_bind_still _ fun _ => still_pure _]
    exact keys_identity connection machine
  | selfTest =>
    rw [Call.perform, after_bind_still _ fun _ => still_pure _]
    obtain once | twice := after_selfTest connection machine
    · rw [once]
    · rw [twice]

/-- Every call follows the rules, whatever is replied to it. -/
theorem perform_looks (holds : Holds channel keyHandles handle connection) (call : Call)
    (machine : Machine ω) :
    let left := after (call.perform (connection, machine))
    Holds channel keyHandles handle left.1 ∧
      left.2.transcript = machine.transcript ++ (served call (connection, machine)).sent ∧
        Looks keyHandles handle connection.keys (served call (connection, machine)) left.1.keys := by
  intro left
  have looks : Holds channel keyHandles handle left.1 ∧ ∃ sent,
      left.2.transcript = machine.transcript ++ sent ∧ Looks keyHandles handle connection.keys
        ⟨call, sent, outcome (call.perform (connection, machine))⟩ left.1.keys := by
    by_cases keyed : ∃ slot message, call = .hmac slot message
    · obtain ⟨slot, message, rfl⟩ := keyed
      exact hmac_looks holds slot message machine
    · have other : ∀ slot message, call ≠ .hmac slot message :=
        fun slot message same => keyed ⟨slot, message, same⟩
      obtain ⟨still_holds, part, grown, sends⟩ := perform_sends holds call machine
      have keys : left.1.keys = connection.keys := keys_perform_other other machine
      rw [keys]
      exact ⟨still_holds, part, grown, .other other fun exchange => silent_of_sends sends other⟩
  obtain ⟨still_holds, sent, grown, looks⟩ := looks
  have sent_eq : (served call (connection, machine)).sent = sent := sent_of_left rfl grown
  refine ⟨still_holds, ?_, ?_⟩
  · rw [sent_eq, grown]
  · rw [← sent_eq] at looks
    exact looks

end Step

/-! ## Runs -/

/-- A history from the start of a session, and the keys that are known after it. -/
inductive Traced (keyHandles : PerSlot Handle) (handle : Handle) :
    List Served → PerSlot (Option KeyObject) → Prop
  | start : Traced keyHandles handle [] (.both none)
  | snoc {past : List Served} {last : Served} {keys later : PerSlot (Option KeyObject)}
      (earlier : Traced keyHandles handle past keys) (next : Looks keyHandles handle keys last later) :
      Traced keyHandles handle (past ++ [last]) later

theorem traced_run {channel : Channel ω} {keyHandles : PerSlot Handle} {handle : Handle}
    {connection : Connection ω} (holds : Holds channel keyHandles handle connection)
    (fresh : connection.keys = .both none) (calls : List Call) (machine : Machine ω) :
    let state := run calls (connection, machine)
    let past := history calls (connection, machine)
    Holds channel keyHandles handle state.1 ∧
      state.2.transcript = machine.transcript ++ past.flatMap Served.sent ∧
        Traced keyHandles handle past state.1.keys := by
  induction calls using List.reverseRecOn with
  | nil =>
    refine ⟨holds, (List.append_nil _).symm, ?_⟩
    show Traced keyHandles handle [] connection.keys
    rw [fresh]
    exact .start
  | append_singleton calls call ih =>
    obtain ⟨still_holds, grown, traced⟩ := ih
    obtain ⟨holds', more, looks⟩ := perform_looks still_holds call (run calls (connection, machine)).2
    simp only [run_snoc, history_snoc]
    refine ⟨holds', ?_, .snoc traced looks⟩
    rw [more, grown, List.flatMap_append, List.flatMap_singleton, List.append_assoc]

namespace Looks

variable {keyHandles : PerSlot Handle} {handle : Handle} {keys later : PerSlot (Option KeyObject)}
  {last : Served}

theorem filter_keyed {key : KeyObject} {message : Bytes} {keyed : Option Exchange}
    (authorized : ∀ exchange ∈ keyed, AuthorizedBy handle key message exchange.command) :
    keyed.toList.filter isLookUp = [] := by
  rw [List.filter_eq_nil_iff]
  intro exchange member
  rw [isLookUp, (authorized exchange (Option.mem_toList.mp member)).code_eq]
  decide

theorem isLookUp_of_command {exchange : Exchange} {handle : Handle}
    (command : exchange.command = (readPublicCommand handle).bytes) : isLookUp exchange = true := by
  rw [isLookUp, command, readPublicCommand]
  exact beq_iff_eq.mpr (Command.codeOf_bytes _)

/-- A call asks for the name of a slot key once, if it is an HMAC for the slot and the name is not known, and
otherwise not at all; only with the name in the reply the entry of the slot changes. -/
theorem cases_slot (looks : Looks keyHandles handle keys last later) (slot : Slot) :
    (last.lookUps slot = [] ∧ later.get slot = keys.get slot) ∨
    ∃ asked, last.lookUps slot = [asked] ∧ keys.get slot = none ∧
      later.get slot = (name? asked.answer).map (KeyObject.mk (keyHandles.get slot)) := by
  cases looks with
  | @known other message key keyed ending known authorized =>
    refine .inl ⟨?_, rfl⟩
    by_cases same : other = slot
    · rw [same, lookUps_hmac, filter_keyed authorized]
    · exact lookUps_hmac_of_ne same
  | @named other message name asked keyed ending unknown command brought authorized =>
    by_cases same : other = slot
    · subst same
      refine .inr ⟨asked, ?_, unknown, ?_⟩
      · rw [lookUps_hmac, List.filter_cons_of_pos (isLookUp_of_command command), filter_keyed authorized]
      · rw [PerSlot.get_set_self, brought]
        rfl
    · exact .inl ⟨lookUps_hmac_of_ne same, PerSlot.get_set_of_ne keys (Ne.symm same) _⟩
  | @nameless other message asked fault unknown command brought =>
    by_cases same : other = slot
    · subst same
      refine .inr ⟨asked, ?_, unknown, ?_⟩
      · rw [lookUps_hmac, List.filter_cons_of_pos (isLookUp_of_command command), List.filter_nil]
      · rw [brought, unknown]
        rfl
    · exact .inl ⟨lookUps_hmac_of_ne same, rfl⟩
  | @other call sent ending other silent =>
    refine .inl ⟨?_, rfl⟩
    cases call with
    | hmac slot message => exact absurd rfl (other slot message)
    | _ => rfl

theorem get_of_other (looks : Looks keyHandles handle keys last later) {slot : Slot}
    (other : ∀ message, last.call ≠ .hmac slot message) : later.get slot = keys.get slot := by
  cases looks with
  | @named slot' message =>
    refine PerSlot.get_set_of_ne keys ?_ _
    intro same
    exact other message (by rw [same])
  | _ => rfl

theorem sent_of_known (looks : Looks keyHandles handle keys last later) {slot : Slot} {message : Bytes}
    (call : last.call = .hmac slot message) {key : KeyObject} (known : keys.get slot = some key) :
    ∀ exchange ∈ last.sent, AuthorizedBy handle key message exchange.command := by
  intro exchange sent
  cases looks with
  | known found authorized =>
    cases call
    cases found.symm.trans known
    exact authorized exchange (Option.mem_toList.mp sent)
  | named unknown =>
    cases call
    cases unknown.symm.trans known
  | nameless unknown =>
    cases call
    cases unknown.symm.trans known
  | other other => exact absurd call (other slot message)

theorem sent_of_unknown (looks : Looks keyHandles handle keys last later) {slot : Slot} {message : Bytes}
    (call : last.call = .hmac slot message) (unknown : keys.get slot = none) :
    ∃ asked others, last.sent = asked :: others ∧
      asked.command = (readPublicCommand (keyHandles.get slot)).bytes ∧
      (name? asked.answer = none →
        others = [] ∧ (∃ fault, last.outcome = .error (.error fault)) ∧ later = keys) := by
  cases looks with
  | known found =>
    cases call
    cases found.symm.trans unknown
  | @named _ _ name asked keyed _ _ command brought =>
    cases call
    refine ⟨asked, keyed.toList, rfl, command, ?_⟩
    intro missing
    cases brought.symm.trans missing
  | @nameless _ _ asked fault _ command =>
    cases call
    exact ⟨asked, [], rfl, command, fun _ => ⟨rfl, ⟨fault, rfl⟩, rfl⟩⟩
  | other other => exact absurd call (other slot message)

end Looks

namespace Traced

variable {keyHandles : PerSlot Handle} {handle : Handle} {past : List Served}
  {keys : PerSlot (Option KeyObject)}

theorem kept (traced : Traced keyHandles handle past keys) (slot : Slot) :
    keys.get slot = (firstName? slot past).map (KeyObject.mk (keyHandles.get slot)) := by
  induction traced with
  | start =>
    rw [PerSlot.get_both]
    rfl
  | @snoc past last keys later earlier next ih =>
    rw [firstName?_snoc]
    obtain ⟨none_asked, same⟩ | ⟨asked, once, unknown, brought⟩ := next.cases_slot slot
    · rw [same, ih, none_asked, List.findSome?_nil, Option.or_none]
    · rw [ih, Option.map_eq_none_iff] at unknown
      rw [brought, once, unknown, List.findSome?_singleton, Option.none_or]

theorem unnamed_of_unknown (traced : Traced keyHandles handle past keys) {slot : Slot}
    (unknown : keys.get slot = none) : firstName? slot past = none := by
  rw [traced.kept slot, Option.map_eq_none_iff] at unknown
  exact unknown

/-- A name is asked for again only after a reply without one. -/
theorem once (traced : Traced keyHandles handle past keys) (slot : Slot) :
    ∀ before exchange after, lookUps slot past = before ++ exchange :: after → after ≠ [] →
      name? exchange.answer = none := by
  induction traced with
  | start =>
    intro before exchange after split
    cases before <;> cases split
  | @snoc past last keys later earlier next ih =>
    intro before exchange after split followed
    rw [lookUps_snoc] at split
    obtain ⟨none_asked, -⟩ | ⟨asked, one, unknown, -⟩ := next.cases_slot slot
    · rw [none_asked, List.append_nil] at split
      exact ih before exchange after split followed
    · rw [one] at split
      obtain ⟨rfl, -⟩ | ⟨rest, -, inner⟩ := split_snoc split
      · exact absurd rfl followed
      · have none_brought := earlier.unnamed_of_unknown unknown
        rw [firstName?, List.findSome?_eq_none_iff] at none_brought
        refine none_brought exchange ?_
        rw [inner]
        exact List.mem_append_right _ List.mem_cons_self

theorem name_of_known (traced : Traced keyHandles handle past keys) {slot : Slot} {key : KeyObject}
    (known : keys.get slot = some key) :
    ∃ name, firstName? slot past = some name ∧ key = ⟨keyHandles.get slot, name⟩ := by
  rw [traced.kept slot, Option.map_eq_some_iff] at known
  obtain ⟨name, first, same⟩ := known
  exact ⟨name, first, same.symm⟩

theorem authorized (traced : Traced keyHandles handle past keys) :
    ∀ served ∈ past, ∀ slot message, served.call = .hmac slot message → ∀ exchange ∈ served.sent,
      exchange.command = (readPublicCommand (keyHandles.get slot)).bytes ∨
        ∃ name, firstName? slot past = some name ∧
          AuthorizedBy handle ⟨keyHandles.get slot, name⟩ message exchange.command := by
  induction traced with
  | start =>
    intro served member
    cases member
  | @snoc past last keys later earlier next ih =>
    intro served member slot message call exchange sent
    obtain old | new := List.mem_append.mp member
    · obtain asked | ⟨name, first, authorized⟩ := ih served old slot message call exchange sent
      · exact .inl asked
      · refine .inr ⟨name, ?_, authorized⟩
        rw [firstName?_snoc, first, Option.some_or]
    · rw [List.mem_singleton] at new
      subst new
      have traced := earlier.snoc next
      cases next with
      | known known authorized =>
        cases call
        obtain ⟨name, first, rfl⟩ := traced.name_of_known known
        exact .inr ⟨name, first, authorized exchange (Option.mem_toList.mp sent)⟩
      | named unknown command brought authorized =>
        cases call
        obtain rfl | keyed := List.mem_cons.mp sent
        · exact .inl command
        · obtain ⟨name, first, same⟩ := traced.name_of_known (PerSlot.get_set_self _ _ _)
          rw [same] at authorized
          exact .inr ⟨name, first, authorized exchange (Option.mem_toList.mp keyed)⟩
      | nameless unknown command brought =>
        cases call
        rw [List.mem_singleton] at sent
        subst sent
        exact .inl command
      | other other silent => exact absurd call (other slot message)

theorem silent (traced : Traced keyHandles handle past keys) :
    ∀ served ∈ past, (∀ slot message, served.call ≠ .hmac slot message) → ∀ exchange ∈ served.sent,
      isLookUp exchange = false := by
  induction traced with
  | start =>
    intro served member
    cases member
  | @snoc past last keys later earlier next ih =>
    intro served member other exchange sent
    obtain old | new := List.mem_append.mp member
    · exact ih served old other exchange sent
    · rw [List.mem_singleton] at new
      subst new
      cases next with
      | other _ silent => exact silent exchange sent
      | _ => exact absurd rfl (other _ _)

end Traced

/-- What is known of the slot keys after a run from the start of the session, what has been sent for it, and
what the next call makes of it. -/
structure NamesOnce (keyHandles : PerSlot Handle) (handle : Handle) (state : Connection ω × Machine ω)
    (past : List Served) : Prop where
  /-- Of each slot the name is known that the first successful reply has brought. -/
  kept : ∀ slot, state.1.keys.get slot = (firstName? slot past).map (KeyObject.mk (keyHandles.get slot))
  /-- For a slot nothing is sent but requests for the name of its key and commands that name the key and are
  authorized for that first name. -/
  authorized : ∀ served ∈ past, ∀ slot message, served.call = .hmac slot message →
    ∀ exchange ∈ served.sent, exchange.command = (readPublicCommand (keyHandles.get slot)).bytes ∨
      ∃ name, firstName? slot past = some name ∧
        AuthorizedBy handle ⟨keyHandles.get slot, name⟩ message exchange.command
  /-- A name is asked for again only after a reply without one, and by no other call than an HMAC. -/
  once : ∀ slot before exchange after, lookUps slot past = before ++ exchange :: after → after ≠ [] →
    name? exchange.answer = none
  silent : ∀ served ∈ past, (∀ slot message, served.call ≠ .hmac slot message) →
    ∀ exchange ∈ served.sent, isLookUp exchange = false
  /-- With a name, the next HMAC for the slot asks for none. -/
  known : ∀ slot message name, firstName? slot past = some name →
    ∀ exchange ∈ (served (.hmac slot message) state).sent,
      AuthorizedBy handle ⟨keyHandles.get slot, name⟩ message exchange.command
  /-- Without a name, the next HMAC for the slot asks for one; and if the reply brings none, that was all, and
  it ends with an error and leaves what is known as it was. -/
  unknown : ∀ slot message, firstName? slot past = none →
    let next := served (.hmac slot message) state
    ∃ asked others, next.sent = asked :: others ∧
      asked.command = (readPublicCommand (keyHandles.get slot)).bytes ∧
      (name? asked.answer = none → others = [] ∧ (∃ fault, next.outcome = .error (.error fault)) ∧
        (after ((Call.hmac slot message).perform state)).1.keys = state.1.keys)
  /-- Only an HMAC for the slot can change what is known of it. -/
  others : ∀ (slot : Slot) (call : Call), (∀ message, call ≠ .hmac slot message) →
    (after (call.perform state)).1.keys.get slot = state.1.keys.get slot

/-- What the history of a run says holds of its end and of the call after it. -/
theorem Traced.namesOnce {channel : Channel ω} {keyHandles : PerSlot Handle} {handle : Handle}
    {state : Connection ω × Machine ω} {past : List Served}
    (holds : Holds channel keyHandles handle state.1)
    (traced : Traced keyHandles handle past state.1.keys) :
    NamesOnce keyHandles handle state past where
  kept := traced.kept
  authorized := traced.authorized
  once := traced.once
  silent := traced.silent
  known slot message name first := by
    obtain ⟨-, -, looks⟩ := perform_looks holds (.hmac slot message) state.2
    have known : state.1.keys.get slot = some ⟨keyHandles.get slot, name⟩ := by
      rw [traced.kept slot, first, Option.map_some]
    exact looks.sent_of_known rfl known
  unknown slot message unnamed := by
    obtain ⟨-, -, looks⟩ := perform_looks holds (.hmac slot message) state.2
    have unknown : state.1.keys.get slot = none := by
      rw [traced.kept slot, unnamed, Option.map_none]
    exact looks.sent_of_unknown rfl unknown
  others slot call other := by
    obtain ⟨-, -, looks⟩ := perform_looks holds call state.2
    exact looks.get_of_other other

/-- However the calls of a session follow each other, and whatever the TPM replies to them: the history tells
all that has been sent, and the names of the slot keys are asked for and used as `NamesOnce` says. -/
theorem names_read_once {channel : Channel ω} {keyHandles : PerSlot Handle} {connection : Connection ω}
    {before opened : Machine ω} (started : start channel keyHandles before = .ok connection opened)
    (calls : List Call) :
    let state := run calls (connection, opened)
    let past := history calls (connection, opened)
    state.2.transcript = opened.transcript ++ past.flatMap Served.sent ∧
      ∃ session, connection.session = some session ∧ NamesOnce keyHandles session.handle state past := by
  intro state past
  obtain ⟨session, held, -, holds⟩ := holds_start started
  have fresh : connection.keys = .both none := by
    obtain ⟨_, _, -, returned⟩ := bind_eq_ok_iff.mp started
    cases returned
    rfl
  obtain ⟨still_holds, grown, traced⟩ := traced_run holds fresh calls opened
  exact ⟨grown, session, held, traced.namesOnce still_holds⟩

/-- A connection to the TPM with two keys is asked twice for an HMAC with the first of them, and for random
bytes in between.  The name is read for the first and used for both. -/
theorem names_read_once_vault :
    let keys : Slot → Bytes := fun _ => [0x2a]
    let machine : Machine Bytes := Machine.new [] (Entropy.ofBytes [])
    let calls : List Call := [.hmac .first [1], .random 16, .hmac .first [2]]
    let opened := (vaultConnection keys, vaultOpened keys machine)
    let key : KeyObject := ⟨Vault.keyHandles.first, Vault.name⟩
    start (Vault.channel keys) Vault.keyHandles machine = .ok opened.1 opened.2 ∧
      NamesOnce Vault.keyHandles Vault.session (run calls opened) (history calls opened) ∧
      ∃ asked first drawn second, (history calls opened).map Served.sent = [[asked, first], [drawn], [second]] ∧
        name? asked.answer = some Vault.name ∧
        AuthorizedBy Vault.session key [1] first.command ∧
        AuthorizedBy Vault.session key [2] second.command := by
  intro keys machine calls opened key
  have started : start (Vault.channel keys) Vault.keyHandles machine = .ok opened.1 opened.2 :=
    start_vault keys machine
  obtain ⟨-, session, held, names⟩ := names_read_once started calls
  cases held
  obtain ⟨connection₁, machine₁, first, left₁, holds₁, keys₁, grown₁, digested₁⟩ :=
    hmac_vault (holds_vault keys) .first rfl [1] (by decide) opened.2
  let later := machine₁.exchanged (Vault.channel keys) (randomCommand 16).bytes
  have left₂ : after ((Call.random 16).perform (connection₁, machine₁)) = (connection₁, later) :=
    after_perform_random holds₁ 16 machine₁
  have known : connection₁.keys.get .first = some key := by
    rw [keys₁, PerSlot.get_set_self]
    rfl
  obtain ⟨-, -, second, grown₃, digested₂, present⟩ := hmacWith_spec holds₁ key [2] later
  obtain ⟨second, rfl⟩ := Option.isSome_iff_exists.mp (present (by decide))
  rw [← after_hmac_of_known known, ← after_perform_hmac] at grown₃
  let asking := (readPublicCommand (Vault.keyHandles.get .first)).bytes
  have named : name? ((Vault.channel keys).answer asking opened.2.world) = some Vault.name :=
    name?_of_provisioned Vault.provisioned (rfl : Vault.held opened.2.world = _) .first
  let answer := (Vault.channel keys).answer
  refine ⟨started, names, ⟨asking, answer asking opened.2.world⟩, first,
    ⟨(randomCommand 16).bytes, answer (randomCommand 16).bytes machine₁.world⟩, second, ?_, named,
    digested₁, digested₂ second rfl⟩
  show [(served _ opened).sent, (served _ (after _)).sent,
    (served _ (after (Call.perform _ (after _)))).sent] = _
  rw [sent_of_left left₁ grown₁, left₁, sent_of_left left₂ rfl, left₂, sent_of_left rfl grown₃]
  rfl

end Connection
end TpmDevice
end TrustAnchor
