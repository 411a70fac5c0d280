import Mathlib.Data.List.Forall2
import TrustAnchor.Proofs.Anchor.Connection
import TrustAnchor.Proofs.Tpm.Causes
import TrustAnchor.Proofs.Tpm.Provisioned

/-!
All that one connection sends, from the command that starts its session to the command that ends it.

`Sends` says for each operation which commands it can send.  The run in between adds up what its operations
send, the ending adds one FlushContext, and `connection_trace` puts the three together.
-/

namespace TrustAnchor

open Act Wire

variable {ω : Type}

namespace TpmDevice
namespace Connection

open Tpm

/-! ## What an operation sends -/

/-- The exchanges of one operation on a connection whose session has this handle. -/
inductive Sends (keyHandles : PerSlot Handle) (handle : Handle) : Call → List Exchange → Prop
  /-- The name of the key is asked for if it is not known; without it, and with too long a message, there
  is no HMAC command. -/
  | hmac {slot : Slot} {message : Bytes} {named keyed : Option Exchange}
      (asked : ∀ exchange ∈ named, exchange.command = (readPublicCommand (keyHandles.get slot)).bytes)
      (authorized : ∀ exchange ∈ keyed, ∃ name,
        AuthorizedBy handle ⟨keyHandles.get slot, name⟩ message exchange.command) :
      Sends keyHandles handle (.hmac slot message) (named.toList ++ keyed.toList)
  | random {limit : Nat} {asked : Exchange}
      (command : asked.command = (randomCommand (UInt16.ofNat (min limit randomLimit))).bytes) :
      Sends keyHandles handle (.random limit) [asked]
  | noIdentityKey {made : Exchange} (command : made.command = identityCommand.bytes) :
      Sends keyHandles handle .identity [made]
  /-- What is flushed is the object that the TPM has just made. -/
  | identity {made keyed flushed : Exchange} {response : Response} {key : KeyObject}
      (command : made.command = identityCommand.bytes) (granted : success? made.answer = some response)
      (describes : Describes response key)
      (authorized : AuthorizedBy handle key identityLabel keyed.command)
      (released : flushed.command = (flushCommand key.handle).bytes) :
      Sends keyHandles handle .identity [made, keyed, flushed]
  | selfTest {tested : Exchange} (asked : Option Exchange)
      (command : tested.command = (selfTestCommand true).bytes)
      (result : ∀ exchange ∈ asked, exchange.command = testResultCommand.bytes) :
      Sends keyHandles handle .selfTest (tested :: asked.toList)

/-- The TPM has answered the request for an identity key with an object of this handle. -/
def HandsOut (exchange : Exchange) (handle : Handle) : Prop :=
  exchange.command = identityCommand.bytes ∧ ∃ response name,
    success? exchange.answer = some response ∧ Describes response ⟨handle, name⟩

theorem not_handsOut_of_code {exchange : Exchange} {handle : Handle}
    (other : Command.codeOf exchange.command ≠ CommandCode.createPrimary.code) :
    ¬ HandsOut exchange handle := by
  intro ⟨same, _⟩
  rw [same] at other
  exact other (Command.codeOf_bytes _)

namespace Sends

variable {keyHandles : PerSlot Handle} {handle : Handle} {call : Call} {part : List Exchange}

theorem mem_cases (sends : Sends keyHandles handle call part) {exchange : Exchange}
    (member : exchange ∈ part) :
    (∃ command : Command, exchange.command = command.bytes ∧ command.code ≠ .startAuthSession ∧
      command.code ≠ .hmac ∧ command.code ≠ .flushContext) ∨
    (∃ key data, AuthorizedBy handle key data exchange.command) ∨
    ∃ flushed, exchange.command = (flushCommand flushed).bytes ∧ ∃ made ∈ part, HandsOut made flushed := by
  have plain : ∀ {command : Command}, exchange.command = command.bytes →
      command.code ≠ .startAuthSession ∧ command.code ≠ .hmac ∧ command.code ≠ .flushContext →
        ∃ command : Command, exchange.command = command.bytes ∧ command.code ≠ .startAuthSession ∧
          command.code ≠ .hmac ∧ command.code ≠ .flushContext := fun same others => ⟨_, same, others⟩
  cases sends with
  | hmac asked authorized =>
    rcases List.mem_append.mp member with first | second
    · exact .inl (plain (asked exchange (Option.mem_toList.mp first)) ⟨nofun, nofun, nofun⟩)
    · obtain ⟨name, authorized⟩ := authorized exchange (Option.mem_toList.mp second)
      exact .inr (.inl ⟨_, _, authorized⟩)
  | random command =>
    rw [List.mem_singleton] at member
    subst member
    exact .inl (plain command ⟨nofun, nofun, nofun⟩)
  | noIdentityKey command =>
    rw [List.mem_singleton] at member
    subst member
    exact .inl (plain command ⟨nofun, nofun, nofun⟩)
  | @identity made _ _ response key command granted describes authorized released =>
    simp only [List.mem_cons, List.not_mem_nil, or_false] at member
    rcases member with rfl | rfl | rfl
    · exact .inl (plain command ⟨nofun, nofun, nofun⟩)
    · exact .inr (.inl ⟨_, _, authorized⟩)
    · exact .inr (.inr ⟨key.handle, released, made, List.mem_cons_self, command, response, key.name,
        granted, describes⟩)
  | selfTest asked command result =>
    rcases List.mem_cons.mp member with rfl | second
    · exact .inl (plain command ⟨nofun, nofun, nofun⟩)
    · exact .inl (plain (result exchange (Option.mem_toList.mp second)) ⟨nofun, nofun, nofun⟩)

theorem authorizer_eq (sends : Sends keyHandles handle call part) {exchange : Exchange}
    (member : exchange ∈ part) (code : Command.codeOf exchange.command = CommandCode.hmac.code) :
    authorizer? exchange.command = some handle := by
  rcases sends.mem_cases member with ⟨command, same, -, other, -⟩ | ⟨key, data, authorized⟩ | ⟨_, same, -⟩
  · rw [same] at code
    exact absurd code (Command.codeOf_ne other)
  · exact authorized.authorizer_eq
  · rw [same] at code
    exact absurd code (Command.codeOf_ne (by nofun))

/-- An operation flushes only what the TPM has handed out to it. -/
theorem handsOut_of_flush (sends : Sends keyHandles handle call part) {exchange : Exchange}
    (member : exchange ∈ part) {flushed : Handle}
    (same : exchange.command = (flushCommand flushed).bytes) : ∃ made ∈ part, HandsOut made flushed := by
  rcases sends.mem_cases member with ⟨command, sent, -, -, other⟩ | ⟨key, data, authorized⟩ |
    ⟨flushed', sent, granted⟩
  · rw [sent] at same
    exact absurd same (flush_ne_of_code_ne other flushed)
  · have code := authorized.code_eq
    rw [same] at code
    exact absurd code (Command.codeOf_ne (by nofun))
  · have handles : flushed' = flushed := flushCommand_injective (sent.symm.trans same)
    rw [← handles]
    exact granted

end Sends

variable {channel : Channel ω} {keyHandles : PerSlot Handle} {handle : Handle}
  {connection : Connection ω}

theorem hmac_sends (holds : Holds channel keyHandles handle connection) (slot : Slot) (message : Bytes)
    (machine : Machine ω) :
    let left := after (Connection.hmac slot message (connection, machine))
    Holds channel keyHandles handle left.1 ∧ ∃ part, left.2.transcript = machine.transcript ++ part ∧
      Sends keyHandles handle (.hmac slot message) part := by
  intro left
  have left_eq : left = after (Connection.hmac slot message (connection, machine)) := rfl
  obtain ⟨⟨found, later⟩, still_holds, ⟨named, grown, asked⟩, ⟨name, known⟩ | ⟨fault, unknown⟩⟩ :=
    slotKey_spec holds slot machine
  · rw [Connection.hmac, after_bind_ok known] at left_eq
    obtain ⟨holds', -, keyed, more, authorized, -⟩ := hmacWith_spec still_holds ⟨_, name⟩ message later
    rw [left_eq]
    refine ⟨holds', named.toList ++ keyed.toList, ?_, .hmac asked fun exchange member => ?_⟩
    · rw [more, grown, List.append_assoc]
    · exact ⟨name, authorized exchange member⟩
  · rw [Connection.hmac, after_bind_error unknown] at left_eq
    rw [left_eq]
    exact ⟨still_holds, named.toList ++ Option.toList none, by rw [grown, Option.toList_none,
      List.append_nil], .hmac asked (forall_mem_none _)⟩

theorem identity_sends (holds : Holds channel keyHandles handle connection) (machine : Machine ω) :
    let left := after (Connection.identity (connection, machine))
    Holds channel keyHandles handle left.1 ∧ ∃ part, left.2.transcript = machine.transcript ++ part ∧
      Sends keyHandles handle .identity part := by
  intro left
  have left_eq : left = after (Connection.identity (connection, machine)) := rfl
  obtain ⟨response, key, granted, describes, made⟩ | ⟨fault, failed⟩ :=
    createPrimary_cases connection.channel Handle.endorsement Template.hmacKey machine
  · rw [after_identity_of_ok made] at left_eq
    let digested := after (hmacWith key identityLabel
      (connection, machine.exchanged connection.channel identityCommand.bytes))
    let flush := (flushCommand key.handle).bytes
    obtain ⟨still_holds, -, keyed, grown, authorized, present⟩ := hmacWith_spec holds key identityLabel
      (machine.exchanged connection.channel identityCommand.bytes)
    obtain ⟨keyed, rfl⟩ := Option.isSome_iff_exists.mp (present (by decide))
    rw [left_eq]
    refine ⟨still_holds, [⟨identityCommand.bytes, _⟩, keyed,
      ⟨flush, connection.channel.answer flush digested.2.world⟩], ?_,
      .identity rfl granted describes (authorized keyed rfl) rfl⟩
    show digested.2.transcript ++ _ = _
    rw [grown]
    simp only [Machine.exchanged, Option.toList_some, List.append_assoc, List.cons_append,
      List.nil_append]
    rfl
  · rw [after_identity_of_error failed] at left_eq
    rw [left_eq]
    exact ⟨holds, _, rfl, .noIdentityKey rfl⟩

/-- Whatever becomes of an operation, it has sent its own commands and nothing else, and the session is
still there. -/
theorem perform_sends (holds : Holds channel keyHandles handle connection) (call : Call)
    (machine : Machine ω) :
    let left := after (call.perform (connection, machine))
    Holds channel keyHandles handle left.1 ∧ ∃ part, left.2.transcript = machine.transcript ++ part ∧
      Sends keyHandles handle call part := by
  cases call with
  | hmac slot message =>
    rw [after_perform_hmac]
    exact hmac_sends holds slot message machine
  | random limit =>
    rw [after_perform_random holds]
    exact ⟨holds, _, rfl, .random rfl⟩
  | identity =>
    rw [Call.perform, after_bind_still _ fun _ => still_pure _]
    exact identity_sends holds machine
  | selfTest =>
    rw [Call.perform, after_bind_still _ fun _ => still_pure _]
    obtain once | twice := after_selfTest connection machine
    · rw [once]
      exact ⟨holds, _, rfl, .selfTest none rfl (forall_mem_none _)⟩
    · rw [twice]
      refine ⟨holds, [_, _], List.append_assoc _ _ _, .selfTest (some _) rfl ?_⟩
      rintro exchange ⟨⟩
      rfl

/-- A run sends what its operations send, in their order. -/
theorem run_sends (holds : Holds channel keyHandles handle connection) (calls : List Call)
    (machine : Machine ω) :
    let left := run calls (connection, machine)
    Holds channel keyHandles handle left.1 ∧ ∃ parts : List (List Exchange),
      left.2.transcript = machine.transcript ++ parts.flatten ∧
        List.Forall₂ (Sends keyHandles handle) calls parts := by
  induction calls generalizing connection machine with
  | nil => exact ⟨holds, [], (List.append_nil _).symm, .nil⟩
  | cons call calls ih =>
    obtain ⟨still_holds, part, grown, sends⟩ := perform_sends holds call machine
    obtain ⟨at_end, parts, more, others⟩ := ih still_holds (after (call.perform (connection, machine))).2
    refine ⟨at_end, part :: parts, ?_, .cons sends others⟩
    rw [List.flatten_cons, ← List.append_assoc, ← grown]
    exact more

/-! ## What the operations report -/

theorem neutral_slotKey (neutral : connection.channel.Neutral) (slot : Slot) (machine : Machine ω) :
    Neutral (slotKey slot (connection, machine)) := by
  rw [slotKey, bind_ok (get_eq (connection, machine))]
  cases known : connection.keys.get slot with
  | some key =>
    simp only [known]
    trivial
  | none =>
    simp only [known]
    exact blames_bind (blames_during (blames_onSecond (neutral_readPublic neutral _ _)))
      fun _ _ _ => trivial

theorem neutral_hmacWith (neutral : connection.channel.Neutral) {session : HmacSession}
    (held : connection.session = some session) (key : KeyObject) (message : Bytes)
    (machine : Machine ω) : Neutral (hmacWith key message (connection, machine)) := by
  have ended := neutral_hmac neutral key message session machine
  rw [hmacWith_eq]
  simp only [onSession, held]
  cases ran : Tpm.hmac connection.channel key message (session, machine) with
  | ok digest later => trivial
  | error stop later =>
    rw [ran] at ended
    cases stop with
    | error fault => exact ended
    | crash => trivial

theorem neutral_ofDigest {σ : Type} (digest : Bytes) (s : σ) :
    Neutral (RawIdentity.ofDigest digest s) := by
  unfold RawIdentity.ofDigest
  by_cases short : digest.length < uuidLength
  · rw [if_pos short]
    exact nofun
  · rw [if_neg short]
    exact blames_demand _ s

theorem neutral_identity (neutral : connection.channel.Neutral) {session : HmacSession}
    (held : connection.session = some session) (machine : Machine ω) :
    Neutral (identity (connection, machine)) := by
  have creating := neutral_createPrimary neutral Handle.endorsement Template.hmacKey machine
  rw [identity, bind_ok (get_eq (connection, machine))]
  obtain ⟨response, key, -, -, made⟩ | ⟨fault, failed⟩ :=
    createPrimary_cases connection.channel Handle.endorsement Template.hmacKey machine
  · have created : during .createIdentityKey _ (connection, machine) = _ :=
      during_of_ok (onSecond_of_ok made)
    show Neutral ((during .createIdentityKey (onSecond
      (createPrimary connection.channel Handle.endorsement Template.hmacKey)) >>= _) _)
    rw [bind_ok created]
    refine blames_bind (blames_of_attempt _ _) fun digest later ran => ?_
    refine blames_bind (blames_of_attempt _ _) fun flushed last released => ?_
    have hashing := neutral_hmacWith neutral held key identityLabel
      (machine.exchanged connection.channel identityCommand.bytes)
    have flushing : Neutral (onSecond (Tpm.flushContext connection.channel key.handle) later) :=
      blames_onSecond (neutral_flushContext neutral key.handle later.2)
    refine blames_bind (blames_ofExcept (fun _ => blames_attempt hashing ran) last) fun digest s _ => ?_
    refine blames_bind (blames_during (blames_ofExcept (fun _ => blames_attempt flushing released) s))
      fun _ u _ => ?_
    exact neutral_ofDigest digest u
  · rw [failed] at creating
    have ended : during .createIdentityKey _ (connection, machine) = _ :=
      during_of_error (onSecond_of_error failed)
    show Neutral ((during .createIdentityKey (onSecond
      (createPrimary connection.channel Handle.endorsement Template.hmacKey)) >>= _) _)
    rw [bind_error ended]
    exact creating

/-- As long as the session is there, no operation reports that it is closed. -/
theorem neutral_perform (neutral : channel.Neutral)
    (holds : Holds channel keyHandles handle connection) (call : Call) (machine : Machine ω) :
    Neutral (call.perform (connection, machine)) := by
  have neutral : connection.channel.Neutral := by
    rw [holds.onChannel]
    exact neutral
  obtain ⟨session, held, -⟩ := holds.session
  cases call with
  | hmac slot message =>
    refine blames_bind ?_ fun _ _ _ => trivial
    obtain ⟨later, still_holds, -, ⟨name, known⟩ | ⟨fault, unknown⟩⟩ := slotKey_spec holds slot machine
    · obtain ⟨_, held', -⟩ := still_holds.session
      have neutral' : later.1.channel.Neutral := by
        rw [still_holds.onChannel, ← holds.onChannel]
        exact neutral
      rw [Connection.hmac, bind_ok known]
      exact neutral_hmacWith neutral' held' _ message later.2
    · have looking := neutral_slotKey neutral slot machine
      rw [unknown] at looking
      rw [Connection.hmac, bind_error unknown]
      exact looking
  | random limit =>
    refine blames_bind ?_ fun _ _ _ => trivial
    rw [random, bind_ok (get_eq (connection, machine))]
    exact blames_onSecond (neutral_getRandom neutral _ machine)
  | identity => exact blames_bind (neutral_identity neutral held machine) fun _ _ _ => trivial
  | selfTest =>
    refine blames_bind ?_ fun _ _ _ => trivial
    rw [selfTest, bind_ok (get_eq (connection, machine))]
    refine blames_bind (blames_onSecond (neutral_selfTest neutral true machine)) fun _ later _ => ?_
    exact blames_bind (blames_onSecond (neutral_getTestResult neutral later.2)) fun _ _ _ => trivial

theorem neutral_run (neutral : channel.Neutral) (holds : Holds channel keyHandles handle connection)
    (calls : List Call) (machine : Machine ω) :
    ∀ outcome ∈ outcomes Call.perform calls (connection, machine), ∀ fault,
      outcome = .error (.error fault) → fault.cause ≠ .sessionClosed := by
  induction calls generalizing connection machine with
  | nil => exact List.forall_mem_nil _
  | cons call calls ih =>
    intro outcome member fault failed
    rcases List.mem_cons.mp member with rfl | later
    · exact cause_of_outcome (neutral_perform neutral holds call machine) failed
    · exact ih (perform_sends holds call machine).1 _ outcome later fault failed

/-! ## The TPM with two keys

It answers an HMAC with two exchanges, the name of the key and the digest, and knows neither GetRandom nor
CreatePrimary. -/

section

variable {keys : Slot → Bytes}

theorem neutral_vault (keys : Slot → Bytes) : (Vault.channel keys).Neutral := by
  intro command world fault failed
  cases failed

/-- The connection that is started with this TPM. -/
def vaultConnection (keys : Slot → Bytes) : Connection Bytes :=
  ⟨Vault.channel keys, some (Vault.held Vault.firstNonce).client, Vault.keyHandles, .both none⟩

/-- The machine behind the start. -/
def vaultOpened (keys : Slot → Bytes) (machine : Machine Bytes) : Machine Bytes :=
  (machine.drawn nonceLength).exchanged (Vault.channel keys) (HmacSession.opening machine)

theorem start_vault (keys : Slot → Bytes) (machine : Machine Bytes) :
    start (Vault.channel keys) Vault.keyHandles machine =
      .ok (vaultConnection keys) (vaultOpened keys machine) := by
  obtain ⟨held, opened, ran, holding⟩ : ∃ held later,
      HmacSession.start (Vault.channel keys) machine = .ok (held : Held).client later ∧
        held = Vault.held later.world := Vault.provisioned.start_ok trivial
  obtain ⟨-, -, -, opened_eq⟩ := HmacSession.start_ok_iff.mp ran
  have world : opened.world = Vault.firstNonce := by
    rw [opened_eq]
    exact congrArg Prod.snd (Vault.reply_start keys _ _)
  rw [holding, world, opened_eq] at ran
  exact start_of_ok Vault.keyHandles ran

theorem holds_vault (keys : Slot → Bytes) :
    Holds (Vault.channel keys) Vault.keyHandles Vault.session (vaultConnection keys) where
  onChannel := rfl
  withKeys := rfl
  session := ⟨_, rfl, rfl⟩
  keys slot key known := by
    cases slot <;> cases known

/-- With the first HMAC for a slot the name of its key becomes known. -/
theorem hmac_vault {connection : Connection Bytes}
    (holds : Holds (Vault.channel keys) Vault.keyHandles handle connection) (slot : Slot)
    (unknown : connection.keys.get slot = none) (message : Bytes)
    (fits : message.length ≤ maxBufferLength) (machine : Machine Bytes) :
    let key : KeyObject := ⟨Vault.keyHandles.get slot, Vault.name⟩
    let asking := (readPublicCommand (Vault.keyHandles.get slot)).bytes
    ∃ named later keyed, after ((Call.hmac slot message).perform (connection, machine)) = (named, later) ∧
      Holds (Vault.channel keys) Vault.keyHandles handle named ∧
      named.keys = connection.keys.set slot (some key) ∧
      later.transcript = machine.transcript ++
        [⟨asking, (Vault.channel keys).answer asking machine.world⟩, keyed] ∧
      AuthorizedBy handle key message keyed.command := by
  intro key asking
  have tpm : Provisioned (Vault.channel keys) _ _ _ _ := Vault.provisioned
  have holding : Vault.held machine.world = Vault.held machine.world := rfl
  obtain ⟨publicArea, read_to, read, -⟩ := tpm.readPublic_ok holding slot
  have grown := after_readPublic (Vault.channel keys) (Vault.keyHandles.get slot) machine
  rw [read, after_ok] at grown
  have same : key.handle = Vault.keyHandles.get slot := rfl
  let left := after ((Call.hmac slot message).perform (connection, machine))
  have ran : left = after (hmacWith key message
      ({ connection with keys := connection.keys.set slot (some key) }, read_to)) :=
    (after_perform_hmac slot message _).trans (after_hmac_of_read holds unknown read message)
  obtain ⟨still_holds, keys_eq, keyed, more, authorized, present⟩ :=
    hmacWith_spec (holds.named same) key message read_to
  obtain ⟨keyed, rfl⟩ := Option.isSome_iff_exists.mp (present fits)
  rw [← ran] at still_holds keys_eq more
  rw [grown] at more
  exact ⟨left.1, left.2, keyed, rfl, still_holds, keys_eq, more.trans (List.append_assoc _ _ _),
    authorized keyed rfl⟩

/-- A request for an identity ends with the command that asks for a key. -/
theorem after_identity_vault {connection : Connection Bytes}
    (holds : Holds (Vault.channel keys) Vault.keyHandles handle connection) (machine : Machine Bytes) :
    after (Call.identity.perform (connection, machine)) =
        (connection, machine.exchanged (Vault.channel keys) identityCommand.bytes) ∧
      success? ((Vault.channel keys).answer identityCommand.bytes machine.world) = none := by
  have refused : success? ((Vault.channel keys).answer identityCommand.bytes machine.world) = none := by
    refine Vault.refused ?_ ?_ ?_ ?_ machine.world <;> nofun
  refine ⟨?_, refused⟩
  rw [Call.perform, after_bind_still _ fun _ => still_pure _, ← holds.onChannel]
  rw [← holds.onChannel] at refused
  obtain ⟨response, key, granted, -⟩ | ⟨fault, failed⟩ :=
    createPrimary_cases connection.channel Handle.endorsement Template.hmacKey machine
  · cases refused.symm.trans granted
  · exact after_identity_of_error failed

/-- Two HMACs and two operations that this TPM does not know the commands of. -/
def vaultCalls : List Call := [.hmac .first [1], .hmac .second [2], .random 16, .identity]

/-- The connection and the machine after these calls. -/
def vaultEnd (keys : Slot → Bytes) (machine : Machine Bytes) : Connection Bytes × Machine Bytes :=
  run vaultCalls (vaultConnection keys, vaultOpened keys machine)

/-- The machine once the connection has been given up without being closed. -/
def vaultAbandoned (keys : Slot → Bytes) (machine : Machine Bytes) : Machine Bytes :=
  after (Ending.abandoned.perform (vaultEnd keys machine).1 (vaultEnd keys machine).2)

/-- For each key its name is asked for and a digest, and no object is made. -/
theorem transcript_vaultAbandoned (keys : Slot → Bytes) (machine : Machine Bytes) :
    let naming := fun slot => (readPublicCommand (Vault.keyHandles.get slot)).bytes
    ∃ opened asked first asked' second drawn made flushed,
      (vaultAbandoned keys machine).transcript = machine.transcript ++
        [⟨HmacSession.opening machine, opened⟩, ⟨naming .first, asked⟩, first, ⟨naming .second, asked'⟩, second,
          ⟨(randomCommand 16).bytes, drawn⟩, ⟨identityCommand.bytes, made⟩,
          ⟨(flushCommand Vault.session).bytes, flushed⟩] ∧
      AuthorizedBy Vault.session ⟨Vault.keyHandles.first, Vault.name⟩ [1] first.command ∧
      AuthorizedBy Vault.session ⟨Vault.keyHandles.second, Vault.name⟩ [2] second.command ∧
      success? made = none := by
  intro naming
  obtain ⟨connection₁, machine₁, first, left₁, holds₁, keys₁, grown₁, digested₁⟩ :=
    hmac_vault (holds_vault keys) .first rfl [1] (by decide) (vaultOpened keys machine)
  have unknown : connection₁.keys.get .second = none := by
    rw [keys₁]
    rfl
  obtain ⟨connection₂, machine₂, second, left₂, holds₂, -, grown₂, digested₂⟩ :=
    hmac_vault holds₁ .second unknown [2] (by decide) machine₁
  let machine₃ := machine₂.exchanged (Vault.channel keys) (randomCommand 16).bytes
  have left₃ : after ((Call.random 16).perform (connection₂, machine₂)) = (connection₂, machine₃) :=
    after_perform_random holds₂ 16 machine₂
  obtain ⟨left₄, refused⟩ := after_identity_vault holds₂ machine₃
  let machine₄ := machine₃.exchanged (Vault.channel keys) identityCommand.bytes
  have at_end : vaultEnd keys machine = (connection₂, machine₄) := by
    rw [vaultEnd, run]
    simp only [vaultCalls, List.foldl_cons, List.foldl_nil, left₁, left₂, left₃, left₄, machine₄]
  let answer := (Vault.channel keys).answer
  refine ⟨answer (HmacSession.opening machine) machine.world,
    answer (naming .first) (vaultOpened keys machine).world, first, answer (naming .second) machine₁.world,
    second, answer (randomCommand 16).bytes machine₂.world, answer identityCommand.bytes machine₃.world,
    answer (flushCommand Vault.session).bytes machine₄.world, ?_, digested₁, digested₂, refused⟩
  rw [vaultAbandoned, at_end, after_ending holds₂]
  simp only [machine₄, machine₃, Machine.exchanged, grown₂, grown₁, vaultOpened, List.append_assoc]
  rfl

end

/-! ## The whole trace -/

variable {calls : List Call} {parts : List (List Exchange)}

/-- Every exchange of a run belongs to one of its operations. -/
theorem sends_of_mem (sends : List.Forall₂ (Sends keyHandles handle) calls parts) {exchange : Exchange}
    (member : exchange ∈ parts.flatten) :
    ∃ call, ∃ part ∈ parts, Sends keyHandles handle call part ∧ exchange ∈ part := by
  induction sends with
  | nil => cases member
  | @cons call part calls parts sent others ih =>
    rcases List.mem_append.mp member with first | later
    · exact ⟨call, part, List.mem_cons_self, sent, first⟩
    · obtain ⟨call', part', among, found⟩ := ih later
      exact ⟨call', part', List.mem_cons_of_mem _ among, found⟩

theorem count_flush {first last : Exchange} {nonce : Bytes}
    (opens : first.command = (HmacSession.startCommand nonce).bytes)
    (sends : List.Forall₂ (Sends keyHandles handle) calls parts)
    (ends : last.command = (flushCommand handle).bytes)
    (withheld : ∀ exchange ∈ parts.flatten, ¬ HandsOut exchange handle) :
    ((first :: (parts.flatten ++ [last])).map (·.command)).count (flushCommand handle).bytes = 1 := by
  have at_first : first.command ≠ (flushCommand handle).bytes := by
    rw [opens]
    exact flush_ne_of_code_ne (by nofun) handle
  have between : (flushCommand handle).bytes ∉ parts.flatten.map (·.command) := by
    intro member
    obtain ⟨exchange, inside, same⟩ := List.mem_map.mp member
    obtain ⟨call, part, among, sent, within_part⟩ := sends_of_mem sends inside
    obtain ⟨made, in_part, granted⟩ := sent.handsOut_of_flush within_part same
    exact withheld made (List.mem_flatten.mpr ⟨part, among, in_part⟩) granted
  rw [List.map_cons, List.count_cons_of_ne at_first, List.map_append, List.count_append,
    List.count_eq_zero_of_not_mem between, Nat.zero_add, List.map_singleton, ends,
    List.count_singleton_self]

/-- All that a connection sends, whatever it is asked for, whatever comes back and however it is given up:
the command that starts the session, what its operations send, and one FlushContext for the session, which
is the last command.  Every HMAC command names the session.  If the TPM hands out no object under the handle
of the session, this FlushContext is the only one for that handle.  And no operation reports that the session
is closed, unless the channel does. -/
theorem connection_trace {before opened : Machine ω}
    (started : start channel keyHandles before = .ok connection opened) (calls : List Call)
    (ending : Ending) :
    let state := run calls (connection, opened)
    let ended := after (ending.perform state.1 state.2)
    ∃ (session : HmacSession) (first : Exchange) (parts : List (List Exchange)) (last : Exchange),
      connection.session = some session ∧
      ended.transcript = before.transcript ++ first :: (parts.flatten ++ [last]) ∧
      first.command = HmacSession.opening before ∧
      started? first.answer = some (session.handle, session.nonceTpm) ∧
      List.Forall₂ (Sends keyHandles session.handle) calls parts ∧
      last.command = (flushCommand session.handle).bytes ∧
      (∀ exchange ∈ first :: (parts.flatten ++ [last]),
        Command.codeOf exchange.command = CommandCode.hmac.code →
          authorizer? exchange.command = some session.handle) ∧
      ((∀ exchange ∈ parts.flatten, ¬ HandsOut exchange session.handle) →
        ((first :: (parts.flatten ++ [last])).map (·.command)).count
          (flushCommand session.handle).bytes = 1) ∧
      (channel.Neutral → ∀ outcome ∈ outcomes Call.perform calls (connection, opened), ∀ fault,
        outcome = .error (.error fault) → fault.cause ≠ .sessionClosed) := by
  intro state ended
  obtain ⟨session, held, ran, holds⟩ := holds_start started
  obtain ⟨brought, -, -, rfl⟩ := HmacSession.start_ok_iff.mp ran
  obtain ⟨still_holds, parts, grown, sends⟩ := run_sends holds calls _
  let first : Exchange :=
    ⟨HmacSession.opening before, channel.answer (HmacSession.opening before) before.world⟩
  let flush := (flushCommand session.handle).bytes
  let last : Exchange := ⟨flush, channel.answer flush state.2.world⟩
  have whole : ended.transcript = before.transcript ++ first :: (parts.flatten ++ [last]) := by
    have left : ended = state.2.exchanged channel flush := after_ending still_holds ending state.2
    have between : state.2.transcript = (before.transcript ++ [first]) ++ parts.flatten := grown
    rw [left]
    show state.2.transcript ++ [last] = _
    rw [between, List.append_assoc, List.append_assoc, List.singleton_append]
  refine ⟨session, first, parts, last, held, whole, rfl, brought, sends, rfl, ?_, ?_, ?_⟩
  · intro exchange member code
    rcases List.mem_cons.mp member with rfl | later
    · exact absurd code (Command.codeOf_ne (by nofun))
    · rcases List.mem_append.mp later with inside | at_end
      · obtain ⟨call, part, -, sent, within_part⟩ := sends_of_mem sends inside
        exact sent.authorizer_eq within_part code
      · rw [List.mem_singleton] at at_end
        subst at_end
        exact absurd code (Command.codeOf_ne (by nofun))
  · exact count_flush rfl sends rfl
  · exact fun neutral => neutral_run neutral holds calls _

/-- A connection to the TPM with two keys is asked for an HMAC with each of them, and for random bytes and an
identity, which this TPM does not give, and is then given up without being closed. -/
theorem connection_trace_vault :
    let keys : Slot → Bytes := fun _ => [0x2a]
    let machine : Machine Bytes := Machine.new [] (Entropy.ofBytes [])
    let flush := (flushCommand Vault.session).bytes
    start (Vault.channel keys) Vault.keyHandles machine =
        .ok (vaultConnection keys) (vaultOpened keys machine) ∧
      (Vault.channel keys).Neutral ∧ ∃ first second,
        (vaultAbandoned keys machine).transcript.map (·.command) = [HmacSession.opening machine,
          (readPublicCommand Vault.keyHandles.first).bytes, first,
          (readPublicCommand Vault.keyHandles.second).bytes, second, (randomCommand 16).bytes,
          identityCommand.bytes, flush] ∧
        authorizer? first = some Vault.session ∧ authorizer? second = some Vault.session ∧
        ((vaultAbandoned keys machine).transcript.map (·.command)).count flush = 1 := by
  intro keys machine flush
  obtain ⟨opened, asked, first, asked', second, drawn, made, flushed, sent, digested₁, digested₂, refused⟩ :=
    transcript_vaultAbandoned keys machine
  have keyless :
      ∀ exchange ∈ (vaultAbandoned keys machine).transcript, ¬ HandsOut exchange Vault.session := by
    have plain : ∀ {command : Command} {answer : Except Fault Bytes}, command.code ≠ .createPrimary →
        ¬ HandsOut ⟨command.bytes, answer⟩ Vault.session := fun other =>
      not_handsOut_of_code (Command.codeOf_ne other)
    rw [sent]
    simp only [List.forall_mem_append, List.forall_mem_cons]
    refine ⟨List.forall_mem_nil _, plain nofun, plain nofun, not_handsOut_of_code ?_, plain nofun,
      not_handsOut_of_code ?_, plain nofun, ?_, plain nofun, List.forall_mem_nil _⟩
    · rw [digested₁.code_eq]
      decide
    · rw [digested₂.code_eq]
      decide
    · intro handed
      obtain ⟨-, response, name, granted, -⟩ := handed
      cases refused.symm.trans granted
  obtain ⟨session, opening, parts, last, held, whole, -, -, -, -, named, once, -⟩ :=
    connection_trace (start_vault keys machine) vaultCalls .abandoned
  cases held
  have whole : (vaultAbandoned keys machine).transcript = opening :: (parts.flatten ++ [last]) := whole
  rw [← whole] at named once
  refine ⟨start_vault keys machine, neutral_vault keys, first.command, second.command, ?_, ?_, ?_, once ?_⟩
  · rw [sent]
    rfl
  · refine named first ?_ digested₁.code_eq
    simp [sent]
  · refine named second ?_ digested₂.code_eq
    simp [sent]
  · intro exchange inside
    refine keyless exchange ?_
    rw [whole]
    exact List.mem_cons_of_mem _ (List.mem_append_left _ inside)

end Connection
end TpmDevice
end TrustAnchor
