import TrustAnchor.Proofs.Lists
import TrustAnchor.Proofs.Tpm.Authentic
import TrustAnchor.Proofs.Tpm.Run

/-!
Fresh caller nonces.

A client may use any number of sessions over one channel, and all of them draw their caller nonces from one
stream of entropy.  `Operation.draws` says for every operation how many nonces it draws, which does not depend
on what comes back, and that a command that carries a nonce carries the one that was drawn for it.  Over a
run (`caller_nonces_fresh`) the nonces in the traffic are therefore blocks of the stream that never overlap,
and the one that a reply is checked with is the one in the command that it answers.
-/

namespace TrustAnchor
namespace Tpm

open Act Wire

variable {ω : Type}

/-! ## Caller nonces on the wire -/

/-- The string behind its size at an offset. -/
def sizedAt? (offset : Nat) (sent : Bytes) : Option Bytes :=
  value? (Reader.sized.within (sent.drop offset))

def carriesNonce (sent : Bytes) : Bool :=
  Command.codeOf sent == CommandCode.startAuthSession.code || Command.codeOf sent == CommandCode.hmac.code

/-- The caller nonce in a command.  StartAuthSession has it behind two handles, an HMAC command in the entry
of its authorization area, behind the handle of the session. -/
def callerNonce? (sent : Bytes) : Option Bytes :=
  if Command.codeOf sent = CommandCode.startAuthSession.code then sizedAt? (headerLength + 8) sent
  else if Command.codeOf sent = CommandCode.hmac.code then sizedAt? (HmacRequest.areaOffset + 4) sent
  else none

theorem sizedAt?_append {front nonce : Bytes} {offset : Nat} (width : front.length = offset)
    (fits : nonce.length < 65536) (rest : Bytes) :
    sizedAt? offset (front ++ (Wire.sized nonce ++ rest)) = some nonce := by
  rw [sizedAt?, List.drop_left' width, value?_eq_some_iff]
  exact Reader.decodes_sized.within_ok_iff.mpr ⟨rfl, _, rest, ⟨fits, rfl⟩, rfl⟩

theorem carriesNonce_bytes_iff (command : Command) :
    carriesNonce command.bytes = true ↔ command.code = .startAuthSession ∨ command.code = .hmac := by
  rw [carriesNonce, Bool.or_eq_true, beq_iff_eq, beq_iff_eq, Command.codeOf_bytes_eq_iff,
    Command.codeOf_bytes_eq_iff]

theorem callerNonce?_startCommand {nonce : Bytes} (fits : nonce.length < 65536) :
    callerNonce? (HmacSession.startCommand nonce).bytes = some nonce := by
  let command := HmacSession.startCommand nonce
  have code : Command.codeOf command.bytes = CommandCode.startAuthSession.code := Command.codeOf_bytes _
  let front := Bytes.ofU16 command.tag.code ++
    Bytes.ofU32 (UInt32.ofNat (headerLength + (encodeAll command.items).length)) ++
      Bytes.ofU32 command.code.code ++ Bytes.ofU32 Handle.null ++ Bytes.ofU32 Handle.null
  have split : ∃ rest, command.bytes = front ++ (Wire.sized nonce ++ rest) := by
    refine ⟨encodeAll [.sized [], .u8 0, .raw SymmetricDef.null.encode, .u16 Algorithm.sha256.code], ?_⟩
    rw [Command.bytes]
    simp only [front, List.append_assoc]
    rfl
  have width : front.length = headerLength + 8 := by
    simp only [front, List.length_append, Bytes.length_ofU16, Bytes.length_ofU32]
    rfl
  obtain ⟨rest, split⟩ := split
  rw [callerNonce?, if_pos code]
  show sizedAt? _ command.bytes = _
  rw [split]
  exact sizedAt?_append width fits rest

theorem callerNonce?_hmacCommand (key : KeyObject) {auth : Authorization}
    (fits : auth.nonceCaller.length < 65536) (parameters : Bytes) :
    callerNonce? (hmacCommand key auth parameters).bytes = some auth.nonceCaller := by
  let command := hmacCommand key auth parameters
  have code : Command.codeOf command.bytes = CommandCode.hmac.code := Command.codeOf_bytes _
  let front := Bytes.ofU16 Tag.sessions.code ++
    Bytes.ofU32 (UInt32.ofNat (headerLength + (8 + auth.encode.length + parameters.length))) ++
      Bytes.ofU32 CommandCode.hmac.code ++ Bytes.ofU32 key.handle ++
        Bytes.ofU32 (UInt32.ofNat auth.encode.length) ++ Bytes.ofU32 auth.handle
  have split : command.bytes =
      front ++ (Wire.sized auth.nonceCaller ++ ([auth.attributes] ++ Wire.sized auth.hmac ++ parameters)) := by
    show (hmacCommand key auth parameters).bytes = _
    rw [bytes_hmacCommand]
    simp only [front, Authorization.encode, List.append_assoc]
  have width : front.length = HmacRequest.areaOffset + 4 := by
    simp only [front, List.length_append, Bytes.length_ofU16, Bytes.length_ofU32]
    rfl
  have other : ¬ CommandCode.hmac.code = CommandCode.startAuthSession.code := by decide
  rw [callerNonce?, code, if_neg other, if_pos rfl]
  show sizedAt? _ command.bytes = _
  rw [split]
  exact sizedAt?_append width fits _

/-! ## Clients -/

/-- The sessions of a client, under the names that it has for them, and the machine that they share.  Before a
session is started under a name, anything may stand there. -/
structure Client (ω : Type) where
  sessions : Nat → HmacSession
  machine : Machine ω

def Client.assign (client : Client ω) (name : Nat) (session : HmacSession) : Client ω :=
  { client with sessions := fun other => if other = name then session else client.sessions other }

/-- What a client can do. -/
inductive Operation
  | start (name : Nat)
  /-- A command, with or without the session. -/
  | call (name : Nat) (request : Call)
  /-- An authorization that is made for a command and then kept. -/
  | authorize (name : Nat) (command : CommandCode) (names : List Bytes) (parameters : Bytes)
  | flush (name : Nat)
  /-- Anything that a client does to a session by itself. -/
  | assign (name : Nat) (session : HmacSession)

namespace Operation

def step (channel : Channel ω) (operation : Operation) (client : Client ω) : Client ω :=
  match operation with
  | .start name =>
    match HmacSession.start channel client.machine with
    | .ok session machine => { client.assign name session with machine }
    | .error _ machine => { client with machine }
  | .call name request =>
    let state := request.step channel (client.sessions name, client.machine)
    { client.assign name state.1 with machine := state.2 }
  | .authorize name command names parameters =>
    { client with machine := after ((client.sessions name).authorize command names parameters client.machine) }
  | .flush name => { client with machine := after ((client.sessions name).flush channel client.machine) }
  | .assign name session => client.assign name session

/-- How many nonces an operation draws. -/
def blocks : Operation → Nat
  | .start _ => 1
  | .call _ request => request.blocks
  | .authorize .. => 1
  | .flush _ => 0
  | .assign .. => 0

/-- How many nonces some operations draw. -/
def total : List Operation → Nat
  | [] => 0
  | operation :: operations => operation.blocks + total operations

end Operation

def Client.run (client : Client ω) (channel : Channel ω) (operations : List Operation) : Client ω :=
  operations.foldl (fun client operation => operation.step channel client) client

/-! ## What one operation does -/

/-- From one machine to the next so many nonces were drawn and at most one command was sent.  If the command
carries a nonce, that is the only one that was drawn. -/
def Draws (blocks : Nat) (before later : Machine ω) : Prop :=
  later.entropy = before.entropy.advance (32 * blocks) ∧ ∃ sent : Option Exchange,
    later.transcript = before.transcript ++ sent.toList ∧
      ∀ exchange ∈ sent, carriesNonce exchange.command = true →
        blocks = 1 ∧ callerNonce? exchange.command = some (before.entropy.next 32)

namespace Draws

variable {channel : Channel ω} {machine : Machine ω}

theorem nothing (machine : Machine ω) : Draws 0 machine machine :=
  ⟨rfl, none, (List.append_nil _).symm, forall_mem_none _⟩

theorem unsent (machine : Machine ω) : Draws 1 machine (machine.drawn nonceLength) :=
  ⟨rfl, none, (List.append_nil _).symm, forall_mem_none _⟩

theorem plain {command : Command} (not_start : command.code ≠ .startAuthSession)
    (not_hmac : command.code ≠ .hmac) :
    Draws 0 machine (machine.exchanged channel command.bytes) := by
  refine ⟨rfl, some _, rfl, ?_⟩
  rintro _ ⟨⟩ carries
  rcases (carriesNonce_bytes_iff command).mp carries with same | same
  · exact absurd same not_start
  · exact absurd same not_hmac

theorem sent {command : Bytes} (nonce : callerNonce? command = some (machine.entropy.next 32)) :
    Draws 1 machine ((machine.drawn nonceLength).exchanged channel command) := by
  refine ⟨rfl, some _, rfl, ?_⟩
  rintro _ ⟨⟩ -
  exact ⟨rfl, nonce⟩

end Draws

theorem callerNonce?_opening (machine : Machine ω) :
    callerNonce? (HmacSession.opening machine) = some (machine.entropy.next 32) :=
  callerNonce?_startCommand (by rw [Entropy.length_next, nonceLength]; decide)

theorem callerNonce?_authorized (session : HmacSession) (key : KeyObject) (parameters : Bytes)
    (machine : Machine ω) :
    callerNonce? (hmacCommand key (session.nextAuthorization key parameters machine) parameters).bytes =
      some (machine.entropy.next 32) := by
  refine callerNonce?_hmacCommand key ?_ parameters
  show (machine.entropy.next 32).length < 65536
  rw [Entropy.length_next]
  decide

theorem Call.blocks_eq {call : Call} {state : HmacSession × Machine ω} {command : Command}
    (sent : call.command? state = some command) : call.blocks = if command.code = .hmac then 1 else 0 := by
  cases call with
  | hmac key data =>
    by_cases fits : data.length ≤ maxBufferLength
    · simp only [command?, hmacParameters_of_le fits, Option.some.injEq] at sent
      rw [blocks, if_pos fits, ← sent]
      rfl
    · simp only [command?, hmacParameters_of_lt (Nat.not_le.mp fits)] at sent
      cases sent
  | _ =>
    cases sent
    rfl

theorem Call.draws (channel : Channel ω) (call : Call) (state : HmacSession × Machine ω) :
    Draws call.blocks state.2 (call.step channel state).2 := by
  obtain ⟨-, blocks, same⟩ | ⟨command, sent, moved⟩ := call.step_eq channel state
  · rw [blocks, same]
    exact Draws.nothing state.2
  · rw [moved, Call.blocks_eq sent]
    rcases Call.command?_eq_some sent with ⟨hmac, opens⟩ | ⟨key, data, parameters, -, -, rfl⟩
    · rw [if_neg hmac]
      exact Draws.plain opens hmac
    · exact Draws.sent (callerNonce?_authorized state.1 key parameters state.2)

namespace Operation

theorem machine_start (channel : Channel ω) (name : Nat) (client : Client ω) :
    ((Operation.start name).step channel client).machine =
      (client.machine.drawn nonceLength).exchanged channel (HmacSession.opening client.machine) := by
  rw [← HmacSession.after_start]
  unfold step
  cases HmacSession.start channel client.machine with
  | ok session later => rfl
  | error e later => rfl

theorem draws (channel : Channel ω) (operation : Operation) (client : Client ω) :
    Draws operation.blocks client.machine (operation.step channel client).machine := by
  cases operation with
  | start name =>
    rw [machine_start]
    exact Draws.sent (callerNonce?_opening client.machine)
  | call name request => exact request.draws channel (client.sessions name, client.machine)
  | authorize name command names parameters => exact Draws.unsent client.machine
  | flush name =>
    show Draws 0 client.machine (after (flushContext channel (client.sessions name).handle client.machine))
    rw [after_flushContext]
    exact Draws.plain (by nofun) (by nofun)
  | assign name session => exact Draws.nothing client.machine

end Operation

/-! ## What a run does -/

/-- The nonces in the traffic, in the order in which the commands were sent. -/
def callerNonces (traffic : List Exchange) : List (Option Bytes) :=
  ((traffic.map (·.command)).filter carriesNonce).map callerNonce?

theorem callerNonces_cons (exchange : Exchange) (traffic : List Exchange) :
    callerNonces (exchange :: traffic) =
      if carriesNonce exchange.command = true then
        callerNonce? exchange.command :: callerNonces traffic
      else callerNonces traffic := by
  by_cases carries : carriesNonce exchange.command = true
  · rw [if_pos carries, callerNonces, List.map_cons, List.filter_cons_of_pos carries, List.map_cons]
    rfl
  · rw [if_neg carries, callerNonces, List.map_cons, List.filter_cons_of_neg carries]
    rfl

/-- The nonces in the traffic between two machines are blocks of the stream that do not overlap, in their
order, and they were drawn in between, together with the nonces that were never sent. -/
def Fresh (blocks : Nat) (before now : Machine ω) : Prop :=
  now.entropy = before.entropy.advance (32 * blocks) ∧
  ∃ (traffic : List Exchange) (positions : List Nat),
    now.transcript = before.transcript ++ traffic ∧
    callerNonces traffic = positions.map (fun position => some (before.entropy.block position 32)) ∧
    positions.Pairwise (fun earlier later => earlier + 32 ≤ later) ∧
    ∀ position ∈ positions, before.entropy.drawn ≤ position ∧ position + 32 ≤ now.entropy.drawn

theorem Fresh.refl (machine : Machine ω) : Fresh 0 machine machine :=
  ⟨rfl, [], [], (List.append_nil _).symm, rfl, .nil, List.forall_mem_nil _⟩

theorem Fresh.cons {first blocks : Nat} {before between now : Machine ω}
    (draws : Draws first before between) (fresh : Fresh blocks between now) :
    Fresh (first + blocks) before now := by
  obtain ⟨moved, sent, grown, carried⟩ := draws
  obtain ⟨total, traffic, positions, grown', nonces, apart, within⟩ := fresh
  have drawn : between.entropy.drawn = before.entropy.drawn + 32 * first := by rw [moved]; rfl
  have same : ∀ position, between.entropy.block position 32 = before.entropy.block position 32 := by
    intro position
    rw [moved]
    rfl
  simp only [same] at nonces
  have later_drawn : now.entropy.drawn = between.entropy.drawn + 32 * blocks := by rw [total]; rfl
  have entropy_eq : now.entropy = before.entropy.advance (32 * (first + blocks)) := by
    rw [total, moved, Entropy.advance_advance, Nat.mul_add]
  -- a nonce that was drawn in this step lies in front of all that are drawn later
  have later : ∀ position ∈ positions, before.entropy.drawn + 32 * first ≤ position ∧
      position + 32 ≤ now.entropy.drawn := by
    intro position member
    rw [← drawn]
    exact within position member
  have within' : ∀ position ∈ positions, before.entropy.drawn ≤ position ∧
      position + 32 ≤ now.entropy.drawn := by
    intro position member
    have bounds := later position member
    omega
  have grown'' : now.transcript = before.transcript ++ (sent.toList ++ traffic) := by
    rw [grown', grown, List.append_assoc]
  by_cases carries : ∃ exchange ∈ sent, carriesNonce exchange.command = true
  · obtain ⟨exchange, rfl, carries⟩ := carries
    obtain ⟨rfl, nonce⟩ := carried exchange rfl carries
    refine ⟨entropy_eq, exchange :: traffic, before.entropy.drawn :: positions, grown'', ?_, ?_, ?_⟩
    · rw [callerNonces_cons, if_pos carries, nonce, nonces]
      rfl
    · refine List.pairwise_cons.mpr ⟨fun position member => ?_, apart⟩
      exact (later position member).1
    · refine List.forall_mem_cons.mpr ⟨⟨Nat.le_refl _, ?_⟩, within'⟩
      omega
  · refine ⟨entropy_eq, sent.toList ++ traffic, positions, grown'', ?_, apart, within'⟩
    cases sent with
    | none => exact nonces
    | some exchange =>
      have silent : ¬ carriesNonce exchange.command = true := fun carried => carries ⟨exchange, rfl, carried⟩
      rw [Option.toList_some, List.singleton_append, callerNonces_cons, if_neg silent]
      exact nonces

theorem Client.fresh_run (channel : Channel ω) (operations : List Operation) (client : Client ω) :
    Fresh (Operation.total operations) client.machine (client.run channel operations).machine := by
  induction operations generalizing client with
  | nil => exact Fresh.refl client.machine
  | cons operation operations ih =>
    exact Fresh.cons (operation.draws channel client) (ih (operation.step channel client))

/-! ## The next operation -/

/-- How the next operation of a client draws, sends and checks nonces. -/
structure NonceLaw (channel : Channel ω) (client : Client ω) : Prop where
  /-- What is drawn does not depend on what comes back. -/
  drawn : ∀ operation : Operation, (operation.step channel client).machine.entropy =
    client.machine.entropy.advance (32 * operation.blocks)
  /-- A start sends the nonce that it draws. -/
  opened : ∀ name, ∃ sent, ((Operation.start name).step channel client).machine.transcript =
      client.machine.transcript ++ [⟨sent, channel.answer sent client.machine.world⟩] ∧
    carriesNonce sent = true ∧ callerNonce? sent = some (client.machine.entropy.next 32)
  /-- Data that is too long is refused, and nothing has changed. -/
  refused : ∀ name key data, 1024 < data.length →
    (Operation.call name (.hmac key data)).step channel client = client
  /-- An HMAC sends the nonce that it draws and checks the reply with the nonce that it has sent. -/
  checked : ∀ name key data, data.length ≤ 1024 →
    ∃ sent nonce, ((Operation.call name (.hmac key data)).step channel client).machine.transcript =
        client.machine.transcript ++ [⟨sent, channel.answer sent client.machine.world⟩] ∧
      carriesNonce sent = true ∧ callerNonce? sent = some nonce ∧
      nonce = client.machine.entropy.next 32 ∧
      ∀ digest, outcome (hmac channel key data (client.sessions name, client.machine)) = .ok digest ↔
        ∃ reply, channel.answer sent client.machine.world = .ok reply ∧ Authentic nonce digest reply

theorem Client.assign_self (client : Client ω) (name : Nat) :
    client.assign name (client.sessions name) = client := by
  have same : (fun other => if other = name then client.sessions name else client.sessions other) =
      client.sessions := by
    funext other
    by_cases chosen : other = name
    · rw [if_pos chosen, chosen]
    · rw [if_neg chosen]
  rw [assign, same]

theorem nonceLaw (channel : Channel ω) (client : Client ω) : NonceLaw channel client where
  drawn operation := (operation.draws channel client).1
  opened name := by
    refine ⟨HmacSession.opening client.machine, ?_, ?_, callerNonce?_opening client.machine⟩
    · rw [Operation.machine_start]
      rfl
    · exact (carriesNonce_bytes_iff _).mpr (.inl rfl)
  refused name key data long := by
    have same : (Call.hmac key data).step channel (client.sessions name, client.machine) =
        (client.sessions name, client.machine) := by
      show after (hmac channel key data (client.sessions name, client.machine)) = _
      rw [hmac_of_error (hmacParameters_of_lt long)]
      rfl
    unfold Operation.step
    simp only [same, Client.assign_self]
  checked name key data fits := by
    have short : hmacParameters (client.sessions name) data = .ok _ := hmacParameters_of_le fits
    refine ⟨_, _, ?_, (carriesNonce_bytes_iff _).mpr (.inr rfl), callerNonce?_authorized _ key _ _, rfl,
      fun digest => outcome_hmac_eq_ok_iff short⟩
    show (after (hmac channel key data (client.sessions name, client.machine))).2.transcript = _
    rw [after_hmac short]
    rfl

/-- Caller nonces are never used again.  After any operations on any number of sessions, over any channel, the
nonces in the commands that were sent are blocks of the entropy that do not overlap, in the order of the
commands; what was drawn is one block for every start and every authorization, and nothing else; and all that
holds of the operation that comes next. -/
theorem caller_nonces_fresh (channel : Channel ω) (operations : List Operation) (client : Client ω) :
    Fresh (Operation.total operations) client.machine (client.run channel operations).machine ∧
      NonceLaw channel (client.run channel operations) :=
  ⟨client.fresh_run channel operations, nonceLaw channel _⟩

end Tpm
end TrustAnchor
