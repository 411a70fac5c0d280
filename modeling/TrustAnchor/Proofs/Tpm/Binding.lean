import TrustAnchor.Proofs.Tpm.Freshness
import TrustAnchor.Proofs.Tpm.Template

/-!
What the HMAC of a response binds.

The HMAC is computed over a hash, two nonces and the attributes, one behind the other and with nothing to mark
where one ends.  The nonce of the TPM has any length; what stands in front of it and behind it has not, so
the parts can be told from the whole (`sessionHmacInput_inj`).  Two responses that pass with the same HMAC
therefore agree in everything that it covers, or else their inputs collide, and the inputs can be written
down (`verify_binds_or_collides`).  Nothing is assumed of the hash.
-/

namespace TrustAnchor
namespace Tpm

open Act Wire

variable {ω : Type} {channel : Channel ω}

/-- Two different strings with one digest. -/
def Collide (digest : Bytes → Bytes) (first second : Bytes) : Prop :=
  first ≠ second ∧ digest first = digest second

/-! ## Inputs and their parts -/

theorem responseHashInput_inj {command command' : CommandCode} {parameters parameters' : Bytes}
    (same : responseHashInput command parameters = responseHashInput command' parameters') :
    command = command' ∧ parameters = parameters' := by
  rw [responseHashInput, responseHashInput, List.append_assoc, List.append_assoc] at same
  have rests := List.append_cancel_left same
  obtain ⟨code, -, rest⟩ := Reader.decodes_u32.append_inj rfl rfl rests
  exact ⟨CommandCode.code_injective code, rest⟩

/-- The parts of an HMAC input can be told, although the newer nonce may have any length. -/
theorem sessionHmacInput_inj {hash hash' newer newer' older older' : Bytes} {attributes attributes' : UInt8}
    (hash_width : hash.length = hash'.length) (older_width : older.length = older'.length)
    (same : sessionHmacInput hash newer older attributes =
      sessionHmacInput hash' newer' older' attributes') :
    hash = hash' ∧ newer = newer' ∧ older = older' ∧ attributes = attributes' := by
  unfold sessionHmacInput at same
  obtain ⟨front, last⟩ := List.append_inj' same rfl
  obtain ⟨front, olders⟩ := List.append_inj' front older_width
  obtain ⟨hashes, newers⟩ := List.append_inj front hash_width
  exact ⟨hashes, newers, olders, List.singleton_inj.mp last⟩

/-! ## Checks -/

/-- An entry of a response, with what it is checked against. -/
structure Check where
  command : CommandCode
  sent : Authorization
  parameters : Bytes
  received : ResponseAuth

namespace Check

/-- The session accepts the entry, and goes on as `later`. -/
def Passes (check : Check) (session later : HmacSession) : Prop :=
  HmacSession.verify check.command check.sent check.parameters check.received session = .ok () later

/-- What the hash of the response is computed over. -/
def hashInput (check : Check) : Bytes := responseHashInput check.command check.parameters

/-- What the HMAC of the response is computed over. -/
def hmacInput (check : Check) : Bytes :=
  sessionHmacInput (Sha256.hash check.hashInput) check.received.nonceTpm check.sent.nonceCaller
    check.received.attributes

/-- The checks agree in everything that the HMAC covers. -/
structure Agree (first second : Check) : Prop where
  command : first.command = second.command
  parameters : first.parameters = second.parameters
  nonceTpm : first.received.nonceTpm = second.received.nonceTpm
  attributes : first.received.attributes = second.received.attributes
  nonceCaller : first.sent.nonceCaller = second.sent.nonceCaller

theorem Passes.hmac_eq {check : Check} {session later : HmacSession} (passed : check.Passes session later) :
    check.received.hmac = Hmac.sha256 [] check.hmacInput := (verify_ok_iff.mp passed).1

theorem agree_or_collide {first second : Check}
    (width : first.sent.nonceCaller.length = second.sent.nonceCaller.length)
    (same : Hmac.sha256 [] first.hmacInput = Hmac.sha256 [] second.hmacInput) :
    first.Agree second ∨ Collide Sha256.hash first.hashInput second.hashInput ∨
      Collide (Hmac.sha256 []) first.hmacInput second.hmacInput := by
  by_cases inputs : first.hmacInput = second.hmacInput
  · have hash_width : (Sha256.hash first.hashInput).length = (Sha256.hash second.hashInput).length := by
      rw [Sha256.length_hash, Sha256.length_hash]
    obtain ⟨hashes, nonceTpm, nonceCaller, attributes⟩ := sessionHmacInput_inj hash_width width inputs
    by_cases hash_inputs : first.hashInput = second.hashInput
    · obtain ⟨command, parameters⟩ := responseHashInput_inj hash_inputs
      exact .inl ⟨command, parameters, nonceTpm, attributes, nonceCaller⟩
    · exact .inr (.inl ⟨hash_inputs, hashes⟩)
  · exact .inr (.inr ⟨inputs, same⟩)

end Check

/-! ## Replies -/

namespace ReplyParts

/-- What the HMAC in the reply is computed over, for a nonce of the caller. -/
def hmacInput (parts : ReplyParts) (nonceCaller : Bytes) : Bytes :=
  sessionHmacInput (responseHash .hmac parts.parameters) parts.first.nonceTpm nonceCaller
    parts.first.attributes

/-- What replies with the same bytes say is the same, whatever they prove. -/
theorem content_eq_of_bytes {first second : ReplyParts} {nonce nonce' digest digest' : Bytes}
    (proves : first.Proves nonce digest) (proves' : second.Proves nonce' digest')
    (same : first.bytes = second.bytes) : first.content = second.content := by
  have success := proves.success
  rw [same, proves'.success, Option.some.injEq] at success
  have data : second.data = first.data := congrArg Response.data success
  have read : (Response.mk .sessions 0 first.data).sessionReply 0 () = .ok first.content () :=
    Response.sessionReply_ok_iff.mpr ⟨rfl, rfl, rfl, proves.fits, proves.data_eq⟩
  have read' : (Response.mk .sessions 0 second.data).sessionReply 0 () = .ok second.content () :=
    Response.sessionReply_ok_iff.mpr ⟨rfl, rfl, rfl, proves'.fits, proves'.data_eq⟩
  rw [data, read] at read'
  injection read'

/-- Bytes that prove two digests, each for a nonce of its own, prove the same one for one nonce. -/
theorem nonce_eq_or_collide {first second : ReplyParts} {nonce nonce' digest digest' : Bytes}
    (proves : first.Proves nonce digest) (proves' : second.Proves nonce' digest')
    (width : nonce.length = nonce'.length) (same : first.bytes = second.bytes) :
    nonce = nonce' ∨ Collide (Hmac.sha256 []) (first.hmacInput nonce) (first.hmacInput nonce') := by
  have content := content_eq_of_bytes proves proves' same
  have parameters : first.parameters = second.parameters := congrArg SessionReply.parameters content
  have entries : first.first :: first.others = second.first :: second.others :=
    congrArg SessionReply.auth content
  have entry : first.first = second.first := (List.cons.inj entries).1
  by_cases nonces : nonce = nonce'
  · exact .inl nonces
  · refine .inr ⟨fun inputs => ?_, ?_⟩
    · exact nonces (sessionHmacInput_inj rfl width inputs).2.2.1
    · have hmac : first.first.hmac = Hmac.sha256 [] (first.hmacInput nonce) := proves.hmac
      have hmac' : second.first.hmac = Hmac.sha256 [] (second.hmacInput nonce') := proves'.hmac
      rw [← hmac, entry, hmac', hmacInput, hmacInput, parameters, entry]

end ReplyParts

/-- Some HMAC over the channel sends the command, and makes a digest of the answer. -/
def Accepted (channel : Channel ω) (exchange : Exchange) : Prop :=
  ∃ key data state digest,
    (after (hmac channel key data state)).2.transcript = state.2.transcript ++ [exchange] ∧
      outcome (hmac channel key data state) = .ok digest

/-- An HMAC that gives a digest has had an answer. -/
theorem accepted_of_ok {key : KeyObject} {data digest : Bytes} {session : HmacSession} {machine : Machine ω}
    (digested : outcome (hmac channel key data (session, machine)) = .ok digest) :
    ∃ exchange, Accepted channel exchange := by
  cases short : hmacParameters session data with
  | error fault =>
    rw [hmac_of_error short] at digested
    cases digested
  | ok parameters =>
    let sent := (hmacCommand key (session.nextAuthorization key parameters machine) parameters).bytes
    refine ⟨⟨sent, channel.answer sent machine.world⟩, key, data, (session, machine), digest, ?_, digested⟩
    rw [after_hmac short]
    rfl

theorem Accepted.authentic {exchange : Exchange} (accepted : Accepted channel exchange) :
    ∃ nonce digest reply, nonce.length = 32 ∧ callerNonce? exchange.command = some nonce ∧
      exchange.answer = .ok reply ∧ Authentic nonce digest reply := by
  obtain ⟨key, data, ⟨session, machine⟩, digest, grown, digested⟩ := accepted
  cases short : hmacParameters session data with
  | error fault =>
    rw [hmac_of_error short] at digested
    cases digested
  | ok parameters =>
    let auth := session.nextAuthorization key parameters machine
    have width : auth.nonceCaller.length = 32 := Entropy.length_next machine.entropy nonceLength
    obtain ⟨reply, came, authentic⟩ := (outcome_hmac_eq_ok_iff short).mp digested
    have added : machine.transcript ++ [⟨(hmacCommand key auth parameters).bytes, .ok reply⟩] =
        machine.transcript ++ [exchange] := by
      rw [← grown, after_hmac short, ← came]
      rfl
    have sent : ⟨(hmacCommand key auth parameters).bytes, .ok reply⟩ = exchange :=
      List.singleton_inj.mp (List.append_cancel_left added)
    subst sent
    exact ⟨auth.nonceCaller, digest, reply, width,
      callerNonce?_hmacCommand key (by rw [width]; omega) parameters, rfl, authentic⟩

/-- The HMAC of a response binds the code of the command, the parameters, both nonces and the attributes.
Of two entries that pass with the same HMAC, each checked against an authorization with a nonce of 32 bytes,
either all of these are the same, or the inputs of the hash or of the HMAC are a collision; the nonces of the
TPM may have any length.  The nonces that authorizations are made with have 32 bytes.  So if one reply is
accepted for two commands, over any two channels, then the commands carry the same caller nonce, or the
inputs of the HMAC for the two nonces are a collision. -/
theorem verify_binds_or_collides :
    (∀ (first second : Check) (session later session' later' : HmacSession),
      first.Passes session later → second.Passes session' later' →
        first.sent.nonceCaller.length = 32 → second.sent.nonceCaller.length = 32 →
          first.received.hmac = second.received.hmac →
            first.Agree second ∨ Collide Sha256.hash first.hashInput second.hashInput ∨
              Collide (Hmac.sha256 []) first.hmacInput second.hmacInput) ∧
    (∀ {ω : Type} (session : HmacSession) (command : CommandCode) (names : List Bytes) (parameters : Bytes)
      (machine : Machine ω), ∃ sent, sent.nonceCaller.length = 32 ∧
        outcome (session.authorize command names parameters machine) = .ok sent) ∧
    ∀ {ω ω' : Type} (channel : Channel ω) (channel' : Channel ω') (exchange exchange' : Exchange),
      Accepted channel exchange → Accepted channel' exchange' → exchange.answer = exchange'.answer →
        ∃ nonce nonce' parts, callerNonce? exchange.command = some nonce ∧
          callerNonce? exchange'.command = some nonce' ∧
            exchange.answer = .ok (ReplyParts.bytes parts) ∧ (nonce = nonce' ∨
              Collide (Hmac.sha256 []) (parts.hmacInput nonce) (parts.hmacInput nonce')) := by
  refine ⟨?checks, ?authorizations, ?replies⟩
  case checks =>
    intro first second session later session' later' passed passed' width width' same
    rw [passed.hmac_eq, passed'.hmac_eq] at same
    exact Check.agree_or_collide (width.trans width'.symm) same
  case authorizations =>
    intro ω session command names parameters machine
    exact ⟨_, Entropy.length_next machine.entropy nonceLength, rfl⟩
  case replies =>
    intro ω ω' channel channel' exchange exchange' accepted accepted' same
    obtain ⟨nonce, digest, _, width, sent, came, parts, rfl, proves⟩ := accepted.authentic
    obtain ⟨nonce', digest', _, width', sent', came', parts', rfl, proves'⟩ := accepted'.authentic
    have bytes : parts.bytes = parts'.bytes := Except.ok.inj (came.symm.trans (same.trans came'))
    exact ⟨nonce, nonce', parts, sent, sent', came,
      ReplyParts.nonce_eq_or_collide proves proves' (width.trans width'.symm) bytes⟩

/-- One response for two authorizations that differ in what the HMAC does not cover, and a reply of a TPM that
holds the key. -/
theorem verify_binds_or_collides_vault :
    let session := (Vault.held Vault.firstNonce).client
    let nonce : Bytes := List.replicate 32 7
    let proof := sessionHmac (responseHash .hmac [5]) [1, 2] nonce 1
    let first : Check := ⟨.hmac, ⟨0x02000000, nonce, 1, []⟩, [5], ⟨[1, 2], 1, proof⟩⟩
    let second : Check := { first with sent := ⟨0x02000001, nonce, 0, [9]⟩ }
    (first.Passes session (session.took (some [1, 2])) ∧ second.Passes session (session.took (some [1, 2])) ∧
      first.sent.nonceCaller.length = 32 ∧ second.sent.nonceCaller.length = 32 ∧
        (first.Agree second ∨ Collide Sha256.hash first.hashInput second.hashInput ∨
          Collide (Hmac.sha256 []) first.hmacInput second.hmacInput)) ∧
    ∃ exchange, Accepted (Vault.channel fun _ => [0x2a]) exchange ∧
      ∃ nonce parts, callerNonce? exchange.command = some nonce ∧
        exchange.answer = .ok (ReplyParts.bytes parts) := by
  intro session nonce proof first second
  have width : nonce.length = 32 := List.length_replicate
  have passed : first.Passes session (session.took (some [1, 2])) := verify_ok_iff.mpr ⟨rfl, rfl⟩
  have passed' : second.Passes session (session.took (some [1, 2])) := verify_ok_iff.mpr ⟨rfl, rfl⟩
  refine ⟨⟨passed, passed', width, width, ?_⟩, ?_⟩
  · exact verify_binds_or_collides.1 first second _ _ _ _ passed passed' width width rfl
  · let machine : Machine Bytes := Machine.new Vault.firstNonce (Entropy.ofBytes [7])
    have fits : ([1, 2, 3] : Bytes).length ≤ 1024 := by decide
    have holding : Vault.held Vault.firstNonce = Vault.held machine.world := rfl
    have tpm : Provisioned (Vault.channel fun _ => [0x2a]) _ _ _ _ := Vault.provisioned
    obtain ⟨newer, later, digested, -⟩ := tpm.hmac_ok holding .first fits
    obtain ⟨exchange, accepted⟩ := accepted_of_ok (congrArg outcome digested)
    obtain ⟨nonce, -, parts, sent, -, came, -⟩ :=
      verify_binds_or_collides.2.2 _ _ exchange exchange accepted accepted rfl
    exact ⟨exchange, accepted, nonce, parts, sent, came⟩

end Tpm
end TrustAnchor
