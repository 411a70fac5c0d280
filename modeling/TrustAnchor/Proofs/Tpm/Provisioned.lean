import TrustAnchor.Proofs.Tpm.Check
import TrustAnchor.Proofs.Tpm.Session

/-!
TPMs with two HMAC keys.

`Provisioned` says what such a TPM answers to the four commands that keys are derived with.  It is stated
on the bytes of commands and answers, and about the TPM alone: what it holds for the session that was started
last, and how each answer changes that.  The section after it goes through the operations of the client
against such a TPM; each of them succeeds, and afterwards both sides still hold the same nonce.
-/

namespace TrustAnchor
namespace Tpm

open Act Wire

variable {ω : Type}

/-- What the TPM holds for a connection: the session with its nonce, and the names of the objects. -/
structure Held where
  session : Handle
  nonce : Bytes
  names : Handle → Bytes

/-- The answer is a response that reports success and carries these data. -/
def Grants (answer : Except Fault Bytes) (tag : Tag) (data : Bytes) : Prop :=
  headerLength + data.length < 4294967296 ∧
    ∃ padding, answer = .ok (Response.bytes ⟨tag, 0, data⟩ ++ padding)

/-- A digest, and an entry with a newer nonce and the HMAC of the response. -/
def digestReply (digest newer nonceCaller : Bytes) (attributes : UInt8) : SessionReply where
  handles := []
  parameters := Wire.sized digest
  auth := [⟨newer, attributes,
    sessionHmac (responseHash .hmac (Wire.sized digest)) newer nonceCaller attributes⟩]

/-- The other end of the channel is a TPM with these HMAC keys under these handles.  In a world that is
`ready` it starts a session; from then on it `holds` something for it, until the session is flushed. -/
structure Provisioned (channel : Channel ω) (keyHandles : PerSlot Handle) (keys : Slot → Bytes)
    (ready : ω → Prop) (holds : Held → ω → Prop) : Prop where
  started : ∀ world nonceCaller, ready world → nonceCaller.length = nonceLength →
    ∃ held : Held, held.nonce.length < 65536 ∧
      Grants (channel.answer (HmacSession.startCommand nonceCaller).bytes world) .noSessions
        (Bytes.ofU32 held.session ++ Wire.sized held.nonce) ∧
      holds held (channel.next (HmacSession.startCommand nonceCaller).bytes world)
  named : ∀ held world slot, holds held world →
    ∃ publicArea qualified : Bytes, publicArea.length < 65536 ∧ qualified.length < 65536 ∧
      (held.names (keyHandles.get slot)).length < 65536 ∧
      Grants (channel.answer (readPublicCommand (keyHandles.get slot)).bytes world) .noSessions
        (Wire.sized publicArea ++
          (Wire.sized (held.names (keyHandles.get slot)) ++ Wire.sized qualified)) ∧
      holds held (channel.next (readPublicCommand (keyHandles.get slot)).bytes world)
  /-- A command that passes the check is answered with the digest of its data. -/
  digested : ∀ held world slot command request position data, holds held world →
    Request.read (Reader.ofBytes command) =
        .ok request ⟨position, Wire.sized data ++ Bytes.ofU16 Algorithm.sha256.code⟩ →
      data.length ≤ maxBufferLength → request.object = keyHandles.get slot →
        request.auth.attributes = continueSession →
          accepts held.names held.session held.nonce command = true →
    ∃ (newer : Bytes) (attributes : UInt8), newer.length < 65536 ∧
      Grants (channel.answer command world) .sessions
        (digestReply (Hmac.sha256 (keys slot) data) newer request.auth.nonceCaller attributes).encode ∧
      holds { held with nonce := newer } (channel.next command world)
  flushed : ∀ held world, holds held world →
    (∃ data, Grants (channel.answer (flushCommand held.session).bytes world) .noSessions data) ∧
      ready (channel.next (flushCommand held.session).bytes world)

/-! ## Answers that are granted -/

theorem success?_of_grants {answer : Except Fault Bytes} {tag : Tag} {data : Bytes}
    (granted : Grants answer tag data) : success? answer = some ⟨tag, 0, data⟩ :=
  success?_eq_some_iff.mpr ⟨rfl, granted⟩

theorem fits_digestReply {digest newer : Bytes} (digest_width : digest.length = 32)
    (newer_fits : newer.length < 65536) (nonceCaller : Bytes) (attributes : UInt8) :
    (digestReply digest newer nonceCaller attributes).Fits := by
  refine ⟨?_, ?_⟩
  · show (Wire.sized digest).length < 4294967296
    rw [length_sized, digest_width]
    decide
  · intro entry member
    rw [List.mem_singleton.mp member]
    refine ⟨newer_fits, ?_⟩
    show (sessionHmac _ _ _ _).length < 65536
    rw [sessionHmac, Hmac.length_sha256]
    decide

/-- A reply with the digest for the nonce that was sent gives the digest, and the session takes over the
nonce in it. -/
theorem settleHmac_digestReply (auth : Authorization) {digest newer : Bytes}
    (digest_width : digest.length = 32) (newer_fits : newer.length < 65536) (attributes : UInt8)
    (state : HmacSession × Machine ω) :
    settleHmac auth ⟨.sessions, 0, (digestReply digest newer auth.nonceCaller attributes).encode⟩ state =
      .ok digest (state.1.took (some newer), state.2) := by
  have fits := fits_digestReply digest_width newer_fits auth.nonceCaller attributes
  have digest_fits : digest.length < 65536 := by omega
  exact settleHmac_ok_iff.mpr ⟨_, _, [], rfl, rfl, rfl, fits, rfl, digest_fits, rfl, rfl, rfl⟩

/-! ## The client's operations -/

/-- The session as the client has it. -/
def Held.client (held : Held) : HmacSession := ⟨held.session, .sha256, held.nonce, continueSession⟩

namespace Provisioned

variable {channel : Channel ω} {keyHandles : PerSlot Handle} {keys : Slot → Bytes} {ready : ω → Prop}
  {holds : Held → ω → Prop} {held : Held} {machine : Machine ω}

theorem start_ok (tpm : Provisioned channel keyHandles keys ready holds) (idle : ready machine.world) :
    ∃ held later, HmacSession.start channel machine = .ok (held : Held).client later ∧
      holds held later.world := by
  obtain ⟨held, fits, granted, held_then⟩ :=
    tpm.started machine.world (machine.entropy.next nonceLength) idle (Entropy.length_next _ _)
  refine ⟨held, (machine.drawn nonceLength).exchanged channel (HmacSession.opening machine), ?_, held_then⟩
  refine HmacSession.start_ok_iff.mpr ⟨?_, rfl, rfl, rfl⟩
  rw [started?, HmacSession.opening, success?_of_grants granted, Option.bind_some, value?_eq_some_iff]
  exact HmacSession.decodes_readStarted.within_ok_iff.mpr
    ⟨rfl, _, [], ⟨fits, rfl⟩, (List.append_nil _).symm⟩

theorem readPublic_ok (tpm : Provisioned channel keyHandles keys ready holds)
    (holding : holds held machine.world) (slot : Slot) :
    ∃ publicArea later, readPublic channel (keyHandles.get slot) machine =
      .ok (⟨keyHandles.get slot, held.names (keyHandles.get slot)⟩, publicArea) later ∧
        holds held later.world := by
  obtain ⟨publicArea, qualified, area_fits, qualified_fits, name_fits, granted, held_then⟩ :=
    tpm.named held machine.world slot holding
  let later := machine.exchanged channel (readPublicCommand (keyHandles.get slot)).bytes
  refine ⟨publicArea, later, ?_, held_then⟩
  have ran := perform_of_some (.readPublicOf (keyHandles.get slot)) machine (success?_of_grants granted)
  have read : readPublicAnswer.within (Wire.sized publicArea ++
      (Wire.sized (held.names (keyHandles.get slot)) ++ Wire.sized qualified)) later =
        .ok (publicArea, held.names (keyHandles.get slot)) later :=
    decodes_readPublicAnswer.within_ok_iff.mpr ⟨rfl, _, [],
      ⟨area_fits, name_fits, qualified, qualified_fits, rfl⟩, (List.append_nil _).symm⟩
  have started : readPublic channel (keyHandles.get slot) machine = _ := bind_ok ran
  rw [started, bind_ok read]
  rfl

theorem hmac_ok (tpm : Provisioned channel keyHandles keys ready holds)
    (holding : holds held machine.world) (slot : Slot) {data : Bytes}
    (fits : data.length ≤ maxBufferLength) :
    ∃ newer later,
      hmac channel ⟨keyHandles.get slot, held.names (keyHandles.get slot)⟩ data (held.client, machine) =
        .ok (Hmac.sha256 (keys slot) data) (({ held with nonce := newer } : Held).client, later) ∧
      holds { held with nonce := newer } later.world := by
  let key : KeyObject := ⟨keyHandles.get slot, held.names (keyHandles.get slot)⟩
  let parameters := Wire.sized data ++ Bytes.ofU16 Algorithm.sha256.code
  let auth := held.client.nextAuthorization key parameters machine
  let command := (hmacCommand key auth parameters).bytes
  have short : hmacParameters held.client data = .ok parameters := hmacParameters_of_le fits
  have width : (machine.entropy.next nonceLength).length = nonceLength := Entropy.length_next _ _
  obtain ⟨request, position, ran, object, auth_eq, -⟩ :=
    read_hmacCommand held.client key width (length_hmacParameters short)
  have accepted : accepts held.names held.session held.nonce command = true :=
    accepts_hmacCommand rfl width (length_hmacParameters short)
  have attributes : request.auth.attributes = continueSession := by
    rw [auth_eq]
    rfl
  obtain ⟨newer, flags, newer_fits, granted, held_then⟩ :=
    tpm.digested held machine.world slot command request position data holding ran fits object attributes
      accepted
  let later := (machine.drawn nonceLength).exchanged channel command
  have settled := settleHmac_digestReply request.auth (Hmac.length_sha256 (keys slot) data) newer_fits
    flags (held.client, later)
  have sent := perform_of_some (.hmacWith key.handle) (machine.drawn nonceLength)
    (success?_of_grants granted)
  rw [auth_eq] at settled sent
  refine ⟨newer, later, ?_, held_then⟩
  rw [hmac_of_ok short, bind_ok (onSecond_of_ok sent)]
  exact settled

theorem flush_ok (tpm : Provisioned channel keyHandles keys ready holds)
    (holding : holds held machine.world) :
    ∃ later, held.client.flush channel machine = .ok () later ∧ ready later.world := by
  obtain ⟨⟨data, granted⟩, idle⟩ := tpm.flushed held machine.world holding
  have ran : perform channel (flushCommand held.session) _ machine = _ :=
    perform_of_some (.command .flushContext) machine (success?_of_grants granted)
  exact ⟨_, bind_ok ran, idle⟩

end Provisioned

/-! ## A TPM with two keys -/

namespace Vault

def session : Handle := 0x02000000

def firstNonce : Bytes := List.replicate 32 0x11

def keyHandles : PerSlot Handle := ⟨0x81000001, 0x81000002⟩

/-- The name of both keys, behind the code of the hash that names are made with. -/
def name : Bytes := Bytes.ofU16 Algorithm.sha256.code ++ List.replicate 32 0x22

def slot? (object : Handle) : Option Slot :=
  if object = keyHandles.first then some .first
  else if object = keyHandles.second then some .second
  else none

theorem slot?_get (slot : Slot) : slot? (keyHandles.get slot) = some slot := by
  cases slot <;> rfl

/-- The handle behind the header of a command. -/
def objectOf (command : Bytes) : Handle := Bytes.toU32 ((command.drop headerLength).take 4)

def failed : Response := ⟨.noSessions, ResponseCode.failure.code, []⟩

/-- The answer to an HMAC command that passes the check.  The newer nonce is the hash of the older one. -/
def digest? (keys : Slot → Bytes) (command nonce : Bytes) : Option SessionReply :=
  match Request.read (Reader.ofBytes command) with
  | .error _ _ => none
  | .ok request ⟨_, parameters⟩ =>
    if accepts (fun _ => name) session nonce command then
      let data := (parameters.drop 2).take (parameters.length - 4)
      (slot? request.object).map fun slot =>
        digestReply (Hmac.sha256 (keys slot) data) (Sha256.hash nonce) request.auth.nonceCaller
          continueSession
    else none

/-- A TPM whose world is the nonce of its only session. -/
def reply (keys : Slot → Bytes) (command nonce : Bytes) : Response × Bytes :=
  if Command.codeOf command = CommandCode.startAuthSession.code then
    (⟨.noSessions, 0, Bytes.ofU32 session ++ Wire.sized firstNonce⟩, firstNonce)
  else if Command.codeOf command = CommandCode.readPublic.code ∧ (slot? (objectOf command)).isSome then
    (⟨.noSessions, 0, Wire.sized [] ++ (Wire.sized name ++ Wire.sized name)⟩, nonce)
  else if Command.codeOf command = CommandCode.flushContext.code ∧ objectOf command = session then
    (⟨.noSessions, 0, []⟩, nonce)
  else
    match digest? keys command nonce with
    | some answer => (⟨.sessions, 0, answer.encode⟩, Sha256.hash nonce)
    | none => (failed, nonce)

def channel (keys : Slot → Bytes) : Channel Bytes where
  path := "vault"
  transmit command := fun nonce => .ok (reply keys command nonce).1.bytes (reply keys command nonce).2

def held (nonce : Bytes) : Held := ⟨session, nonce, fun _ => name⟩

variable {keys : Slot → Bytes}

theorem grants_of_reply {command nonce newer data : Bytes} {tag : Tag}
    (replied : reply keys command nonce = (⟨tag, 0, data⟩, newer))
    (short : headerLength + data.length < 4294967296) :
    Grants ((channel keys).answer command nonce) tag data ∧ (channel keys).next command nonce = newer := by
  refine ⟨⟨short, [], ?_⟩, ?_⟩
  · show Except.ok (reply keys command nonce).1.bytes = _
    rw [replied, List.append_nil]
  · show (reply keys command nonce).2 = newer
    rw [replied]

theorem reply_start (keys : Slot → Bytes) (nonceCaller nonce : Bytes) :
    reply keys (HmacSession.startCommand nonceCaller).bytes nonce =
      (⟨.noSessions, 0, Bytes.ofU32 session ++ Wire.sized firstNonce⟩, firstNonce) :=
  if_pos (Command.codeOf_bytes _)

theorem reply_readPublic (keys : Slot → Bytes) (slot : Slot) (nonce : Bytes) :
    reply keys (readPublicCommand (keyHandles.get slot)).bytes nonce =
      (⟨.noSessions, 0, Wire.sized [] ++ (Wire.sized name ++ Wire.sized name)⟩, nonce) := by
  have code : Command.codeOf (readPublicCommand (keyHandles.get slot)).bytes =
      CommandCode.readPublic.code := Command.codeOf_bytes _
  have object : objectOf (readPublicCommand (keyHandles.get slot)).bytes = keyHandles.get slot :=
    Bytes.toU32_ofU32 _
  rw [reply, code, if_neg (by decide), object, slot?_get, if_pos ⟨rfl, rfl⟩]

theorem reply_flush (keys : Slot → Bytes) (nonce : Bytes) :
    reply keys (flushCommand session).bytes nonce = (⟨.noSessions, 0, []⟩, nonce) := by
  have code : Command.codeOf (flushCommand session).bytes = CommandCode.flushContext.code :=
    Command.codeOf_bytes _
  have object : objectOf (flushCommand session).bytes = session := Bytes.toU32_ofU32 _
  rw [reply, code, if_neg (by decide), if_neg (by decide), object, if_pos ⟨rfl, rfl⟩]

theorem reply_hmac {command nonce data : Bytes} {slot : Slot} {request : Request} {position : Nat}
    (ran : Request.read (Reader.ofBytes command) =
      .ok request ⟨position, Wire.sized data ++ Bytes.ofU16 Algorithm.sha256.code⟩)
    (object : request.object = keyHandles.get slot)
    (accepted : accepts (fun _ => name) session nonce command = true) :
    reply keys command nonce = (⟨.sessions, 0, (digestReply (Hmac.sha256 (keys slot) data)
      (Sha256.hash nonce) request.auth.nonceCaller continueSession).encode⟩, Sha256.hash nonce) := by
  have code := codeOf_of_accepts accepted
  have cut : ((Wire.sized data ++ Bytes.ofU16 Algorithm.sha256.code).drop 2).take
      ((Wire.sized data ++ Bytes.ofU16 Algorithm.sha256.code).length - 4) = data := by
    have width : (Wire.sized data ++ Bytes.ofU16 Algorithm.sha256.code).length - 4 = data.length := by
      rw [List.length_append, length_sized, Bytes.length_ofU16]
      omega
    rw [width, Wire.sized, List.append_assoc, List.drop_left' (Bytes.length_ofU16 _), List.take_left]
  have digested : digest? keys command nonce = some (digestReply (Hmac.sha256 (keys slot) data)
      (Sha256.hash nonce) request.auth.nonceCaller continueSession) := by
    unfold digest?
    simp only [ran, object, slot?_get, cut, accepted, if_true, Option.map_some]
  have no_name : ¬ CommandCode.hmac.code = CommandCode.readPublic.code := by decide
  have no_flush : ¬ CommandCode.hmac.code = CommandCode.flushContext.code := by decide
  rw [reply, code, if_neg (by decide), if_neg fun both => no_name both.1,
    if_neg fun both => no_flush both.1, digested]

theorem success?_failed : success? (.ok failed.bytes) = none := by
  decide

/-- Commands other than the four that keys are derived with fail. -/
theorem refused {command : Command} (no_start : command.code ≠ .startAuthSession)
    (no_name : command.code ≠ .readPublic) (no_flush : command.code ≠ .flushContext)
    (no_hmac : command.code ≠ .hmac) (nonce : Bytes) :
    success? ((channel keys).answer command.bytes nonce) = none := by
  have undigested : digest? keys command.bytes nonce = none := by
    unfold digest?
    cases Request.read (Reader.ofBytes command.bytes) with
    | error _ _ => rfl
    | ok request later =>
      refine if_neg fun accepted => ?_
      exact Command.codeOf_ne no_hmac (codeOf_of_accepts accepted)
  show success? (.ok (reply keys command.bytes nonce).1.bytes) = none
  rw [reply, if_neg (Command.codeOf_ne no_start), if_neg fun both => Command.codeOf_ne no_name both.1,
    if_neg fun both => Command.codeOf_ne no_flush both.1, undigested]
  exact success?_failed

theorem provisioned : Provisioned (channel keys) keyHandles keys (fun _ => True)
    fun holding nonce => holding = held nonce where
  started nonce nonceCaller _ _ := by
    obtain ⟨granted, later⟩ := grants_of_reply (reply_start keys nonceCaller nonce) (by decide)
    exact ⟨held firstNonce, by decide, granted, by rw [later]⟩
  named holding nonce slot same := by
    subst same
    obtain ⟨granted, later⟩ := grants_of_reply (reply_readPublic keys slot nonce) (by decide)
    have name_fits : name.length < 65536 := by decide
    exact ⟨[], name, by decide, name_fits, name_fits, granted, by rw [later]⟩
  digested holding nonce slot command request position data same ran _ object _ accepted := by
    subst same
    have short : headerLength + (digestReply (Hmac.sha256 (keys slot) data) (Sha256.hash nonce)
        request.auth.nonceCaller continueSession).encode.length < 4294967296 := by
      have width : (digestReply (Hmac.sha256 (keys slot) data) (Sha256.hash nonce)
          request.auth.nonceCaller continueSession).encode.length = 107 := by
        simp [digestReply, SessionReply.encode, ResponseAuth.encode, sessionHmac]
      rw [width]
      decide
    have replied : reply keys command nonce = _ := reply_hmac ran object accepted
    obtain ⟨granted, later⟩ := grants_of_reply replied short
    refine ⟨Sha256.hash nonce, continueSession, by rw [Sha256.length_hash]; decide, granted, ?_⟩
    rw [later]
    rfl
  flushed holding nonce same := by
    subst same
    obtain ⟨granted, -⟩ := grants_of_reply (reply_flush keys nonce) (by decide)
    exact ⟨⟨[], granted⟩, trivial⟩

end Vault
end Tpm
end TrustAnchor
