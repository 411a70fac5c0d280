import TrustAnchor.Proofs.Tpm.HmacCommand
import TrustAnchor.Proofs.Tpm.Provisioned

/-!
The replies that an HMAC is accepted from.

`Authentic` describes them by their bytes: a successful response with an authorization area, the digest as its
only parameter, and a first entry that proves knowledge of the nonces.  Reading a reply goes through four
layers, each of which could let something else pass; `hmac_accepts_authentic` says that together they accept
the authentic replies to the command that was sent, and no others.
-/

namespace TrustAnchor
namespace Tpm

open Act Wire

variable {ω : Type}

/-- The parts of a reply to an HMAC command, in their order. -/
structure ReplyParts where
  size : UInt32
  parameterSize : UInt32
  parameters : Bytes
  first : ResponseAuth
  others : List ResponseAuth
  /-- Bytes that belong to no response. -/
  padding : Bytes

namespace ReplyParts

/-- What stands behind the header. -/
def data (parts : ReplyParts) : Bytes :=
  Bytes.ofU32 parts.parameterSize ++ parts.parameters ++
    (parts.first :: parts.others).flatMap ResponseAuth.encode

def bytes (parts : ReplyParts) : Bytes :=
  [0x80, 0x02] ++ Bytes.ofU32 parts.size ++ [0x00, 0x00, 0x00, 0x00] ++ parts.data ++ parts.padding

/-- Both sizes are right, the digest is the only parameter, and the first entry carries the HMAC of the
response for the nonce of the caller. -/
structure Proves (parts : ReplyParts) (nonceCaller digest : Bytes) : Prop where
  size : parts.size.toNat = 10 + parts.data.length
  parameterSize : parts.parameterSize.toNat = parts.parameters.length
  entries : ∀ entry ∈ parts.first :: parts.others, entry.Fits
  digest_fits : digest.length < 65536
  parameters : parts.parameters = Wire.sized digest
  hmac : parts.first.hmac =
    Hmac.sha256 []
      (Sha256.hash ([0x00, 0x00, 0x00, 0x00] ++ [0x00, 0x00, 0x01, 0x55] ++ parts.parameters) ++
        parts.first.nonceTpm ++ nonceCaller ++ [parts.first.attributes])

end ReplyParts

/-- The reply proves that the digest is the answer to the command with this nonce. -/
def Authentic (nonceCaller digest reply : Bytes) : Prop :=
  ∃ parts : ReplyParts, reply = parts.bytes ∧ parts.Proves nonceCaller digest

theorem bytes_success (data : Bytes) :
    Response.bytes ⟨.sessions, 0, data⟩ =
      [0x80, 0x02] ++ Bytes.ofU32 (UInt32.ofNat (10 + data.length)) ++ [0x00, 0x00, 0x00, 0x00] ++ data := by
  have tag : Bytes.ofU16 Tag.sessions.code = [0x80, 0x02] := by decide
  have code : Bytes.ofU32 0 = [0x00, 0x00, 0x00, 0x00] := by decide
  rw [Response.bytes, tag, code, headerLength]

namespace ReplyParts

/-- The parts without the sizes, as they are read. -/
def content (parts : ReplyParts) : SessionReply := ⟨[], parts.parameters, parts.first :: parts.others⟩

namespace Proves

variable {parts : ReplyParts} {nonceCaller digest : Bytes}

theorem success (proves : parts.Proves nonceCaller digest) :
    success? (.ok parts.bytes) = some ⟨.sessions, 0, parts.data⟩ := by
  have total : 10 + parts.data.length < 4294967296 := proves.size ▸ parts.size.toNat_lt
  refine success?_eq_some_iff.mpr ⟨rfl, total, parts.padding, ?_⟩
  rw [bytes_success, ← proves.size, UInt32.ofNat_toNat]
  rfl

theorem fits (proves : parts.Proves nonceCaller digest) : parts.content.Fits :=
  ⟨proves.parameterSize ▸ parts.parameterSize.toNat_lt, proves.entries⟩

theorem data_eq (proves : parts.Proves nonceCaller digest) : parts.data = parts.content.encode := by
  have size_eq : UInt32.ofNat parts.parameters.length = parts.parameterSize := by
    rw [← proves.parameterSize, UInt32.ofNat_toNat]
  show parts.data = [] ++ Bytes.ofU32 (UInt32.ofNat parts.parameters.length) ++ parts.parameters ++
    (parts.first :: parts.others).flatMap ResponseAuth.encode
  rw [size_eq]
  rfl

end Proves
end ReplyParts

/-- The replies that are accepted and settled on are the authentic ones for the nonce that was sent. -/
theorem authentic_iff {auth : Authorization} {digest reply : Bytes} (state : HmacSession × Machine ω) :
    Authentic auth.nonceCaller digest reply ↔ ∃ response later,
      success? (.ok reply) = some response ∧ settleHmac auth response state = .ok digest later := by
  constructor
  · rintro ⟨parts, rfl, proves⟩
    exact ⟨_, _, proves.success, settleHmac_ok_iff.mpr ⟨parts.content, parts.first, parts.others, rfl, rfl,
      rfl, proves.fits, proves.data_eq, proves.digest_fits, proves.parameters, proves.hmac, rfl⟩⟩
  · rintro ⟨⟨tag, code, data⟩, later, success, settled⟩
    obtain ⟨content, first, others, rfl, no_handles, entries, fits, rfl, digest_fits, carries, authentic,
      rfl⟩ := settleHmac_ok_iff.mp settled
    obtain ⟨rfl, total, padding, came⟩ := success?_eq_some_iff.mp success
    let parts : ReplyParts :=
      ⟨UInt32.ofNat (headerLength + content.encode.length), UInt32.ofNat content.parameters.length,
        content.parameters, first, others, padding⟩
    have data_eq : parts.data = content.encode := by
      rw [SessionReply.encode, no_handles, entries]
      rfl
    refine ⟨parts, ?bytes, ⟨?size, ?parameterSize, ?entries, digest_fits, carries, authentic⟩⟩
    case bytes =>
      rw [ReplyParts.bytes, data_eq, Except.ok.inj came, bytes_success]
      rfl
    case size =>
      rw [data_eq]
      exact UInt32.toNat_ofNat_of_lt' total
    case parameterSize => exact UInt32.toNat_ofNat_of_lt' fits.1
    case entries =>
      show ∀ entry ∈ first :: others, entry.Fits
      rw [← entries]
      exact fits.2

/-- An HMAC that sends its command ends with a digest exactly if the reply to it is authentic. -/
theorem outcome_hmac_eq_ok_iff {channel : Channel ω} {session : HmacSession} {machine : Machine ω}
    {key : KeyObject} {data parameters digest : Bytes}
    (short : hmacParameters session data = .ok parameters) :
    let auth := session.nextAuthorization key parameters machine
    let sent := (hmacCommand key auth parameters).bytes
    outcome (hmac channel key data (session, machine)) = .ok digest ↔ ∃ reply,
      channel.answer sent machine.world = .ok reply ∧ Authentic auth.nonceCaller digest reply := by
  intro auth sent
  let settling := (session, (machine.drawn nonceLength).exchanged channel sent)
  have onward : ∀ response, success? (channel.answer sent machine.world) = some response →
      hmac channel key data (session, machine) = settleHmac auth response settling := by
    intro response success
    rw [hmac_of_ok short, bind_ok (onSecond_of_ok (perform_of_some _ (machine.drawn nonceLength) success))]
  constructor
  · intro accepted
    cases success : success? (channel.answer sent machine.world) with
    | none =>
      obtain ⟨fault, failed⟩ := perform_of_none (.hmacWith key.handle) (machine.drawn nonceLength) success
      rw [hmac_of_ok short, bind_error (onSecond_of_error failed)] at accepted
      cases accepted
    | some response =>
      rw [onward response success] at accepted
      obtain ⟨later, settled⟩ := outcome_eq_ok_iff.mp accepted
      cases came : channel.answer sent machine.world with
      | error fault =>
        rw [came] at success
        cases success
      | ok reply =>
        rw [came] at success
        exact ⟨reply, rfl, (authentic_iff settling).mpr ⟨response, later, success, settled⟩⟩
  · rintro ⟨reply, came, authentic⟩
    obtain ⟨response, later, success, settled⟩ := (authentic_iff settling).mp authentic
    rw [← came] at success
    rw [onward response success, settled]
    rfl

/-- An HMAC of data that one command can carry gives a digest if and only if the reply is authentic for that
digest and for the nonce in the command that was sent; whatever else comes back, it ends with an error.  With
longer data it ends with an error before anything is drawn or sent, and nothing has changed. -/
theorem hmac_accepts_authentic (channel : Channel ω) (session : HmacSession) (machine : Machine ω)
    (key : KeyObject) (data : Bytes) :
    let result := hmac channel key data (session, machine)
    (data.length ≤ 1024 → ∃ sent request,
      (after result).2.transcript = machine.transcript ++ [⟨sent, channel.answer sent machine.world⟩] ∧
      HmacRequest.read (Reader.ofBytes sent) = .ok request ⟨sent.length, []⟩ ∧
      (∀ digest, outcome result = .ok digest ↔ ∃ reply,
        channel.answer sent machine.world = .ok reply ∧
          Authentic request.auth.nonceCaller digest reply) ∧
      ((¬ ∃ digest reply, channel.answer sent machine.world = .ok reply ∧
        Authentic request.auth.nonceCaller digest reply) →
          ∃ fault, outcome result = .error (.error fault))) ∧
    (1024 < data.length →
      result = .error (.error (Fault.of (.oversizedBuffer data.length))) (session, machine)) := by
  intro result
  refine ⟨fun fits => ?_, fun long => hmac_of_error (hmacParameters_of_lt long)⟩
  have short : hmacParameters session data = .ok _ := hmacParameters_of_le fits
  obtain ⟨request, ran, covers, -⟩ :=
    HmacRequest.covers_bytes session key (Entropy.length_next machine.entropy nonceLength) fits
  have accepted : ∀ digest, outcome result = .ok digest ↔ ∃ reply, _ ∧ Authentic _ digest reply :=
    fun digest => outcome_hmac_eq_ok_iff short
  refine ⟨_, request, ?_, ran, ?_, fun refused => ?_⟩
  · show (after (hmac channel key data (session, machine))).2.transcript = _
    rw [after_hmac short]
    rfl
  · rw [covers.nonce]
    exact accepted
  · rw [covers.nonce] at refused
    have returned : Returned result := returned_hmac channel key data (session, machine)
    cases ended : result with
    | ok digest later =>
      have authentic := (accepted digest).mp (outcome_eq_ok_iff.mpr ⟨later, ended⟩)
      exact absurd ⟨digest, authentic⟩ refused
    | error stop later =>
      rw [ended] at returned
      cases stop with
      | error fault => exact ⟨fault, rfl⟩
      | crash => exact absurd returned id

/-- A TPM that holds the key proves its digest; an empty reply proves none; and one byte too many is not even
asked about. -/
theorem hmac_accepts_authentic_vault :
    let channel := Vault.channel fun _ => [0x2a]
    let session := (Vault.held Vault.firstNonce).client
    let machine : Machine Bytes := Machine.new Vault.firstNonce (Entropy.ofBytes [7])
    let silent : Machine Replies := Machine.new [.ok []] (Entropy.ofBytes [7])
    let key : KeyObject := ⟨Vault.keyHandles.get .first, Vault.name⟩
    let data : Bytes := [1, 2, 3]
    let longer : Bytes := List.replicate 1025 0
    (data.length ≤ 1024 ∧ ∃ sent request reply,
      HmacRequest.read (Reader.ofBytes sent) = .ok request ⟨sent.length, []⟩ ∧
        channel.answer sent machine.world = .ok reply ∧
          Authentic request.auth.nonceCaller (Hmac.sha256 [0x2a] data) reply) ∧
    (∃ fault, outcome (hmac scriptedChannel key data (session, silent)) = .error (.error fault)) ∧
    1024 < longer.length ∧ hmac channel key longer (session, machine) =
      .error (.error (Fault.of (.oversizedBuffer 1025))) (session, machine) := by
  intro channel session machine silent key data longer
  have fits : data.length ≤ 1024 := by decide
  have width : longer.length = 1025 := List.length_replicate
  refine ⟨⟨fits, ?_⟩, ?_, by omega, ?_⟩
  · obtain ⟨sent, request, -, ran, accepts, -⟩ :=
      (hmac_accepts_authentic channel session machine key data).1 fits
    have holding : Vault.held Vault.firstNonce = Vault.held machine.world := rfl
    obtain ⟨newer, later, digested, -⟩ := Vault.provisioned.hmac_ok holding .first fits
    obtain ⟨reply, came, authentic⟩ := (accepts _).mp (congrArg outcome digested)
    exact ⟨sent, request, reply, ran, came, authentic⟩
  · obtain ⟨sent, request, -, -, -, refuses⟩ :=
      (hmac_accepts_authentic scriptedChannel session silent key data).1 fits
    refine refuses ?_
    rintro ⟨digest, reply, came, parts, rfl, -⟩
    cases came
  · rw [← width]
    exact (hmac_accepts_authentic channel session machine key longer).2 (by omega)

end Tpm
end TrustAnchor
