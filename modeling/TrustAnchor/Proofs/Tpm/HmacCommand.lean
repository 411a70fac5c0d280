import TrustAnchor.Tpm.Scripted
import TrustAnchor.Proofs.Tpm.Check
import TrustAnchor.Proofs.Tpm.Session
import TrustAnchor.Proofs.Wire.Script

/-!
HMAC commands on the wire.

The parameters of an HMAC command are hashed before they are copied behind the authorization area, and the
area stands behind a size of its own.  `HmacRequest.read` takes such a command apart without relying on any
of this: it cuts the area out by its size and accepts only one entry in it, then data and algorithm with
nothing behind them.  `hmac_covers_sent` is the main result: everything that was asked for reads back, and
the bytes that were hashed are those that stand in the command.
-/

namespace TrustAnchor
namespace Tpm

open Act Wire

variable {ω : Type}

/-! ## Reading a command -/

/-- An HMAC command as the other end of the channel takes it apart. -/
structure HmacRequest extends Request where
  data : Bytes
  algorithm : UInt16

/-- The only entry of an authorization area. -/
def Authorization.readSole : Read Authorization := do
  let entry ← Authorization.read
  Reader.finish
  return entry

namespace HmacRequest

def read : Read HmacRequest := do
  let tag ← Reader.u16
  let size ← Reader.u32
  let code ← Reader.u32
  let object ← Reader.u32
  let areaSize ← Reader.u32
  let area ← Reader.bytes areaSize.toNat
  let auth ← Authorization.readSole.within area
  let data ← Reader.sized
  let algorithm ← Reader.u16
  Reader.finish
  return { tag, size, code, object, areaSize, auth, data, algorithm }

/-- What stands in front of the authorization area: the header, the handle of the key, the size of the area. -/
def areaOffset : Nat := headerLength + 8

/-- The parameters as they stand in a command. -/
def parametersIn (request : HmacRequest) (sent : Bytes) : Bytes :=
  sent.drop (areaOffset + request.areaSize.toNat)

/-- The request asks for the HMAC of the data under the key on behalf of the session, and its own HMAC is that
of the hash of the parameters as they are `sent`, of the caller nonce in it and of the nonce of the session. -/
structure Covers (request : HmacRequest) (session : HmacSession) (key : KeyObject)
    (data nonceCaller sent : Bytes) : Prop where
  tag : request.tag = 0x8002
  size : request.size.toNat = sent.length
  code : request.code = 0x155
  object : request.object = key.handle
  areaSize : request.areaSize.toNat = request.auth.encode.length
  handle : request.auth.handle = session.handle
  nonce : request.auth.nonceCaller = nonceCaller
  attributes : request.auth.attributes = session.attributes
  data : request.data = data
  algorithm : request.algorithm = session.hashAlgorithm.code
  hmac : request.auth.hmac =
    Hmac.sha256 []
      (Sha256.hash ([0x00, 0x00, 0x01, 0x55] ++ key.name ++ request.parametersIn sent) ++ nonceCaller ++
        session.nonceTpm ++ [session.attributes])

/-- An HMAC command reads back if its entry and its data fit behind their sizes. -/
theorem read_bytes (key : KeyObject) (algorithm : UInt16) {auth : Authorization} {data : Bytes}
    (auth_fits : auth.Fits) (entry_fits : auth.encode.length < 4294967296)
    (data_fits : data.length < 65536) :
    let parameters := Wire.sized data ++ Bytes.ofU16 algorithm
    let sent := (hmacCommand key auth parameters).bytes
    let size := UInt32.ofNat (headerLength + (8 + auth.encode.length + parameters.length))
    let areaSize := UInt32.ofNat auth.encode.length
    read (Reader.ofBytes sent) =
      .ok ⟨⟨Tag.sessions.code, size, CommandCode.hmac.code, key.handle, areaSize, auth⟩, data, algorithm⟩
        ⟨sent.length, []⟩ := by
  intro parameters sent size areaSize
  have area_size : (UInt32.ofNat auth.encode.length).toNat = auth.encode.length :=
    UInt32.toNat_ofNat_of_lt' entry_fits
  have sole : ∀ later : Reader, Authorization.readSole.within auth.encode later = .ok auth later :=
    fun _ => Authorization.decodes_read.sole_within_ok_iff.mpr ⟨rfl, auth_fits, rfl⟩
  have last : Bytes.ofU16 algorithm = Bytes.ofU16 algorithm ++ [] := (List.append_nil _).symm
  have width : sent.length = 18 + auth.encode.length + (2 + data.length) + 2 := by
    show (hmacCommand key auth parameters).bytes.length = _
    rw [bytes_hmacCommand]
    simp only [List.length_append, Bytes.length_ofU16, Bytes.length_ofU32, parameters, length_sized]
    omega
  rw [width]
  show read (Reader.ofBytes (hmacCommand key auth parameters).bytes) = _
  rw [Reader.ofBytes, bytes_hmacCommand, read, bind_ok (Reader.decodes_u16.complete rfl _ _),
    bind_ok (Reader.decodes_u32.complete rfl _ _), bind_ok (Reader.decodes_u32.complete rfl _ _),
    bind_ok (Reader.decodes_u32.complete rfl _ _), bind_ok (Reader.decodes_u32.complete rfl _ _),
    area_size, bind_ok (Reader.bytes_append _ _ _), bind_ok (sole _)]
  show (Reader.sized >>= _) ⟨_, Wire.sized data ++ Bytes.ofU16 algorithm⟩ = _
  rw [bind_ok (Reader.decodes_sized.complete ⟨data_fits, rfl⟩ _ _), last,
    bind_ok (Reader.decodes_u16.complete rfl _ _), bind_ok (Reader.finish_nil _)]
  simp only [length_sized, Bytes.length_ofU16, Bytes.length_ofU32]
  rfl

end HmacRequest

/-! ## What a session sends -/

/-- The bytes behind the authorization area are the parameters that were given for them. -/
theorem drop_hmacCommand (key : KeyObject) (auth : Authorization) (parameters : Bytes) :
    (hmacCommand key auth parameters).bytes.drop (HmacRequest.areaOffset + auth.encode.length) =
      parameters := by
  let front := Bytes.ofU16 Tag.sessions.code ++
    Bytes.ofU32 (UInt32.ofNat (headerLength + (8 + auth.encode.length + parameters.length))) ++
      Bytes.ofU32 CommandCode.hmac.code ++ Bytes.ofU32 key.handle ++
        Bytes.ofU32 (UInt32.ofNat auth.encode.length) ++ auth.encode
  have split : (hmacCommand key auth parameters).bytes = front ++ parameters := by
    rw [bytes_hmacCommand]
    simp only [front, List.append_assoc]
  have width : front.length = HmacRequest.areaOffset + auth.encode.length := by
    simp only [front, List.length_append, Bytes.length_ofU16, Bytes.length_ofU32]
    rfl
  rw [split]
  exact List.drop_left' width

theorem HmacRequest.covers_bytes (session : HmacSession) (key : KeyObject) {data nonceCaller : Bytes}
    (nonce_width : nonceCaller.length = nonceLength) (fits : data.length ≤ maxBufferLength) :
    let parameters := Wire.sized data ++ Bytes.ofU16 session.hashAlgorithm.code
    let auth := session.authorizeWith .hmac [key.name] parameters nonceCaller
    let sent := (hmacCommand key auth parameters).bytes
    ∃ request, read (Reader.ofBytes sent) = .ok request ⟨sent.length, []⟩ ∧
      request.Covers session key data nonceCaller sent ∧ sent.length = 95 + data.length := by
  intro parameters auth sent
  have limit : data.length ≤ 1024 := fits
  have entry_width : auth.encode.length = 73 := session.length_encode_authorizeWith _ _ _ nonce_width
  have area_size : (UInt32.ofNat auth.encode.length).toNat = auth.encode.length :=
    UInt32.toNat_ofNat_of_lt' (show auth.encode.length < 4294967296 by omega)
  have parameters_width : parameters.length = 4 + data.length := by
    simp only [parameters, List.length_append, length_sized, Bytes.length_ofU16]
    omega
  have width : sent.length = 95 + data.length := by
    show (hmacCommand key auth parameters).bytes.length = _
    rw [bytes_hmacCommand]
    simp only [List.length_append, Bytes.length_ofU16, Bytes.length_ofU32]
    omega
  have ran := read_bytes key session.hashAlgorithm.code (session.fits_authorizeWith _ _ _ nonce_width)
    (show auth.encode.length < 4294967296 by omega) (show data.length < 65536 by omega)
  refine ⟨_, ran, ⟨rfl, ?size, rfl, rfl, area_size, rfl, rfl, rfl, rfl, rfl, ?hmac⟩, width⟩
  case size =>
    have total : headerLength + (8 + auth.encode.length + parameters.length) = 95 + data.length := by
      rw [headerLength]
      omega
    show (UInt32.ofNat (headerLength + (8 + auth.encode.length + parameters.length))).toNat = sent.length
    rw [total, width]
    exact UInt32.toNat_ofNat_of_lt' (by omega : 95 + data.length < 4294967296)
  case hmac =>
    have behind : sent.drop (areaOffset + (UInt32.ofNat auth.encode.length).toNat) = parameters := by
      rw [area_size]
      exact drop_hmacCommand key auth parameters
    show sessionHmac (commandHash .hmac [key.name] parameters) nonceCaller session.nonceTpm
      session.attributes = _
    rw [parametersIn, behind, commandHash, List.flatten_singleton]
    rfl

/-- An HMAC of data that one command can carry sends one command.  The command reads back with nothing left
over as what was asked for, authorized over the bytes that stand in it, and a device takes it in one write. -/
theorem hmac_covers_sent (channel : Channel ω) (session : HmacSession) (machine : Machine ω)
    (key : KeyObject) {data : Bytes} (fits : data.length ≤ 1024) :
    ∃ sent request,
      (after (hmac channel key data (session, machine))).2.transcript =
        machine.transcript ++ [⟨sent, channel.answer sent machine.world⟩] ∧
      HmacRequest.read (Reader.ofBytes sent) = .ok request ⟨sent.length, []⟩ ∧
      request.Covers session key data (machine.entropy.next 32) sent ∧
      sent.length = 95 + data.length ∧ sent.length < 4096 := by
  have nonce_width : (machine.entropy.next nonceLength).length = nonceLength := Entropy.length_next _ _
  obtain ⟨request, ran, covers, width⟩ := HmacRequest.covers_bytes session key nonce_width fits
  refine ⟨_, request, ?_, ran, covers, width, by omega⟩
  rw [after_hmac (hmacParameters_of_le fits)]
  rfl

/-- The longest data that is sent, through a session whose nonce has another length than the caller's. -/
theorem hmac_covers_sent_longest :
    let data : Bytes := List.replicate 1024 0xab
    let session : HmacSession := ⟨0x02000001, .sha256, List.replicate 20 0x22, continueSession⟩
    let key : KeyObject := ⟨0x81000000, [0x00, 0x0b]⟩
    let machine : Machine Replies := Machine.new [.ok []] (Entropy.ofBytes [7])
    data.length ≤ 1024 ∧ ∃ sent request,
      (after (hmac scriptedChannel key data (session, machine))).2.transcript = [⟨sent, .ok []⟩] ∧
        HmacRequest.read (Reader.ofBytes sent) = .ok request ⟨sent.length, []⟩ ∧
          request.Covers session key data (machine.entropy.next 32) sent ∧ sent.length = 1119 := by
  intro data session key machine
  have fits : data.length ≤ 1024 := Nat.le_of_eq List.length_replicate
  obtain ⟨sent, request, grown, ran, covers, width, -⟩ :=
    hmac_covers_sent scriptedChannel session machine key fits
  refine ⟨fits, sent, request, grown, ran, covers, ?_⟩
  rw [width, List.length_replicate]

end Tpm
end TrustAnchor
