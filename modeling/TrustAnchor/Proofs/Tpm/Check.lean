import TrustAnchor.Proofs.Tpm.Layout

/-!
The TPM's check of an HMAC command.

`accepts` takes the command apart as it arrives and computes the HMAC of its authorization again, with the
names of the loaded objects and the nonce that the TPM holds.  `accepts_hmacCommand`: what a session
authorizes passes the check if both sides have the same name for the key and the same nonce.
-/

namespace TrustAnchor
namespace Tpm

open Act Wire

namespace Authorization

def read : Read Authorization := do
  let handle ← Reader.u32
  let nonceCaller ← Reader.sized
  let attributes ← Reader.u8
  let hmac ← Reader.sized
  return { handle, nonceCaller, attributes, hmac }

/-- Both strings fit behind their sizes. -/
def Fits (entry : Authorization) : Prop := entry.nonceCaller.length < 65536 ∧ entry.hmac.length < 65536

theorem decodes_read : Decodes read fun entry form => entry.Fits ∧ form = entry.encode := by
  refine (Reader.decodes_u32.bind fun handle => Reader.decodes_sized.bind fun nonceCaller =>
    Reader.decodes_u8.bind fun attributes => Reader.decodes_sized.bind fun hmac =>
      Decodes.pure (Authorization.mk handle nonceCaller attributes hmac)).congr ?_
  intro entry form
  constructor
  · rintro ⟨⟨nonce_fits, hmac_fits⟩, rfl⟩
    refine ⟨_, _, _, rfl, ⟨_, _, _, ⟨nonce_fits, rfl⟩, ⟨_, _, _, rfl, ⟨_, _, _, ⟨hmac_fits, rfl⟩,
      ⟨rfl, rfl⟩, rfl⟩, rfl⟩, rfl⟩, ?_⟩
    rw [encode, List.append_nil, List.append_assoc, List.append_assoc]
  · rintro ⟨_, _, _, rfl, ⟨_, _, _, ⟨nonce_fits, rfl⟩, ⟨_, _, _, rfl, ⟨_, _, _, ⟨hmac_fits, rfl⟩,
      ⟨rfl, rfl⟩, rfl⟩, rfl⟩, rfl⟩, rfl⟩
    refine ⟨⟨nonce_fits, hmac_fits⟩, ?_⟩
    rw [encode, List.append_nil, List.append_assoc, List.append_assoc]

end Authorization

/-- The front of a command on one object with one session.  The parameters are what follows. -/
structure Request where
  tag : UInt16
  size : UInt32
  code : UInt32
  object : Handle
  areaSize : UInt32
  auth : Authorization

namespace Request

def read : Read Request := do
  let tag ← Reader.u16
  let size ← Reader.u32
  let code ← Reader.u32
  let object ← Reader.u32
  let areaSize ← Reader.u32
  let auth ← Authorization.read
  return { tag, size, code, object, areaSize, auth }

/-- The front is that of an HMAC command of `length` bytes on behalf of a session. -/
def isHmac (request : Request) (session : Handle) (length : Nat) : Bool :=
  request.tag == Tag.sessions.code && request.size.toNat == length &&
    request.code == CommandCode.hmac.code && request.areaSize.toNat == request.auth.encode.length &&
      request.auth.handle == session

end Request

/-- The TPM's check of an HMAC command, given the names of the loaded objects, the session and the nonce
that it holds for it. -/
def accepts (names : Handle → Bytes) (session : Handle) (nonceTpm command : Bytes) : Bool :=
  match Request.read (Reader.ofBytes command) with
  | .error _ _ => false
  | .ok request ⟨_, parameters⟩ => request.isHmac session command.length &&
      request.auth.hmac == sessionHmac (commandHash .hmac [names request.object] parameters)
        request.auth.nonceCaller nonceTpm request.auth.attributes

theorem Request.code_of_read {command : Bytes} {request : Request} {later : Reader}
    (ran : Request.read (Reader.ofBytes command) = .ok request later) :
    request.code = Command.codeOf command := by
  obtain ⟨tag, afterTag, run₁, ran⟩ := bind_eq_ok_iff.mp ran
  obtain ⟨size, afterSize, run₂, ran⟩ := bind_eq_ok_iff.mp ran
  obtain ⟨code, afterCode, run₃, ran⟩ := bind_eq_ok_iff.mp ran
  obtain ⟨_, rfl, split₁, -⟩ := Reader.decodes_u16.sound run₁
  obtain ⟨_, rfl, split₂, -⟩ := Reader.decodes_u32.sound run₂
  obtain ⟨_, rfl, split₃, -⟩ := Reader.decodes_u32.sound run₃
  have code_eq : request.code = code := by
    obtain ⟨object, _, -, ran⟩ := bind_eq_ok_iff.mp ran
    obtain ⟨areaSize, _, -, ran⟩ := bind_eq_ok_iff.mp ran
    obtain ⟨auth, _, -, ran⟩ := bind_eq_ok_iff.mp ran
    cases ran
    rfl
  have whole : command = Bytes.ofU16 tag ++ (Bytes.ofU32 size ++ (Bytes.ofU32 code ++ afterCode.rest)) := by
    rw [split₂, split₃] at split₁
    exact split₁
  rw [code_eq, whole]
  exact (Bytes.toU32_ofU32 code).symm

theorem codeOf_of_accepts {names : Handle → Bytes} {session : Handle} {nonceTpm command : Bytes}
    (accepted : accepts names session nonceTpm command = true) :
    Command.codeOf command = CommandCode.hmac.code := by
  unfold accepts at accepted
  cases ran : Request.read (Reader.ofBytes command) with
  | error e later =>
    rw [ran] at accepted
    cases accepted
  | ok request later =>
    rw [ran] at accepted
    simp only [Request.isHmac, Bool.and_eq_true, beq_iff_eq] at accepted
    rw [← Request.code_of_read ran]
    exact accepted.1.1.1.2

theorem hmacParameters_of_le {session : HmacSession} {data : Bytes}
    (fits : data.length ≤ maxBufferLength) :
    hmacParameters session data =
      .ok (Wire.sized data ++ Bytes.ofU16 session.hashAlgorithm.code) := by
  rw [hmacParameters, maxBuffer, if_neg (Nat.not_lt.mpr fits)]
  rfl

theorem hmacParameters_of_lt {session : HmacSession} {data : Bytes}
    (long : maxBufferLength < data.length) :
    hmacParameters session data = .error (Fault.of (.oversizedBuffer data.length)) := by
  rw [hmacParameters, maxBuffer, if_pos long]
  rfl

theorem length_hmacParameters {session : HmacSession} {data parameters : Bytes}
    (short : hmacParameters session data = .ok parameters) : parameters.length ≤ 1028 := by
  by_cases long : maxBufferLength < data.length
  · rw [hmacParameters_of_lt long] at short
    cases short
  · rw [hmacParameters_of_le (Nat.not_lt.mp long)] at short
    cases short
    rw [List.length_append, length_sized, Bytes.length_ofU16]
    rw [maxBufferLength] at long
    omega

/-- An HMAC command field by field. -/
theorem bytes_hmacCommand (key : KeyObject) (auth : Authorization) (parameters : Bytes) :
    (hmacCommand key auth parameters).bytes =
      Bytes.ofU16 Tag.sessions.code ++
        (Bytes.ofU32 (UInt32.ofNat (headerLength + (8 + auth.encode.length + parameters.length))) ++
          (Bytes.ofU32 CommandCode.hmac.code ++ (Bytes.ofU32 key.handle ++
            (Bytes.ofU32 (UInt32.ofNat auth.encode.length) ++ (auth.encode ++ parameters))))) := by
  have body : encodeAll (hmacCommand key auth parameters).items = Bytes.ofU32 key.handle ++
      (Bytes.ofU32 (UInt32.ofNat auth.encode.length) ++ (auth.encode ++ parameters)) := by
    show encodeAll [.u32 key.handle, .raw (Authorization.area [auth]), .raw parameters] = _
    simp only [encodeAll_cons, encodeAll_nil, Item.encode, Authorization.area, List.flatMap_cons,
      List.flatMap_nil, List.append_nil, List.append_assoc]
  have width : (encodeAll (hmacCommand key auth parameters).items).length =
      8 + auth.encode.length + parameters.length := by
    rw [body]
    simp only [List.length_append, Bytes.length_ofU32]
    omega
  rw [Command.bytes, width, body, List.append_assoc, List.append_assoc]
  rfl

namespace HmacSession

variable (session : HmacSession) (command : CommandCode) (names : List Bytes) (parameters : Bytes)
  {nonceCaller : Bytes}

theorem length_encode_authorizeWith (width : nonceCaller.length = nonceLength) :
    (session.authorizeWith command names parameters nonceCaller).encode.length = 73 := by
  have hmac_width : (session.authorizeWith command names parameters nonceCaller).hmac.length = 32 :=
    Hmac.length_sha256 _ _
  unfold Authorization.encode
  simp only [List.length_append, Bytes.length_ofU32, length_sized, List.length_singleton, hmac_width]
  show 4 + (2 + nonceCaller.length) + 1 + (2 + 32) = 73
  rw [width, nonceLength]

theorem fits_authorizeWith (width : nonceCaller.length = nonceLength) :
    (session.authorizeWith command names parameters nonceCaller).Fits := by
  have hmac_width : (session.authorizeWith command names parameters nonceCaller).hmac.length = 32 :=
    Hmac.length_sha256 _ _
  exact ⟨lt_of_eq_of_lt width (by decide), by omega⟩

end HmacSession

/-- The front of an HMAC command that a session has authorized reads back, and its parameters follow. -/
theorem read_hmacCommand (session : HmacSession) (key : KeyObject) {nonceCaller parameters : Bytes}
    (nonce_width : nonceCaller.length = nonceLength) (short : parameters.length ≤ 1028) :
    let auth := session.authorizeWith .hmac [key.name] parameters nonceCaller
    let command := (hmacCommand key auth parameters).bytes
    ∃ request position, Request.read (Reader.ofBytes command) = .ok request ⟨position, parameters⟩ ∧
      request.object = key.handle ∧ request.auth = auth ∧
        request.isHmac session.handle command.length = true := by
  intro auth command
  have fits : auth.Fits := session.fits_authorizeWith _ _ _ nonce_width
  have entry_width : auth.encode.length = 73 := session.length_encode_authorizeWith _ _ _ nonce_width
  let length := headerLength + (8 + auth.encode.length + parameters.length)
  have size : (UInt32.ofNat length).toNat = length := by
    refine UInt32.toNat_ofNat_of_lt' ?_
    show headerLength + (8 + auth.encode.length + parameters.length) < 4294967296
    rw [headerLength]
    omega
  have area_size : (UInt32.ofNat auth.encode.length).toNat = auth.encode.length := by
    rw [entry_width]
    rfl
  have width : command.length = length := by
    show (hmacCommand key auth parameters).bytes.length = length
    rw [bytes_hmacCommand]
    simp only [List.length_append, Bytes.length_ofU16, Bytes.length_ofU32, headerLength, length]
    omega
  have ran : ∃ position, Request.read (Reader.ofBytes command) =
      .ok ⟨Tag.sessions.code, UInt32.ofNat length, CommandCode.hmac.code, key.handle,
        UInt32.ofNat auth.encode.length, auth⟩ ⟨position, parameters⟩ := by
    show ∃ position, Request.read (Reader.ofBytes (hmacCommand key auth parameters).bytes) = _
    rw [Reader.ofBytes, bytes_hmacCommand, Request.read, bind_ok (Reader.decodes_u16.complete rfl _ _),
      bind_ok (Reader.decodes_u32.complete rfl _ _), bind_ok (Reader.decodes_u32.complete rfl _ _),
      bind_ok (Reader.decodes_u32.complete rfl _ _), bind_ok (Reader.decodes_u32.complete rfl _ _),
      bind_ok (Authorization.decodes_read.complete ⟨fits, rfl⟩ _ _)]
    exact ⟨_, rfl⟩
  obtain ⟨position, ran⟩ := ran
  have handle_eq : auth.handle = session.handle := rfl
  refine ⟨_, position, ran, rfl, rfl, ?_⟩
  simp only [Request.isHmac, size, width, area_size, handle_eq, BEq.rfl, Bool.and_self]

/-- What the session authorizes, a TPM with the same nonce accepts. -/
theorem accepts_hmacCommand {names : Handle → Bytes} {session : HmacSession} {key : KeyObject}
    {nonceCaller parameters : Bytes} (known : names key.handle = key.name)
    (nonce_width : nonceCaller.length = nonceLength) (short : parameters.length ≤ 1028) :
    accepts names session.handle session.nonceTpm (hmacCommand key
      (session.authorizeWith .hmac [key.name] parameters nonceCaller) parameters).bytes = true := by
  obtain ⟨request, position, ran, object, auth, front⟩ :=
    read_hmacCommand session key nonce_width short
  unfold accepts
  simp only [ran, front, object, known, auth, Bool.true_and, beq_iff_eq]
  rfl

end Tpm
end TrustAnchor
