import TrustAnchor.Proofs.Tpm.Exchange
import TrustAnchor.Proofs.Tpm.HmacCommand

/-!
CreatePrimary commands on the wire.

The public area in such a command stands behind a size of 16 bits, and it is as long as the strings in the
template make it.  Nothing compares the two before the command is sent.  `PrimaryRequest.read` takes the
command apart and is strict about what is behind it; `createPrimary_framed_iff` says for which templates it
finds what was asked for: exactly for those whose public area fits.  Of a longer one it finds the beginning,
and reads on in the middle of it.
-/

namespace TrustAnchor
namespace Tpm

open Act Wire

variable {ω : Type}

/-! ## Public areas -/

namespace Template

/-- The fields of a public area in their order. -/
def pieces (template : Template) : List Item :=
  [.u16 template.type.code, .u16 template.nameAlgorithm.code, .u32 template.attributes,
      .sized template.authPolicy, .u16 template.parameters.scheme.code] ++
    (template.parameters.hash.map fun hash => .u16 hash.code).toList ++ [.sized template.unique]

/-- How the fields of a public area are read, with a hash among them or without. -/
def shapes (hashed : Bool) : List Shape :=
  [.u16, .u16, .u32, .sized, .u16] ++ (if hashed then [.u16] else []) ++ [.sized]

theorem shape_pieces (template : Template) :
    template.pieces.map Item.shape = shapes template.parameters.hash.isSome := by
  cases hash : template.parameters.hash <;> simp [pieces, shapes, hash, Item.shape]

theorem encodeAll_pieces (template : Template) : encodeAll template.pieces = template.encode := by
  cases hash : template.parameters.hash <;>
    simp [pieces, encode, KeyedHashScheme.encode, hash, Item.encode]

theorem length_encode (template : Template) :
    template.encode.length = (if template.parameters.hash.isSome then 16 else 14) +
      template.authPolicy.length + template.unique.length := by
  cases hash : template.parameters.hash <;>
    simp only [encode, KeyedHashScheme.encode, hash, List.length_append, Bytes.length_ofU16,
      Bytes.length_ofU32, length_sized, List.length_nil, Option.isSome_some, Option.isSome_none,
      if_true, Bool.false_eq_true, if_false] <;>
    omega

/-- A public area that is not too long for its own size has room for the two strings in it. -/
theorem read_pieces {template : Template} (fits : template.encode.length ≤ 65535) :
    readMessage (shapes template.parameters.hash.isSome) (.ofBytes template.encode) =
      .ok template.pieces ⟨template.encode.length, []⟩ := by
  have width := length_encode template
  have policy_fits : template.authPolicy.length < 65536 := by split at width <;> omega
  have unique_fits : template.unique.length < 65536 := by split at width <;> omega
  refine readMessage_ok_iff.mpr ⟨shape_pieces template, ?_, (encodeAll_pieces template).symm, rfl⟩
  cases hash : template.parameters.hash <;> simp [pieces, hash, Item.Fits, policy_fits, unique_fits]

end Template

/-! ## Reading a command -/

/-- The front of a command on one object, with one entry in an authorization area that is cut out by its
size. -/
def Request.readFramed : Read Request := do
  let tag ← Reader.u16
  let size ← Reader.u32
  let code ← Reader.u32
  let object ← Reader.u32
  let areaSize ← Reader.u32
  let area ← Reader.bytes areaSize.toNat
  let auth ← Authorization.readSole.within area
  return { tag, size, code, object, areaSize, auth }

theorem Request.readFramed_append {tag : UInt16} {size code : UInt32} {object : Handle}
    {auth : Authorization} (fits : auth.Fits) (short : auth.encode.length < 4294967296) (rest : Bytes) :
    let areaSize := UInt32.ofNat auth.encode.length
    readFramed (.ofBytes (Bytes.ofU16 tag ++ (Bytes.ofU32 size ++ (Bytes.ofU32 code ++
        (Bytes.ofU32 object ++ (Bytes.ofU32 areaSize ++ (auth.encode ++ rest))))))) =
      .ok ⟨tag, size, code, object, areaSize, auth⟩ ⟨18 + auth.encode.length, rest⟩ := by
  intro areaSize
  have area_size : areaSize.toNat = auth.encode.length := UInt32.toNat_ofNat_of_lt' short
  have sole : ∀ later : Reader, Authorization.readSole.within auth.encode later = .ok auth later :=
    fun _ => Authorization.decodes_read.sole_within_ok_iff.mpr ⟨rfl, fits, rfl⟩
  rw [Reader.ofBytes, readFramed, bind_ok (Reader.decodes_u16.complete rfl _ _),
    bind_ok (Reader.decodes_u32.complete rfl _ _), bind_ok (Reader.decodes_u32.complete rfl _ _),
    bind_ok (Reader.decodes_u32.complete rfl _ _), bind_ok (Reader.decodes_u32.complete rfl _ _),
    area_size, bind_ok (Reader.bytes_append _ _ _), bind_ok (sole _)]
  simp only [Bytes.length_ofU16, Bytes.length_ofU32]
  rfl

/-- A CreatePrimary command as the other end of the channel takes it apart. -/
structure PrimaryRequest extends Request where
  sensitive : Bytes
  publicArea : Bytes
  outsideInfo : Bytes
  pcrCount : UInt32

namespace PrimaryRequest

def read : Read PrimaryRequest := do
  let front ← Request.readFramed
  let sensitive ← Reader.sized
  let publicArea ← Reader.sized
  let outsideInfo ← Reader.sized
  let pcrCount ← Reader.u32
  Reader.finish
  return ⟨front, sensitive, publicArea, outsideInfo, pcrCount⟩

/-- The request asks for the object of this template under this hierarchy, with the empty password and with
nothing else in it; and the strings of the template stand in the public area with all their bytes. -/
structure Asks (request : PrimaryRequest) (hierarchy : Handle) (template : Template) (sent : Bytes) :
    Prop where
  tag : request.tag = 0x8002
  size : request.size.toNat = sent.length
  code : request.code = 0x131
  hierarchy : request.object = hierarchy
  areaSize : request.areaSize.toNat = request.auth.encode.length
  password : request.auth = ⟨0x40000009, [], 0, []⟩
  sensitive : request.sensitive = [0, 0, 0, 0]
  publicArea : request.publicArea = template.encode
  fields : readMessage (Template.shapes template.parameters.hash.isSome) (.ofBytes request.publicArea) =
    .ok template.pieces ⟨request.publicArea.length, []⟩
  outsideInfo : request.outsideInfo = []
  pcrCount : request.pcrCount = 0

end PrimaryRequest

/-! ## What is sent -/

theorem encodeAll_createPrimaryCommand (hierarchy : Handle) (template : Template) :
    encodeAll (createPrimaryCommand hierarchy template).items = Bytes.ofU32 hierarchy ++
      (Bytes.ofU32 (UInt32.ofNat Authorization.password.encode.length) ++
        (Authorization.password.encode ++ (Wire.sized [0, 0, 0, 0] ++
          (Wire.sized template.encode ++ (Wire.sized [] ++ Bytes.ofU32 0))))) := by
  have sensitive : SensitiveCreate.empty.encode = Wire.sized [0, 0, 0, 0] := rfl
  show encodeAll [.u32 hierarchy, .raw (Authorization.area [Authorization.password]),
    .raw SensitiveCreate.empty.encode, .sized template.encode, .sized [], .raw noPcrs] = _
  simp only [encodeAll_cons, encodeAll_nil, Item.encode, Authorization.area, List.flatMap_cons,
    List.flatMap_nil, List.append_nil, List.append_assoc, sensitive, noPcrs]

theorem length_items_createPrimaryCommand (hierarchy : Handle) (template : Template) :
    headerLength + (encodeAll (createPrimaryCommand hierarchy template).items).length =
      41 + template.encode.length := by
  have entry : Authorization.password.encode.length = 9 := rfl
  rw [encodeAll_createPrimaryCommand]
  simp only [List.length_append, Bytes.length_ofU32, length_sized, entry, List.length_cons,
    List.length_nil, headerLength]
  omega

/-- A CreatePrimary command field by field. -/
theorem bytes_createPrimaryCommand (hierarchy : Handle) (template : Template) :
    (createPrimaryCommand hierarchy template).bytes =
      Bytes.ofU16 Tag.sessions.code ++
        (Bytes.ofU32 (UInt32.ofNat (41 + template.encode.length)) ++
          (Bytes.ofU32 CommandCode.createPrimary.code ++ (Bytes.ofU32 hierarchy ++
            (Bytes.ofU32 (UInt32.ofNat Authorization.password.encode.length) ++
              (Authorization.password.encode ++ (Wire.sized [0, 0, 0, 0] ++
                (Wire.sized template.encode ++ (Wire.sized [] ++ Bytes.ofU32 0)))))))) := by
  rw [Command.bytes, length_items_createPrimaryCommand, encodeAll_createPrimaryCommand,
    List.append_assoc, List.append_assoc]
  rfl

theorem length_createPrimaryCommand (hierarchy : Handle) (template : Template) :
    (createPrimaryCommand hierarchy template).bytes.length = 41 + template.encode.length := by
  rw [← length_items_createPrimaryCommand hierarchy, Command.bytes]
  simp only [List.length_append, Bytes.length_ofU16, Bytes.length_ofU32, headerLength]

namespace PrimaryRequest

/-- What stands in front of the private part of every CreatePrimary command. -/
def front (hierarchy : Handle) (template : Template) : Request :=
  ⟨Tag.sessions.code, UInt32.ofNat (41 + template.encode.length), CommandCode.createPrimary.code,
    hierarchy, UInt32.ofNat Authorization.password.encode.length, Authorization.password⟩

/-- As much of the public area is read as its size says, and what is left of it is in front of the rest. -/
theorem read_bytes (hierarchy : Handle) (template : Template) :
    let kept := template.encode.length % 65536
    read (.ofBytes (createPrimaryCommand hierarchy template).bytes) =
      (do
        let outsideInfo ← Reader.sized
        let pcrCount ← Reader.u32
        Reader.finish
        return ⟨front hierarchy template, [0, 0, 0, 0], template.encode.take kept, outsideInfo,
          pcrCount⟩ : Read PrimaryRequest)
        ⟨35 + kept, template.encode.drop kept ++ (Wire.sized [] ++ Bytes.ofU32 0)⟩ := by
  intro kept
  have fits : Authorization.password.Fits := ⟨by decide, by decide⟩
  have short : Authorization.password.encode.length < 4294967296 := by decide
  have four : ([0, 0, 0, 0] : Bytes).length < 65536 := by decide
  rw [bytes_createPrimaryCommand, read, bind_ok (Request.readFramed_append fits short _),
    bind_ok (Reader.sized_append four _ _), bind_ok (Reader.sized_wraps template.encode _ _)]
  rfl

theorem publicArea_of_read {hierarchy : Handle} {template : Template} {request : PrimaryRequest}
    {later : Reader}
    (ran : read (.ofBytes (createPrimaryCommand hierarchy template).bytes) = .ok request later) :
    request.publicArea = template.encode.take (template.encode.length % 65536) := by
  rw [read_bytes] at ran
  obtain ⟨outsideInfo, _, -, ran⟩ := bind_eq_ok_iff.mp ran
  obtain ⟨pcrCount, _, -, ran⟩ := bind_eq_ok_iff.mp ran
  obtain ⟨_, _, -, returned⟩ := bind_eq_ok_iff.mp ran
  cases returned
  rfl

theorem read_of_fits (hierarchy : Handle) {template : Template} (fits : template.encode.length ≤ 65535) :
    read (.ofBytes (createPrimaryCommand hierarchy template).bytes) =
      .ok ⟨front hierarchy template, [0, 0, 0, 0], template.encode, [], 0⟩
        ⟨(createPrimaryCommand hierarchy template).bytes.length, []⟩ := by
  have kept : template.encode.length % 65536 = template.encode.length := Nat.mod_eq_of_lt (by omega)
  have none : ([] : Bytes).length < 65536 := by decide
  have last : Bytes.ofU32 0 = Bytes.ofU32 0 ++ [] := (List.append_nil _).symm
  rw [read_bytes, kept, List.take_length, List.drop_length, List.nil_append,
    bind_ok (Reader.sized_append none _ _), last, bind_ok (Reader.u32_append _ _ _),
    bind_ok (Reader.finish_nil _), length_createPrimaryCommand]
  have total : 35 + template.encode.length + 2 + ([] : Bytes).length + 4 = 41 + template.encode.length := by
    rw [List.length_nil]
    omega
  rw [total]
  rfl

theorem asks_of_fits (hierarchy : Handle) {template : Template} (fits : template.encode.length ≤ 65535) :
    Asks ⟨front hierarchy template, [0, 0, 0, 0], template.encode, [], 0⟩ hierarchy template
      (createPrimaryCommand hierarchy template).bytes where
  tag := rfl
  size := by
    rw [length_createPrimaryCommand]
    exact UInt32.toNat_ofNat_of_lt' (by omega : 41 + template.encode.length < 4294967296)
  code := rfl
  hierarchy := rfl
  areaSize := rfl
  password := rfl
  sensitive := rfl
  publicArea := rfl
  fields := Template.read_pieces fits
  outsideInfo := rfl
  pcrCount := rfl

end PrimaryRequest

/-- Creating a primary object always sends one command.  It reads back with nothing left over as what was
asked for exactly if the public area of the template has at most 65535 bytes.  Whatever is read from it, the
public area in it is only the beginning of the template's, as long as the length modulo 65536. -/
theorem createPrimary_framed_iff (channel : Channel ω) (hierarchy : Handle) (template : Template)
    (machine : Machine ω) :
    ∃ sent,
      (after (createPrimary channel hierarchy template machine)).transcript =
        machine.transcript ++ [⟨sent, channel.answer sent machine.world⟩] ∧
      ((∃ request, PrimaryRequest.read (.ofBytes sent) = .ok request ⟨sent.length, []⟩ ∧
        request.Asks hierarchy template sent) ↔
          (if template.parameters.hash.isSome then 16 else 14) + template.authPolicy.length +
            template.unique.length ≤ 65535) ∧
      ∀ request later, PrimaryRequest.read (.ofBytes sent) = .ok request later →
        request.publicArea = template.encode.take (template.encode.length % 65536) := by
  refine ⟨(createPrimaryCommand hierarchy template).bytes, ?_, ?_, ?_⟩
  · rw [after_createPrimary]
    rfl
  · rw [← Template.length_encode]
    constructor
    · intro h
      obtain ⟨request, ran, asks⟩ := h
      have cut := congrArg List.length (PrimaryRequest.publicArea_of_read ran)
      rw [asks.publicArea, List.length_take] at cut
      omega
    · intro fits
      exact ⟨_, PrimaryRequest.read_of_fits hierarchy fits, PrimaryRequest.asks_of_fits hierarchy fits⟩
  · intro request later ran
    exact PrimaryRequest.publicArea_of_read ran

/-- A policy that fits behind its own size, in a public area that does not. -/
def longPolicy : Template := { Template.hmacKey with authPolicy := List.replicate 65530 0xab }

theorem createPrimary_misframed_long :
    let machine : Machine Replies := Machine.new [] (Entropy.ofBytes [])
    longPolicy.authPolicy.length ≤ 65535 ∧ ∃ sent answer,
      (after (createPrimary scriptedChannel Handle.endorsement longPolicy machine)).transcript =
        [⟨sent, answer⟩] ∧
      ¬ ∃ request, PrimaryRequest.read (.ofBytes sent) = .ok request ⟨sent.length, []⟩ ∧
        request.Asks Handle.endorsement longPolicy sent := by
  intro machine
  have width : longPolicy.authPolicy.length = 65530 := List.length_replicate
  obtain ⟨sent, grown, framed, -⟩ :=
    createPrimary_framed_iff scriptedChannel Handle.endorsement longPolicy machine
  refine ⟨by omega, sent, _, grown, ?_⟩
  intro h
  have fits := framed.mp h
  rw [width] at fits
  have hashed : longPolicy.parameters.hash.isSome = true := rfl
  rw [if_pos hashed] at fits
  omega

end Tpm
end TrustAnchor
