import TrustAnchor.Tpm.Template
import TrustAnchor.Proofs.Tpm.Header

/-!
Commands that are put together part by part.

A command is begun with zero in its size field, each part is written behind the others, and the size is put
in at the very end.  An authorization area among the parts has a size of its own in front of it.
`command_framed` says that all of these sizes are right for any parts in any order, and that the header can be
read back by the parser for responses, which has the same layout for it.
-/

namespace TrustAnchor
namespace Tpm

open Act Wire

namespace Command

/-! ## Parts -/

/-- The structures that can be a part of a command. -/
inductive Structure
  | u8 (v : UInt8)
  | u16 (v : UInt16)
  | u32 (v : UInt32)
  /-- Digests, authorization values, secret data, data to be hashed, and public areas that are written
  already. -/
  | sized (data : Bytes)
  | sensitiveCreate (sensitive : SensitiveCreate)
  | noPcrs
  | symmetric (cipher : SymmetricDef)
  | keyedHash (parameters : KeyedHashScheme)
  | publicArea (template : Template)
  | sizedPublicArea (template : Template)
  | authorization (entry : Authorization)

def Structure.encode : Structure → Bytes
  | .u8 v => [v]
  | .u16 v => Bytes.ofU16 v
  | .u32 v => Bytes.ofU32 v
  | .sized data => Wire.sized data
  | .sensitiveCreate sensitive => sensitive.encode
  | .noPcrs => Tpm.noPcrs
  | .symmetric cipher => cipher.encode
  | .keyedHash parameters => parameters.encode
  | .publicArea template => template.encode
  | .sizedPublicArea template => Wire.sized template.encode
  | .authorization entry => entry.encode

/-- What can be put behind the parts that are there. -/
inductive Part
  | handle (h : Handle)
  | bytes (data : Bytes)
  | u8 (v : UInt8)
  | u16 (v : UInt16)
  | sized (data : Bytes)
  | sizedEmpty
  | value (v : Structure)
  | authArea (entries : List Authorization)
  | nullAuthArea

namespace Part

def item : Part → Wire.Item
  | .handle h => .u32 h
  | .bytes data => .raw data
  | .u8 v => .u8 v
  | .u16 v => .u16 v
  | .sized data => .sized data
  | .sizedEmpty => .sized []
  | .value v => .raw v.encode
  | .authArea entries => .raw (Authorization.area entries)
  | .nullAuthArea => .raw (Authorization.area [.password])

/-- The bytes of a part. -/
def form : Part → Bytes
  | .handle h => Bytes.ofU32 h
  | .bytes data => data
  | .u8 v => [v]
  | .u16 v => Bytes.ofU16 v
  | .sized data => Bytes.ofU16 (UInt16.ofNat data.length) ++ data
  | .sizedEmpty => [0, 0]
  | .value v => v.encode
  | .authArea entries =>
    Bytes.ofU32 (UInt32.ofNat (entries.flatMap Authorization.encode).length) ++
      entries.flatMap Authorization.encode
  | .nullAuthArea => [0, 0, 0, 9, 0x40, 0, 0, 9, 0, 0, 0, 0, 0]

/-- The entries of a part that is an authorization area. -/
def entries? : Part → Option (List Authorization)
  | .authArea entries => some entries
  | .nullAuthArea => some [.password]
  | _ => none

theorem encode_item (part : Part) : part.item.encode = part.form := by
  cases part <;> rfl

theorem form_of_entries {part : Part} {entries : List Authorization} (area : part.entries? = some entries) :
    part.form = Bytes.ofU32 (UInt32.ofNat (entries.flatMap Authorization.encode).length) ++
      entries.flatMap Authorization.encode := by
  cases part <;> cases area <;> rfl

end Part

/-! ## Putting a command together -/

def add (command : Command) (part : Part) : Command :=
  { command with items := command.items ++ [part.item] }

/-- The command after all the parts have been added, the first one first. -/
def addAll (command : Command) (parts : List Part) : Command := parts.foldl add command

theorem encodeAll_add (command : Command) (part : Part) :
    encodeAll (command.add part).items = encodeAll command.items ++ part.form := by
  rw [add, encodeAll_append, encodeAll_cons, encodeAll_nil, List.append_nil, Part.encode_item]

/-- The parts stand in the order in which they were added, and the header is that of the command that was
begun. -/
theorem addAll_spec (command : Command) (parts : List Part) :
    (command.addAll parts).tag = command.tag ∧ (command.addAll parts).code = command.code ∧
      encodeAll (command.addAll parts).items = encodeAll command.items ++ parts.flatMap Part.form := by
  induction parts generalizing command with
  | nil => exact ⟨rfl, rfl, (List.append_nil _).symm⟩
  | cons part parts ih =>
    have others := ih (command.add part)
    refine ⟨others.1, others.2.1, ?_⟩
    rw [List.flatMap_cons, ← List.append_assoc, ← encodeAll_add]
    exact others.2.2

/-- A command without parts, with or without the tag for an authorization area. -/
def blank (sessions : Bool) (code : CommandCode) : Command :=
  if sessions then .authorized code [] else .plain code []

theorem bytes_addAll (sessions : Bool) (code : CommandCode) (parts : List Part) :
    ((blank sessions code).addAll parts).bytes =
      Response.bytes ⟨if sessions then .sessions else .noSessions, code.code, parts.flatMap Part.form⟩ := by
  have spec := addAll_spec (blank sessions code) parts
  rw [bytes, spec.1, spec.2.1, spec.2.2]
  cases sessions <;> rfl

/-! ## The bytes that are sent -/

/-- The parts are sent as one command with the tag and the code. -/
structure Frames (tag : Tag) (code : CommandCode) (parts : List Part) (sent : Bytes) : Prop where
  tag_eq : sent.take 2 = Bytes.ofU16 tag.code
  /-- The size is the number of all the bytes. -/
  size_eq : (Bytes.toU32 ((sent.drop 2).take 4)).toNat = sent.length
  code_eq : (sent.drop 6).take 4 = Bytes.ofU32 code.code
  body_eq : sent.drop 10 = parts.flatMap Part.form
  /-- In front of the entries of an authorization area stands the number of their bytes. -/
  areas : ∀ before part after entries, parts = before ++ part :: after → part.entries? = some entries →
    ∃ size : UInt32, size.toNat = (entries.flatMap Authorization.encode).length ∧
      sent.drop (10 + (before.flatMap Part.form).length) =
        Bytes.ofU32 size ++ entries.flatMap Authorization.encode ++ after.flatMap Part.form
  /-- The parser for responses reads the header back, whatever follows the command. -/
  parsed : ∀ {σ : Type} (more : Bytes) (s : σ),
    Response.parse (sent ++ more) s = .ok ⟨tag, code.code, sent.drop 10⟩ s

theorem frames_bytes {tag : Tag} {code : CommandCode} {parts : List Part}
    (total : 10 + (parts.flatMap Part.form).length < 4294967296) :
    Frames tag code parts (Response.bytes ⟨tag, code.code, parts.flatMap Part.form⟩) where
  tag_eq := rfl
  size_eq := by
    rw [Response.length_bytes]
    show (Bytes.toU32 (Bytes.ofU32 (UInt32.ofNat (headerLength + (parts.flatMap Part.form).length)))).toNat = _
    rw [Bytes.toU32_ofU32]
    exact UInt32.toNat_ofNat_of_lt' total
  code_eq := rfl
  body_eq := rfl
  areas := by
    intro before part after entries split area
    have forms : parts.flatMap Part.form =
        before.flatMap Part.form ++ (part.form ++ after.flatMap Part.form) := by
      rw [split, List.flatMap_append, List.flatMap_cons]
    have form := Part.form_of_entries area
    have fits : (entries.flatMap Authorization.encode).length < 4294967296 := by
      rw [forms, form] at total
      simp only [List.length_append, Bytes.length_ofU32] at total
      omega
    refine ⟨_, UInt32.toNat_ofNat_of_lt' fits, ?_⟩
    rw [← List.drop_drop, ← form]
    show (parts.flatMap Part.form).drop _ = _
    rw [forms, List.drop_left]
  parsed more s := Response.parse_ok_iff.mpr ⟨rfl, total, more, rfl⟩

/-- However a command is put together, as long as its size fits in the size field: sealing it gives the header,
then the parts one after the other.  All sizes in it are exact, that of the whole and that of each
authorization area, and the parser for responses takes tag, code and parts out of it again. -/
theorem command_framed {σ : Type} (sessions : Bool) (code : CommandCode) (parts : List Part) (s : σ)
    (total : 10 + (parts.flatMap Part.form).length < 4294967296) :
    ∃ sent, ((blank sessions code).addAll parts).sealed s = .ok sent s ∧
      Frames (if sessions then .sessions else .noSessions) code parts sent := by
  refine ⟨_, sealed_eq _ s, ?_⟩
  rw [bytes_addAll]
  exact frames_bytes total

/-- A command with two authorization areas, one of two entries and one of the empty password. -/
theorem command_framed_areas :
    let entry : Authorization := ⟨0x02000001, [0xaa, 0xbb], 1, [0xcc]⟩
    let parts : List Part := [.handle Handle.endorsement, .authArea [entry, .password],
      .value (.sensitiveCreate .empty), .sizedEmpty, .nullAuthArea, .u8 7]
    let sent : Bytes := [0x80, 0x02, 0, 0, 0, 61, 0, 0, 0x01, 0x31,
      0x40, 0, 0, 0x0b, 0, 0, 0, 21, 0x02, 0, 0, 1, 0, 2, 0xaa, 0xbb, 1, 0, 1, 0xcc, 0x40, 0, 0, 9, 0, 0, 0, 0, 0,
      0, 4, 0, 0, 0, 0, 0, 0, 0, 0, 0, 9, 0x40, 0, 0, 9, 0, 0, 0, 0, 0, 7]
    10 + (parts.flatMap Part.form).length < 4294967296 ∧
      ((blank true .createPrimary).addAll parts).sealed () = .ok sent () ∧
        Frames .sessions .createPrimary parts sent := by
  intro entry parts sent
  have total : 10 + (parts.flatMap Part.form).length < 4294967296 := by decide
  have written : ((blank true .createPrimary).addAll parts).bytes = sent := by decide
  have sealed_as := ((blank true .createPrimary).addAll parts).sealed_eq ()
  rw [written] at sealed_as
  rcases command_framed true .createPrimary parts () total with ⟨other, sealed_other, frames⟩
  rw [sealed_as] at sealed_other
  cases sealed_other
  exact ⟨total, sealed_as, frames⟩

end Command
end Tpm
end TrustAnchor
