import TrustAnchor.Proofs.Wire.Layout

/-!
Messages that are written piece by piece, and read piece by piece.

A reader has to know the kinds of the pieces and the lengths of those that do not carry one; `Shape` is just
that.  `readPieces` reads as many pieces as there are shapes, and its layout is `encodeAll`, so reading and
writing undo each other over scripts of any length (`script_reads_back`).  The one exception is a sized
string that is too long for its size field, and `sized_wraps` says what is read in its place.
-/

namespace TrustAnchor
namespace Wire

open Act

/-- How a piece is read. -/
inductive Shape
  | u8
  | u16
  | u32
  | raw (length : Nat)
  | sized
  deriving DecidableEq, Repr

namespace Item

def shape : Item → Shape
  | .u8 _ => .u8
  | .u16 _ => .u16
  | .u32 _ => .u32
  | .raw data => .raw data.length
  | .sized _ => .sized

/-- A sized string fits behind its size, and every other piece fits anyway. -/
def Fits : Item → Prop
  | .sized data => data.length < 65536
  | _ => True

end Item

def Shape.read : Shape → Read Item
  | .u8 => do
    let v ← Reader.u8
    return .u8 v
  | .u16 => do
    let v ← Reader.u16
    return .u16 v
  | .u32 => do
    let v ← Reader.u32
    return .u32 v
  | .raw length => do
    let data ← Reader.bytes length
    return .raw data
  | .sized => do
    let data ← Reader.sized
    return .sized data

/-- The pieces of these shapes, one after the other. -/
def readPieces : List Shape → Read (List Item)
  | [] => pure []
  | shape :: shapes => do
    let first ← shape.read
    let others ← readPieces shapes
    return first :: others

/-- The pieces of a message that consists of nothing else. -/
def readMessage (shapes : List Shape) : Read (List Item) := do
  let items ← readPieces shapes
  Reader.finish
  return items

/-! ## What is accepted -/

namespace Decodes

variable {α β : Type} {read : Read α} {layout : α → Bytes → Prop}

/-- A value that is made of what was read has its written form. -/
theorem map (h : Decodes read layout) (f : α → β) :
    Decodes (read >>= fun a => Pure.pure (f a)) fun b form => ∃ a, layout a form ∧ b = f a := by
  refine (h.bind fun a => Decodes.pure (f a)).congr fun b form => ?_
  constructor
  · rintro ⟨a, form_ok, rfl⟩
    exact ⟨a, form, [], form_ok, ⟨rfl, rfl⟩, (List.append_nil form).symm⟩
  · rintro ⟨a, front, _, front_ok, ⟨rfl, rfl⟩, rfl⟩
    rw [List.append_nil]
    exact ⟨a, front_ok, rfl⟩

end Decodes

theorem Shape.decodes_read (shape : Shape) :
    Decodes shape.read fun item form => item.shape = shape ∧ item.Fits ∧ form = item.encode := by
  cases shape with
  | u8 =>
    refine (Reader.decodes_u8.map Item.u8).congr fun item form => ?_
    cases item <;> simp [Item.shape, Item.Fits, Item.encode]
  | u16 =>
    refine (Reader.decodes_u16.map Item.u16).congr fun item form => ?_
    cases item <;> simp [Item.shape, Item.Fits, Item.encode]
  | u32 =>
    refine (Reader.decodes_u32.map Item.u32).congr fun item form => ?_
    cases item <;> simp [Item.shape, Item.Fits, Item.encode]
  | raw length =>
    refine ((Reader.decodes_bytes length).map Item.raw).congr fun item form => ?_
    constructor
    · rintro ⟨shaped, -, rfl⟩
      cases item with
      | raw data =>
        cases shaped
        exact ⟨data, ⟨rfl, rfl⟩, rfl⟩
      | _ => cases shaped
    · rintro ⟨data, ⟨rfl, rfl⟩, rfl⟩
      exact ⟨rfl, trivial, rfl⟩
  | sized =>
    refine (Reader.decodes_sized.map Item.sized).congr fun item form => ?_
    cases item <;> simp [Item.shape, Item.Fits, Item.encode]

theorem decodes_readPieces (shapes : List Shape) :
    Decodes (readPieces shapes) fun items form =>
      items.map Item.shape = shapes ∧ (∀ item ∈ items, item.Fits) ∧ form = encodeAll items := by
  induction shapes with
  | nil =>
    refine (Decodes.pure []).congr fun items form => ?_
    constructor
    · rintro ⟨shaped, -, rfl⟩
      rw [List.map_eq_nil_iff] at shaped
      subst shaped
      exact ⟨rfl, rfl⟩
    · rintro ⟨rfl, rfl⟩
      exact ⟨rfl, nofun, rfl⟩
  | cons shape shapes ih =>
    refine (shape.decodes_read.bind fun first => ih.map (first :: ·)).congr fun items form => ?_
    constructor
    · rintro ⟨shaped, fit, rfl⟩
      match items, shaped with
      | first :: others, shaped =>
        obtain ⟨first_shaped, others_shaped⟩ := List.cons_eq_cons.mp shaped
        obtain ⟨first_fits, others_fit⟩ := List.forall_mem_cons.mp fit
        exact ⟨first, _, _, ⟨first_shaped, first_fits, rfl⟩,
          ⟨others, ⟨others_shaped, others_fit, rfl⟩, rfl⟩, rfl⟩
    · rintro ⟨first, _, _, ⟨rfl, first_fits, rfl⟩, ⟨others, ⟨rfl, others_fit, rfl⟩, rfl⟩, rfl⟩
      exact ⟨rfl, List.forall_mem_cons.mpr ⟨first_fits, others_fit⟩, rfl⟩

theorem Reader.finish_ok_iff {reader later : Reader} :
    finish reader = .ok () later ↔ reader.rest = [] ∧ later = reader := by
  rw [finish, bind_ok (get_eq reader)]
  by_cases more : (!reader.isAtEnd) = true
  · rw [if_pos more]
    constructor
    · intro run
      cases run
    · rintro ⟨empty, -⟩
      rw [isAtEnd, empty] at more
      cases more
  · rw [if_neg more]
    have empty : reader.rest = [] := by simpa [isAtEnd] using more
    constructor
    · intro run
      cases run
      exact ⟨empty, rfl⟩
    · rintro ⟨-, rfl⟩
      rfl

namespace Decodes

variable {α : Type} {read : Read α} {layout : α → Bytes → Prop}

/-- With nothing allowed behind it, a value is read from its written form and from nothing else. -/
theorem sole_ok_iff (h : Decodes read layout) {bytes : Bytes} {a : α} {later : Reader} :
    (read >>= fun a => Reader.finish >>= fun _ => Pure.pure a : Read α) (.ofBytes bytes) = .ok a later ↔
      layout a bytes ∧ later = ⟨bytes.length, []⟩ := by
  constructor
  · intro run
    obtain ⟨_, between, ran, run⟩ := bind_eq_ok_iff.mp run
    obtain ⟨_, _, finished, returned⟩ := bind_eq_ok_iff.mp run
    obtain ⟨empty, rfl⟩ := Reader.finish_ok_iff.mp finished
    cases returned
    obtain ⟨form, form_ok, split, moved⟩ := h.sound ran
    have whole : bytes = form := by
      rw [empty, List.append_nil] at split
      exact split
    obtain ⟨position, rest⟩ := later
    have empty : rest = [] := empty
    have moved : position = 0 + form.length := moved
    rw [whole, empty, moved, Nat.zero_add]
    exact ⟨form_ok, rfl⟩
  · rintro ⟨form_ok, rfl⟩
    have ran := h.complete form_ok [] 0
    rw [List.append_nil, Nat.zero_add] at ran
    exact (bind_ok ran).trans (bind_ok (Reader.finish_nil _))

theorem sole_within_ok_iff {σ : Type} (h : Decodes read layout) {bytes : Bytes} {a : α} {s t : σ} :
    Read.within (read >>= fun a => Reader.finish >>= fun _ => Pure.pure a) bytes s = .ok a t ↔
      t = s ∧ layout a bytes := by
  unfold Read.within
  constructor
  · intro run
    cases ran : (read >>= fun a => Reader.finish >>= fun _ => Pure.pure a : Read α) (.ofBytes bytes) with
    | ok value later =>
      rw [ran] at run
      cases run
      exact ⟨rfl, (h.sole_ok_iff.mp ran).1⟩
    | error e later =>
      rw [ran] at run
      cases run
  · rintro ⟨rfl, form_ok⟩
    simp only [h.sole_ok_iff.mpr ⟨form_ok, rfl⟩]

end Decodes

/-- A message is accepted if and only if it is the pieces that are given for it, written one after the
other. -/
theorem readMessage_ok_iff {shapes : List Shape} {bytes : Bytes} {items : List Item} {later : Reader} :
    readMessage shapes (.ofBytes bytes) = .ok items later ↔
      items.map Item.shape = shapes ∧ (∀ item ∈ items, item.Fits) ∧ bytes = encodeAll items ∧
        later = ⟨bytes.length, []⟩ := by
  have sole : readMessage shapes (.ofBytes bytes) = .ok items later ↔ _ :=
    (decodes_readPieces shapes).sole_ok_iff
  rw [and_assoc, and_assoc] at sole
  exact sole

/-! ## Strings that do not fit -/

/-- Of a string behind its size only the length modulo 65536 is read, whatever follows. -/
theorem Reader.sized_wraps (data rest : Bytes) (position : Nat) :
    let kept := data.length % 65536
    sized ⟨position, Wire.sized data ++ rest⟩ =
      .ok (data.take kept) ⟨position + 2 + kept, data.drop kept ++ rest⟩ := by
  intro kept
  have size : (UInt16.ofNat data.length).toNat = kept := UInt16.toNat_ofNat'
  have width : (data.take kept).length = kept := List.length_take_of_le (Nat.mod_le _ _)
  have split : data ++ rest = data.take kept ++ (data.drop kept ++ rest) := by
    rw [← List.append_assoc, List.take_append_drop]
  rw [sized, Wire.sized, List.append_assoc, bind_ok (u16_append _ _ _), size, split]
  exact take_append _ width

/-- Reading undoes writing, and writing undoes reading, over scripts of any length: pieces that fit read back
as they were written, with nothing left over, and what is read from a message and written again is that
message.  A sized string that does not fit is not read back: the length modulo 65536 is read of it, and the
rest of it stands in front of what follows. -/
theorem script_reads_back :
    (∀ items : List Item, (∀ item ∈ items, item.Fits) →
      readMessage (items.map Item.shape) (.ofBytes (encodeAll items)) =
        .ok items ⟨(encodeAll items).length, []⟩) ∧
    (∀ (shapes : List Shape) (bytes : Bytes) (items : List Item) (later : Reader),
      readMessage shapes (.ofBytes bytes) = .ok items later →
        encodeAll items = bytes ∧ items.map Item.shape = shapes ∧ later = ⟨bytes.length, []⟩) ∧
    ∀ (data rest : Bytes) (position : Nat), 65535 < data.length →
      let kept := data.length % 65536
      Reader.sized ⟨position, (Item.sized data).encode ++ rest⟩ =
        .ok (data.take kept) ⟨position + 2 + kept, data.drop kept ++ rest⟩ ∧
      (data.take kept).length < data.length ∧ data.drop kept ≠ [] := by
  refine ⟨fun items fit => ?_, fun shapes bytes items later run => ?_, fun data rest position long => ?_⟩
  · exact readMessage_ok_iff.mpr ⟨rfl, fit, rfl, rfl⟩
  · obtain ⟨shaped, -, rfl, at_end⟩ := readMessage_ok_iff.mp run
    exact ⟨rfl, shaped, at_end⟩
  · intro kept
    have fewer : kept < data.length := by omega
    refine ⟨Reader.sized_wraps data rest position, ?_, ?_⟩
    · rw [List.length_take_of_le (Nat.le_of_lt fewer)]
      exact fewer
    · intro none_left
      exact Nat.not_le.mpr fewer (List.drop_eq_nil_iff.mp none_left)

/-- A script with a piece of every kind, there and back. -/
theorem script_reads_back_mixed :
    let items : List Item := [.u16 0x8002, .u8 7, .sized [1, 2, 3], .raw [9, 8], .u32 0x0a0b0c0d, .sized []]
    let bytes : Bytes := [0x80, 2, 7, 0, 3, 1, 2, 3, 9, 8, 0x0a, 0x0b, 0x0c, 0x0d, 0, 0]
    let shapes : List Shape := [.u16, .u8, .sized, .raw 2, .u32, .sized]
    (∀ item ∈ items, item.Fits) ∧ readMessage shapes (.ofBytes bytes) = .ok items ⟨16, []⟩ ∧
      encodeAll items = bytes := by
  intro items bytes shapes
  have fit : ∀ item ∈ items, item.Fits := by simp [items, Item.Fits]
  have read : readMessage shapes (.ofBytes bytes) = .ok items ⟨16, []⟩ := script_reads_back.1 items fit
  exact ⟨fit, read, (script_reads_back.2.1 shapes bytes items _ read).1⟩

end Wire
end TrustAnchor
