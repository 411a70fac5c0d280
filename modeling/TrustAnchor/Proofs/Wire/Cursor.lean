import TrustAnchor.Proofs.Wire.Script

/-!
Where a reader stands.

A reader stands in a byte string at its position: the bytes before it have been handed out, the others are what
is left.  Reads keep to that also when they fail (`Within`), and `Breaks` says what has been handed out by
pieces in a row of which one is missing.

A reader counts with natural numbers.  A `Cursor` counts with 64 bits and keeps the string as a whole; the sum
and the bounds in it are checked, and one that goes wrong is a crash.  On strings that 64 bits can count it does
what the reader does, so none goes wrong (`mirrors_readPieces`).
-/

namespace TrustAnchor
namespace Wire

open Act

namespace Reader

/-- The reader has handed out what stands before its position, and what follows is left. -/
structure Within (data : Bytes) (reader : Reader) : Prop where
  bounded : reader.position ≤ data.length
  behind : reader.rest = data.drop reader.position

/-- From `reader` on, `front` was handed out. -/
structure HandsOut (reader : Reader) (front : Bytes) (later : Reader) : Prop where
  split : reader.rest = front ++ later.rest
  moved : later.position = reader.position + front.length

variable {data front back : Bytes} {reader between later : Reader}

theorem within_ofBytes (data : Bytes) : Within data (ofBytes data) := ⟨Nat.zero_le _, rfl⟩

theorem Within.remaining_eq (within : Within data reader) :
    reader.remaining = data.length - reader.position := by
  rw [remaining, within.behind, List.length_drop]

theorem HandsOut.refl (reader : Reader) : HandsOut reader [] reader := ⟨rfl, rfl⟩

theorem HandsOut.eq_of_nil (out : HandsOut reader [] later) : later = reader := by
  obtain ⟨position, rest⟩ := reader
  obtain ⟨position', rest'⟩ := later
  have rest_eq : rest = rest' := out.split
  have position_eq : position' = position := out.moved
  rw [rest_eq, position_eq]

theorem HandsOut.trans (first : HandsOut reader front between) (second : HandsOut between back later) :
    HandsOut reader (front ++ back) later where
  split := by rw [first.split, second.split, List.append_assoc]
  moved := by rw [second.moved, first.moved, List.length_append, Nat.add_assoc]

theorem Within.take_eq (within : Within data reader) (out : HandsOut reader front later) :
    data.take later.position = data.take reader.position ++ front := by
  rw [out.moved, List.take_add, ← within.behind, out.split, List.take_left]

theorem Within.handsOut (within : Within data reader) (out : HandsOut reader front later) :
    Within data later := by
  have rest : later.rest = data.drop later.position := by
    rw [out.moved, ← List.drop_drop, ← within.behind, out.split, List.drop_left]
  have left := within.remaining_eq
  rw [remaining, out.split, List.length_append] at left
  refine ⟨?_, rest⟩
  have bounded := within.bounded
  have moved := out.moved
  omega

end Reader

theorem Decodes.handsOut {α : Type} {read : Read α} {layout : α → Bytes → Prop} (h : Decodes read layout)
    {reader later : Reader} {a : α} (run : read reader = .ok a later) :
    ∃ form, layout a form ∧ reader.HandsOut form later := by
  obtain ⟨form, form_ok, split, moved⟩ := h.sound run
  exact ⟨form, form_ok, split, moved⟩

/-! ## Reads that fail -/

namespace Shape

/-- The bytes that are asked for first: all of a piece, or the size of a sized string. -/
def width : Shape → Nat
  | .u8 => 1
  | .u16 => 2
  | .u32 => 4
  | .raw length => length
  | .sized => 2

def field : Shape → Field
  | .u8 => .u8
  | .u16 => .u16
  | .u32 => .u32
  | .raw _ => .bytes
  | .sized => .u16

/-- How the read of a piece fails.  What is asked for first is there or is left alone; only of a sized string
is the size taken when the string behind it is missing. -/
inductive Fails : Shape → Reader → Reader → Fault → Prop
  | first {shape : Shape} {reader : Reader} (few : reader.remaining < shape.width) :
      Fails shape reader reader (Fault.of (.underflow shape.field shape.width reader.remaining))
  | body {reader later : Reader} {size : UInt16} (taken : reader.HandsOut (Bytes.ofU16 size) later)
      (few : later.remaining < size.toNat) :
      Fails .sized reader later (Fault.of (.underflow .bytes size.toNat later.remaining))

theorem Fails.handsOut {shape : Shape} {reader later : Reader} {fault : Fault}
    (fails : shape.Fails reader later fault) :
    later = reader ∨ shape = .sized ∧ ∃ size, reader.HandsOut (Bytes.ofU16 size) later := by
  cases fails with
  | first few => exact .inl rfl
  | body taken few => exact .inr ⟨rfl, _, taken⟩

/-- What is made of the bytes that were asked for first, with a way to take more. -/
def complete {σ : Type} (take : Nat → Field → Act Fault σ Bytes) : Shape → Bytes → Act Fault σ Item
  | .u8, data => do
    let v ← Act.demand data.head?
    return .u8 v
  | .u16, data => return .u16 (Bytes.toU16 data)
  | .u32, data => return .u32 (Bytes.toU32 data)
  | .raw _, data => return .raw data
  | .sized, data => do
    let body ← take (Bytes.toU16 data).toNat .bytes
    return .sized body

/-- Reads a piece by a way to take bytes. -/
def readBy {σ : Type} (take : Nat → Field → Act Fault σ Bytes) (shape : Shape) : Act Fault σ Item := do
  let data ← take shape.width shape.field
  shape.complete take data

theorem readBy_take (shape : Shape) : shape.readBy Reader.take = shape.read := by
  cases shape <;>
    simp only [readBy, read, complete, width, field, Reader.u8, Reader.u16, Reader.u32, Reader.bytes,
      Reader.sized, bind_assoc, pure_bind]

theorem fails_of_error {shape : Shape} {reader later : Reader} {stop : Stop Fault}
    (failed : shape.read reader = .error stop later) :
    ∃ fault, stop = .error fault ∧ shape.Fails reader later fault := by
  rw [← readBy_take] at failed
  by_cases enough : shape.width ≤ reader.remaining
  · have taken : Reader.take shape.width shape.field reader = _ := Reader.take_of_le enough
    obtain ⟨data, ⟨width, same⟩, out⟩ := (Reader.decodes_take shape.width shape.field).handsOut taken
    rw [readBy, bind_ok taken, ← same] at failed
    generalize Reader.mk _ _ = between at failed out
    cases shape with
    | u8 =>
      rw [← same] at width
      match data, width with
      | [_], _ => cases failed
    | u16 => cases failed
    | u32 => cases failed
    | raw length => cases failed
    | sized =>
      -- the size was there, so it is the string behind it that is missing
      have size : data = Bytes.ofU16 (Bytes.toU16 data) := by
        rw [← same] at width
        exact (Bytes.ofU16_toU16 width).symm
      rw [size] at out
      rw [complete, bind_pure_eq_error_iff] at failed
      by_cases body : (Bytes.toU16 data).toNat ≤ between.remaining
      · rw [Reader.take_of_le body] at failed
        cases failed
      · rw [Reader.take_of_lt (Nat.not_le.mp body)] at failed
        cases failed
        exact ⟨_, rfl, .body out (Nat.not_le.mp body)⟩
  · have few := Nat.not_le.mp enough
    rw [readBy, bind_error (Reader.take_of_lt few)] at failed
    cases failed
    exact ⟨_, rfl, .first few⟩

end Shape

/-- How a row of pieces is broken off: the first ones were there and have been handed out, and one failed. -/
def Breaks (shapes : List Shape) (reader later : Reader) (fault : Fault) : Prop :=
  ∃ there missing others between, shapes = there.map Item.shape ++ missing :: others ∧
    (∀ item ∈ there, item.Fits) ∧ reader.HandsOut (encodeAll there) between ∧
      missing.Fails between later fault

theorem breaks_of_error {shapes : List Shape} {reader later : Reader} {stop : Stop Fault}
    (failed : readPieces shapes reader = .error stop later) :
    ∃ fault, stop = .error fault ∧ Breaks shapes reader later fault := by
  induction shapes generalizing reader with
  | nil => cases failed
  | cons shape shapes ih =>
    obtain here | ⟨item, between, there, rest⟩ := bind_eq_error_iff.mp failed
    · obtain ⟨fault, same, fails⟩ := Shape.fails_of_error here
      exact ⟨fault, same, [], shape, shapes, reader, rfl, nofun, .refl reader, fails⟩
    · rw [bind_pure_eq_error_iff] at rest
      obtain ⟨fault, same, items, missing, others, between', split, fit, out, fails⟩ := ih rest
      obtain ⟨_, ⟨shaped, fits, rfl⟩, first⟩ := shape.decodes_read.handsOut there
      refine ⟨fault, same, item :: items, missing, others, between', ?_, ?_, ?_, fails⟩
      · rw [split, List.map_cons, shaped, List.cons_append]
      · exact List.forall_mem_cons.mpr ⟨fits, fit⟩
      · exact first.trans out

/-- A row that is broken off leaves the reader in the string, behind the pieces that were there. -/
theorem Breaks.within {shapes : List Shape} {data : Bytes} {reader later : Reader} {fault : Fault}
    (breaks : Breaks shapes reader later fault) (within : reader.Within data) :
    later.Within data ∧ reader.position ≤ later.position := by
  obtain ⟨there, missing, others, between, split, fit, out, fails⟩ := breaks
  have stands := within.handsOut out
  have forward := out.moved
  obtain rfl | ⟨-, size, taken⟩ := fails.handsOut
  · exact ⟨stands, by omega⟩
  · have moved := taken.moved
    exact ⟨stands.handsOut taken, by omega⟩

theorem Breaks.fails {shape : Shape} {reader later : Reader} {fault : Fault}
    (breaks : Breaks [shape] reader later fault) : shape.Fails reader later fault := by
  obtain ⟨there, missing, others, between, split, -, out, fails⟩ := breaks
  cases there with
  | nil =>
    cases split
    rw [out.eq_of_nil] at fails
    exact fails
  | cons item items => simp at split

/-! ## Positions of 64 bits -/

section ReadBy

variable {σ τ : Type}

/-- Reads pieces by a way to take bytes. -/
def readPiecesBy (take : Nat → Field → Act Fault σ Bytes) : List Shape → Act Fault σ (List Item)
  | [] => pure []
  | shape :: shapes => do
    let first ← shape.readBy take
    let others ← readPiecesBy take shapes
    return first :: others

theorem readPiecesBy_take (shapes : List Shape) : readPiecesBy Reader.take shapes = readPieces shapes := by
  induction shapes with
  | nil => rfl
  | cons shape shapes ih => rw [readPiecesBy, readPieces, shape.readBy_take, ih]

/-- No length in these shapes needs more than 64 bits. -/
def Counted (shapes : List Shape) : Prop := ∀ shape ∈ shapes, shape.width < UInt64.size

variable {I : σ → Prop} {f : σ → τ} {take : Nat → Field → Act Fault σ Bytes}
  {image : Nat → Field → Act Fault τ Bytes}

theorem mirrors_readBy (same : ∀ n field, n < UInt64.size → MirrorsOn I f (take n field) (image n field))
    {shape : Shape} (counted : shape.width < UInt64.size) :
    MirrorsOn I f (shape.readBy take) (shape.readBy image) := by
  refine mirrorsOn_bind (same _ _ counted) ?_
  intro data
  cases shape with
  | u8 => exact mirrorsOn_bind (mirrorsOn_demand _) fun _ => mirrorsOn_pure _
  | sized =>
    have size := (Bytes.toU16 data).toNat_lt
    refine mirrorsOn_bind (same _ _ ?_) fun _ => mirrorsOn_pure _
    exact Nat.lt_trans size (by decide)
  | u16 => exact mirrorsOn_pure _
  | u32 => exact mirrorsOn_pure _
  | raw length => exact mirrorsOn_pure _

theorem mirrors_readPiecesBy
    (same : ∀ n field, n < UInt64.size → MirrorsOn I f (take n field) (image n field))
    {shapes : List Shape} (counted : Counted shapes) :
    MirrorsOn I f (readPiecesBy take shapes) (readPiecesBy image shapes) := by
  induction shapes with
  | nil => exact mirrorsOn_pure []
  | cons shape shapes ih =>
    obtain ⟨first, others⟩ := List.forall_mem_cons.mp counted
    exact mirrorsOn_bind (mirrors_readBy same first) fun _ =>
      mirrorsOn_bind (ih others) fun _ => mirrorsOn_pure _

end ReadBy

/-- A reader that keeps the whole string and counts its position with 64 bits. -/
structure Cursor where
  data : Bytes
  position : UInt64
  deriving DecidableEq, Repr

namespace Cursor

/-- The sum, if 64 bits hold it. -/
def sum? (a b : UInt64) : Option UInt64 := if a.toNat + b.toNat < UInt64.size then some (a + b) else none

/-- The bytes behind the position.  A position behind the string has none. -/
def remaining (cursor : Cursor) : UInt64 :=
  let length := UInt64.ofNat cursor.data.length
  if cursor.position ≤ length then length - cursor.position else 0

/-- The next bytes.  Where they end has to be a number of 64 bits and a place in the string. -/
def take (n : UInt64) (field : Field) : Act Fault Cursor Bytes := do
  let cursor ← get
  if cursor.remaining < n then
    Act.fail (Fault.of (.underflow field n.toNat cursor.remaining.toNat))
  else
    let stop ← Act.demand (sum? cursor.position n)
    let front ← Act.demand (Bytes.slice? cursor.position.toNat stop.toNat cursor.data)
    set ({ cursor with position := stop } : Cursor)
    return front

/-- The reader that stands where the cursor stands. -/
def view (cursor : Cursor) : Reader := ⟨cursor.position.toNat, cursor.data.drop cursor.position.toNat⟩

/-- The cursor stands in the string. -/
structure Stands (data : Bytes) (cursor : Cursor) : Prop where
  whole : cursor.data = data
  bounded : cursor.position.toNat ≤ data.length

variable {data : Bytes} {cursor : Cursor}

theorem remaining_eq (small : data.length < UInt64.size) (stands : cursor.Stands data) :
    cursor.remaining.toNat = data.length - cursor.position.toNat := by
  have length : (UInt64.ofNat data.length).toNat = data.length := UInt64.toNat_ofNat_of_lt' small
  have within : cursor.position ≤ UInt64.ofNat data.length := by
    rw [UInt64.le_iff_toNat_le, length]
    exact stands.bounded
  rw [remaining, stands.whole, if_pos within, UInt64.toNat_sub_of_le _ _ within, length]

theorem sum?_of_le (small : data.length < UInt64.size) {a b : UInt64} (fits : a.toNat + b.toNat ≤ data.length) :
    sum? a b = some (a + b) ∧ (a + b).toNat = a.toNat + b.toNat := by
  have low : a.toNat + b.toNat < UInt64.size := Nat.lt_of_le_of_lt fits small
  refine ⟨if_pos low, ?_⟩
  rw [UInt64.toNat_add]
  exact Nat.mod_eq_of_lt low

theorem take_of_few {n : UInt64} {field : Field} (few : cursor.remaining < n) :
    take n field cursor =
      .error (.error (Fault.of (.underflow field n.toNat cursor.remaining.toNat))) cursor := by
  rw [take, bind_ok (get_eq cursor), if_pos few]
  rfl

theorem take_of_enough (small : data.length < UInt64.size) (stands : cursor.Stands data) {n : UInt64}
    (field : Field) (enough : ¬ cursor.remaining < n) :
    take n field cursor =
        .ok (cursor.view.rest.take n.toNat) { cursor with position := cursor.position + n } ∧
      (cursor.position + n).toNat = cursor.position.toNat + n.toNat ∧
        cursor.position.toNat + n.toNat ≤ data.length := by
  have fits : cursor.position.toNat + n.toNat ≤ data.length := by
    have left := remaining_eq small stands
    have bounded := stands.bounded
    rw [UInt64.lt_iff_toNat_lt] at enough
    omega
  obtain ⟨sum, value⟩ := sum?_of_le small fits
  have slice : Bytes.slice? cursor.position.toNat (cursor.position + n).toNat cursor.data =
      some (cursor.view.rest.take n.toNat) := by
    rw [Bytes.slice?, value, stands.whole, if_pos ⟨Nat.le_add_right _ _, fits⟩, Nat.add_sub_cancel_left,
      view, stands.whole]
  refine ⟨?_, value, fits⟩
  rw [take, bind_ok (get_eq cursor), if_neg enough, sum, bind_ok (demand_some _ cursor), slice,
    bind_ok (demand_some _ cursor)]
  rfl

/-- The checks of a cursor do not go wrong: it takes what the reader takes, and still stands in the string. -/
theorem mirrors_take (small : data.length < UInt64.size) (n : UInt64) (field : Field) :
    MirrorsOn (Stands data) view (take n field) (Reader.take n.toNat field) := by
  intro cursor stands
  have left : cursor.remaining.toNat = cursor.view.remaining := by
    rw [remaining_eq small stands, Reader.remaining, view, List.length_drop, stands.whole]
  by_cases few : cursor.remaining < n
  · have few' : cursor.view.remaining < n.toNat := by
      rw [← left]
      exact UInt64.lt_iff_toNat_lt.mp few
    rw [take_of_few few, Reader.take_of_lt few', left]
    exact ⟨rfl, stands⟩
  · obtain ⟨taken, value, fits⟩ := take_of_enough small stands field few
    have enough : n.toNat ≤ cursor.view.remaining := by
      rw [← left]
      exact Nat.not_lt.mp (mt UInt64.lt_iff_toNat_lt.mpr few)
    rw [taken, Reader.take_of_le enough]
    refine ⟨?_, stands.whole, ?_⟩
    · simp only [seen, view, value, List.drop_drop]
    · rw [after_ok, value]
      exact fits

/-- Reads pieces with a cursor. -/
def readPieces (shapes : List Shape) : Act Fault Cursor (List Item) :=
  readPiecesBy (fun n field => take (UInt64.ofNat n) field) shapes

/-- With 64 bits nothing overflows and nothing is looked for outside the string. -/
theorem mirrors_readPieces (small : data.length < UInt64.size) {shapes : List Shape}
    (counted : Counted shapes) :
    MirrorsOn (Stands data) view (readPieces shapes) (Wire.readPieces shapes) := by
  rw [← readPiecesBy_take]
  refine mirrors_readPiecesBy ?_ counted
  intro n field counted
  have mirrors := mirrors_take small (UInt64.ofNat n) field
  rw [UInt64.toNat_ofNat_of_lt' counted] at mirrors
  exact mirrors

end Cursor

end Wire
end TrustAnchor
