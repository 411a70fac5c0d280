import TrustAnchor.Proofs.Tpm.Layout
import TrustAnchor.Proofs.Wire.Cursor

/-!
Reads of every kind, one after the other.

A `Target` is something that can be read from a response, and `play` is what becomes of a reader when a list of
targets is read with it, also when some of these reads fail.  `reads_keep_place` is about the next read after any
such list: where the reader stands before and after it, which bytes it takes, and that positions of 64 bits are
enough for it.
-/

namespace TrustAnchor
namespace Tpm

open Act Wire

/-- What can be read.  Digests, names, public areas, creation data and buffers are all sized strings. -/
inductive Target
  | u8
  | u16
  | u32
  | bytes (length : UInt64)
  | sized
  | ticket
  | entry
  deriving DecidableEq, Repr

namespace Target

abbrev Value : Target → Type
  | .u8 => UInt8
  | .u16 => UInt16
  | .u32 => UInt32
  | .bytes _ => Bytes
  | .sized => Bytes
  | .ticket => CreationTicket
  | .entry => ResponseAuth

def read : (target : Target) → Read target.Value
  | .u8 => Reader.u8
  | .u16 => Reader.u16
  | .u32 => Reader.u32
  | .bytes length => Reader.bytes length.toNat
  | .sized => Reader.sized
  | .ticket => CreationTicket.read
  | .entry => ResponseAuth.read

/-- The bytes that stand for a value. -/
def encode : (target : Target) → target.Value → Bytes
  | .u8, v => [v]
  | .u16, v => Bytes.ofU16 v
  | .u32, v => Bytes.ofU32 v
  | .bytes _, data => data
  | .sized, data => Wire.sized data
  | .ticket, value => CreationTicket.encode value
  | .entry, value => ResponseAuth.encode value

/-- The lengths in a value are those that were asked for or fit behind their sizes. -/
def Admits : (target : Target) → target.Value → Prop
  | .bytes length, data => data.length = length.toNat
  | .sized, data => data.length < 65536
  | .ticket, value => value.digest.length < 65536
  | .entry, value => ResponseAuth.Fits value
  | _, _ => True

theorem decodes_read (target : Target) :
    Decodes target.read fun value form => target.Admits value ∧ form = target.encode value := by
  cases target with
  | u8 => exact Reader.decodes_u8.congr fun value form => and_iff_right trivial
  | u16 => exact Reader.decodes_u16.congr fun value form => and_iff_right trivial
  | u32 => exact Reader.decodes_u32.congr fun value form => and_iff_right trivial
  | bytes length => exact Reader.decodes_bytes length.toNat
  | sized => exact Reader.decodes_sized
  | ticket => exact CreationTicket.decodes_read
  | entry => exact ResponseAuth.decodes_read

/-! ## Targets as rows of pieces -/

/-- The fields of a structure; anything else is a single field. -/
def shapes : Target → List Shape
  | .u8 => [.u8]
  | .u16 => [.u16]
  | .u32 => [.u32]
  | .bytes length => [.raw length.toNat]
  | .sized => [.sized]
  | .ticket => [.u16, .u32, .sized]
  | .entry => [.sized, .u8, .sized]

def ofItems? : (target : Target) → List Item → Option target.Value
  | .u8, [.u8 v] => some v
  | .u16, [.u16 v] => some v
  | .u32, [.u32 v] => some v
  | .bytes _, [.raw data] => some data
  | .sized, [.sized data] => some data
  | .ticket, [.u16 tag, .u32 hierarchy, .sized digest] => some ⟨tag, hierarchy, digest⟩
  | .entry, [.sized nonceTpm, .u8 attributes, .sized hmac] => some ⟨nonceTpm, attributes, hmac⟩
  | _, _ => none

theorem read_eq (target : Target) :
    target.read = readPieces target.shapes >>= fun items => demand (target.ofItems? items) := by
  cases target <;>
    simp only [read, shapes, readPieces, Shape.read, ofItems?, CreationTicket.read, ResponseAuth.read, bind_assoc,
      pure_bind] <;> simp [demand]

theorem breaks_of_error {target : Target} {reader later : Reader} {stop : Stop Fault}
    (failed : target.read reader = .error stop later) :
    ∃ fault, stop = .error fault ∧ Breaks target.shapes reader later fault := by
  have returned := target.decodes_read.returned reader
  rw [failed] at returned
  rw [read_eq] at failed
  obtain broken | ⟨items, between, -, missing⟩ := bind_eq_error_iff.mp failed
  · exact Wire.breaks_of_error broken
  · -- an absent value would be a crash, and no read crashes
    cases held : target.ofItems? items with
    | none =>
      rw [held] at missing
      cases missing
      exact returned.elim
    | some value =>
      rw [held] at missing
      cases missing

/-! ## One read after another -/

/-- The reader after reads of these targets, whatever became of each of them. -/
def play (targets : List Target) (reader : Reader) : Reader :=
  targets.foldl (fun reader target => after (target.read reader)) reader

/-- How a read goes on from where a reader stands in the data. -/
structure KeepsPlace (data : Bytes) (reader : Reader) (target : Target) : Prop where
  within : reader.Within data
  remaining : reader.remaining = data.length - reader.position
  forward : reader.position ≤ (after (target.read reader)).position
  bounded : (after (target.read reader)).position ≤ data.length
  /-- A value is read from the bytes that stand for it, just behind those that were taken before. -/
  consumed : ∀ value later, target.read reader = .ok value later → target.Admits value ∧
    data.take later.position = data.take reader.position ++ target.encode value
  /-- A read that fails has taken the fields in front of the one that failed, and what that one took. -/
  failed : ∀ stop later, target.read reader = .error stop later →
    ∃ fault, stop = .error fault ∧ Breaks target.shapes reader later fault
  /-- So what is no structure has taken nothing then, or the two bytes of a size. -/
  single : ∀ shape stop later, target.shapes = [shape] → target.read reader = .error stop later →
    later = reader ∨ shape = .sized ∧ later.position = reader.position + 2

theorem within_after {data : Bytes} {reader : Reader} (within : reader.Within data) (target : Target) :
    (after (target.read reader)).Within data ∧ reader.position ≤ (after (target.read reader)).position := by
  cases ran : target.read reader with
  | ok value later =>
    obtain ⟨form, -, out⟩ := target.decodes_read.handsOut ran
    have moved := out.moved
    exact ⟨within.handsOut out, by rw [after_ok]; omega⟩
  | error stop later =>
    obtain ⟨fault, -, breaks⟩ := breaks_of_error ran
    exact breaks.within within

theorem keepsPlace_of_within {data : Bytes} {reader : Reader} (within : reader.Within data) (target : Target) :
    KeepsPlace data reader target where
  within := within
  remaining := within.remaining_eq
  forward := (within_after within target).2
  bounded := (within_after within target).1.bounded
  consumed := by
    intro value later ran
    obtain ⟨form, ⟨admits, written⟩, out⟩ := target.decodes_read.handsOut ran
    rw [← written]
    exact ⟨admits, within.take_eq out⟩
  failed := by
    intro stop later ran
    exact breaks_of_error ran
  single := by
    intro shape stop later alone ran
    obtain ⟨fault, -, breaks⟩ := breaks_of_error ran
    rw [alone] at breaks
    obtain untouched | ⟨sized, size, taken⟩ := breaks.fails.handsOut
    · exact .inl untouched
    · exact .inr ⟨sized, taken.moved⟩

theorem within_play {data : Bytes} {reader : Reader} (within : reader.Within data) (targets : List Target) :
    (play targets reader).Within data := by
  induction targets generalizing reader with
  | nil => exact within
  | cons target targets ih => exact ih (within_after within target).1

/-! ## With positions of 64 bits -/

/-- The read of a target with a cursor. -/
def readOn (target : Target) : Act Fault Cursor target.Value := do
  let items ← Cursor.readPieces target.shapes
  demand (target.ofItems? items)

def playOn (targets : List Target) (cursor : Cursor) : Cursor :=
  targets.foldl (fun cursor target => after (target.readOn cursor)) cursor

theorem counted_shapes (target : Target) : Counted target.shapes := by
  intro shape member
  cases target with
  | bytes length =>
    rw [List.mem_singleton.mp member]
    exact length.toNat_lt
  | _ =>
    revert shape
    decide

theorem mirrors_readOn {data : Bytes} (small : data.length < UInt64.size) (target : Target) :
    MirrorsOn (Cursor.Stands data) Cursor.view target.readOn target.read := by
  rw [read_eq]
  exact mirrorsOn_bind (Cursor.mirrors_readPieces small target.counted_shapes) fun _ => mirrorsOn_demand _

theorem playOn_spec {data : Bytes} (small : data.length < UInt64.size) (targets : List Target) {cursor : Cursor}
    (stands : cursor.Stands data) :
    (playOn targets cursor).view = play targets cursor.view ∧ (playOn targets cursor).Stands data := by
  induction targets generalizing cursor with
  | nil => exact ⟨rfl, stands⟩
  | cons target targets ih =>
    obtain ⟨same, kept⟩ := mirrors_readOn small target cursor stands
    have goes_on : (playOn targets (after (target.readOn cursor))).view =
        play targets (after (target.read cursor.view)) := by
      rw [same, after_seen]
      exact (ih kept).1
    exact ⟨goes_on, (ih kept).2⟩

/-- Whatever was read before and failed before: a reader stands in the data with all of the data behind its
position still to come, the next read takes it forward and not out of the data, a value that it gives stands
in the bytes that were taken for it, and a failure takes the fields before the missing one and at most the size of
that one.  With positions of 64 bits, the same is read and neither a sum nor an index goes wrong. -/
theorem reads_keep_place :
    (∀ (data : Bytes) (targets : List Target) (target : Target),
      KeepsPlace data (play targets (.ofBytes data)) target) ∧
    ∀ (data : Bytes) (targets : List Target) (target : Target), data.length < UInt64.size →
      let cursor := playOn targets ⟨data, 0⟩
      cursor.view = play targets (.ofBytes data) ∧
        target.read cursor.view = seen Cursor.view (target.readOn cursor) ∧
          Returned (target.readOn cursor) := by
  constructor
  · intro data targets target
    exact keepsPlace_of_within (within_play (Reader.within_ofBytes data) targets) target
  · intro data targets target small cursor
    have start : Cursor.Stands data ⟨data, 0⟩ := ⟨rfl, Nat.zero_le _⟩
    obtain ⟨same, stands⟩ := playOn_spec small targets start
    have mirrors := (mirrors_readOn small target cursor stands).1
    refine ⟨same, mirrors, ?_⟩
    have returned := target.decodes_read.returned cursor.view
    rw [mirrors] at returned
    exact returned_seen.mp returned

/-- A ticket whose digest is cut off. -/
def cutTicket : Bytes := [0x80, 0x24, 0, 0, 0, 7, 0, 5, 1, 2]

/-- A length that no data has, the ticket, a number that is too long for what is left, and one that is not. -/
def cutReads : List Target := [.bytes 18446744073709551615, .ticket, .u32, .u8]

theorem reads_keep_place_cut :
    cutTicket.length < UInt64.size ∧ KeepsPlace cutTicket ⟨9, [2]⟩ .sized ∧
      (playOn cutReads ⟨cutTicket, 0⟩).view = ⟨9, [2]⟩ ∧
        Returned (readOn .sized (playOn cutReads ⟨cutTicket, 0⟩)) := by
  have small : cutTicket.length < UInt64.size := by decide
  have played : play cutReads (.ofBytes cutTicket) = ⟨9, [2]⟩ := by decide
  have keeps := reads_keep_place.1 cutTicket cutReads .sized
  have checked := reads_keep_place.2 cutTicket cutReads .sized small
  rw [played] at keeps checked
  exact ⟨small, keeps, checked.1, checked.2.2⟩

end Target
end Tpm
end TrustAnchor
