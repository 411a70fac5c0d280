import TrustAnchor.Wire.Reader
import TrustAnchor.Proofs.Action

/-!
What a read accepts.

A layout is a relation between values and their written forms.  `Decodes read layout` says that the read
accepts exactly these forms: it succeeds if and only if one of them stands in front, gives the value, uses
up the form and leaves what follows, and on any other input it reports that the bytes ran out.  Layouts
compose as reads do (`Decodes.bind`), so that the layout of a structure is put together from those of its
fields.
-/

namespace TrustAnchor

namespace Bytes

theorem ofU16_toU16 {bytes : Bytes} (h : bytes.length = 2) : ofU16 (toU16 bytes) = bytes := by
  match bytes, h with
  | [a, b], _ =>
    have ha := a.toNat_lt
    have hb := b.toNat_lt
    have value : (toU16 [a, b]).toNat = a.toNat * 256 + b.toNat := by
      simp [toU16, Bytes.value]
      omega
    rw [ofU16, value]
    congr 1
    · apply UInt8.toNat_inj.mp
      simp
      omega
    · congr 1
      apply UInt8.toNat_inj.mp
      simp

theorem ofU32_toU32 {bytes : Bytes} (h : bytes.length = 4) : ofU32 (toU32 bytes) = bytes := by
  match bytes, h with
  | [a, b, c, d], _ =>
    have ha := a.toNat_lt
    have hb := b.toNat_lt
    have hc := c.toNat_lt
    have hd := d.toNat_lt
    have value : (toU32 [a, b, c, d]).toNat =
        ((a.toNat * 256 + b.toNat) * 256 + c.toNat) * 256 + d.toNat := by
      simp [toU32, Bytes.value]
      omega
    rw [ofU32, value]
    congr 1
    · apply UInt8.toNat_inj.mp
      simp
      omega
    · congr 1
      · apply UInt8.toNat_inj.mp
        simp
        omega
      · congr 1
        · apply UInt8.toNat_inj.mp
          simp
          omega
        · congr 1
          apply UInt8.toNat_inj.mp
          simp

end Bytes

/-- Fewer bytes are left than a field has. -/
def Cause.IsUnderflow (cause : Cause) : Prop := ∃ field needed left, cause = .underflow field needed left

namespace Wire

open Act

/-- The read accepts the written forms in the layout and nothing else, and it never crashes. -/
structure Decodes {α : Type} (read : Read α) (layout : α → Bytes → Prop) : Prop where
  sound : ∀ {reader later : Reader} {a : α}, read reader = .ok a later →
    ∃ form, layout a form ∧ reader.rest = form ++ later.rest ∧
      later.position = reader.position + form.length
  complete : ∀ {a : α} {form : Bytes}, layout a form → ∀ (rest : Bytes) (position : Nat),
    read ⟨position, form ++ rest⟩ = .ok a ⟨position + form.length, rest⟩
  returned : ∀ reader : Reader, Returned (read reader)
  short : ∀ reader : Reader, Blames Cause.IsUnderflow (read reader)

namespace Decodes

variable {α β : Type} {read : Read α} {layout layout' : α → Bytes → Prop}

theorem congr (h : Decodes read layout) (same : ∀ a form, layout' a form ↔ layout a form) :
    Decodes read layout' where
  sound run := by
    obtain ⟨form, form_ok, parts⟩ := h.sound run
    exact ⟨form, (same _ _).mpr form_ok, parts⟩
  complete form_ok := h.complete ((same _ _).mp form_ok)
  returned := h.returned
  short := h.short

theorem pure (a : α) : Decodes (Pure.pure a) fun b form => b = a ∧ form = [] where
  sound := by
    rintro reader _ _ ⟨⟩
    exact ⟨[], ⟨rfl, rfl⟩, rfl, rfl⟩
  complete := by
    rintro _ _ ⟨rfl, rfl⟩ rest position
    rfl
  returned _ := trivial
  short _ := trivial

theorem bind {next : α → Read β} {then_ : α → β → Bytes → Prop} (first : Decodes read layout)
    (second : ∀ a, Decodes (next a) (then_ a)) :
    Decodes (read >>= next) fun b form =>
      ∃ a front back, layout a front ∧ then_ a b back ∧ form = front ++ back where
  sound := by
    intro reader later b run
    obtain ⟨a, between, run₁, run₂⟩ := bind_eq_ok_iff.mp run
    obtain ⟨front, front_ok, rest₁, position₁⟩ := first.sound run₁
    obtain ⟨back, back_ok, rest₂, position₂⟩ := (second a).sound run₂
    refine ⟨front ++ back, ⟨a, front, back, front_ok, back_ok, rfl⟩, ?_, ?_⟩
    · rw [rest₁, rest₂, List.append_assoc]
    · rw [position₂, position₁, List.length_append, Nat.add_assoc]
  complete := by
    rintro b _ ⟨a, front, back, front_ok, back_ok, rfl⟩ rest position
    rw [List.append_assoc, bind_ok (first.complete front_ok _ _), (second a).complete back_ok,
      List.length_append, Nat.add_assoc]
  returned reader := returned_bind (first.returned reader) fun a later _ => (second a).returned later
  short reader := blames_bind (first.short reader) fun a later _ => (second a).short later

/-- Reading from a string of its own succeeds exactly when a written form stands in front. -/
theorem within_ok_iff {σ : Type} (h : Decodes read layout) {data : Bytes} {a : α} {s t : σ} :
    read.within data s = .ok a t ↔ t = s ∧ ∃ form rest, layout a form ∧ data = form ++ rest := by
  unfold Read.within
  constructor
  · intro run
    cases ran : read (Reader.ofBytes data) with
    | ok b later =>
      rw [ran] at run
      cases run
      obtain ⟨form, form_ok, rest, -⟩ := h.sound ran
      exact ⟨rfl, form, later.rest, form_ok, rest⟩
    | error e later =>
      rw [ran] at run
      cases run
  · rintro ⟨rfl, form, rest, form_ok, rfl⟩
    simp only [Reader.ofBytes, h.complete form_ok]

end Decodes

theorem still_within {σ α : Type} (read : Read α) (data : Bytes) :
    Still (read.within data : Act Fault σ α) := by
  intro s
  unfold Read.within
  cases read (Reader.ofBytes data) <;> rfl

theorem returned_within {σ α : Type} {read : Read α}
    (h : ∀ reader, Returned (read reader)) (data : Bytes) (s : σ) : Returned (read.within data s) := by
  have start := h (Reader.ofBytes data)
  unfold Read.within
  cases ran : read (Reader.ofBytes data) with
  | ok a later => trivial
  | error e later =>
    rw [ran] at start
    cases e with
    | error f => trivial
    | crash => exact start

/-- What is read from a string does not depend on the state that the reading leaves alone. -/
theorem within_of_some {σ α : Type} {read : Read α} {data : Bytes} {a : α}
    (found : value? (read.within data) = some a) (s : σ) : read.within data s = .ok a s := by
  have ran := value?_eq_some_iff.mp found
  unfold Read.within at ran ⊢
  cases ended : read (Reader.ofBytes data) with
  | ok b later =>
    rw [ended] at ran
    cases ran
    rfl
  | error stop later =>
    rw [ended] at ran
    cases ran

theorem within_of_none {σ α : Type} {read : Read α} (returned : ∀ reader, Returned (read reader))
    {data : Bytes} (missing : value? (read.within data) = none) (s : σ) :
    ∃ fault, read.within data s = .error (.error fault) s := by
  have ended := returned (Reader.ofBytes data)
  unfold Read.within at missing ⊢
  cases ran : read (Reader.ofBytes data) with
  | ok a later =>
    simp only [ran] at missing
    cases missing
  | error stop later =>
    rw [ran] at ended
    cases stop with
    | error fault => exact ⟨fault, rfl⟩
    | crash => exact ended.elim

theorem blames_within {σ α : Type} {P : Cause → Prop} {read : Read α}
    (h : ∀ reader, Blames P (read reader)) (data : Bytes) (s : σ) : Blames P (read.within data s) := by
  have start := h (Reader.ofBytes data)
  unfold Read.within
  cases ran : read (Reader.ofBytes data) with
  | ok a later => trivial
  | error e later =>
    rw [ran] at start
    cases e with
    | error f => exact start
    | crash => trivial

/-! ## The layouts of the basic reads -/

namespace Reader

theorem decodes_take (n : Nat) (field : Field) :
    Decodes (take n field) fun a form => a.length = n ∧ form = a where
  sound := by
    intro reader later a run
    by_cases enough : n ≤ reader.remaining
    · rw [take_of_le enough] at run
      cases run
      have width : (reader.rest.take n).length = n := List.length_take_of_le enough
      exact ⟨_, ⟨width, rfl⟩, (List.take_append_drop n reader.rest).symm, by rw [width]⟩
    · rw [take_of_lt (Nat.not_le.mp enough)] at run
      cases run
  complete := by
    rintro a _ ⟨width, rfl⟩ rest position
    rw [take_append position width, width]
  returned reader := by
    by_cases enough : n ≤ reader.remaining
    · rw [take_of_le enough]
      trivial
    · rw [take_of_lt (Nat.not_le.mp enough)]
      trivial
  short reader := by
    by_cases enough : n ≤ reader.remaining
    · rw [take_of_le enough]
      trivial
    · rw [take_of_lt (Nat.not_le.mp enough)]
      exact ⟨field, n, reader.remaining, rfl⟩

theorem decodes_bytes (n : Nat) : Decodes (bytes n) fun a form => a.length = n ∧ form = a :=
  decodes_take n .bytes

theorem decodes_u8 : Decodes u8 fun v form => form = [v] where
  sound := by
    intro reader later v run
    obtain ⟨data, between, run₁, run₂⟩ := bind_eq_ok_iff.mp run
    obtain ⟨data, ⟨width, rfl⟩, rest, position⟩ := (decodes_take 1 .u8).sound run₁
    match data, width with
    | [_], _ =>
      cases run₂
      exact ⟨_, rfl, rest, position⟩
  complete := by
    rintro v _ rfl rest position
    exact u8_cons v rest position
  returned reader := by
    refine returned_bind ((decodes_take 1 .u8).returned reader) fun data later run => ?_
    obtain ⟨data, ⟨width, rfl⟩, -⟩ := (decodes_take 1 .u8).sound run
    match data, width with
    | [_], _ => trivial
  short reader :=
    blames_bind ((decodes_take 1 .u8).short reader) fun _ later _ => blames_demand _ later

theorem decodes_u16 : Decodes u16 fun v form => form = Bytes.ofU16 v := by
  refine ((decodes_take 2 .u16).bind fun data => Decodes.pure (Bytes.toU16 data)).congr ?_
  intro v form
  constructor
  · rintro rfl
    exact ⟨_, _, _, ⟨Bytes.length_ofU16 v, rfl⟩, ⟨(Bytes.toU16_ofU16 v).symm, rfl⟩,
      (List.append_nil _).symm⟩
  · rintro ⟨data, _, _, ⟨width, rfl⟩, ⟨rfl, rfl⟩, rfl⟩
    rw [List.append_nil, Bytes.ofU16_toU16 width]

theorem decodes_u32 : Decodes u32 fun v form => form = Bytes.ofU32 v := by
  refine ((decodes_take 4 .u32).bind fun data => Decodes.pure (Bytes.toU32 data)).congr ?_
  intro v form
  constructor
  · rintro rfl
    exact ⟨_, _, _, ⟨Bytes.length_ofU32 v, rfl⟩, ⟨(Bytes.toU32_ofU32 v).symm, rfl⟩,
      (List.append_nil _).symm⟩
  · rintro ⟨data, _, _, ⟨width, rfl⟩, ⟨rfl, rfl⟩, rfl⟩
    rw [List.append_nil, Bytes.ofU32_toU32 width]

/-- A sized string is read back only if its length fits in the size field. -/
theorem decodes_sized : Decodes sized fun a form => a.length < 65536 ∧ form = Wire.sized a := by
  refine (decodes_u16.bind fun size => decodes_bytes size.toNat).congr ?_
  intro a form
  constructor
  · rintro ⟨fits, rfl⟩
    exact ⟨UInt16.ofNat a.length, _, _, rfl, ⟨(UInt16.toNat_ofNat_of_lt' fits).symm, rfl⟩, rfl⟩
  · rintro ⟨size, _, _, rfl, ⟨width, rfl⟩, rfl⟩
    refine ⟨by rw [width]; exact size.toNat_lt, ?_⟩
    rw [Wire.sized, width, UInt16.ofNat_toNat]

theorem decodes_u32s (n : Nat) :
    Decodes (u32s n) fun vs form => vs.length = n ∧ form = vs.flatMap Bytes.ofU32 := by
  induction n with
  | zero =>
    refine (Decodes.pure []).congr fun vs form => ?_
    rw [List.length_eq_zero_iff]
    constructor
    · rintro ⟨rfl, rfl⟩
      exact ⟨rfl, rfl⟩
    · rintro ⟨rfl, rfl⟩
      exact ⟨rfl, rfl⟩
  | succ n ih =>
    refine (decodes_u32.bind fun first => ih.bind fun others => Decodes.pure (first :: others)).congr ?_
    intro vs form
    constructor
    · rintro ⟨width, rfl⟩
      match vs, width with
      | first :: others, width =>
        exact ⟨first, _, _, rfl, ⟨others, _, _, ⟨Nat.succ.inj width, rfl⟩, ⟨rfl, rfl⟩, rfl⟩,
          by rw [List.append_nil, List.flatMap_cons]⟩
    · rintro ⟨first, _, _, rfl, ⟨others, _, _, ⟨width, rfl⟩, ⟨rfl, rfl⟩, rfl⟩, rfl⟩
      exact ⟨by rw [List.length_cons, width], by rw [List.append_nil, List.flatMap_cons]⟩

end Reader
end Wire
end TrustAnchor
