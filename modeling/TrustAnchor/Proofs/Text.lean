import TrustAnchor.Text.Hex
import TrustAnchor.Text.Utf8

/-!
Texts seen as bytes.

UTF-8 can be cut behind ASCII: where ASCII bytes at the beginning of a text end, a character begins
(`starts_behind_ascii`).  Hexadecimal digits are read in either case, and what is read are the bytes whose
digits are those of the text in lower case (`decode_ok_iff`).
-/

namespace TrustAnchor

/-- There are few enough bytes to look at each of them. -/
theorem forall_byte {P : UInt8 → Prop} (all : ∀ n : Fin 256, P (UInt8.ofNat n.val)) (b : UInt8) : P b := by
  have this := all ⟨b.toNat, b.toNat_lt⟩
  rw [UInt8.ofNat_toNat] at this
  exact this

namespace Utf8

/-! ## UTF-8 -/

theorem toList_loop (array : ByteArray) (i : Nat) (front : List UInt8) :
    ByteArray.toList.loop array i front = front.reverse ++ array.data.toList.drop i := by
  fun_induction ByteArray.toList.loop array i front with
  | case1 i front inside ih =>
    have inside' : i < array.data.toList.length := by simpa using inside
    rw [ih, List.drop_eq_getElem_cons inside']
    simp [ByteArray.get!, inside]
  | case2 i front outside =>
    rw [List.drop_eq_nil_of_le (by simpa using outside), List.append_nil]

theorem encode_ofList (chars : List Char) :
    encode (String.ofList chars) = chars.flatMap String.utf8EncodeChar := by
  rw [encode, String.toUTF8, String.toByteArray_ofList, ByteArray.toList, toList_loop]
  exact List.toList_data_toByteArray

theorem decode?_isSome_iff {bytes : Bytes} :
    (decode? bytes).isSome ↔ ∃ text : String, bytes = encode text := by
  have valid_iff : (decode? bytes).isSome ↔ ByteArray.IsValidUTF8 ⟨bytes.toArray⟩ := by
    unfold decode? String.fromUTF8?
    by_cases valid : ByteArray.IsValidUTF8 ⟨bytes.toArray⟩
    · simp [valid]
    · simp [valid]
  rw [valid_iff]
  constructor
  · intro valid
    cases valid with
    | intro chars same =>
      have data : bytes = chars.utf8Encode.data.toList := by rw [← same]
      refine ⟨String.ofList chars, ?_⟩
      rw [encode_ofList, data]
      exact List.toList_data_toByteArray
  · intro h
    rcases h with ⟨text, same⟩
    rw [← String.ofList_toList (s := text), encode_ofList] at same
    refine .intro text.toList (ByteArray.ext ?_)
    rw [same]
    exact List.data_toByteArray.symm

theorem isContinuation_iff {b : UInt8} : isContinuation b = true ↔ 128 ≤ b.toNat ∧ b.toNat < 192 := by
  unfold isContinuation
  simp [UInt8.le_iff_toNat_le, UInt8.lt_iff_toNat_lt]

/-- A character is one ASCII byte, or it begins with a byte that is none and no continuation either. -/
theorem first_byte (c : Char) : ∃ b others, String.utf8EncodeChar c = b :: others ∧
    (b.toNat < 128 ∧ others = [] ∨ 192 ≤ b.toNat) := by
  unfold String.utf8EncodeChar
  dsimp only
  by_cases one : c.val.toNat ≤ 127
  · rw [if_pos one]
    refine ⟨_, _, rfl, .inl ⟨?_, rfl⟩⟩
    rw [UInt8.toNat_ofNat_of_lt' (by rw [UInt8.size]; omega)]
    omega
  · rw [if_neg one]
    by_cases two : c.val.toNat ≤ 2047
    · rw [if_pos two]
      refine ⟨_, _, rfl, .inr ?_⟩
      rw [UInt8.toNat_ofNat_of_lt' (by rw [UInt8.size]; omega)]
      omega
    · rw [if_neg two]
      by_cases three : c.val.toNat ≤ 65535
      · rw [if_pos three]
        refine ⟨_, _, rfl, .inr ?_⟩
        rw [UInt8.toNat_ofNat_of_lt' (by rw [UInt8.size]; omega)]
        omega
      · rw [if_neg three]
        refine ⟨_, _, rfl, .inr ?_⟩
        rw [UInt8.toNat_ofNat_of_lt' (by rw [UInt8.size]; omega)]
        omega

theorem starts_text (chars : List Char) :
    (chars.flatMap String.utf8EncodeChar).head?.any isContinuation = false := by
  cases chars with
  | nil => rfl
  | cons c chars =>
    rcases first_byte c with ⟨b, others, encoded, kind⟩
    rw [List.flatMap_cons, encoded]
    show isContinuation b = false
    rw [Bool.eq_false_iff, Ne, isContinuation_iff]
    omega

/-- Behind ASCII bytes at the beginning of a text no character goes on. -/
theorem starts_behind_ascii {front back : Bytes} {chars : List Char} (ascii : ∀ b ∈ front, b.toNat < 128)
    (split : chars.flatMap String.utf8EncodeChar = front ++ back) :
    back.head?.any isContinuation = false := by
  -- each ASCII byte takes a character off the text, and what is left is a text again
  induction front generalizing chars with
  | nil =>
    rw [List.nil_append] at split
    rw [← split]
    exact starts_text chars
  | cons a front ih =>
    cases chars with
    | nil => cases split
    | cons c chars =>
      rcases first_byte c with ⟨b, others, encoded, kind⟩
      rw [List.flatMap_cons, encoded, List.cons_append, List.cons_append] at split
      injection split with same rest
      have low := ascii a List.mem_cons_self
      rcases kind with ⟨-, alone⟩ | high
      · rw [alone, List.nil_append] at rest
        exact ih (fun b member => ascii b (.tail a member)) rest
      · rw [same] at high
        omega

end Utf8

namespace Hex

/-! ## Hexadecimal digits -/

/-- A decimal digit, or a letter from A to F in either case. -/
def IsDigit (b : UInt8) : Prop :=
  48 ≤ b.toNat ∧ b.toNat ≤ 57 ∨ 65 ≤ b.toNat ∧ b.toNat ≤ 70 ∨ 97 ≤ b.toNat ∧ b.toNat ≤ 102

/-- A letter of ASCII in lower case. -/
def lower (b : UInt8) : UInt8 := if 65 ≤ b.toNat ∧ b.toNat ≤ 90 then b + 32 else b

instance : DecidablePred IsDigit := fun _ => inferInstanceAs (Decidable (_ ∨ _))

theorem isDigit_iff : ∀ b : UInt8, IsDigit b ↔ (digitValue? b).isSome = true :=
  forall_byte (by decide +kernel)

/-- Reading is for either case; writing is in lower case. -/
theorem digitValue?_eq_some_iff {b : UInt8} {v : Nat} :
    digitValue? b = some v ↔ v < 16 ∧ lower b = digit v := by
  have either_case : ∀ b, digitValue? (lower b) = digitValue? b := forall_byte (by decide +kernel)
  have written : ∀ b, ∀ v ∈ digitValue? b, v < 16 ∧ lower b = digit v := forall_byte (by decide +kernel)
  constructor
  · exact written b v
  · intro h
    rw [← either_case, h.2]
    exact digitValue?_digit h.1

theorem encode_cons (b : UInt8) (bytes : Bytes) :
    encode (b :: bytes) = digit (b.toNat / 16) :: digit (b.toNat % 16) :: encode bytes := rfl

theorem decodeFrom_cons_ok_iff {start : Nat} {high low : UInt8} {rest bytes : Bytes} :
    decodeFrom start (high :: low :: rest) = .ok bytes ↔
      ∃ x y others, digitValue? high = some x ∧ digitValue? low = some y ∧
        decodeFrom (start + 2) rest = .ok others ∧ bytes = UInt8.ofNat (x * 16 + y) :: others := by
  rw [decodeFrom]
  cases high_value : digitValue? high with
  | none => simp
  | some x =>
    cases low_value : digitValue? low with
    | none => simp
    | some y =>
      cases read : decodeFrom (start + 2) rest with
      | error bad => simp [Except.map]
      | ok others => simp [Except.map, eq_comm]

/-- A text of pairs is read if and only if there is nothing but digits in it.  The recursion is that of the
reader. -/
theorem decodeFrom_reads_iff (start : Nat) : (text : Bytes) → text.length % 2 = 0 →
    ((∃ bytes, decodeFrom start text = .ok bytes) ↔ ∀ b ∈ text, IsDigit b)
  | [], _ => ⟨fun _ => nofun, fun _ => ⟨[], rfl⟩⟩
  | [_], odd => nomatch odd
  | high :: low :: rest, pairs => by
    have rest_pairs : rest.length % 2 = 0 := by
      simp only [List.length_cons] at pairs
      omega
    have others := decodeFrom_reads_iff (start + 2) rest rest_pairs
    rw [List.forall_mem_cons, List.forall_mem_cons, isDigit_iff, isDigit_iff, ← others]
    constructor
    · intro h
      rcases h with ⟨bytes, read⟩
      rcases decodeFrom_cons_ok_iff.mp read with ⟨x, y, front, high_value, low_value, read, -⟩
      rw [high_value, low_value]
      exact ⟨rfl, rfl, front, read⟩
    · intro h
      rcases h with ⟨high_digit, low_digit, front, read⟩
      rcases Option.isSome_iff_exists.mp high_digit with ⟨x, high_value⟩
      rcases Option.isSome_iff_exists.mp low_digit with ⟨y, low_value⟩
      exact ⟨_, decodeFrom_cons_ok_iff.mpr ⟨x, y, front, high_value, low_value, read, rfl⟩⟩

/-- A text of pairs of digits is read as the bytes that are written as this text in lower case. -/
theorem decodeFrom_ok_iff (start : Nat) : (text bytes : Bytes) → text.length % 2 = 0 →
    (decodeFrom start text = .ok bytes ↔ text.map lower = encode bytes)
  | [], [], _ => ⟨fun _ => rfl, fun _ => rfl⟩
  | [], _ :: _, _ => ⟨nofun, nofun⟩
  | [_], _, odd => nomatch odd
  | high :: low :: rest, bytes, pairs => by
    have rest_pairs : rest.length % 2 = 0 := by
      simp only [List.length_cons] at pairs
      omega
    have others := fun bytes => decodeFrom_ok_iff (start + 2) rest bytes rest_pairs
    rw [decodeFrom_cons_ok_iff, List.map_cons, List.map_cons]
    constructor
    · intro h
      rcases h with ⟨x, y, back, high_value, low_value, read, rfl⟩
      have high' := digitValue?_eq_some_iff.mp high_value
      have low' := digitValue?_eq_some_iff.mp low_value
      have value : (UInt8.ofNat (x * 16 + y)).toNat = x * 16 + y :=
        UInt8.toNat_ofNat_of_lt' (by rw [UInt8.size]; omega)
      have high_digit : (x * 16 + y) / 16 = x := by omega
      have low_digit : (x * 16 + y) % 16 = y := by omega
      rw [encode_cons, value, high_digit, low_digit, high'.2, low'.2, (others back).mp read]
    · intro same
      cases bytes with
      | nil => cases same
      | cons b back =>
        rw [encode_cons] at same
        injection same with high_eq same
        injection same with low_eq rest_eq
        have room := b.toNat_lt
        have value : UInt8.ofNat (b.toNat / 16 * 16 + b.toNat % 16) = b := by
          rw [Nat.div_add_mod', UInt8.ofNat_toNat]
        exact ⟨_, _, back, digitValue?_eq_some_iff.mpr ⟨by omega, high_eq⟩,
          digitValue?_eq_some_iff.mpr ⟨by omega, low_eq⟩, (others back).mpr rest_eq, by rw [value]⟩

theorem decode_reads_iff {text : Bytes} (pairs : text.length % 2 = 0) :
    (∃ bytes, decode text = .ok bytes) ↔ ∀ b ∈ text, IsDigit b := decodeFrom_reads_iff 0 text pairs

theorem decode_ok_iff {text bytes : Bytes} (pairs : text.length % 2 = 0) :
    decode text = .ok bytes ↔ text.map lower = encode bytes := decodeFrom_ok_iff 0 text bytes pairs

theorem encode_injective {first second : Bytes} (same : encode first = encode second) : first = second := by
  have read := decode_encode first
  rw [same, decode_encode] at read
  injection read with read
  exact read.symm

/-- Another byte with the same low digit is another high digit. -/
theorem encode_set {bytes : Bytes} {i : Nat} (inside : i < bytes.length) {b : UInt8}
    (low_kept : b.toNat % 16 = bytes[i].toNat % 16) :
    encode (bytes.set i b) = (encode bytes).set (2 * i) (digit (b.toNat / 16)) := by
  induction bytes generalizing i with
  | nil => cases inside
  | cons a bytes ih =>
    cases i with
    | zero =>
      rw [List.set_cons_zero, encode_cons, encode_cons, low_kept]
      rfl
    | succ i =>
      rw [List.set_cons_succ, encode_cons, encode_cons, ih (Nat.lt_of_succ_lt_succ inside) low_kept]
      rfl

theorem getElem?_encode (bytes : Bytes) (i : Nat) :
    (encode bytes)[2 * i]? = bytes[i]?.map fun b => digit (b.toNat / 16) := by
  induction bytes generalizing i with
  | nil => rfl
  | cons a bytes ih =>
    cases i with
    | zero => rfl
    | succ i => exact ih i

end Hex
end TrustAnchor
