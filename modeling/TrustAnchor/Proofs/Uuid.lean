import TrustAnchor.Proofs.Lists
import TrustAnchor.Proofs.Text
import TrustAnchor.Uuid

/-!
The text of an identifier.

An identifier is made of identity bytes, a version and a variant, and written as groups of digits.  Seen from the
digits, the version is a digit of its own and the variant takes the place of two bits of another one
(`encode_ofRaw`); all others are those of the identity bytes.  `Spelled` says it of the whole text.
-/

namespace TrustAnchor

namespace Uuid

/-! ## Writing -/

def hexDigits : List Char :=
  ['0', '1', '2', '3', '4', '5', '6', '7', '8', '9', 'a', 'b', 'c', 'd', 'e', 'f']

/-- Thirty-two digits with the version in place of one of them, and with the variant in place of the two high
bits of another. -/
def stamped (digits : List Char) : List Char :=
  let v := hexDigits.idxOf (digits.getD 16 '0')
  (digits.set 12 '4').set 16 (hexDigits.getD (8 + v % 4) '0')

/-- The text of the identifier that these digits give: groups of digits with dashes between them. -/
structure Spelled (digits : List Char) (text : String) : Prop where
  shape : ∃ groups : List (List Char), groups.map List.length = [8, 4, 4, 4, 12] ∧
    '-' ∉ groups.flatten ∧ text.toList = ['-'].intercalate groups
  digits_eq : text.toList.filter (· ≠ '-') = stamped digits

/-- The characters with these codes. -/
def characters (bytes : Bytes) : List Char := bytes.map fun b => Char.ofNat b.toNat

theorem characters_injective {first second : Bytes} (same : characters first = characters second) :
    first = second := by
  have code : ∀ b : UInt8, (Char.ofNat b.toNat).toNat = b.toNat := forall_byte (by decide +kernel)
  refine (List.map_inj_right fun b c equal => ?_).mp same
  rw [← UInt8.toNat_inj, ← code b, ← code c, equal]

theorem version_digits : ∀ b : UInt8,
    ((b &&& 0x0F) ||| 0x40).toNat / 16 = 4 ∧ ((b &&& 0x0F) ||| 0x40).toNat % 16 = b.toNat % 16 :=
  forall_byte (by decide +kernel)

theorem variant_digits : ∀ b : UInt8,
    ((b &&& 0x3F) ||| 0x80).toNat / 16 = 8 + b.toNat / 16 % 4 ∧
      ((b &&& 0x3F) ||| 0x80).toNat % 16 = b.toNat % 16 :=
  forall_byte (by decide +kernel)

theorem character_digit {n : Nat} (h : n < 16) :
    Char.ofNat (Hex.digit n).toNat = hexDigits.getD n '0' ∧
      hexDigits.idxOf (hexDigits.getD n '0') = n ∧ hexDigits.getD n '0' ≠ '-' := by
  have all : ∀ m : Fin 16, Char.ofNat (Hex.digit m.val).toNat = hexDigits.getD m.val '0' ∧
      hexDigits.idxOf (hexDigits.getD m.val '0') = m.val ∧ hexDigits.getD m.val '0' ≠ '-' := by
    decide +kernel
  exact all ⟨n, h⟩

/-- The version and the variant change one digit each. -/
theorem encode_ofRaw (raw : RawIdentity) :
    Hex.encode (ofRaw raw).bytes.toList =
      ((Hex.encode raw.toList).set 12 (Hex.digit 4)).set 16 (Hex.digit (8 + raw[8].toNat / 16 % 4)) := by
  have width : raw.toList.length = 16 := raw.length_toList
  have version := version_digits raw[6]
  have variant := variant_digits raw[8]
  -- the second change is made to the changed bytes, but not to the byte that the first one changed
  have at_6 : raw.toList[6] = raw[6] := Vector.getElem_toList _
  have inside : 8 < (raw.toList.set 6 ((raw[6] &&& 0x0F) ||| 0x40)).length := by
    rw [List.length_set]
    omega
  have at_8 : (raw.toList.set 6 ((raw[6] &&& 0x0F) ||| 0x40))[8] = raw[8] := by
    rw [List.getElem_set_ne (by decide)]
    exact Vector.getElem_toList _
  show Hex.encode ((raw.set 6 _).set 8 _).toList = _
  rw [Vector.toList_set, Vector.toList_set, Hex.encode_set inside, variant.1, Hex.encode_set (by omega),
    version.1]
  · rw [at_6]
    exact version.2
  · rw [at_8]
    exact variant.2

theorem characters_ofRaw (raw : RawIdentity) :
    characters (Hex.encode (ofRaw raw).bytes.toList) = stamped (characters (Hex.encode raw.toList)) := by
  have room := raw[8].toNat_lt
  have old := character_digit (show raw[8].toNat / 16 < 16 by omega)
  have new := character_digit (show 8 + raw[8].toNat / 16 % 4 < 16 by omega)
  -- the value of the old digit is the high half of byte 8
  have at_16 : (characters (Hex.encode raw.toList)).getD 16 '0' = hexDigits.getD (raw[8].toNat / 16) '0' := by
    have at_8 : raw.toList[8]? = some raw[8] := by
      rw [Vector.getElem?_toList]
      exact Vector.getElem?_eq_getElem _
    have digit := Hex.getElem?_encode raw.toList 8
    rw [at_8] at digit
    rw [← old.1, List.getD_eq_getElem?_getD, characters, List.getElem?_map, digit]
    rfl
  rw [encode_ofRaw, stamped, at_16, old.2.1, ← new.1]
  simp only [characters, List.map_set]
  rfl

/-! ## Groups -/

/-- The digits in the groups of an identifier. -/
def groups (digits : Bytes) : List Bytes :=
  [(digits.drop 0).take 8, (digits.drop 8).take 4, (digits.drop 12).take 4, (digits.drop 16).take 4,
    (digits.drop 20).take 12]

theorem flatten_groups {digits : Bytes} (width : digits.length = 32) : (groups digits).flatten = digits := by
  have cut : ∀ lo n, (digits.drop lo).take n ++ digits.drop (lo + n) = digits.drop lo := by
    intro lo n
    rw [← List.drop_drop]
    exact List.take_append_drop n _
  -- the last group takes all that is left
  have last : (digits.drop 20).take 12 = digits.drop 20 :=
    List.take_of_length_le (by rw [List.length_drop]; omega)
  have fourth : (digits.drop 16).take 4 ++ digits.drop 20 = digits.drop 16 := cut 16 4
  have third : (digits.drop 12).take 4 ++ digits.drop 16 = digits.drop 12 := cut 12 4
  have second : (digits.drop 8).take 4 ++ digits.drop 12 = digits.drop 8 := cut 8 4
  have first : (digits.drop 0).take 8 ++ digits.drop 8 = digits := cut 0 8
  simp only [groups, List.flatten_cons, List.flatten_nil, List.append_nil]
  rw [last, fourth, third, second, first]

theorem length_groups {digits : Bytes} (width : digits.length = 32) :
    (groups digits).map List.length = [8, 4, 4, 4, 12] := by
  simp only [groups, List.map_cons, List.map_nil, List.length_take, List.length_drop, width]
  rfl

theorem toList_toText (uuid : Uuid) :
    uuid.toText.toList = ['-'].intercalate ((groups (Hex.encode uuid.bytes.toList)).map characters) := by
  rw [toText, String.toList_intercalate]
  simp only [Hex.text, List.map_cons, List.map_nil, String.toList_ofList]
  rfl

theorem dash_not_mem_characters (bytes : Bytes) : '-' ∉ characters (Hex.encode bytes) := by
  induction bytes with
  | nil => nofun
  | cons b bytes ih =>
    have room := b.toNat_lt
    have high := character_digit (show b.toNat / 16 < 16 by omega)
    have low := character_digit (show b.toNat % 16 < 16 by omega)
    intro member
    rw [Hex.encode_cons, characters, List.map_cons, List.map_cons, List.mem_cons, List.mem_cons, high.1, low.1]
      at member
    rcases member with same | same | member
    · exact high.2.2 same.symm
    · exact low.2.2 same.symm
    · exact ih member

theorem spelled_toText (raw : RawIdentity) :
    Spelled (characters (Hex.encode raw.toList)) (ofRaw raw).toText := by
  let digits := Hex.encode (ofRaw raw).bytes.toList
  have width : digits.length = 32 := by
    rw [Hex.length_encode, Vector.length_toList, uuidLength]
  have whole : ((groups digits).map characters).flatten = characters digits := by
    rw [characters, ← flatten_groups width, List.map_flatten, flatten_groups width]
    rfl
  have clean : '-' ∉ ((groups digits).map characters).flatten := by
    rw [whole]
    exact dash_not_mem_characters _
  refine ⟨⟨(groups digits).map characters, ?_, clean, toList_toText _⟩, ?_⟩
  · rw [← length_groups width, List.map_map]
    refine List.map_congr_left fun group _ => ?_
    exact List.length_map _
  · rw [toList_toText, filter_intercalate clean, whole]
    exact characters_ofRaw raw

end Uuid
end TrustAnchor
