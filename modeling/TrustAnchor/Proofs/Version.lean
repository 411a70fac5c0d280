import TrustAnchor.Proofs.Blank
import TrustAnchor.Proofs.Lists
import TrustAnchor.Version

/-!
Versions read from texts.

`Outlines` says by rules alone what the parts of a text are: the white space at its two ends is taken off, then
the note on the release or the build, and what is left are the parts with points between them.  A text has
exactly one such list.  `Reads` says which version a list of parts stands for, and `parse?` gives it
(`parse?_eq_some_iff`).  The main result is `display_read_back`: whatever white space stands around a version
and whatever stands behind its third number, the version is read back; and reading fails exactly if one of the
first two parts is missing or is no number of 32 bits.
-/

namespace TrustAnchor

/-! ## Decimal numbers -/

namespace Decimal

/-- One or more digits are the decimal form of a number; zeros may stand in front. -/
structure Spells (text : List Char) (n : Nat) : Prop where
  nonempty : text ≠ []
  digits : ∀ c ∈ text, c.isDigit = true
  value : Nat.ofDigitChars 10 text 0 = n

theorem digitValue?_of_isDigit {c : Char} (digit : c.isDigit = true) :
    digitValue? c = some (c.toNat - '0'.toNat) :=
  if_pos (Char.isDigit_iff_toNat.mp digit)

theorem digitValue?_of_not_isDigit {c : Char} (other : ¬ c.isDigit = true) : digitValue? c = none :=
  if_neg fun bounds => other (Char.isDigit_iff_toNat.mpr bounds)

/-- Digits only make a number larger. -/
theorem le_ofDigitChars (acc : Nat) (text : List Char) : acc ≤ Nat.ofDigitChars 10 text acc := by
  induction text generalizing acc with
  | nil => exact Nat.le_refl acc
  | cons c rest ih =>
    rw [Nat.ofDigitChars_cons]
    have more := ih (10 * acc + (c.toNat - '0'.toNat))
    omega

/-- Giving up at the first digit that takes the number to the limit loses no number below the limit, because
the digits behind it make it larger still. -/
theorem valueFrom_eq_some_iff {limit acc n : Nat} {text : List Char} (start : acc < limit) :
    valueFrom limit acc text = some n ↔
      (∀ c ∈ text, c.isDigit = true) ∧ Nat.ofDigitChars 10 text acc = n ∧ n < limit := by
  induction text generalizing acc with
  | nil =>
    rw [valueFrom, Nat.ofDigitChars_nil]
    constructor
    · intro read
      cases read
      exact ⟨by simp, rfl, start⟩
    · intro spelled
      rw [spelled.2.1]
  | cons c rest ih =>
    by_cases digit : c.isDigit = true
    · have grown := le_ofDigitChars (10 * acc + (c.toNat - '0'.toNat)) rest
      simp only [valueFrom, digitValue?_of_isDigit digit, Nat.ofDigitChars_cons, List.forall_mem_cons, digit,
        true_and, Nat.mul_comm acc 10]
      by_cases below : 10 * acc + (c.toNat - '0'.toNat) < limit
      · rw [if_pos below]
        exact ih below
      · rw [if_neg below]
        constructor
        · intro read
          cases read
        · intro spelled
          omega
    · simp only [valueFrom, digitValue?_of_not_isDigit digit, List.forall_mem_cons, digit]
      simp

theorem below?_eq_some_iff {limit n : Nat} {text : List Char} (positive : 0 < limit) :
    below? limit text = some n ↔ Spells text n ∧ n < limit := by
  cases text with
  | nil =>
    constructor
    · intro read
      cases read
    · intro spelled
      exact absurd rfl spelled.1.nonempty
  | cons c rest =>
    show valueFrom limit 0 (c :: rest) = some n ↔ _
    rw [valueFrom_eq_some_iff positive]
    constructor
    · intro read
      exact ⟨⟨List.cons_ne_nil c rest, read.1, read.2.1⟩, read.2.2⟩
    · intro spelled
      exact ⟨spelled.1.digits, spelled.1.value, spelled.2⟩

theorem u32?_eq_some_iff {text : List Char} {v : UInt32} : u32? text = some v ↔ Spells text v.toNat := by
  have positive : 0 < 4294967296 := by decide
  rw [u32?, Option.map_eq_some_iff]
  constructor
  · intro read
    obtain ⟨n, below, same⟩ := read
    obtain ⟨spelled, room⟩ := (below?_eq_some_iff positive).mp below
    have back : v.toNat = n := by
      rw [← same]
      exact UInt32.toNat_ofNat_of_lt' room
    rw [back]
    exact spelled
  · intro spelled
    exact ⟨v.toNat, (below?_eq_some_iff positive).mpr ⟨spelled, v.toNat_lt⟩, UInt32.ofNat_toNat⟩

theorem u32?_eq_none_iff {text : List Char} : u32? text = none ↔ ∀ v : UInt32, ¬ Spells text v.toNat := by
  rw [Option.eq_none_iff_forall_ne_some]
  constructor
  · intro unread v spelled
    exact unread v (u32?_eq_some_iff.mpr spelled)
  · intro unspelled v read
    exact unspelled v (u32?_eq_some_iff.mp read)

theorem isDigit_of_mem_toDigits {n : Nat} {c : Char} (member : c ∈ Nat.toDigits 10 n) : c.isDigit = true :=
  Nat.isDigit_of_mem_toDigits (by decide) (by decide) member

theorem spells_toDigits (n : Nat) : Spells (Nat.toDigits 10 n) n where
  nonempty := Nat.toDigits_ne_nil
  digits _ member := isDigit_of_mem_toDigits member
  value := Nat.ofDigitChars_ten_toDigits

end Decimal

/-! ## The parts of a text -/

/-- `front` is what stands before the first sign that begins a note. -/
structure Cuts (core front : List Char) : Prop where
  clean : ∀ c ∈ front, c ≠ '-' ∧ c ≠ '+'
  note : ∃ note, core = front ++ note ∧ ∀ c ∈ note.head?, c = '-' ∨ c = '+'

/-- `parts` stand in a text with points between them. -/
structure Splits (front : List Char) (parts : List (List Char)) : Prop where
  nonempty : parts ≠ []
  clean : ∀ part ∈ parts, '.' ∉ part
  joined : ['.'].intercalate parts = front

namespace Version

theorem startsNote_eq_false_iff {c : Char} : startsNote c = false ↔ c ≠ '-' ∧ c ≠ '+' := by
  simp [startsNote]

theorem startsNote_iff {c : Char} : startsNote c = true ↔ c = '-' ∨ c = '+' := by
  simp [startsNote]

theorem cuts_iff {core front : List Char} :
    Cuts core front ↔ front = core.takeWhile fun c => !startsNote c := by
  constructor
  · intro cuts
    obtain ⟨note, split, sign⟩ := cuts.note
    rw [split]
    refine (takeWhile_of_split ?_ ?_).symm
    · intro c member
      rw [startsNote_eq_false_iff.mpr (cuts.clean c member)]
      rfl
    · intro c is_first
      rw [startsNote_iff.mpr (sign c is_first)]
      rfl
  · intro same
    have whole := List.takeWhile_append_dropWhile (p := fun c => !startsNote c) (l := core)
    rw [same]
    refine ⟨?_, core.dropWhile fun c => !startsNote c, whole.symm, ?_⟩
    · intro c member
      have kept := List.mem_takeWhile_imp member
      rw [Bool.not_eq_true'] at kept
      exact startsNote_eq_false_iff.mp kept
    · intro c is_first
      have stop := List.head?_dropWhile_not (fun c => !startsNote c) core
      rw [is_first] at stop
      exact startsNote_iff.mp (by simpa using stop)

theorem components_eq_splitOn (text : List Char) : components text = text.splitOn '.' := by
  induction text with
  | nil => rfl
  | cons c rest ih =>
    rw [components, List.splitOn_cons_eq_if_modifyHead, ih]
    by_cases point : c = '.'
    · simp [point]
    · simp only [point, if_false, beq_iff_eq]
      cases split : List.splitOn '.' rest with
      | nil => exact absurd split (List.splitOn_ne_nil _ _)
      | cons first others => rfl

theorem clean_components (text : List Char) : ∀ part ∈ components text, '.' ∉ part := by
  induction text with
  | nil => simp [components]
  | cons c rest ih =>
    rw [components]
    by_cases point : c = '.'
    · rw [if_pos point, List.forall_mem_cons]
      exact ⟨by simp, ih⟩
    · rw [if_neg point]
      have other : '.' ≠ c := fun same => point same.symm
      cases split : components rest with
      | nil => simpa using other
      | cons first others =>
        rw [split, List.forall_mem_cons] at ih
        rw [List.forall_mem_cons]
        exact ⟨by simp [other, ih.1], ih.2⟩

theorem splits_iff {front : List Char} {parts : List (List Char)} :
    Splits front parts ↔ parts = components front := by
  rw [components_eq_splitOn]
  constructor
  · intro splits
    rw [← splits.joined, List.splitOn_intercalate '.' splits.clean splits.nonempty]
  · intro same
    rw [same]
    refine ⟨List.splitOn_ne_nil _ _, ?_, List.intercalate_splitOn '.'⟩
    rw [← components_eq_splitOn]
    exact clean_components front

/-- The parts of a text: without white space at the ends and without a note, with points between them. -/
def Outlines (text : String) (parts : List (List Char)) : Prop :=
  ∃ core front, Trims text.toList core ∧ Cuts core front ∧ Splits front parts

theorem outlines_iff {text : String} {parts : List (List Char)} :
    Outlines text parts ↔ parts = components ((trim text.toList).takeWhile fun c => !startsNote c) := by
  constructor
  · intro outlined
    obtain ⟨core, front, trims, cuts, splits⟩ := outlined
    rw [splits_iff.mp splits, cuts_iff.mp cuts, trims_iff.mp trims]
  · intro same
    exact ⟨_, _, trims_iff.mpr rfl, cuts_iff.mpr rfl, splits_iff.mpr same⟩

/-! ## The version that parts stand for -/

/-- The third number: what a third part spells, and zero if there is none or it spells no number that fits. -/
def ThirdIs (patch : UInt32) : Option (List Char) → Prop
  | none => patch = 0
  | some part => Decimal.Spells part patch.toNat ∨
    patch = 0 ∧ ∀ n : UInt32, ¬ Decimal.Spells part n.toNat

/-- Parts behind the third one have no part in it. -/
structure Reads (parts : List (List Char)) (version : Version) : Prop where
  major : ∃ part, parts[0]? = some part ∧ Decimal.Spells part version.major.toNat
  minor : ∃ part, parts[1]? = some part ∧ Decimal.Spells part version.minor.toNat
  patch : ThirdIs version.patch parts[2]?

theorem thirdIs_iff {patch : UInt32} {part : Option (List Char)} :
    ThirdIs patch part ↔ (part.bind Decimal.u32?).getD 0 = patch := by
  cases part with
  | none => exact eq_comm
  | some part =>
    rw [ThirdIs, ← Decimal.u32?_eq_some_iff, ← Decimal.u32?_eq_none_iff]
    cases read : Decimal.u32? part with
    | none => simp [read, eq_comm]
    | some n => simp [read]

theorem parse?_eq_some_iff {text : String} {parts : List (List Char)} {version : Version}
    (outlined : Outlines text parts) : parse? text = some version ↔ Reads parts version := by
  rw [parse?, ← outlines_iff.mp outlined]
  match parts with
  | [] =>
    constructor
    · intro read
      cases read
    · intro reads
      obtain ⟨_, missing, -⟩ := reads.major
      cases missing
  | [_] =>
    constructor
    · intro read
      cases read
    · intro reads
      obtain ⟨_, missing, -⟩ := reads.minor
      cases missing
  | major :: minor :: others =>
    have third : (major :: minor :: others)[2]? = others.head? := by
      rw [List.head?_eq_getElem?]
      rfl
    constructor
    · intro read
      obtain ⟨first, first_read, read⟩ := Option.bind_eq_some_iff.mp read
      obtain ⟨second, second_read, read⟩ := Option.bind_eq_some_iff.mp read
      cases read
      refine ⟨⟨major, rfl, Decimal.u32?_eq_some_iff.mp first_read⟩,
        ⟨minor, rfl, Decimal.u32?_eq_some_iff.mp second_read⟩, ?_⟩
      rw [third]
      exact thirdIs_iff.mpr rfl
    · intro reads
      obtain ⟨part, there, first⟩ := reads.major
      obtain ⟨part', there', second⟩ := reads.minor
      have same : major = part := Option.some.inj there
      have same' : minor = part' := Option.some.inj there'
      rw [← same] at first
      rw [← same'] at second
      have patch := reads.patch
      rw [third] at patch
      simp only [Decimal.u32?_eq_some_iff.mpr first, Decimal.u32?_eq_some_iff.mpr second,
        thirdIs_iff.mp patch]
      rfl

/-- Reading fails if one of the first two parts is missing or is no number of 32 bits, and for no other
reason. -/
theorem parse?_eq_none_iff {text : String} {parts : List (List Char)} (outlined : Outlines text parts) :
    parse? text = none ↔
      ∃ i < 2, ∀ part, parts[i]? = some part → ∀ n : UInt32, ¬ Decimal.Spells part n.toNat := by
  constructor
  · intro unread
    by_contra readable
    push Not at readable
    obtain ⟨major, major_there, first, first_spelled⟩ := readable 0 (by decide)
    obtain ⟨minor, minor_there, second, second_spelled⟩ := readable 1 (by decide)
    have reads : Reads parts ⟨first, second, _⟩ :=
      ⟨⟨major, major_there, first_spelled⟩, ⟨minor, minor_there, second_spelled⟩, thirdIs_iff.mpr rfl⟩
    have read := (parse?_eq_some_iff outlined).mpr reads
    rw [unread] at read
    cases read
  · intro unreadable
    obtain ⟨i, first_two, unspelled⟩ := unreadable
    cases read : parse? text with
    | none => rfl
    | some version =>
      have reads := (parse?_eq_some_iff outlined).mp read
      obtain ⟨major, major_there, first_spelled⟩ := reads.major
      obtain ⟨minor, minor_there, second_spelled⟩ := reads.minor
      match i, first_two with
      | 0, _ => exact absurd first_spelled (unspelled major major_there _)
      | 1, _ => exact absurd second_spelled (unspelled minor minor_there _)

/-! ## Versions that were written -/

/-- The written form of a version as characters. -/
theorem toList_toText (version : Version) :
    version.toText.toList = Nat.toDigits 10 version.major.toNat ++ '.' ::
      (Nat.toDigits 10 version.minor.toNat ++ '.' :: Nat.toDigits 10 version.patch.toNat) := by
  have point : (toString ".").toList = ['.'] := rfl
  simp [toText, String.toList_append, point]

/-- A sign that may stand behind the third number: more parts or a note begin with it. -/
def IsMark (c : Char) : Prop := c = '.' ∨ c = '-' ∨ c = '+'

theorem isBlank_of_isDigit {c : Char} (digit : c.isDigit = true) : isBlank c = false := by
  have low : 48 ≤ c.toNat := (Char.isDigit_iff_toNat.mp digit).1
  have high : c.toNat ≤ 57 := (Char.isDigit_iff_toNat.mp digit).2
  simp [isBlank, blankCodePoints]
  omega

theorem not_isMark_of_isDigit {c : Char} (digit : c.isDigit = true) : ¬ IsMark c := by
  intro mark
  obtain rfl | rfl | rfl := mark <;> cases digit

theorem isBlank_of_isMark {c : Char} (mark : IsMark c) : isBlank c = false := by
  obtain rfl | rfl | rfl := mark <;> decide

theorem point_not_mem_toDigits (n : Nat) : '.' ∉ Nat.toDigits 10 n := fun member =>
  not_isMark_of_isDigit (Decimal.isDigit_of_mem_toDigits member) (.inl rfl)

theorem components_append_point {front : List Char} (clean : '.' ∉ front) (rest : List Char) :
    components (front ++ '.' :: rest) = front :: components rest := by
  rw [components_eq_splitOn, components_eq_splitOn, List.splitOn_append_cons_self_of_not_mem clean]

/-- What stands in front of the first point is the first part, also if there is no point. -/
theorem first_component {front rest : List Char} (clean : '.' ∉ front)
    (points : ∀ c, rest.head? = some c → c = '.') :
    ∃ others, components (front ++ rest) = front :: others := by
  cases rest with
  | nil =>
    refine ⟨[], ?_⟩
    rw [List.append_nil, components_eq_splitOn, List.splitOn_eq_singleton clean]
  | cons c rest =>
    rw [points c rfl]
    exact ⟨_, components_append_point clean rest⟩

theorem mem_toText {version : Version} {c : Char} (member : c ∈ version.toText.toList) :
    c.isDigit = true ∨ c = '.' := by
  rw [toList_toText] at member
  simp only [List.mem_append, List.mem_cons] at member
  obtain digit | point | digit | point | digit := member
  · exact .inl (Decimal.isDigit_of_mem_toDigits digit)
  · exact .inr point
  · exact .inl (Decimal.isDigit_of_mem_toDigits digit)
  · exact .inr point
  · exact .inl (Decimal.isDigit_of_mem_toDigits digit)

theorem isBlank_of_mem_toText {version : Version} {c : Char} (member : c ∈ version.toText.toList) :
    isBlank c = false := by
  obtain digit | point := mem_toText member
  · exact isBlank_of_isDigit digit
  · exact isBlank_of_isMark (.inl point)

theorem startsNote_of_mem_toText {version : Version} {c : Char} (member : c ∈ version.toText.toList) :
    startsNote c = false := by
  obtain digit | point := mem_toText member
  · have other := not_isMark_of_isDigit digit
    refine startsNote_eq_false_iff.mpr ⟨?_, ?_⟩
    · intro dash
      exact other (.inr (.inl dash))
    · intro plus
      exact other (.inr (.inr plus))
  · rw [point]
    rfl

theorem toList_toText_ne_nil (version : Version) : version.toText.toList ≠ [] := by
  rw [toList_toText]
  simp

/-- What is left of a tail when the white space behind it is taken off. -/
def trimmedTail (tail behind : List Char) : List Char := (tail ++ behind).rdropWhile isBlank

theorem trimmedTail_append (tail behind : List Char) :
    trimmedTail tail behind ++ (tail ++ behind).rtakeWhile isBlank = tail ++ behind :=
  List.rdropWhile_append_rtakeWhile

/-- It begins as the tail does, because the tail does not begin with white space. -/
theorem isMark_of_first {tail behind : List Char} (marked : ∀ c ∈ tail.head?, IsMark c)
    (blank : Blank behind) {c : Char} (is_first : (trimmedTail tail behind).head? = some c) :
    IsMark c := by
  cases tail with
  | nil =>
    have gone : trimmedTail [] behind = [] := List.rdropWhile_eq_nil_iff.mpr blank
    rw [gone] at is_first
    cases is_first
  | cons mark rest =>
    have same : (mark :: rest ++ behind).head? = some c := by
      rw [← trimmedTail_append, List.head?_append, is_first]
      rfl
    cases same
    exact marked c rfl

theorem trims_decorated (version : Version) {before behind tail : List Char} (before_blank : Blank before) :
    Trims (before ++ version.toText.toList ++ tail ++ behind)
      (version.toText.toList ++ trimmedTail tail behind) := by
  refine ⟨⟨before, (tail ++ behind).rtakeWhile isBlank, before_blank, ?_, ?_⟩, ?_, ?_⟩
  · intro c member
    exact List.mem_rtakeWhile_imp member
  · simp only [List.append_assoc, trimmedTail_append]
  · intro c is_first
    rw [List.head?_append_of_ne_nil _ (toList_toText_ne_nil version)] at is_first
    exact isBlank_of_mem_toText (List.mem_of_mem_head? is_first)
  · intro c is_last
    rw [List.getLast?_append] at is_last
    cases last : (trimmedTail tail behind).getLast? with
    | none =>
      rw [last] at is_last
      exact isBlank_of_mem_toText (List.mem_of_mem_getLast? is_last)
    | some d =>
      rw [last] at is_last
      cases is_last
      exact isBlank_of_last last

/-- White space around a written version and a tail behind it leave its three numbers in front of the parts. -/
theorem outlines_decorated (version : Version) {before behind tail : String}
    (before_blank : Blank before.toList) (behind_blank : Blank behind.toList)
    (marked : ∀ c ∈ tail.toList.head?, IsMark c) :
    ∃ others, Outlines (before ++ version.toText ++ tail ++ behind)
      (Nat.toDigits 10 version.major.toNat :: Nat.toDigits 10 version.minor.toNat ::
        Nat.toDigits 10 version.patch.toNat :: others) := by
  let core := version.toText.toList ++ trimmedTail tail.toList behind.toList
  let rest := (trimmedTail tail.toList behind.toList).takeWhile fun c => !startsNote c
  have trims : Trims (before ++ version.toText ++ tail ++ behind).toList core := by
    rw [String.toList_append, String.toList_append, String.toList_append]
    exact trims_decorated version before_blank
  have front : core.takeWhile (fun c => !startsNote c) = version.toText.toList ++ rest := by
    refine List.takeWhile_append_of_pos ?_
    intro c member
    rw [startsNote_of_mem_toText member]
    rfl
  -- the tail was cut at its first sign of a note, so that only a point can be left in front of it
  have points : ∀ c, rest.head? = some c → c = '.' := by
    intro c is_first
    rw [List.head?_takeWhile, Option.filter_eq_some_iff] at is_first
    have no_sign := startsNote_eq_false_iff.mp (by simpa using is_first.2)
    obtain point | dash | plus := isMark_of_first marked behind_blank is_first.1
    · exact point
    · exact absurd dash no_sign.1
    · exact absurd plus no_sign.2
  obtain ⟨others, third⟩ := first_component (point_not_mem_toDigits version.patch.toNat) points
  refine ⟨others, core, version.toText.toList ++ rest, trims, cuts_iff.mpr front.symm, ?_⟩
  rw [splits_iff, toList_toText, List.append_assoc, List.cons_append, List.append_assoc, List.cons_append,
    components_append_point (point_not_mem_toDigits _), components_append_point (point_not_mem_toDigits _),
    third]

/-- Reading a version undoes writing it, with any white space around it and with any tail behind its third
number that is more parts or a note.  Every text has one list of parts; it is refused if and only if one of the
first two is missing or is no decimal number of 32 bits, and else the version is the one that the parts stand
for. -/
theorem display_read_back :
    (∀ (version : Version) (before behind tail : String), Blank before.toList → Blank behind.toList →
      (∀ c ∈ tail.toList.head?, IsMark c) →
        parse? (before ++ version.toText ++ tail ++ behind) = some version) ∧
    ∀ text : String, ∃ parts, Outlines text parts ∧ (∀ other, Outlines text other → other = parts) ∧
      (parse? text = none ↔
        ∃ i < 2, ∀ part, parts[i]? = some part → ∀ n : UInt32, ¬ Decimal.Spells part n.toNat) ∧
      ∀ version, parse? text = some version ↔ Reads parts version := by
  constructor
  · intro version before behind tail before_blank behind_blank marked
    obtain ⟨others, outlined⟩ := outlines_decorated version before_blank behind_blank marked
    refine (parse?_eq_some_iff outlined).mpr ⟨⟨_, rfl, ?_⟩, ⟨_, rfl, ?_⟩, .inl ?_⟩
    · exact Decimal.spells_toDigits _
    · exact Decimal.spells_toDigits _
    · exact Decimal.spells_toDigits _
  · intro text
    have outlined : Outlines text _ := outlines_iff.mpr rfl
    exact ⟨_, outlined, fun other outlined' => outlines_iff.mp outlined', parse?_eq_none_iff outlined,
      fun version => parse?_eq_some_iff outlined⟩

/-- White space of two kinds in front, a tail with every sign that may begin one, and the largest third
number. -/
theorem display_read_back_noted :
    let before := "\t \u3000"
    let version : Version := ⟨0, 10, 4294967295⟩
    let tail := ".7-rc.1+b "
    let behind := "\u00a0\n"
    Blank before.toList ∧ Blank behind.toList ∧ (∀ c ∈ tail.toList.head?, IsMark c) ∧
      version.toText = "0.10.4294967295" ∧
        parse? (before ++ version.toText ++ tail ++ behind) = some version := by
  intro before version tail behind
  have before_blank : Blank before.toList := by decide +kernel
  have behind_blank : Blank behind.toList := by decide +kernel
  have marked : ∀ c ∈ tail.toList.head?, IsMark c := by
    have first : tail.toList.head? = some '.' := by decide
    intro c is_first
    rw [first] at is_first
    cases is_first
    exact .inl rfl
  exact ⟨before_blank, behind_blank, marked, by decide,
    display_read_back.1 version before behind tail before_blank behind_blank marked⟩

end Version
end TrustAnchor
