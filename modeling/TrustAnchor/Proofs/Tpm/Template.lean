import TrustAnchor.Tpm.Template
import TrustAnchor.Proofs.Wire.Layout

/-!
Which templates have the same bytes.

Nothing in a public area says whether its scheme has a hash: the two bytes of the hash stand between the
scheme and the unique field, or they do not.  So the size of one unique field can stand where the hash of
another template stands, and then the two have the same bytes.  `encode_eq_iff` says that this is the only
way in which they can: up to the scheme the templates agree in any case, and if both have a hash or neither
has one, they are the same template.
-/

namespace TrustAnchor

/-- What is read has one beginning: forms that stand in front of the same bytes are the same form of the same
value. -/
theorem Wire.Decodes.append_inj {α : Type} {read : Read α} {layout : α → Bytes → Prop}
    (h : Decodes read layout) {a b : α} {form form' rest rest' : Bytes} (first : layout a form)
    (second : layout b form') (same : form ++ rest = form' ++ rest') :
    a = b ∧ form = form' ∧ rest = rest' := by
  have ran := h.complete first rest 0
  have ran' := h.complete second rest' 0
  rw [same, ran'] at ran
  injection ran with values readers
  injection readers with _ rests
  rw [← rests] at same
  exact ⟨values.symm, List.append_cancel_right same, rests.symm⟩

namespace Tpm

open Wire

namespace Template

/-- The two strings fit behind their sizes. -/
def Fits (template : Template) : Prop :=
  template.authPolicy.length ≤ 65535 ∧ template.unique.length ≤ 65535

/-- What stands behind the scheme. -/
def tail (template : Template) : Bytes :=
  (match template.parameters.hash with
    | some hash => Bytes.ofU16 hash.code
    | none => []) ++ Wire.sized template.unique

/-- The templates agree in everything that stands in front of the hash. -/
structure SameFront (first second : Template) : Prop where
  type : first.type = second.type
  nameAlgorithm : first.nameAlgorithm = second.nameAlgorithm
  attributes : first.attributes = second.attributes
  authPolicy : first.authPolicy = second.authPolicy
  scheme : first.parameters.scheme = second.parameters.scheme

/-- The first template has no hash, and its unique field is the unique field of the second one behind its
size.  Its own size is the code of the hash of the second one. -/
structure MistakenFor (bare hashed : Template) : Prop where
  front : SameFront bare hashed
  absent : bare.parameters.hash = none
  present : ∃ hash, hashed.parameters.hash = some hash ∧ hash.code.toNat = bare.unique.length
  unique : bare.unique = Wire.sized hashed.unique

theorem encode_eq (template : Template) :
    template.encode =
      Bytes.ofU16 template.type.code ++ (Bytes.ofU16 template.nameAlgorithm.code ++
        (Bytes.ofU32 template.attributes ++ (Wire.sized template.authPolicy ++
          (Bytes.ofU16 template.parameters.scheme.code ++ template.tail)))) := by
  cases hash : template.parameters.hash <;>
    simp only [encode, KeyedHashScheme.encode, tail, hash, List.append_assoc, List.nil_append]

/-- Up to the hash, the bytes say what the template is. -/
theorem encode_eq_iff_tail {first second : Template} (fits : first.Fits) (fits' : second.Fits) :
    first.encode = second.encode ↔ first.SameFront second ∧ first.tail = second.tail := by
  constructor
  · intro same
    rw [encode_eq, encode_eq] at same
    obtain ⟨type, -, same⟩ := Reader.decodes_u16.append_inj rfl rfl same
    obtain ⟨name, -, same⟩ := Reader.decodes_u16.append_inj rfl rfl same
    obtain ⟨attributes, -, same⟩ := Reader.decodes_u32.append_inj rfl rfl same
    have policy_fits : first.authPolicy.length < 65536 := by have := fits.1; omega
    have policy_fits' : second.authPolicy.length < 65536 := by have := fits'.1; omega
    obtain ⟨policy, -, same⟩ :=
      Reader.decodes_sized.append_inj ⟨policy_fits, rfl⟩ ⟨policy_fits', rfl⟩ same
    obtain ⟨scheme, -, same⟩ := Reader.decodes_u16.append_inj rfl rfl same
    exact ⟨⟨Algorithm.code_injective type, Algorithm.code_injective name, attributes, policy,
      Algorithm.code_injective scheme⟩, same⟩
  · intro h
    obtain ⟨front, same⟩ := h
    rw [encode_eq, encode_eq, front.type, front.nameAlgorithm, front.attributes, front.authPolicy,
      front.scheme, same]

theorem SameFront.symm {first second : Template} (front : first.SameFront second) :
    second.SameFront first :=
  ⟨front.type.symm, front.nameAlgorithm.symm, front.attributes.symm, front.authPolicy.symm,
    front.scheme.symm⟩

theorem SameFront.eq {first second : Template} (front : first.SameFront second)
    (hash : first.parameters.hash = second.parameters.hash) (unique : first.unique = second.unique) :
    first = second := by
  obtain ⟨type, name, attributes, policy, scheme⟩ := front
  obtain ⟨_, _, _, _, ⟨_, _⟩, _⟩ := first
  obtain ⟨_, _, _, _, ⟨_, _⟩, _⟩ := second
  simp only at type name attributes policy scheme hash unique
  rw [type, name, attributes, policy, scheme, hash, unique]

theorem unique_eq_of_sized {first second : Template} (fits : first.Fits) (fits' : second.Fits)
    (same : Wire.sized first.unique = Wire.sized second.unique) : first.unique = second.unique := by
  have unique_fits : first.unique.length < 65536 := by have := fits.2; omega
  have unique_fits' : second.unique.length < 65536 := by have := fits'.2; omega
  have ended : Wire.sized first.unique ++ [] = Wire.sized second.unique ++ [] := by rw [same]
  exact (Reader.decodes_sized.append_inj ⟨unique_fits, rfl⟩ ⟨unique_fits', rfl⟩ ended).1

/-- A size is taken for a hash where it has the same two bytes. -/
theorem tail_eq_iff_of_bare {bare hashed : Template} {hash : Algorithm} (fits : bare.Fits)
    (absent : bare.parameters.hash = none) (present : hashed.parameters.hash = some hash) :
    bare.tail = hashed.tail ↔
      hash.code.toNat = bare.unique.length ∧ bare.unique = Wire.sized hashed.unique := by
  have size : (UInt16.ofNat bare.unique.length).toNat = bare.unique.length := by
    have room := fits.2
    exact UInt16.toNat_ofNat_of_lt' (by omega : bare.unique.length < 65536)
  have bare_tail : bare.tail = Bytes.ofU16 (UInt16.ofNat bare.unique.length) ++ bare.unique := by
    rw [tail, absent]
    rfl
  have hashed_tail : hashed.tail = Bytes.ofU16 hash.code ++ Wire.sized hashed.unique := by
    rw [tail, present]
  rw [bare_tail, hashed_tail]
  constructor
  · intro same
    obtain ⟨code, -, unique⟩ := Reader.decodes_u16.append_inj rfl rfl same
    rw [← code]
    exact ⟨size, unique⟩
  · intro h
    obtain ⟨code, unique⟩ := h
    have code_eq : UInt16.ofNat bare.unique.length = hash.code := by
      rw [← code, UInt16.ofNat_toNat]
    rw [code_eq, ← unique]

theorem MistakenFor.encode_eq {bare hashed : Template} (fits : bare.Fits) (fits' : hashed.Fits)
    (mistaken : bare.MistakenFor hashed) : bare.encode = hashed.encode := by
  obtain ⟨front, absent, ⟨hash, present, code⟩, unique⟩ := mistaken
  exact (encode_eq_iff_tail fits fits').mpr
    ⟨front, (tail_eq_iff_of_bare fits absent present).mpr ⟨code, unique⟩⟩

/-- Two templates have the same bytes exactly if they are the same, or if one of them can be mistaken for the
other.  In any case they agree in all that stands in front of the hash; and if both have a hash or neither
has one, the same bytes mean the same template. -/
theorem encode_eq_iff {first second : Template} (fits : first.Fits) (fits' : second.Fits) :
    (first.encode = second.encode ↔
      first = second ∨ first.MistakenFor second ∨ second.MistakenFor first) ∧
    (first.encode = second.encode → first.SameFront second ∧
      (first.parameters.hash.isSome = second.parameters.hash.isSome → first = second)) := by
  have cases_of_same : first.encode = second.encode →
      first = second ∨ first.MistakenFor second ∨ second.MistakenFor first := by
    intro same
    obtain ⟨front, tails⟩ := (encode_eq_iff_tail fits fits').mp same
    cases hash : first.parameters.hash with
    | none =>
      cases hash' : second.parameters.hash with
      | none =>
        have uniques : Wire.sized first.unique = Wire.sized second.unique := by
          simpa only [tail, hash, hash', List.nil_append] using tails
        exact .inl (front.eq (hash.trans hash'.symm) (unique_eq_of_sized fits fits' uniques))
      | some code =>
        obtain ⟨size, unique⟩ := (tail_eq_iff_of_bare fits hash hash').mp tails
        exact .inr (.inl ⟨front, hash, ⟨code, hash', size⟩, unique⟩)
    | some code =>
      cases hash' : second.parameters.hash with
      | none =>
        obtain ⟨size, unique⟩ := (tail_eq_iff_of_bare fits' hash' hash).mp tails.symm
        exact .inr (.inr ⟨front.symm, hash', ⟨code, hash, size⟩, unique⟩)
      | some code' =>
        have split : Bytes.ofU16 code.code ++ Wire.sized first.unique =
            Bytes.ofU16 code'.code ++ Wire.sized second.unique := by
          simpa only [tail, hash, hash'] using tails
        obtain ⟨codes, -, uniques⟩ := Reader.decodes_u16.append_inj rfl rfl split
        have hashes : first.parameters.hash = second.parameters.hash := by
          rw [hash, hash', Algorithm.code_injective codes]
        exact .inl (front.eq hashes (unique_eq_of_sized fits fits' uniques))
  refine ⟨⟨cases_of_same, ?_⟩, ?_⟩
  · intro h
    rcases h with same | mistaken | mistaken
    · rw [same]
    · exact mistaken.encode_eq fits fits'
    · exact (mistaken.encode_eq fits' fits).symm
  · intro same
    refine ⟨((encode_eq_iff_tail fits fits').mp same).1, ?_⟩
    intro alike
    rcases cases_of_same same with equal | mistaken | mistaken
    · exact equal
    · obtain ⟨hash, present, -⟩ := mistaken.present
      rw [mistaken.absent, present] at alike
      cases alike
    · obtain ⟨hash, present, -⟩ := mistaken.present
      rw [mistaken.absent, present] at alike
      cases alike

/-- An HMAC-SHA256 key with nine bytes of its own. -/
def labelled : Template := { hmacKey with unique := [1, 2, 3, 4, 5, 6, 7, 8, 9] }

/-- The size of its unique field is the code of SHA-256. -/
def unhashed : Template :=
  { hmacKey with parameters := ⟨.hmac, none⟩, unique := [0, 9, 1, 2, 3, 4, 5, 6, 7, 8, 9] }

theorem encode_eq_iff_unhashed :
    unhashed.Fits ∧ labelled.Fits ∧ unhashed.MistakenFor labelled ∧
      unhashed.encode = labelled.encode := by
  have fits : unhashed.Fits := ⟨by decide, by decide⟩
  have fits' : labelled.Fits := ⟨by decide, by decide⟩
  have mistaken : unhashed.MistakenFor labelled :=
    ⟨⟨rfl, rfl, rfl, rfl, rfl⟩, rfl, ⟨.sha256, rfl, rfl⟩, by decide⟩
  exact ⟨fits, fits', mistaken, (encode_eq_iff fits fits').1.mpr (.inr (.inl mistaken))⟩

/-- Two templates with the same bytes need not be the same. -/
theorem encode_not_injective :
    ¬ ∀ first second : Template, first.Fits → second.Fits → first.encode = second.encode →
      first = second := by
  intro injective
  have equal : unhashed = labelled :=
    injective unhashed labelled ⟨by decide, by decide⟩ ⟨by decide, by decide⟩ (by decide)
  exact absurd equal (by decide)

end Template

end Tpm
end TrustAnchor
