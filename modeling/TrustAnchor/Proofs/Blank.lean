import Mathlib.Data.List.DropRight
import TrustAnchor.Proofs.Lists
import TrustAnchor.Text.Blank

/-!
White space at the ends of a text.

`trim` gives the one part of a text that neither begins nor ends with white space while there is nothing else
around it (`trims_iff`).
-/

namespace TrustAnchor

/-- Nothing but white space. -/
def Blank (text : List Char) : Prop := ∀ c ∈ text, isBlank c = true

instance (text : List Char) : Decidable (Blank text) :=
  decidable_of_iff (text.all isBlank = true) List.all_eq_true

theorem blank_nil : Blank [] := List.forall_mem_nil _

theorem blank_append_iff {front back : List Char} : Blank (front ++ back) ↔ Blank front ∧ Blank back :=
  List.forall_mem_append

theorem blank_reverse_iff {text : List Char} : Blank text.reverse ↔ Blank text := by
  simp only [Blank, List.mem_reverse]

/-- `core` is a text without the white space at its two ends. -/
structure Trims (text core : List Char) : Prop where
  ends : ∃ before behind, Blank before ∧ Blank behind ∧ text = before ++ core ++ behind
  first : ∀ c ∈ core.head?, isBlank c = false
  last : ∀ c ∈ core.getLast?, isBlank c = false

theorem isBlank_of_last {text : List Char} {c : Char} (is_last : (text.rdropWhile isBlank).getLast? = some c) :
    isBlank c = false := by
  have stop := List.head?_dropWhile_not isBlank text.reverse
  rw [List.rdropWhile, List.getLast?_reverse] at is_last
  rw [is_last] at stop
  exact stop

theorem trims_iff {text core : List Char} : Trims text core ↔ core = trim text := by
  constructor
  · intro trims
    obtain ⟨before, behind, before_blank, behind_blank, split⟩ := trims.ends
    rw [split]
    cases core with
    | nil =>
      have blank : Blank (before ++ behind) := blank_append_iff.mpr ⟨before_blank, behind_blank⟩
      have gone : (before ++ behind).dropWhile isBlank = [] := List.dropWhile_eq_nil_iff.mpr blank
      rw [List.append_nil, trim, gone]
      rfl
    | cons c rest =>
      have first : (before ++ (c :: rest ++ behind)).dropWhile isBlank = c :: rest ++ behind :=
        dropWhile_of_split before_blank trims.first
      have last : ((c :: rest) ++ behind).reverse.dropWhile isBlank = (c :: rest).reverse := by
        rw [List.reverse_append]
        refine dropWhile_of_split (blank_reverse_iff.mpr behind_blank) ?_
        rw [List.head?_reverse]
        exact trims.last
      rw [trim, List.append_assoc, first, last, List.reverse_reverse]
  · intro same
    have whole : text.takeWhile isBlank ++ text.dropWhile isBlank = text := List.takeWhile_append_dropWhile
    have later : trim text ++ (text.dropWhile isBlank).rtakeWhile isBlank = text.dropWhile isBlank :=
      List.rdropWhile_append_rtakeWhile
    rw [same]
    refine ⟨⟨text.takeWhile isBlank, (text.dropWhile isBlank).rtakeWhile isBlank, ?_, ?_, ?_⟩, ?_, ?_⟩
    · intro c member
      exact List.mem_takeWhile_imp member
    · intro c member
      exact List.mem_rtakeWhile_imp member
    · rw [List.append_assoc, later, whole]
    · intro c is_first
      have stop := List.head?_dropWhile_not isBlank text
      have front : (text.dropWhile isBlank).head? = some c := by
        rw [← later, List.head?_append, is_first]
        rfl
      rw [front] at stop
      exact stop
    · intro c is_last
      exact isBlank_of_last is_last

theorem trim_eq_nil_iff {text : List Char} : trim text = [] ↔ Blank text := by
  constructor
  · intro empty
    obtain ⟨before, behind, before_blank, behind_blank, split⟩ := (trims_iff.mpr empty.symm).ends
    rw [split, List.append_nil]
    exact blank_append_iff.mpr ⟨before_blank, behind_blank⟩
  · intro blank
    have trims : Trims text [] := ⟨⟨text, [], blank, blank_nil, by simp⟩, nofun, nofun⟩
    exact (trims_iff.mp trims).symm

end TrustAnchor
