/-!
Lists that are known to be put together from parts: what the parts are, and what is kept of the list by a test
that one part passes and the next one does not.  A part may be optional, and then nothing has to be shown of
it if it is missing.
-/

namespace TrustAnchor

variable {α : Type}

theorem forall_mem_none (p : α → Prop) : ∀ a ∈ (none : Option α), p a :=
  fun a member => absurd member (Option.not_mem_none a)

/-- A split of a list with one element takes this element out. -/
theorem split_single {only middle : α} {before after : List α}
    (split : [only] = before ++ middle :: after) : before = [] ∧ middle = only ∧ after = [] := by
  cases before with
  | nil =>
    cases split
    exact ⟨rfl, rfl, rfl⟩
  | cons head tail => cases tail <;> cases split

/-- A split of a list that ends in `last` either takes the end off or splits what is in front of it. -/
theorem split_snoc {list before after : List α} {last middle : α}
    (h : list ++ [last] = before ++ middle :: after) :
    (after = [] ∧ before = list ∧ middle = last) ∨
      ∃ rest, after = rest ++ [last] ∧ list = before ++ middle :: rest := by
  rcases List.eq_nil_or_concat after with rfl | ⟨rest, e, rfl⟩
  · obtain ⟨hlist, hlast⟩ := List.append_inj' h rfl
    exact Or.inl ⟨rfl, hlist.symm, (List.singleton_inj.mp hlast).symm⟩
  · rw [List.concat_eq_append, ← List.cons_append, ← List.append_assoc] at h
    obtain ⟨hlist, hlast⟩ := List.append_inj' h rfl
    rw [List.concat_eq_append, List.singleton_inj.mp hlast]
    exact Or.inr ⟨rest, rfl, hlist⟩

section Test

variable {p : α → Bool} {front rest : List α}

theorem takeWhile_of_split (front_ok : ∀ a ∈ front, p a = true) (rest_ok : ∀ a ∈ rest.head?, p a = false) :
    (front ++ rest).takeWhile p = front := by
  rw [List.takeWhile_append_of_pos front_ok]
  cases rest with
  | nil => simp
  | cons a rest =>
    have stop := rest_ok a rfl
    rw [List.takeWhile_cons_of_neg (by simp [stop]), List.append_nil]

theorem dropWhile_of_split (front_ok : ∀ a ∈ front, p a = true) (rest_ok : ∀ a ∈ rest.head?, p a = false) :
    (front ++ rest).dropWhile p = rest := by
  rw [List.dropWhile_append_of_pos front_ok]
  cases rest with
  | nil => rfl
  | cons a rest =>
    have stop := rest_ok a rfl
    rw [List.dropWhile_cons_of_neg (by simp [stop])]

end Test

/-- Without the separators between them, parts that have none are put together again. -/
theorem filter_intercalate [DecidableEq α] {separator : α} {parts : List (List α)}
    (clean : separator ∉ parts.flatten) :
    ([separator].intercalate parts).filter (· ≠ separator) = parts.flatten := by
  induction parts with
  | nil => rfl
  | cons part parts ih =>
    rw [List.flatten_cons, List.mem_append, not_or] at clean
    have kept : part.filter (· ≠ separator) = part := by
      rw [List.filter_eq_self]
      intro a member
      have other : a ≠ separator := by
        intro same
        rw [same] at member
        exact clean.1 member
      simpa using other
    have others := ih clean.2
    cases parts with
    | nil =>
      rw [List.intercalate_singleton, kept]
      simp
    | cons next parts =>
      have no_separator : [separator].filter (· ≠ separator) = [] := by simp
      rw [List.intercalate_cons_cons, List.filter_append, List.filter_append, kept, no_separator, others,
        List.append_nil]
      rfl

end TrustAnchor
