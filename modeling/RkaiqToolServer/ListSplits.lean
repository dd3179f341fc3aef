import Mathlib.Tactic

/-!
# Splits and prefixes of a list

A statement about a place in a list, or about all the beginnings of it, is
reduced to the first element and the same statement about the rest.
-/

namespace ListSplits

variable {α : Type*} {first : α} {rest : List α}

/-- A beginning is empty or starts with the first element. -/
theorem exists_append_cons {P : List α → Prop} :
    (∃ before after, first :: rest = before ++ after ∧ P before) ↔
      P [] ∨ ∃ before after, rest = before ++ after ∧
        P (first :: before) := by
  constructor
  · rintro ⟨before, after, hsplit, hbefore⟩
    cases before with
    | nil => exact .inl hbefore
    | cons head before =>
        obtain ⟨rfl, hrest⟩ := List.cons_eq_cons.mp hsplit
        exact .inr ⟨before, after, hrest, hbefore⟩
  · rintro (hnil | ⟨before, after, rfl, hbefore⟩)
    · exact ⟨[], first :: rest, rfl, hnil⟩
    · exact ⟨first :: before, after, rfl, hbefore⟩

theorem exists_append_cons_cons {P : List α → α → Prop} :
    (∃ before element after, first :: rest = before ++ element :: after ∧
      P before element) ↔
      P [] first ∨ ∃ before element after,
        rest = before ++ element :: after ∧ P (first :: before) element := by
  constructor
  · rintro ⟨before, element, after, hsplit, hplace⟩
    cases before with
    | nil =>
        obtain ⟨rfl, -⟩ := List.cons_eq_cons.mp hsplit
        exact .inl hplace
    | cons head before =>
        obtain ⟨rfl, hrest⟩ := List.cons_eq_cons.mp hsplit
        exact .inr ⟨before, element, after, hrest, hplace⟩
  · rintro (hfirst | ⟨before, element, after, rfl, hplace⟩)
    · exact ⟨[], first, rest, rfl, hfirst⟩
    · exact ⟨first :: before, element, after, rfl, hplace⟩

theorem not_exists_append_nil {P : List α → α → Prop} :
    ¬ ∃ before element after, [] = before ++ element :: after ∧
      P before element := by
  rintro ⟨before, element, after, hsplit, -⟩
  simp at hsplit

theorem forall_prefix_cons {P : List α → Prop} :
    (∀ earlier, earlier <+: first :: rest → P earlier) ↔
      P [] ∧ ∀ earlier, earlier <+: rest → P (first :: earlier) := by
  constructor
  · intro hall
    exact ⟨hall [] List.nil_prefix, fun earlier hearlier =>
      hall _ (List.cons_prefix_cons.mpr ⟨rfl, hearlier⟩)⟩
  · rintro ⟨hnil, hcons⟩ earlier hearlier
    cases earlier with
    | nil => exact hnil
    | cons head earlier =>
        obtain ⟨rfl, hrest⟩ := List.cons_prefix_cons.mp hearlier
        exact hcons earlier hrest

end ListSplits
