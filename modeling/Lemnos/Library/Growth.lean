import Mathlib.Data.List.Induction

/-! Lists that grow at the end, each element fitting what is there already. -/

namespace Lemnos.Library.Growth

variable {α : Type} {Fits : List α → α → Prop} {as : List α}

inductive Grown (Fits : List α → α → Prop) : List α → Prop
  | nil : Grown Fits []
  | snoc {as : List α} {a : α} (h : Grown Fits as) (ha : Fits as a) : Grown Fits (as ++ [a])

theorem Grown.fits (h : Grown Fits as) {before after : List α} {a : α} (hsplit : as = before ++ a :: after) :
    Fits before a := by
  induction h generalizing after with
  | nil => simp at hsplit
  | @snoc as last _ ha ih =>
    rcases List.eq_nil_or_concat after with rfl | ⟨after, end_, rfl⟩
    · obtain ⟨rfl, hlast⟩ := List.append_inj' hsplit rfl
      rw [← (List.cons.inj hlast).1]
      exact ha
    · rw [List.concat_eq_append, ← List.cons_append, ← List.append_assoc] at hsplit
      exact ih (List.append_inj' hsplit rfl).1

theorem Grown.of_mem (h : Grown Fits as) {a : α} (ha : a ∈ as) : ∃ before, Fits before a ∧ ∀ b ∈ before, b ∈ as := by
  obtain ⟨before, after, rfl⟩ := List.append_of_mem ha
  exact ⟨before, h.fits rfl, fun b hb => List.mem_append_left _ hb⟩

end Lemnos.Library.Growth
