import Mathlib.Data.List.Basic
import Mathlib.Order.Basic

/-! Words joined by separators, and how they are told apart again. -/

namespace Lemnos.Library.Separated

variable {α : Type} [DecidableEq α] {sep c : α} {before before' after after' : List α}
  {words : List (List α)}

def splitOnce (sep : α) : List α → Option (List α × List α)
  | [] => none
  | a :: text =>
    if a = sep then some ([], text)
    else (splitOnce sep text).map fun (before, after) => (a :: before, after)

theorem splitOnce_append (h : sep ∉ before) : splitOnce sep (before ++ sep :: after) = some (before, after) := by
  induction before with
  | nil => rw [List.nil_append, splitOnce, if_pos rfl]
  | cons a before ih =>
    rw [List.mem_cons, not_or] at h
    rw [List.cons_append, splitOnce, if_neg (Ne.symm h.1), ih h.2]
    rfl

theorem eq_of_splitOnce {text : List α} (h : splitOnce sep text = some (before, after)) :
    text = before ++ sep :: after := by
  induction text generalizing before with
  | nil => cases h
  | cons a text ih =>
    rw [splitOnce] at h
    split at h
    · rename_i ha
      cases h
      rw [ha, List.nil_append]
    · obtain ⟨⟨before', after'⟩, hrest, heq⟩ := Option.map_eq_some_iff.mp h
      cases heq
      rw [ih hrest, List.cons_append]

theorem append_cons_inj (h : sep ∉ before) (h' : sep ∉ before')
    (heq : before ++ sep :: after = before' ++ sep :: after') : before = before' ∧ after = after' := by
  have hsplit := @splitOnce_append _ _ _ _ after h
  rw [heq, splitOnce_append h'] at hsplit
  obtain ⟨hbefore, hafter⟩ := Prod.mk.inj (Option.some.inj hsplit)
  exact ⟨hbefore.symm, hafter.symm⟩

/-- What is left of a text once a word has been read: nothing, or what comes from the next separator on. -/
def IsRest (sep : α) (rest : List α) : Prop := ∀ a ∈ rest.head?, a = sep

theorem append_rest_inj (h : sep ∉ before) (h' : sep ∉ before') (hrest : IsRest sep after)
    (hrest' : IsRest sep after') (heq : before ++ after = before' ++ after') :
    before = before' ∧ after = after' := by
  cases after with
  | nil =>
    cases after' with
    | nil =>
      rw [List.append_nil, List.append_nil] at heq
      exact ⟨heq, rfl⟩
    | cons a after' =>
      rw [hrest' a rfl, List.append_nil] at heq
      rw [heq] at h
      exact absurd (List.mem_append_right _ List.mem_cons_self) h
  | cons a after =>
    rw [hrest a rfl] at heq ⊢
    cases after' with
    | nil =>
      rw [List.append_nil] at heq
      rw [← heq] at h'
      exact absurd (List.mem_append_right _ List.mem_cons_self) h'
    | cons a' after' =>
      rw [hrest' a' rfl] at heq ⊢
      obtain ⟨hbefore, hafter⟩ := append_cons_inj h h' heq
      exact ⟨hbefore, by rw [hafter]⟩

omit [DecidableEq α] in
theorem mem_intercalate (h : c ∈ [sep].intercalate words) : c = sep ∨ ∃ word ∈ words, c ∈ word := by
  induction words with
  | nil => cases h
  | cons word words ih =>
    cases words with
    | nil =>
      have hword : c ∈ word := by simpa [List.intercalate] using h
      exact .inr ⟨word, List.mem_cons_self, hword⟩
    | cons next words =>
      have hjoined : [sep].intercalate (word :: next :: words) =
          word ++ sep :: [sep].intercalate (next :: words) := by
        simp [List.intercalate]
      rw [hjoined, List.mem_append, List.mem_cons] at h
      rcases h with hword | hsep | hrest
      · exact .inr ⟨word, List.mem_cons_self, hword⟩
      · exact .inl hsep
      · exact (ih hrest).imp_right fun ⟨later, hlater, hc⟩ => ⟨later, List.mem_cons_of_mem _ hlater, hc⟩

end Lemnos.Library.Separated
