import Mathlib.Data.List.Basic

/-! The first element with the largest key among those of a list that a predicate allows. -/

namespace Lemnos.Library

variable {α K : Type} [LE K] [LT K] {p : α → Bool} {key : α → K} {elements : List α} {index : ℕ} {best : α}

structure FirstBest (p : α → Bool) (key : α → K) (elements : List α) (index : ℕ) (best : α) : Prop where
  found : elements[index]? = some best
  allowed : p best = true
  largest : ∀ (i : ℕ) (a : α), elements[i]? = some a → p a = true → key a ≤ key best
  first : ∀ (i : ℕ) (a : α), elements[i]? = some a → p a = true → i < index → key a < key best

namespace FirstBest

theorem getElem?_concat {a b : α} {i : ℕ} (h : (elements ++ [a])[i]? = some b) :
    elements[i]? = some b ∨ i = elements.length ∧ a = b := by
  rcases Nat.lt_trichotomy i elements.length with hlt | rfl | hgt
  · rw [List.getElem?_append_left hlt] at h
    exact .inl h
  · rw [List.getElem?_concat_length] at h
    exact .inr ⟨rfl, Option.some.inj h⟩
  · rw [List.getElem?_eq_none (by simp; omega)] at h
    cases h

theorem lt_length (h : FirstBest p key elements index best) : index < elements.length :=
  (List.getElem?_eq_some_iff.mp h.found).1

theorem concat (h : FirstBest p key elements index best) {a : α} (ha : p a = true → key a ≤ key best) :
    FirstBest p key (elements ++ [a]) index best where
  found := by rw [List.getElem?_append_left h.lt_length, h.found]
  allowed := h.allowed
  largest := by
    intro i b hb hp
    rcases getElem?_concat hb with hb | ⟨-, rfl⟩
    · exact h.largest i b hb hp
    · exact ha hp
  first := by
    intro i b hb hp hlt
    rcases getElem?_concat hb with hb | ⟨rfl, -⟩
    · exact h.first i b hb hp hlt
    · exact absurd h.lt_length (Nat.lt_asymm hlt)

theorem key_le (h : FirstBest p key elements index best) {a : α} (ha : a ∈ elements) (hp : p a = true) :
    key a ≤ key best := by
  obtain ⟨i, hi⟩ := List.mem_iff_getElem?.mp ha
  exact h.largest i a hi hp

variable [Std.IsLinearOrder K] [Std.LawfulOrderLT K]

theorem of_larger {a : α} (hp : p a = true) (ha : ∀ b ∈ elements, p b = true → key b < key a) :
    FirstBest p key (elements ++ [a]) elements.length a where
  found := List.getElem?_concat_length
  allowed := hp
  largest := by
    intro i b hb hpb
    rcases getElem?_concat hb with hb | ⟨-, rfl⟩
    · exact Std.le_of_lt (ha b (List.mem_of_getElem? hb) hpb)
    · exact Std.le_refl _
  first := by
    intro i b hb hpb hlt
    rcases getElem?_concat hb with hb | ⟨rfl, -⟩
    · exact ha b (List.mem_of_getElem? hb) hpb
    · exact absurd hlt (Nat.lt_irrefl _)

theorem index_unique (h : FirstBest p key elements index best) {other : ℕ} {best' : α}
    (h' : FirstBest p key elements other best') : other = index := by
  rcases Nat.lt_trichotomy other index with hlt | heq | hgt
  · have hless := h.first other best' h'.found h'.allowed hlt
    exact absurd (h'.largest index best h.found h.allowed) (Std.not_le.mpr hless)
  · exact heq
  · have hless := h'.first index best h.found h.allowed hgt
    exact absurd (h.largest other best' h'.found h'.allowed) (Std.not_le.mpr hless)

end FirstBest

end Lemnos.Library
