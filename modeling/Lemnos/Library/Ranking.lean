import Mathlib.Data.List.Basic

/-! Lists in descending order of a rank, where elements of one rank are in ascending order of their names. -/

namespace Lemnos.Library.Ranking

variable {α N : Type} (rank : α → α → Ordering) [Ord N] (name : α → N)

def precedence (a b : α) : Ordering := (rank b a).then (compare (name a) (name b))

def topTies : List α → List α
  | [] => []
  | best :: others => best :: others.takeWhile (fun a => rank a best = .eq)

def Maximal (elements : List α) (a : α) : Prop := a ∈ elements ∧ ∀ b ∈ elements, (rank b a).isLE = true

theorem takeWhile_eq_filter {p : α → Bool} {elements : List α}
    (h : elements.Pairwise (fun a b => p b = true → p a = true)) :
    elements.takeWhile p = elements.filter p := by
  induction elements with
  | nil => rfl
  | cons a elements ih =>
    obtain ⟨hfirst, hrest⟩ := List.pairwise_cons.mp h
    cases ha : p a with
    | true => rw [List.takeWhile_cons_of_pos ha, List.filter_cons_of_pos ha, ih hrest]
    | false =>
      have hnone : elements.filter p = [] := by
        rw [List.filter_eq_nil_iff]
        intro b hb hp
        rw [hfirst b hb hp] at ha
        cases ha
      rw [List.takeWhile_cons_of_neg (by simp [ha]), List.filter_cons_of_neg (by simp [ha]), hnone]

theorem topTies_sublist (elements : List α) : (topTies rank elements).Sublist elements := by
  cases elements with
  | nil => exact .refl _
  | cons best others => exact (List.takeWhile_sublist _).cons_cons best

theorem topTies_eq_nil_iff (elements : List α) : topTies rank elements = [] ↔ elements = [] := by
  cases elements <;> simp [topTies]

variable {rank name} {elements : List α} {a : α}

theorem pairwise_rank (h : elements.Pairwise (fun a b => (precedence rank name a b).isLE = true)) :
    elements.Pairwise (fun a b => (rank b a).isLE = true) :=
  h.imp Ordering.isLE_left_of_isLE_then

theorem pairwise_of_strict (h : elements.Pairwise (fun a b => precedence rank name a b = .lt)) :
    elements.Pairwise (fun a b => (precedence rank name a b).isLE = true) := by
  refine h.imp ?_
  intro a b hlt
  rw [hlt]
  rfl

variable [Std.TransCmp rank]

theorem mem_topTies (h : elements.Pairwise (fun a b => (precedence rank name a b).isLE = true)) :
    a ∈ topTies rank elements ↔ Maximal rank elements a := by
  cases elements with
  | nil => simp [topTies, Maximal]
  | cons best others =>
    obtain ⟨hbest, hothers⟩ := List.pairwise_cons.mp (pairwise_rank h)
    have htied : ∀ b, rank b best = .eq → (rank best b).isLE = true := by
      intro b heq
      rw [Std.OrientedCmp.eq_symm heq]
      rfl
    have hdescends : others.Pairwise (fun a b => decide (rank b best = .eq) = true →
        decide (rank a best = .eq) = true) := by
      refine hothers.imp_of_mem ?_
      intro first second hfirst hsecond hle hsame
      rw [decide_eq_true_iff] at hsame ⊢
      exact Std.OrientedCmp.isLE_antisymm (hbest first hfirst)
        (Std.TransCmp.isLE_trans (htied second hsame) hle)
    rw [topTies, takeWhile_eq_filter hdescends, List.mem_cons, List.mem_filter, decide_eq_true_iff]
    constructor
    · rintro (rfl | ⟨ha, heq⟩)
      · refine ⟨List.mem_cons_self, ?_⟩
        intro b hb
        rcases List.mem_cons.mp hb with rfl | hb
        · exact Std.ReflCmp.isLE_rfl
        · exact hbest b hb
      · refine ⟨List.mem_cons_of_mem best ha, ?_⟩
        intro b hb
        rcases List.mem_cons.mp hb with rfl | hb
        · exact htied a heq
        · exact Std.TransCmp.isLE_trans (hbest b hb) (htied a heq)
    · rintro ⟨ha, hmax⟩
      rcases List.mem_cons.mp ha with rfl | ha
      · exact .inl rfl
      · exact .inr ⟨ha, Std.OrientedCmp.isLE_antisymm (hbest a ha) (hmax best List.mem_cons_self)⟩

theorem topTies_names (h : elements.Pairwise (fun a b => precedence rank name a b = .lt)) :
    (topTies rank elements).Pairwise (fun a b => compare (name a) (name b) = .lt) := by
  have hsorted := pairwise_of_strict h
  refine (h.sublist (topTies_sublist rank elements)).imp_of_mem ?_
  intro first second hfirst hsecond hlt
  have hup := ((mem_topTies hsorted).mp hfirst).2 second ((topTies_sublist rank elements).subset hsecond)
  have hdown := ((mem_topTies hsorted).mp hsecond).2 first ((topTies_sublist rank elements).subset hfirst)
  rw [precedence, Std.OrientedCmp.isLE_antisymm hup hdown] at hlt
  exact hlt

end Lemnos.Library.Ranking
