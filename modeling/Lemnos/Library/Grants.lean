import Mathlib.Data.Set.Basic

/-! Calls of which some are granted, knowing those made before, and what the granted ones take and give back. -/

namespace Lemnos.Library.Grants

variable {C K V : Type}

def granted (grants : List C → C → Bool) : List C → List C → List C
  | _, [] => []
  | earlier, call :: made =>
    if grants earlier call then call :: granted grants (earlier ++ [call]) made
    else granted grants (earlier ++ [call]) made

def held (takes gives : K → C) : List C → Set K → Set K
  | [], before => before
  | call :: calls, before => held takes gives calls {k | call = takes k ∨ k ∈ before ∧ call ≠ gives k}

def chosen (grants : List C → C → Bool) (chooses : C → Option V) (made : List C) : Option V :=
  (granted grants [] made).foldl (fun before call => (chooses call).or before) none

variable {grants : List C → C → Bool} {chooses : C → Option V} {takes gives : K → C}
  {earlier made more : List C} {call : C}

theorem granted_append :
    granted grants earlier (made ++ more) =
      granted grants earlier made ++ granted grants (earlier ++ made) more := by
  induction made generalizing earlier with
  | nil => rw [List.nil_append, List.append_nil, granted, List.nil_append]
  | cons call made ih =>
    rw [List.cons_append, granted, granted, ih, List.append_assoc, List.singleton_append]
    split
    · rw [List.cons_append]
    · rfl

theorem granted_singleton : granted grants earlier [call] = if grants earlier call then [call] else [] := rfl

theorem granted_of_refused (h : ∀ call ∈ made, ∀ earlier, grants earlier call = false) :
    granted grants earlier made = [] := by
  induction made generalizing earlier with
  | nil => rfl
  | cons call made ih =>
    rw [granted, h call List.mem_cons_self, if_neg Bool.false_ne_true]
    exact ih fun later hlater => h later (List.mem_cons_of_mem call hlater)

theorem chosen_append_singleton : chosen grants chooses (made ++ [call]) =
    if grants made call then (chooses call).or (chosen grants chooses made) else chosen grants chooses made := by
  rw [chosen, granted_append, granted_singleton, List.foldl_append, List.nil_append]
  split <;> rfl

theorem chosen_append_of_none (h : ∀ call ∈ more, chooses call = none) :
    chosen grants chooses (made ++ more) = chosen grants chooses made := by
  induction more generalizing made with
  | nil => rw [List.append_nil]
  | cons call more ih =>
    have hcall : chooses call = none := h call List.mem_cons_self
    have hrest := @ih (made ++ [call]) fun later hlater => h later (List.mem_cons_of_mem call hlater)
    rw [List.append_assoc, List.singleton_append, chosen_append_singleton, hcall, Option.none_or,
      ite_self] at hrest
    exact hrest

theorem mem_held_of_taken (k : K) (before : Set K) : k ∈ held takes gives [takes k] before := .inl rfl

end Lemnos.Library.Grants
