import Mathlib.Data.List.Nodup

/-! Runs of a guarded transition function, and what holds along them. -/

namespace Lemnos.Library.Runs

variable {A S : Type} (step : A → S → Option S)

def run : List A → S → Option S
  | [], s => some s
  | a :: as, s => (step a s).bind (run as)

/-- The condition holds of every action in the state in which the run takes it. -/
def Along (cond : A → S → Prop) : List A → S → Prop
  | [], _ => True
  | a :: as, s => cond a s ∧ ∀ s', step a s = some s' → Along cond as s'

variable {step}

theorem run_cons {a : A} {as : List A} {s s' : S} (h : run step (a :: as) s = some s') :
    ∃ s₁, step a s = some s₁ ∧ run step as s₁ = some s' :=
  Option.bind_eq_some_iff.mp h

theorem run_append {as : List A} {s s' : S} (h : run step as s = some s') (bs : List A) :
    run step (as ++ bs) s = run step bs s' := by
  induction as generalizing s with
  | nil =>
    cases h
    rfl
  | cons a as ih =>
    obtain ⟨s₁, hs, hrest⟩ := run_cons h
    simp only [List.cons_append, run, hs, Option.bind_some]
    exact ih hrest

theorem Along.append {cond : A → S → Prop} {as bs : List A} {s s' : S} (h : Along step cond as s)
    (hrun : run step as s = some s') (hlater : Along step cond bs s') : Along step cond (as ++ bs) s := by
  induction as generalizing s with
  | nil =>
    cases hrun
    exact hlater
  | cons a as ih =>
    obtain ⟨s₁, hs, hrest⟩ := run_cons hrun
    refine ⟨h.1, fun s₂ hs₂ => ?_⟩
    rw [hs] at hs₂
    cases hs₂
    exact ih (h.2 s₁ hs) hrest

theorem along_iff_split {cond : A → S → Prop} {as : List A} {s : S} : Along step cond as s ↔
    ∀ before a after s', as = before ++ a :: after → run step before s = some s' → cond a s' := by
  induction as generalizing s with
  | nil => simp [Along]
  | cons a as ih =>
    constructor
    · rintro ⟨hcond, hrest⟩ before b after s' hsplit hrun
      cases before with
      | nil =>
        cases hsplit
        cases hrun
        exact hcond
      | cons first before =>
        cases hsplit
        obtain ⟨s₁, hs, hrun⟩ := run_cons hrun
        exact ih.mp (hrest s₁ hs) before b after s' rfl hrun
    · intro h
      refine ⟨h [] a as s rfl rfl, ?_⟩
      intro s₁ hs
      apply ih.mpr
      intro before b after s' hsplit hrun
      exact h (a :: before) b after s' (by rw [hsplit]; rfl) (by rw [run, hs]; exact hrun)

theorem along_cons_of_some {cond : A → S → Prop} {a : A} {as : List A} {s s' : S} (h : step a s = some s') :
    cond a s ∧ Along step cond as s' ↔ Along step cond (a :: as) s := by
  refine and_congr_right fun _ => ?_
  rw [h]
  simp

theorem along_cons_of_none {cond : A → S → Prop} {a : A} {as : List A} {s : S} (h : step a s = none) :
    cond a s ↔ Along step cond (a :: as) s := by
  refine (and_iff_left ?_).symm
  rw [h]
  simp

instance Along.decidable {cond : A → S → Prop} [∀ a s, Decidable (cond a s)] :
    (as : List A) → (s : S) → Decidable (Along step cond as s)
  | [], _ => isTrue trivial
  | a :: as, s =>
    match h : step a s with
    | none => decidable_of_iff _ (along_cons_of_none h)
    | some s' =>
      have : Decidable (Along step cond as s') := Along.decidable as s'
      decidable_of_iff _ (along_cons_of_some h)

theorem run_invariant_along {inv : S → Prop} {cond : A → S → Prop}
    (hstep : ∀ a s s', inv s → cond a s → step a s = some s' → inv s') {as : List A} {s s' : S}
    (hinv : inv s) (hcond : Along step cond as s) (hrun : run step as s = some s') : inv s' := by
  induction as generalizing s with
  | nil =>
    cases hrun
    exact hinv
  | cons a as ih =>
    obtain ⟨s₁, hs, hrest⟩ := run_cons hrun
    exact ih (hstep a s s₁ hinv hcond.1 hs) (hcond.2 s₁ hs) hrest

theorem along_true (as : List A) (s : S) : Along step (fun _ _ => True) as s := by
  induction as generalizing s with
  | nil => trivial
  | cons a as ih => exact ⟨trivial, fun s' _ => ih s'⟩

theorem along_of_mem {cond : A → Prop} {as : List A} (h : ∀ a ∈ as, cond a) (s : S) :
    Along step (fun a _ => cond a) as s := by
  induction as generalizing s with
  | nil => trivial
  | cons a as ih => exact ⟨h a List.mem_cons_self, fun s' _ => ih (fun b hb => h b (List.mem_cons_of_mem a hb)) s'⟩

theorem run_invariant {inv : S → Prop} (hstep : ∀ a s s', inv s → step a s = some s' → inv s')
    {as : List A} {s s' : S} (hinv : inv s) (hrun : run step as s = some s') : inv s' :=
  run_invariant_along (fun a s s' hi _ hs => hstep a s s' hi hs) hinv (along_true as s) hrun

theorem run_bounded {measure : S → ℕ}
    (hstep : ∀ a s s', step a s = some s' → measure s' ≤ measure s + 1) {as : List A} {s s' : S}
    (hrun : run step as s = some s') : measure s' ≤ measure s + as.length := by
  induction as generalizing s with
  | nil =>
    cases hrun
    exact Nat.le_refl _
  | cons a as ih =>
    obtain ⟨s₁, hs, hrest⟩ := run_cons hrun
    have hone := hstep a s s₁ hs
    have hlater := ih hrest
    rw [List.length_cons]
    omega

theorem good_iff_along {p q : S → Prop} {good cond : A → S → Prop} (hobserved : ∀ s, p s → q s)
    (hkeep : ∀ a s s', p s → cond a s → step a s = some s' → p s')
    (hgood : ∀ a s, p s → cond a s → good a s)
    (hbreak : ∀ a s s', p s → step a s = some s' → good a s → q s' → cond a s) {as : List A} {s s' : S}
    (hp : p s) (hrun : run step as s = some s') :
    (∀ before after s₁, as = before ++ after → run step before s = some s₁ →
      q s₁ ∧ ∀ a rest, after = a :: rest → good a s₁) ↔
      Along step cond as s := by
  induction as generalizing s with
  | nil =>
    refine ⟨fun _ => trivial, ?_⟩
    intro _ before after s₁ hsplit hbefore
    obtain ⟨rfl, rfl⟩ := List.append_eq_nil_iff.mp hsplit.symm
    cases hbefore
    exact ⟨hobserved s hp, fun _ _ hnil => nomatch hnil⟩
  | cons a as ih =>
    obtain ⟨s₁, hs, hrest⟩ := run_cons hrun
    constructor
    · intro h
      have hgood₀ : good a s := (h [] (a :: as) s rfl rfl).2 a as rfl
      have hq₁ : q s₁ := (h [a] as s₁ rfl (by rw [run, hs]; rfl)).1
      have hcond : cond a s := hbreak a s s₁ hp hs hgood₀ hq₁
      refine ⟨hcond, ?_⟩
      intro s₂ hs₂
      rw [hs] at hs₂
      cases hs₂
      refine (ih (hkeep a s s₁ hp hcond hs) hrest).mp ?_
      intro before after s₃ hsplit hbefore
      exact h (a :: before) after s₃ (by rw [hsplit]; rfl) (by rw [run, hs]; exact hbefore)
    · rintro ⟨hcond, halong⟩ before after s₃ hsplit hbefore
      cases before with
      | nil =>
        cases hbefore
        refine ⟨hobserved s hp, ?_⟩
        intro b rest hafter
        rw [hafter, List.nil_append, List.cons.injEq] at hsplit
        rw [← hsplit.1]
        exact hgood a s hp hcond
      | cons b before =>
        rw [List.cons_append, List.cons.injEq] at hsplit
        obtain ⟨rfl, hsplit⟩ := hsplit
        obtain ⟨s₂, hs₂, hbefore⟩ := run_cons hbefore
        rw [hs] at hs₂
        cases hs₂
        exact (ih (hkeep a s s₁ hp hcond hs) hrest).mpr (halong s₁ hs) before after s₃ hsplit hbefore

theorem observed_iff_along {p q : S → Prop} {cond : A → S → Prop} (hobserved : ∀ s, p s → q s)
    (hkeep : ∀ a s s', p s → cond a s → step a s = some s' → p s')
    (hbreak : ∀ a s s', p s → step a s = some s' → q s' → cond a s) {as : List A} {s s' : S}
    (hp : p s) (hrun : run step as s = some s') :
    (∀ before after s₁, as = before ++ after → run step before s = some s₁ → q s₁) ↔
      Along step cond as s := by
  rw [← @good_iff_along A S step p q (fun _ _ => True) cond hobserved hkeep (fun _ _ _ _ => trivial)
    (fun a s s₁ hp hs _ => hbreak a s s₁ hp hs) as s s' hp hrun]
  simp only [implies_true, and_true]

/-- Where a step keeps the property exactly if it meets the condition, the runs that pass only through
states with the property are those whose steps all meet the condition. -/
theorem always_iff_along {p : S → Prop} {cond : A → S → Prop}
    (hstep : ∀ a s s', p s → step a s = some s' → (p s' ↔ cond a s)) {as : List A} {s s' : S}
    (hp : p s) (hrun : run step as s = some s') :
    (∀ before after s₁, as = before ++ after → run step before s = some s₁ → p s₁) ↔
      Along step cond as s :=
  observed_iff_along (fun _ hs => hs) (fun a s s₁ hs hcond ha => (hstep a s s₁ hs ha).mpr hcond)
    (fun a s s₁ hs ha => (hstep a s s₁ hs ha).mp) hp hrun

/-- Where a step that meets the condition keeps the property, and one that does not leads into what is never left
again and excludes the property, a run ends with the property exactly if its steps all meet the condition. -/
theorem ends_iff_along {p q : S → Prop} {cond : A → S → Prop}
    (hkeep : ∀ a s s', p s → cond a s → step a s = some s' → p s')
    (hbreak : ∀ a s s', p s → ¬cond a s → step a s = some s' → q s')
    (hstays : ∀ a s s', q s → step a s = some s' → q s') (hexcludes : ∀ s, q s → ¬p s)
    {as : List A} {s s' : S} (hp : p s) (hrun : run step as s = some s') :
    p s' ↔ Along step cond as s := by
  constructor
  · intro hend
    induction as generalizing s with
    | nil => trivial
    | cons a as ih =>
      obtain ⟨s₁, hs, hrest⟩ := run_cons hrun
      have hcond : cond a s := by
        by_contra hcond
        have hbroken : q s₁ := hbreak a s s₁ hp hcond hs
        exact hexcludes s' (run_invariant hstays hbroken hrest) hend
      refine ⟨hcond, ?_⟩
      intro s₂ hs₂
      rw [hs] at hs₂
      cases hs₂
      exact ih (hkeep a s s₁ hp hcond hs) hrest
  · intro halong
    exact run_invariant_along hkeep hp halong hrun

theorem run_total (htotal : ∀ a s, ∃ s', step a s = some s') (as : List A) (s : S) :
    ∃ s', run step as s = some s' := by
  induction as generalizing s with
  | nil => exact ⟨s, rfl⟩
  | cons a as ih =>
    obtain ⟨s₁, hs⟩ := htotal a s
    obtain ⟨s', hrest⟩ := ih s₁
    exact ⟨s', by rw [run, hs]; exact hrest⟩

theorem exists_split {α : Type} {elements : List α} {i : ℕ} {a : α} (h : elements[i]? = some a) :
    ∃ before after, elements = before ++ a :: after ∧ i = before.length ∧
      ∀ b, elements.set i b = before ++ b :: after := by
  obtain ⟨hlt, heq⟩ := List.getElem?_eq_some_iff.mp h
  refine ⟨elements.take i, elements.drop (i + 1), ?_, ?_, ?_⟩
  · rw [← heq, ← List.drop_eq_getElem_cons hlt, List.take_append_drop]
  · rw [List.length_take]
    omega
  · intro b
    rw [List.set_eq_take_append_cons_drop, if_pos hlt]

theorem forall_mem_replaced {α : Type} {p : α → Prop} {before after : List α} {a b : α}
    (h : ∀ c ∈ before ++ a :: after, p c) (hb : p b) : ∀ c ∈ before ++ b :: after, p c := by
  intro c hc
  rcases List.mem_append.mp hc with hbefore | hc
  · exact h c (List.mem_append_left _ hbefore)
  · rcases List.mem_cons.mp hc with rfl | hafter
    · exact hb
    · exact h c (List.mem_append_right _ (List.mem_cons_of_mem a hafter))

theorem mem_of_getElem?_ne {α : Type} {before after : List α} {a b : α} {j : ℕ}
    (h : (before ++ a :: after)[j]? = some b) (hne : j ≠ before.length) : b ∈ before ∨ b ∈ after := by
  rcases Nat.lt_or_gt_of_ne hne with hlt | hgt
  · rw [List.getElem?_append_left hlt] at h
    exact .inl (List.mem_of_getElem? h)
  · obtain ⟨k, hk⟩ : ∃ k, j - before.length = k + 1 := ⟨j - before.length - 1, by omega⟩
    rw [List.getElem?_append_right (by omega), hk, List.getElem?_cons_succ] at h
    exact .inr (List.mem_of_getElem? h)

end Lemnos.Library.Runs
