import Mathlib.Data.List.Induction
import Mathlib.Data.List.Nodup

/-! A register of elements taken up one by one. An element may bring another one along with it, and may need one
that is in the register already; one that cannot be taken up is noted. -/

namespace Lemnos.Library.Census

variable {E : Type} [DecidableEq E] (brings needs : E → Option E) (readable : E → Bool)

structure Register (E : Type) where
  described : List E := []
  noted : List E := []

def bring (described : List E) : Option E → List E
  | none => described
  | some brought => if brought ∈ described then described else described ++ [brought]

def step (register : Register E) (e : E) : Register E :=
  let described := bring register.described (brings e)
  if e ∈ described then { register with described }
  else if readable e = true ∧ ∀ p ∈ needs e, p ∈ described then { register with described := described ++ [e] }
  else { described, noted := register.noted ++ [e] }

def take (entries : List E) : Register E := entries.foldl (step brings needs readable) {}

/-- What is brought along brings and needs nothing itself, and is not what others need. -/
structure Plain : Prop where
  brought : ∀ e b, brings e = some b → brings b = none ∧ needs b = none
  needed : ∀ e p, needs e = some p → ∀ d, brings d ≠ some p

/-- What is needed has come before, and what is brought along comes after. -/
def InOrder (earlier later : E) : Prop := needs earlier ≠ some later ∧ brings later ≠ some earlier

/-- What the register is once the entries have been taken up. -/
structure Complete (entries : List E) (register : Register E) : Prop where
  described_nodup : register.described.Nodup
  noted_nodup : register.noted.Nodup
  described_iff : ∀ e, e ∈ register.described ↔ (∃ d ∈ entries, brings d = some e) ∨
    e ∈ entries ∧ readable e = true ∧ ∀ p ∈ needs e, p ∈ register.described
  noted_iff : ∀ e, e ∈ register.noted ↔ e ∈ entries ∧ e ∉ register.described
  linked : ∀ before e after, register.described = before ++ e :: after →
    (∀ b ∈ brings e, b ∈ before) ∧ ∀ p ∈ needs e, p ∈ before

variable {brings needs readable} {entries : List E} {register : Register E} {e : E}

theorem mem_bring {described : List E} {brought : Option E} {x : E} :
    x ∈ bring described brought ↔ x ∈ described ∨ brought = some x := by
  cases brought with
  | none => simp [bring]
  | some b =>
    rw [bring]
    split
    · rename_i hb
      refine ⟨Or.inl, ?_⟩
      rintro (hx | hx)
      · exact hx
      · exact Option.some.inj hx ▸ hb
    · rw [List.mem_append, List.mem_singleton, Option.some.injEq, eq_comm]

theorem bring_nodup {described : List E} (h : described.Nodup) (brought : Option E) :
    (bring described brought).Nodup := by
  cases brought with
  | none => exact h
  | some b =>
    rw [bring]
    split
    · exact h
    · rename_i hb
      exact h.append (List.nodup_singleton b) (List.disjoint_singleton.mpr hb)

theorem split_append_singleton {α : Type} {elements before after : List α} {last a : α}
    (h : elements ++ [last] = before ++ a :: after) :
    (∃ rest, elements = before ++ a :: rest) ∨ elements = before ∧ last = a := by
  rcases List.eq_nil_or_concat after with rfl | ⟨rest, b, rfl⟩
  · obtain ⟨hbefore, hlast⟩ := List.append_inj' h rfl
    exact .inr ⟨hbefore, List.cons.inj hlast |>.1⟩
  · refine .inl ⟨rest, ?_⟩
    rw [List.concat_eq_append, ← List.cons_append, ← List.append_assoc] at h
    exact (List.append_inj' h rfl).1

theorem bring_split {described before after : List E} {brought : Option E} {x : E}
    (h : bring described brought = before ++ x :: after) :
    (∃ rest, described = before ++ x :: rest) ∨ described = before ∧ brought = some x := by
  cases brought with
  | none => exact .inl ⟨after, h⟩
  | some b =>
    rw [bring] at h
    split at h
    · exact .inl ⟨after, h⟩
    · rcases split_append_singleton h with hold | ⟨hbefore, rfl⟩
      · exact .inl hold
      · exact .inr ⟨hbefore, rfl⟩

variable (brings needs readable) in
def CanTake (register : Register E) (e : E) : Prop :=
  readable e = true ∧ ∀ p ∈ needs e, p ∈ register.described ∨ brings e = some p

theorem mem_step_described {x : E} : x ∈ (step brings needs readable register e).described ↔
    x ∈ register.described ∨ brings e = some x ∨ x = e ∧ CanTake brings needs readable register e := by
  simp only [step, CanTake, ← mem_bring]
  split
  · rename_i he
    rw [mem_bring, ← or_assoc]
    refine ⟨Or.inl, ?_⟩
    rintro (hx | ⟨rfl, -⟩)
    · exact hx
    · exact mem_bring.mp he
  · split
    · rename_i hcan
      rw [List.mem_append, List.mem_singleton, mem_bring, or_assoc, and_iff_left hcan]
    · rename_i hcannot
      rw [mem_bring, ← or_assoc]
      exact (or_iff_left fun hx => hcannot hx.2).symm

theorem mem_step_noted {x : E} : x ∈ (step brings needs readable register e).noted ↔
    x ∈ register.noted ∨ x = e ∧ e ∉ (step brings needs readable register e).described := by
  rw [step]
  split
  · rename_i he
    simp only [he, not_true_eq_false, and_false, or_false]
  · rename_i he
    split
    · simp
    · simp only [List.mem_append, List.mem_singleton, he, not_false_eq_true, and_true]

theorem step_described_nodup (h : register.described.Nodup) :
    (step brings needs readable register e).described.Nodup := by
  have hbring := bring_nodup h (brings e)
  rw [step]
  split
  · exact hbring
  · rename_i he
    split
    · exact hbring.append (List.nodup_singleton e) (List.disjoint_singleton.mpr he)
    · exact hbring

theorem step_noted_nodup (h : register.noted.Nodup) (hnew : e ∉ register.noted) :
    (step brings needs readable register e).noted.Nodup := by
  rw [step]
  split
  · exact h
  · split
    · exact h
    · exact h.append (List.nodup_singleton e) (List.disjoint_singleton.mpr hnew)

theorem step_linked (hplain : Plain brings needs)
    (h : ∀ before x after, register.described = before ++ x :: after →
      (∀ b ∈ brings x, b ∈ before) ∧ ∀ p ∈ needs x, p ∈ before) {before after : List E} {x : E}
    (hsplit : (step brings needs readable register e).described = before ++ x :: after) :
    (∀ b ∈ brings x, b ∈ before) ∧ ∀ p ∈ needs x, p ∈ before := by
  have hlinked : ∀ before x after, bring register.described (brings e) = before ++ x :: after →
      (∀ b ∈ brings x, b ∈ before) ∧ ∀ p ∈ needs x, p ∈ before := by
    intro before x after hsplit
    rcases bring_split hsplit with ⟨rest, hold⟩ | ⟨-, hbrought⟩
    · exact h before x rest hold
    · obtain ⟨hbrings, hneeds⟩ := hplain.brought e x hbrought
      rw [hbrings, hneeds]
      exact ⟨nofun, nofun⟩
  rw [step] at hsplit
  split at hsplit
  · exact hlinked before x after hsplit
  · split at hsplit
    · rename_i hcan
      rcases split_append_singleton hsplit with ⟨rest, hold⟩ | ⟨hbefore, rfl⟩
      · exact hlinked before x rest hold
      · rw [← hbefore]
        exact ⟨fun b hb => mem_bring.mpr (.inr hb), hcan.2⟩
    · exact hlinked before x after hsplit

namespace Complete

variable (h : Complete brings needs readable entries register)

include h

theorem step_described_iff (hplain : Plain brings needs) (horder : ∀ d ∈ entries, InOrder brings needs d e)
    (x : E) : x ∈ (step brings needs readable register e).described ↔
      (∃ d ∈ entries ++ [e], brings d = some x) ∨
        x ∈ entries ++ [e] ∧ readable x = true ∧
          ∀ p ∈ needs x, p ∈ (step brings needs readable register e).described := by
  constructor
  · intro hx
    rcases mem_step_described.mp hx with hold | hbrought | ⟨rfl, hreadable, hcan⟩
    · rcases (h.described_iff x).mp hold with ⟨d, hd, hbrings⟩ | ⟨hentry, hreadable, hdescribed⟩
      · exact .inl ⟨d, List.mem_append_left _ hd, hbrings⟩
      · refine .inr ⟨List.mem_append_left _ hentry, hreadable, ?_⟩
        exact fun p hp => mem_step_described.mpr (.inl (hdescribed p hp))
    · exact .inl ⟨e, List.mem_append_right _ (List.mem_singleton_self e), hbrought⟩
    · refine .inr ⟨List.mem_append_right _ (List.mem_singleton_self x), hreadable, ?_⟩
      exact fun p hp => mem_step_described.mpr ((hcan p hp).imp_right Or.inl)
  · rintro (⟨d, hd, hbrings⟩ | ⟨hentry, hreadable, hdescribed⟩)
    · rcases List.mem_append.mp hd with hold | hlast
      · exact mem_step_described.mpr (.inl ((h.described_iff x).mpr (.inl ⟨d, hold, hbrings⟩)))
      · rw [List.mem_singleton.mp hlast] at hbrings
        exact mem_step_described.mpr (.inr (.inl hbrings))
    · rcases List.mem_append.mp hentry with hold | hlast
      · refine mem_step_described.mpr (.inl ((h.described_iff x).mpr (.inr ⟨hold, hreadable, ?_⟩)))
        intro p hp
        rcases mem_step_described.mp (hdescribed p hp) with hearlier | hbrought | ⟨rfl, -⟩
        · exact hearlier
        · exact absurd hbrought (hplain.needed x p hp e)
        · exact absurd hp (horder x hold).1
      · obtain rfl := List.mem_singleton.mp hlast
        by_cases hself : x ∈ needs x
        · exact hdescribed x hself
        · refine mem_step_described.mpr (.inr (.inr ⟨rfl, hreadable, ?_⟩))
          intro p hp
          rcases mem_step_described.mp (hdescribed p hp) with hold | hbrought | ⟨rfl, -⟩
          · exact .inl hold
          · exact .inr hbrought
          · exact absurd hp hself

theorem step_noted_iff (hnew : e ∉ entries) (horder : ∀ d ∈ entries, InOrder brings needs d e) (x : E) :
    x ∈ (step brings needs readable register e).noted ↔
      x ∈ entries ++ [e] ∧ x ∉ (step brings needs readable register e).described := by
  have hseen : x ∈ entries → (x ∈ (step brings needs readable register e).described ↔
      x ∈ register.described) := by
    intro hx
    rw [mem_step_described]
    refine ⟨?_, Or.inl⟩
    rintro (hdescribed | hbrought | ⟨rfl, -⟩)
    · exact hdescribed
    · exact absurd hbrought (horder x hx).2
    · exact absurd hx hnew
  rw [mem_step_noted, h.noted_iff, List.mem_append, List.mem_singleton]
  constructor
  · rintro (⟨hentry, hnot⟩ | ⟨rfl, hnot⟩)
    · exact ⟨.inl hentry, mt (hseen hentry).mp hnot⟩
    · exact ⟨.inr rfl, hnot⟩
  · rintro ⟨hentry | rfl, hnot⟩
    · exact .inl ⟨hentry, mt (hseen hentry).mpr hnot⟩
    · exact .inr ⟨rfl, hnot⟩

theorem step (hplain : Plain brings needs) (hnew : e ∉ entries)
    (horder : ∀ d ∈ entries, InOrder brings needs d e) :
    Complete brings needs readable (entries ++ [e]) (step brings needs readable register e) where
  described_nodup := step_described_nodup h.described_nodup
  noted_nodup := step_noted_nodup h.noted_nodup fun he => hnew ((h.noted_iff e).mp he).1
  described_iff := h.step_described_iff hplain horder
  noted_iff := h.step_noted_iff hnew horder
  linked _ _ _ hsplit := step_linked hplain h.linked hsplit

end Complete

variable (brings needs readable) in
theorem take_complete (hplain : Plain brings needs) (hnodup : entries.Nodup)
    (horder : entries.Pairwise (InOrder brings needs)) :
    Complete brings needs readable entries (take brings needs readable entries) := by
  induction entries using List.reverseRecOn with
  | nil =>
    refine ⟨List.nodup_nil, List.nodup_nil, ?_, ?_, ?_⟩
    · intro e
      refine iff_of_false List.not_mem_nil ?_
      rintro (⟨_, hd, _⟩ | h)
      · exact nomatch hd
      · exact nomatch h.1
    · exact fun e => iff_of_false List.not_mem_nil fun h => nomatch h.1
    · intro before e after hsplit
      simp [take] at hsplit
  | append_singleton entries e ih =>
    obtain ⟨hnodup, -, hdisjoint⟩ := List.nodup_append.mp hnodup
    obtain ⟨horder, -, hbefore⟩ := List.pairwise_append.mp horder
    rw [take, List.foldl_append, List.foldl_cons, List.foldl_nil]
    refine (ih hnodup horder).step hplain ?_ ?_
    · exact fun he => hdisjoint e he e (List.mem_singleton_self e) rfl
    · exact fun d hd => hbefore d hd e (List.mem_singleton_self e)

end Lemnos.Library.Census
