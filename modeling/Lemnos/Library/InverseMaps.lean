import Lemnos.Library.OrderedMap

/-! Two maps that say the same in both directions. -/

set_option linter.unusedSectionVars false

namespace Lemnos.Library.OrderedMap

variable {K V W : Type} [Ord K] [Std.TransOrd K] [Std.LawfulEqOrd K] [DecidableEq K]
  [Ord V] [Std.TransOrd V] [Std.LawfulEqOrd V] [DecidableEq V]

def InverseMaps (forth : BTreeMap K V) (back : BTreeMap V W) (key : W → K) : Prop :=
  ∀ k v, forth[k]? = some v ↔ ∃ w, back[v]? = some w ∧ key w = k

variable {forth : BTreeMap K V} {back : BTreeMap V W} {key : W → K}

theorem InverseMaps.empty (key : W → K) : InverseMaps (∅ : BTreeMap K V) (∅ : BTreeMap V W) key := by
  intro k v
  simp

theorem InverseMaps.erase (h : InverseMaps forth back key) {k : K} {v : V} (hkv : forth[k]? = some v) :
    InverseMaps (forth.erase k) (back.erase v) key := by
  obtain ⟨w, hw, hkey⟩ := (h k v).mp hkv
  intro k' v'
  rw [BTreeMap.getElem?_erase_eq_some]
  constructor
  · rintro ⟨hk, hforth⟩
    obtain ⟨w', hw', hkey'⟩ := (h k' v').mp hforth
    refine ⟨w', (BTreeMap.getElem?_erase_eq_some back).mpr ⟨?_, hw'⟩, hkey'⟩
    rintro rfl
    rw [hw] at hw'
    cases hw'
    exact hk (hkey'.symm.trans hkey)
  · rintro ⟨w', hback, hkey'⟩
    obtain ⟨hv, hw'⟩ := (BTreeMap.getElem?_erase_eq_some back).mp hback
    have hforth := (h k' v').mpr ⟨w', hw', hkey'⟩
    refine ⟨?_, hforth⟩
    rintro rfl
    rw [hkv] at hforth
    cases hforth
    exact hv rfl

theorem InverseMaps.insert (h : InverseMaps forth back key) {v : V} {w : W} (hkey : forth[key w]? = none)
    (hv : back[v]? = none) : InverseMaps (forth.insert (key w) v) (back.insert v w) key := by
  intro k' v'
  rw [BTreeMap.getElem?_insert_eq, BTreeMap.getElem?_insert_eq]
  by_cases hk : k' = key w
  · subst hk
    rw [if_pos rfl]
    constructor
    · intro hsame
      cases hsame
      exact ⟨w, if_pos rfl, rfl⟩
    · rintro ⟨w', hw', hkey'⟩
      by_cases hsame : v' = v
      · rw [hsame]
      · rw [if_neg hsame] at hw'
        have hold := (h (key w) v').mpr ⟨w', hw', hkey'⟩
        rw [hkey] at hold
        cases hold
  · rw [if_neg hk]
    by_cases hsame : v' = v
    · subst hsame
      rw [if_pos rfl]
      apply iff_of_false
      · intro hold
        obtain ⟨w', hw', -⟩ := (h k' v').mp hold
        rw [hv] at hw'
        cases hw'
      · rintro ⟨w', hw', hkey'⟩
        cases hw'
        exact hk hkey'.symm
    · rw [if_neg hsame]
      exact h k' v'

end Lemnos.Library.OrderedMap
