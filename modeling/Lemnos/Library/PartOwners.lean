import Lemnos.Library.OrderedMap

/-! An index of the parts of the values in a store by the keys that the values are stored under. -/

set_option linter.unusedSectionVars false

namespace Lemnos.Library.OrderedMap

variable {I K V : Type} [Ord I] [Std.TransOrd I] [Std.LawfulEqOrd I] [DecidableEq I]
  [Ord K] [Std.TransOrd K] [Std.LawfulEqOrd K] [DecidableEq K]

def PartOwners (owners : BTreeMap I K) (store : BTreeMap K V) (parts : V → List I) : Prop :=
  ∀ i k, owners[i]? = some k ↔ ∃ v, store[k]? = some v ∧ i ∈ parts v

def PartsApart (store : BTreeMap K V) (parts : V → List I) : Prop :=
  ∀ (k : K) (v : V) (k' : K) (v' : V) (i : I),
    store[k]? = some v → store[k']? = some v' → i ∈ parts v → i ∈ parts v' → k = k'

namespace BTreeMap

def own (owners : BTreeMap I K) (k : K) (parts : List I) : BTreeMap I K :=
  parts.foldl (fun owners i => owners.insert i k) owners

theorem own_getElem? (parts : List I) (owners : BTreeMap I K) (k : K) (i : I) :
    (owners.own k parts)[i]? = if i ∈ parts then some k else owners[i]? := by
  induction parts generalizing owners with
  | nil => simp [own]
  | cons part parts ih =>
    have hrest := ih (owners.insert part k)
    rw [getElem?_insert_eq] at hrest
    refine hrest.trans ?_
    by_cases hi : i = part <;> simp [hi]

end BTreeMap

section

variable {owners : BTreeMap I K} {store : BTreeMap K V} {parts : V → List I}

theorem PartOwners.empty (parts : V → List I) : PartOwners (∅ : BTreeMap I K) ∅ parts := by
  intro i k
  simp

theorem PartsApart.erase (h : PartsApart store parts) (k : K) : PartsApart (store.erase k) parts := by
  intro k₁ v₁ k₂ v₂ i h₁ h₂
  exact h k₁ v₁ k₂ v₂ i ((BTreeMap.getElem?_erase_eq_some store).mp h₁).2
    ((BTreeMap.getElem?_erase_eq_some store).mp h₂).2

theorem PartOwners.insert_iff (h : PartOwners owners store parts) {k : K} {v : V}
    (hapart : PartsApart (store.insert k v) parts) :
    PartOwners (owners.own k (parts v)) (store.insert k v) parts ↔
      ∀ old, store[k]? = some old → parts old ⊆ parts v := by
  have hnew : (store.insert k v)[k]? = some v := BTreeMap.getElem?_insert_same store k v
  constructor
  · intro hexact old hold i hi
    by_contra habsent
    have hstays : (owners.own k (parts v))[i]? = some k := by
      rw [BTreeMap.own_getElem?, if_neg habsent]
      exact (h i k).mpr ⟨old, hold, hi⟩
    obtain ⟨v', hv', hi'⟩ := (hexact i k).mp hstays
    rw [hnew] at hv'
    cases hv'
    exact habsent hi'
  · intro hkeeps i k'
    rw [BTreeMap.own_getElem?]
    by_cases hi : i ∈ parts v
    · rw [if_pos hi]
      constructor
      · intro hk
        cases hk
        exact ⟨v, hnew, hi⟩
      · rintro ⟨v', hv', hi'⟩
        rw [hapart k v k' v' i hnew hv' hi hi']
    · rw [if_neg hi, h i k', BTreeMap.getElem?_insert_eq]
      by_cases hk : k' = k
      · rw [hk, if_pos rfl]
        apply iff_of_false
        · rintro ⟨old, hold, hi'⟩
          exact hi (hkeeps old hold hi')
        · rintro ⟨v', hv', hi'⟩
          cases hv'
          exact hi hi'
      · rw [if_neg hk]

theorem PartOwners.erase (h : PartOwners owners store parts) {k : K} {v : V} (hv : store[k]? = some v) :
    PartOwners (BTreeMap.eraseAll owners (parts v)) (store.erase k) parts := by
  intro i k'
  rw [BTreeMap.eraseAll_getElem?]
  by_cases hi : i ∈ parts v
  · have howner : owners[i]? = some k := (h i k).mpr ⟨v, hv, hi⟩
    rw [if_pos hi]
    refine iff_of_false (fun hnone => by cases hnone) ?_
    rintro ⟨v', hv', hi'⟩
    obtain ⟨hne, hv'⟩ := (BTreeMap.getElem?_erase_eq_some store).mp hv'
    have howner' := (h i k').mpr ⟨v', hv', hi'⟩
    rw [howner] at howner'
    exact hne (Option.some.inj howner').symm
  · rw [if_neg hi, h i k']
    constructor
    · rintro ⟨v', hv', hi'⟩
      refine ⟨v', (BTreeMap.getElem?_erase_eq_some store).mpr ⟨?_, hv'⟩, hi'⟩
      rintro rfl
      rw [hv] at hv'
      cases hv'
      exact hi hi'
    · rintro ⟨v', hv', hi'⟩
      exact ⟨v', ((BTreeMap.getElem?_erase_eq_some store).mp hv').2, hi'⟩

def partEntries (store : BTreeMap K V) (parts : K → V → List I) : List (I × K) :=
  store.toList.flatMap fun entry => (parts entry.1 entry.2).map fun i => (i, entry.1)

theorem mem_partEntries {parts : K → V → List I} {i : I} {k : K} :
    (i, k) ∈ partEntries store parts ↔ ∃ v, store[k]? = some v ∧ i ∈ parts k v := by
  simp only [partEntries, List.mem_flatMap, List.mem_map, Prod.mk.injEq]
  constructor
  · rintro ⟨entry, hentry, part, hpart, rfl, rfl⟩
    exact ⟨entry.2, Std.ExtTreeMap.mem_toList_iff_getElem?_eq_some.mp hentry, hpart⟩
  · rintro ⟨v, hv, hi⟩
    exact ⟨(k, v), Std.ExtTreeMap.mem_toList_iff_getElem?_eq_some.mpr hv, i, hi, rfl, rfl⟩

theorem PartOwners.collect (hapart : PartsApart store parts) {keyed : K → V → List I}
    (hkeyed : ∀ k v, store[k]? = some v → keyed k v = parts v) :
    PartOwners (BTreeMap.collect (partEntries store keyed)) store parts := by
  have hmem : ∀ i k, (i, k) ∈ partEntries store keyed ↔ ∃ v, store[k]? = some v ∧ i ∈ parts v := by
    intro i k
    rw [mem_partEntries]
    apply exists_congr
    intro v
    apply and_congr_right
    intro hv
    rw [hkeyed k v hv]
  intro i k
  rw [← hmem]
  constructor
  · exact BTreeMap.mem_of_collect_getElem?
  · intro hin
    obtain ⟨k', hk'⟩ := (BTreeMap.mem_iff_exists _ i).mp ((BTreeMap.mem_collect _ i).mpr ⟨k, hin⟩)
    obtain ⟨v, hv, hi⟩ := (hmem i k).mp hin
    obtain ⟨v', hv', hi'⟩ := (hmem i k').mp (BTreeMap.mem_of_collect_getElem? hk')
    rw [hk', hapart k v k' v' i hv hv' hi hi']

end

end Lemnos.Library.OrderedMap
