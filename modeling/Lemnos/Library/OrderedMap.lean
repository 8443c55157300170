import Mathlib.Data.List.Nodup

/-! Ordered maps and sets, with the lookup lemmas stated for equality of keys. -/

set_option linter.unusedSectionVars false

namespace Lemnos.Library.OrderedMap

abbrev BTreeMap (K V : Type) [Ord K] := Std.ExtTreeMap K V compare
abbrev BTreeSet (K : Type) [Ord K] := Std.ExtTreeSet K compare

variable {K V : Type} [Ord K] [Std.TransOrd K] [Std.LawfulEqOrd K] [DecidableEq K]

namespace BTreeMap

theorem getElem?_insert_eq (m : BTreeMap K V) (k : K) (v : V) (a : K) :
    (m.insert k v)[a]? = if a = k then some v else m[a]? := by
  rw [Std.ExtTreeMap.getElem?_insert]
  by_cases h : a = k
  · simp [h]
  · simp [h, Ne.symm h]

theorem getElem?_erase_eq (m : BTreeMap K V) (k a : K) :
    (m.erase k)[a]? = if a = k then none else m[a]? := by
  rw [Std.ExtTreeMap.getElem?_erase]
  by_cases h : a = k
  · simp [h]
  · simp [h, Ne.symm h]

@[simp] theorem getElem?_insert_same (m : BTreeMap K V) (k : K) (v : V) : (m.insert k v)[k]? = some v := by
  simp

@[simp] theorem getElem?_erase_same (m : BTreeMap K V) (k : K) : (m.erase k)[k]? = none := by
  simp

theorem getElem?_insert_ne (m : BTreeMap K V) {k a : K} (v : V) (h : a ≠ k) :
    (m.insert k v)[a]? = m[a]? := by
  rw [getElem?_insert_eq, if_neg h]

theorem getElem?_erase_ne (m : BTreeMap K V) {k a : K} (h : a ≠ k) : (m.erase k)[a]? = m[a]? := by
  rw [getElem?_erase_eq, if_neg h]

theorem getElem?_erase_eq_some (m : BTreeMap K V) {k a : K} {v : V} :
    (m.erase k)[a]? = some v ↔ a ≠ k ∧ m[a]? = some v := by
  rw [getElem?_erase_eq]
  by_cases h : a = k <;> simp [h]

theorem mem_iff_exists (m : BTreeMap K V) (k : K) : k ∈ m ↔ ∃ v, m[k]? = some v := by
  rw [Std.ExtTreeMap.mem_iff_isSome_getElem?, Option.isSome_iff_exists]

theorem not_mem_iff (m : BTreeMap K V) (k : K) : k ∉ m ↔ m[k]? = none := by
  rw [Std.ExtTreeMap.mem_iff_isSome_getElem?, Option.not_isSome_iff_eq_none]

theorem mem_insert_iff (m : BTreeMap K V) (k : K) (v : V) (a : K) : a ∈ m.insert k v ↔ a = k ∨ a ∈ m := by
  rw [Std.ExtTreeMap.mem_insert, Std.compare_eq_iff_eq, eq_comm]

theorem mem_erase_iff (m : BTreeMap K V) (k a : K) : a ∈ m.erase k ↔ a ≠ k ∧ a ∈ m := by
  rw [Std.ExtTreeMap.mem_erase, ne_eq, Std.compare_eq_iff_eq, ne_comm]

theorem nodup_toList (m : BTreeMap K V) : m.toList.Nodup :=
  (Std.ExtTreeMap.distinct_keys_toList (t := m)).imp fun {a b} hne heq => by
    rw [heq] at hne
    exact hne Std.ReflCmp.compare_self

theorem toList_empty : (∅ : BTreeMap K V).toList = [] := by
  rw [List.eq_nil_iff_forall_not_mem]
  rintro ⟨k, v⟩ h
  rw [Std.ExtTreeMap.mem_toList_iff_getElem?_eq_some] at h
  simp at h

theorem toList_insert_perm (m : BTreeMap K V) {k : K} (v : V) (h : m[k]? = none) :
    (m.insert k v).toList.Perm ((k, v) :: m.toList) := by
  have hnew : (k, v) ∉ m.toList := by
    rw [Std.ExtTreeMap.mem_toList_iff_getElem?_eq_some, h]
    exact Option.some_ne_none v ∘ Eq.symm
  refine (List.perm_ext_iff_of_nodup (nodup_toList _) (List.nodup_cons.mpr ⟨hnew, nodup_toList m⟩)).mpr ?_
  rintro ⟨a, w⟩
  rw [Std.ExtTreeMap.mem_toList_iff_getElem?_eq_some, getElem?_insert_eq, List.mem_cons,
    Std.ExtTreeMap.mem_toList_iff_getElem?_eq_some, Prod.mk.injEq]
  by_cases ha : a = k
  · simp [ha, h, eq_comm]
  · simp [ha]

theorem toList_erase_perm (m : BTreeMap K V) {k : K} {v : V} (h : m[k]? = some v) :
    m.toList.Perm ((k, v) :: (m.erase k).toList) := by
  have hgone : (k, v) ∉ (m.erase k).toList := by
    rw [Std.ExtTreeMap.mem_toList_iff_getElem?_eq_some, getElem?_erase_same]
    exact Option.some_ne_none v ∘ Eq.symm
  refine (List.perm_ext_iff_of_nodup (nodup_toList m) (List.nodup_cons.mpr ⟨hgone, nodup_toList _⟩)).mpr ?_
  rintro ⟨a, w⟩
  rw [Std.ExtTreeMap.mem_toList_iff_getElem?_eq_some, List.mem_cons,
    Std.ExtTreeMap.mem_toList_iff_getElem?_eq_some, getElem?_erase_eq, Prod.mk.injEq]
  by_cases ha : a = k
  · simp [ha, h, eq_comm]
  · simp [ha]

theorem find?_toList_eq_some_iff (m : BTreeMap K V) {p : K × V → Bool} {k : K} {v : V} :
    m.toList.find? p = some (k, v) ↔
      m[k]? = some v ∧ p (k, v) = true ∧ ∀ a w, m[a]? = some w → compare a k = .lt → p (a, w) = false := by
  have hordered := Std.ExtTreeMap.ordered_keys_toList (t := m)
  constructor
  · intro hfind
    obtain ⟨hp, before, after, hsplit, hbefore⟩ := List.find?_eq_some_iff_append.mp hfind
    refine ⟨Std.ExtTreeMap.mem_toList_iff_getElem?_eq_some.mp (List.mem_of_find?_eq_some hfind), hp, ?_⟩
    intro a w ha hlt
    have hmem : (a, w) ∈ m.toList := Std.ExtTreeMap.mem_toList_iff_getElem?_eq_some.mpr ha
    rw [hsplit, List.mem_append, List.mem_cons] at hmem
    rw [hsplit, List.pairwise_append, List.pairwise_cons] at hordered
    rcases hmem with hmem | heq | hmem
    · simpa using hbefore (a, w) hmem
    · cases heq
      have hrefl : compare k k = .eq := Std.ReflCmp.compare_self
      rw [hrefl] at hlt
      cases hlt
    · have hgt := hordered.2.1.1 (a, w) hmem
      rw [Std.OrientedCmp.gt_of_lt hgt] at hlt
      cases hlt
  · rintro ⟨hk, hp, hleast⟩
    have hmem : (k, v) ∈ m.toList := Std.ExtTreeMap.mem_toList_iff_getElem?_eq_some.mpr hk
    obtain ⟨before, after, hsplit⟩ := List.append_of_mem hmem
    refine List.find?_eq_some_iff_append.mpr ⟨hp, before, after, hsplit, ?_⟩
    rintro ⟨a, w⟩ ha
    rw [hsplit, List.pairwise_append] at hordered
    have hin : (a, w) ∈ m.toList := by
      rw [hsplit]
      exact List.mem_append_left _ ha
    have hw := hleast a w (Std.ExtTreeMap.mem_toList_iff_getElem?_eq_some.mp hin)
      (hordered.2.2 (a, w) ha (k, v) List.mem_cons_self)
    rw [hw]
    rfl

theorem find?_toList_insert {m : BTreeMap K V} {p : K × V → Bool} {k : K} {v w : V}
    (h : m.toList.find? p = some (k, v)) (hp : p (k, w) = true) :
    (m.insert k w).toList.find? p = some (k, w) := by
  obtain ⟨-, -, hleast⟩ := (find?_toList_eq_some_iff m).mp h
  refine (find?_toList_eq_some_iff _).mpr ⟨getElem?_insert_same m k w, hp, ?_⟩
  intro a u ha hlt
  have hne : a ≠ k := by
    rintro rfl
    have hrefl : compare a a = .eq := Std.ReflCmp.compare_self
    rw [hrefl] at hlt
    cases hlt
  rw [getElem?_insert_ne m w hne] at ha
  exact hleast a u ha hlt

def eraseAll (m : BTreeMap K V) (keys : List K) : BTreeMap K V :=
  keys.foldl (fun m k => m.erase k) m

theorem eraseAll_getElem? (keys : List K) (m : BTreeMap K V) (a : K) :
    (eraseAll m keys)[a]? = if a ∈ keys then none else m[a]? := by
  induction keys generalizing m with
  | nil => simp [eraseAll]
  | cons k keys ih =>
    have hrest := ih (m.erase k)
    rw [getElem?_erase_eq] at hrest
    refine hrest.trans ?_
    by_cases ha : a = k <;> simp [ha]

def extend (m : BTreeMap K V) (entries : List (K × V)) : BTreeMap K V :=
  entries.foldl (fun m e => m.insert e.1 e.2) m

def collect (entries : List (K × V)) : BTreeMap K V :=
  extend ∅ entries

@[simp] theorem extend_nil (m : BTreeMap K V) : extend m [] = m := rfl

@[simp] theorem extend_cons (m : BTreeMap K V) (e : K × V) (entries : List (K × V)) :
    extend m (e :: entries) = extend (m.insert e.1 e.2) entries := rfl

theorem mem_extend (entries : List (K × V)) (m : BTreeMap K V) (k : K) :
    k ∈ extend m entries ↔ k ∈ m ∨ ∃ v, (k, v) ∈ entries := by
  induction entries generalizing m with
  | nil => simp
  | cons e entries ih =>
    rw [extend_cons, ih, mem_insert_iff]
    constructor
    · rintro ((rfl | hm) | ⟨v, hv⟩)
      · exact .inr ⟨e.2, List.mem_cons_self⟩
      · exact .inl hm
      · exact .inr ⟨v, List.mem_cons_of_mem e hv⟩
    · rintro (hm | ⟨v, hv⟩)
      · exact .inl (.inr hm)
      · rcases List.mem_cons.mp hv with rfl | hv
        · exact .inl (.inl rfl)
        · exact .inr ⟨v, hv⟩

theorem extend_getElem?_absent (entries : List (K × V)) (m : BTreeMap K V) {k : K}
    (h : ∀ v, (k, v) ∉ entries) : (extend m entries)[k]? = m[k]? := by
  induction entries generalizing m with
  | nil => rfl
  | cons e entries ih =>
    have hk : k ≠ e.1 := fun hk => h e.2 (hk ▸ List.mem_cons_self)
    rw [extend_cons, ih _ (fun v hv => h v (List.mem_cons_of_mem e hv)), getElem?_insert_ne m e.2 hk]

theorem extend_getElem?_cases (entries : List (K × V)) (m : BTreeMap K V) {k : K} {v : V}
    (h : (extend m entries)[k]? = some v) : (k, v) ∈ entries ∨ m[k]? = some v := by
  induction entries generalizing m with
  | nil => exact .inr h
  | cons e entries ih =>
    rcases ih (m.insert e.1 e.2) h with hin | hin
    · exact .inl (List.mem_cons_of_mem e hin)
    · rw [getElem?_insert_eq] at hin
      by_cases hk : k = e.1
      · rw [if_pos hk] at hin
        cases hin
        subst hk
        exact .inl List.mem_cons_self
      · rw [if_neg hk] at hin
        exact .inr hin

theorem extend_getElem?_present (entries : List (K × V)) (m : BTreeMap K V) {k : K} {v : V}
    (hnd : (entries.map Prod.fst).Nodup) (h : (k, v) ∈ entries) : (extend m entries)[k]? = some v := by
  induction entries generalizing m with
  | nil => cases h
  | cons e entries ih =>
    rw [List.map_cons, List.nodup_cons] at hnd
    rcases List.mem_cons.mp h with rfl | he
    · have habsent : ∀ v', (k, v') ∉ entries :=
        fun v' he => hnd.1 (List.mem_map.mpr ⟨(k, v'), he, rfl⟩)
      rw [extend_cons, extend_getElem?_absent entries _ habsent, getElem?_insert_same]
    · exact ih (m.insert e.1 e.2) hnd.2 he

theorem mem_collect (entries : List (K × V)) (k : K) : k ∈ collect entries ↔ ∃ v, (k, v) ∈ entries := by
  simp [collect, mem_extend]

theorem mem_of_collect_getElem? {entries : List (K × V)} {k : K} {v : V}
    (h : (collect entries)[k]? = some v) : (k, v) ∈ entries := by
  rcases extend_getElem?_cases entries ∅ h with hin | hin
  · exact hin
  · simp at hin

theorem collect_getElem? (entries : List (K × V)) (hnd : (entries.map Prod.fst).Nodup) (k : K) (v : V) :
    (collect entries)[k]? = some v ↔ (k, v) ∈ entries := by
  constructor
  · intro h
    obtain ⟨w, hw⟩ := (mem_collect entries k).mp ((mem_iff_exists _ k).mpr ⟨v, h⟩)
    have hsome : (collect entries)[k]? = some w := extend_getElem?_present entries ∅ hnd hw
    rw [h] at hsome
    cases hsome
    exact hw
  · exact extend_getElem?_present entries ∅ hnd

end BTreeMap

namespace BTreeSet

theorem mem_insert_iff (s : BTreeSet K) (k a : K) : a ∈ s.insert k ↔ a = k ∨ a ∈ s := by
  rw [Std.ExtTreeSet.mem_insert, Std.compare_eq_iff_eq, eq_comm]

theorem mem_erase_iff (s : BTreeSet K) (k a : K) : a ∈ s.erase k ↔ a ≠ k ∧ a ∈ s := by
  rw [Std.ExtTreeSet.mem_erase, ne_eq, Std.compare_eq_iff_eq, eq_comm]

theorem insert_of_mem {s : BTreeSet K} {k : K} (h : k ∈ s) : s.insert k = s := by
  apply Std.ExtTreeSet.ext_mem
  intro a
  rw [mem_insert_iff]
  constructor
  · rintro (rfl | ha)
    · exact h
    · exact ha
  · exact .inr

def collect (elements : List K) : BTreeSet K :=
  elements.foldl (fun s a => s.insert a) ∅

theorem mem_foldl_insert (elements : List K) (s : BTreeSet K) (a : K) :
    a ∈ elements.foldl (fun s a => s.insert a) s ↔ a ∈ s ∨ a ∈ elements := by
  induction elements generalizing s with
  | nil => simp
  | cons b elements ih =>
    rw [List.foldl_cons, ih, mem_insert_iff, List.mem_cons]
    tauto

theorem mem_collect (elements : List K) (a : K) : a ∈ collect elements ↔ a ∈ elements := by
  simp [collect, mem_foldl_insert]

end BTreeSet

end Lemnos.Library.OrderedMap
