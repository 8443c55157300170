import Lemnos.Library.OrderedMap

/-! Changes of single entries of a map, and what a log of them leads to. -/

set_option linter.unusedSectionVars false

namespace Lemnos.Library.ChangeLog

open OrderedMap

inductive Change (K V : Type) where
  | put (key : K) (value : V)
  | remove (key : K)

namespace Change

variable {K V : Type}

def key : Change K V → K
  | put key _ | remove key => key

def value : Change K V → Option V
  | put _ value => some value
  | remove _ => none

end Change

variable {K V : Type} [Ord K] [Std.TransOrd K] [Std.LawfulEqOrd K] [DecidableEq K]

def apply (m : BTreeMap K V) : Change K V → BTreeMap K V
  | .put key value => m.insert key value
  | .remove key => m.erase key

def replay (m : BTreeMap K V) (changes : List (Change K V)) : BTreeMap K V :=
  changes.foldl apply m

theorem replay_append (m : BTreeMap K V) (changes later : List (Change K V)) :
    replay m (changes ++ later) = replay (replay m changes) later := by
  rw [replay, List.foldl_append]
  rfl

theorem apply_getElem? (m : BTreeMap K V) (change : Change K V) (k : K) :
    (apply m change)[k]? = if k = change.key then change.value else m[k]? := by
  cases change with
  | put key value => exact BTreeMap.getElem?_insert_eq m key value k
  | remove key => exact BTreeMap.getElem?_erase_eq m key k

theorem replay_getElem?_untouched (changes : List (Change K V)) (m : BTreeMap K V) {k : K}
    (h : k ∉ changes.map Change.key) : (replay m changes)[k]? = m[k]? := by
  induction changes generalizing m with
  | nil => rfl
  | cons change changes ih =>
    rw [List.map_cons, List.mem_cons, not_or] at h
    have hrest := ih (apply m change) h.2
    rw [apply_getElem?, if_neg h.1] at hrest
    exact hrest

theorem replay_getElem?_touched (changes : List (Change K V)) (m : BTreeMap K V)
    (hnd : (changes.map Change.key).Nodup) {change : Change K V} (h : change ∈ changes) :
    (replay m changes)[change.key]? = change.value := by
  induction changes generalizing m with
  | nil => cases h
  | cons first changes ih =>
    rw [List.map_cons, List.nodup_cons] at hnd
    by_cases hfirst : change = first
    · -- no later change touches the key again
      rw [hfirst]
      have hrest := replay_getElem?_untouched changes (apply m first) hnd.1
      rw [apply_getElem?, if_pos rfl] at hrest
      exact hrest
    · have hlater := (List.mem_cons.mp h).resolve_left hfirst
      exact ih (apply m first) hnd.2 hlater

theorem replay_eq {changes : List (Change K V)} {m m' : BTreeMap K V}
    (hnd : (changes.map Change.key).Nodup) (htouched : ∀ change ∈ changes, m'[change.key]? = change.value)
    (huntouched : ∀ k, k ∉ changes.map Change.key → m'[k]? = m[k]?) : replay m changes = m' := by
  apply Std.ExtTreeMap.ext_getElem?
  intro k
  by_cases hk : k ∈ changes.map Change.key
  · obtain ⟨change, hchange, rfl⟩ := List.mem_map.mp hk
    rw [replay_getElem?_touched changes m hnd hchange, htouched change hchange]
  · rw [replay_getElem?_untouched changes m hk, huntouched k hk]

theorem nodup_filterMap_keys {α : Type} (m : BTreeMap K V) (pick : K × V → Option α) (name : α → K)
    (h : ∀ k v a, m[k]? = some v → pick (k, v) = some a → name a = k) :
    ((m.toList.filterMap pick).map name).Nodup := by
  have hsub : ∀ entries : List (K × V), (∀ entry ∈ entries, m[entry.1]? = some entry.2) →
      ((entries.filterMap pick).map name).Sublist (entries.map Prod.fst) := by
    intro entries hentries
    induction entries with
    | nil => exact List.Sublist.slnil
    | cons entry entries ih =>
      have hrest := ih (fun other hother => hentries other (List.mem_cons_of_mem entry hother))
      rw [List.filterMap_cons, List.map_cons]
      cases hpick : pick entry with
      | none => exact hrest.cons _
      | some a =>
        rw [List.map_cons, h entry.1 entry.2 a (hentries entry List.mem_cons_self) hpick]
        exact hrest.cons_cons _
  apply List.Nodup.sublist (hsub m.toList _)
  · rw [Std.ExtTreeMap.map_fst_toList_eq_keys]
    exact Std.ExtTreeMap.nodup_keys
  · rintro ⟨k, v⟩ hentry
    exact Std.ExtTreeMap.mem_toList_iff_getElem?_eq_some.mp hentry

end Lemnos.Library.ChangeLog
