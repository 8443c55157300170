import Lemnos.Library.OrderedMap

/-! A table of weak references to objects that are made on demand. A handle keeps its object alive; an entry
whose object has no handle left is dead, and may be cleaned away or replaced. -/

set_option linter.unusedSectionVars false

namespace Lemnos.Library.OrderedMap

structure WeakTable (K : Type) [Ord K] where
  entries : BTreeMap K ℕ := ∅
  handles : List (K × ℕ) := []
  created : ℕ := 0

namespace WeakTable

variable {K : Type} [Ord K] [Std.TransOrd K] [Std.LawfulEqOrd K] [DecidableEq K]

def strongCount (table : WeakTable K) (object : ℕ) : ℕ := (table.handles.map Prod.snd).count object

def upgrade (table : WeakTable K) (key : K) : Option ℕ :=
  table.entries[key]?.filter fun object => 0 < table.strongCount object

def clean (table : WeakTable K) (key : K) : WeakTable K :=
  if (table.upgrade key).isSome then table else { table with entries := table.entries.erase key }

def get (table : WeakTable K) (key : K) : ℕ × WeakTable K :=
  match table.upgrade key with
  | some object => (object, { table with handles := (key, object) :: table.handles })
  | none =>
    (table.created,
      { entries := table.entries.insert key table.created
        handles := (key, table.created) :: table.handles
        created := table.created + 1 })

def drop (table : WeakTable K) (handle : K × ℕ) : WeakTable K :=
  { table with handles := table.handles.erase handle }

/-- Every handle is to the object in the entry of its key, and no object is in two entries. -/
structure Sound (table : WeakTable K) : Prop where
  listed : ∀ key object, (key, object) ∈ table.handles → table.entries[key]? = some object
  created : ∀ (key : K) (object : ℕ), table.entries[key]? = some object → object < table.created
  apart : ∀ (key key' : K) (object : ℕ),
    table.entries[key]? = some object → table.entries[key']? = some object → key = key'

variable {table : WeakTable K}

theorem strongCount_pos {key : K} {object : ℕ} (h : (key, object) ∈ table.handles) :
    0 < table.strongCount object :=
  List.count_pos_iff.mpr (List.mem_map_of_mem h)

namespace Sound

theorem empty : Sound ({} : WeakTable K) where
  listed key object h := by cases h
  created key object h := by simp at h
  apart key key' object h := by simp at h

theorem upgrade_eq (h : table.Sound) {key : K} {object : ℕ} (hhandle : (key, object) ∈ table.handles) :
    table.upgrade key = some object := by
  rw [upgrade, h.listed key object hhandle, Option.filter_some, if_pos]
  exact decide_eq_true (strongCount_pos hhandle)

theorem unique (h : table.Sound) {key : K} {object object' : ℕ} (hhandle : (key, object) ∈ table.handles)
    (hhandle' : (key, object') ∈ table.handles) : object = object' := by
  have hentry := h.listed key object hhandle
  rw [h.listed key object' hhandle'] at hentry
  exact (Option.some.inj hentry).symm

theorem clean (h : table.Sound) (key : K) : (table.clean key).Sound := by
  rw [WeakTable.clean]
  by_cases halive : (table.upgrade key).isSome = true
  · rw [if_pos halive]
    exact h
  · rw [if_neg halive]
    have hentry : ∀ {other : K} {object : ℕ}, (table.entries.erase key)[other]? = some object →
        table.entries[other]? = some object :=
      fun herased => ((BTreeMap.getElem?_erase_eq_some table.entries).mp herased).2
    refine ⟨?_, ?_, ?_⟩
    · intro other object hhandle
      refine (BTreeMap.getElem?_erase_eq_some table.entries).mpr ⟨?_, h.listed other object hhandle⟩
      rintro rfl
      rw [h.upgrade_eq hhandle] at halive
      exact halive rfl
    · intro other object herased
      exact h.created other object (hentry herased)
    · intro other other' object herased herased'
      exact h.apart other other' object (hentry herased) (hentry herased')

theorem drop (h : table.Sound) (handle : K × ℕ) : (table.drop handle).Sound where
  listed key object hhandle := h.listed key object (List.mem_of_mem_erase hhandle)
  created := h.created
  apart := h.apart

theorem get (h : table.Sound) (key : K) : (table.get key).2.Sound := by
  rw [WeakTable.get]
  cases hupgrade : table.upgrade key with
  | some object =>
    refine ⟨?_, h.created, h.apart⟩
    intro other other' hhandle
    rcases List.mem_cons.mp hhandle with heq | hold
    · cases heq
      exact (Option.filter_eq_some_iff.mp hupgrade).1
    · exact h.listed other other' hold
  | none =>
    have hnew : ∀ {other : K} {object : ℕ}, (table.entries.insert key table.created)[other]? = some object →
        other = key ∧ object = table.created ∨ other ≠ key ∧ table.entries[other]? = some object := by
      intro other object hentry
      rw [BTreeMap.getElem?_insert_eq] at hentry
      by_cases hother : other = key
      · rw [if_pos hother] at hentry
        exact .inl ⟨hother, (Option.some.inj hentry).symm⟩
      · rw [if_neg hother] at hentry
        exact .inr ⟨hother, hentry⟩
    refine ⟨?_, ?_, ?_⟩
    · intro other object hhandle
      rcases List.mem_cons.mp hhandle with heq | hold
      · cases heq
        exact BTreeMap.getElem?_insert_same table.entries key table.created
      · have hne : other ≠ key := by
          intro heq
          rw [← heq, h.upgrade_eq hold] at hupgrade
          cases hupgrade
        rw [BTreeMap.getElem?_insert_ne table.entries table.created hne]
        exact h.listed other object hold
    · intro other object hentry
      rcases hnew hentry with ⟨-, rfl⟩ | ⟨-, hold⟩
      · exact Nat.lt_succ_self _
      · exact Nat.lt_succ_of_lt (h.created other object hold)
    · intro other other' object hentry hentry'
      rcases hnew hentry with ⟨rfl, rfl⟩ | ⟨-, hold⟩
      · rcases hnew hentry' with ⟨rfl, -⟩ | ⟨-, hold'⟩
        · rfl
        · exact absurd (h.created other' table.created hold') (Nat.lt_irrefl _)
      · rcases hnew hentry' with ⟨-, rfl⟩ | ⟨-, hold'⟩
        · exact absurd (h.created other table.created hold) (Nat.lt_irrefl _)
        · exact h.apart other other' object hold hold'

end Sound

theorem get_handles (table : WeakTable K) (key : K) :
    (table.get key).2.handles = (key, (table.get key).1) :: table.handles := by
  rw [get]
  cases table.upgrade key <;> rfl

theorem clean_handles (table : WeakTable K) (key : K) : (table.clean key).handles = table.handles := by
  rw [clean]
  split <;> rfl

end WeakTable

end Lemnos.Library.OrderedMap
