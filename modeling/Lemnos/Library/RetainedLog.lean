import Mathlib.Data.List.Nodup

/-! A window on the end of a growing history, and the readers that follow it. -/

namespace Lemnos.Library.RetainedLog

variable {ε : Type}

/-- The retained end of a history, whose first `base` entries were let go. -/
structure Window (ε : Type) where
  base : ℕ
  retained : List ε

namespace Window

def tail (w : Window ε) : ℕ := w.base + w.retained.length

def push (w : Window ε) (entries : List ε) : Window ε :=
  { w with retained := w.retained ++ entries }

def letGo (w : Window ε) (n : ℕ) : Window ε :=
  ⟨w.base + n, w.retained.drop n⟩

def Shows (w : Window ε) (history : List ε) : Prop :=
  w.base ≤ history.length ∧ w.retained = history.drop w.base

theorem Shows.tail_eq {w : Window ε} {history : List ε} (h : w.Shows history) : w.tail = history.length := by
  rw [tail, h.2, List.length_drop]
  have := h.1
  omega

theorem Shows.push {w : Window ε} {history : List ε} (h : w.Shows history) (entries : List ε) :
    (w.push entries).Shows (history ++ entries) := by
  refine ⟨?_, ?_⟩
  · rw [List.length_append]
    exact Nat.le_add_right_of_le h.1
  · rw [Window.push, h.2, List.drop_append_of_le_length h.1]

theorem Shows.letGo {w : Window ε} {history : List ε} (h : w.Shows history) {n : ℕ}
    (hn : n ≤ w.retained.length) : (w.letGo n).Shows history := by
  refine ⟨?_, ?_⟩
  · have htail := h.tail_eq
    simp only [tail] at htail
    simp only [Window.letGo]
    omega
  · rw [Window.letGo, h.2, List.drop_drop]

theorem shows_empty : (⟨0, []⟩ : Window ε).Shows [] := ⟨Nat.le_refl 0, rfl⟩

def readFrom (w : Window ε) (position : ℕ) : List ε :=
  w.retained.drop (min (max position w.base) w.tail - w.base)

theorem Shows.readFrom_eq {w : Window ε} {history : List ε} (h : w.Shows history) (position : ℕ) :
    w.readFrom position = history.drop (max position w.base) := by
  rw [readFrom, h.2, List.drop_drop, h.tail_eq]
  rcases Nat.le_total (max position w.base) history.length with hle | hle
  · rw [Nat.min_eq_left hle]
    congr 1
    omega
  · have hb := h.1
    rw [Nat.min_eq_right hle, List.drop_eq_nil_of_le hle, List.drop_eq_nil_of_le (by omega)]

theorem Shows.readFrom_length {w : Window ε} {history : List ε} (h : w.Shows history) (position : ℕ) :
    (w.readFrom position).length = w.tail - max position w.base := by
  rw [h.readFrom_eq, List.length_drop, h.tail_eq]

end Window

def numbered (start : ℕ) (entries : List ε) : List (ℕ × ε) :=
  (entries.zipIdx start).map Prod.swap

theorem mem_numbered (start : ℕ) (entries : List ε) (i : ℕ) (e : ε) :
    (i, e) ∈ numbered start entries ↔ start ≤ i ∧ entries[i - start]? = some e := by
  have hswap : (i, e) ∈ numbered start entries ↔ (e, i) ∈ entries.zipIdx start := by
    simp [numbered]
  rw [hswap, List.mk_mem_zipIdx_iff_le_and_getElem?_sub]

theorem numbered_indices (start : ℕ) (entries : List ε) :
    (numbered start entries).map Prod.fst = List.range' start entries.length := by
  rw [numbered, List.map_map]
  exact List.zipIdx_map_snd start entries

/-- A reader that started at an index, with the numbered entries it got and the indices it missed. -/
structure Reader (ε : Type) where
  start : ℕ
  next : ℕ
  delivered : List (ℕ × ε) := []
  missed : List ℕ := []

namespace Reader

def subscribe (position : ℕ) : Reader ε := { start := position, next := position }

def read (r : Reader ε) (w : Window ε) : Reader ε where
  start := r.start
  next := w.tail
  delivered := r.delivered ++ numbered (max r.next w.base) (w.readFrom r.next)
  missed := r.missed ++ List.range' r.next (w.base - r.next)

/-- Every index from the start to the position was delivered once or was let go before the read. -/
structure Exact (r : Reader ε) (w : Window ε) (history : List ε) : Prop where
  start_le : r.start ≤ r.next
  next_le : r.next ≤ history.length
  entries : ∀ i e, (i, e) ∈ r.delivered → history[i]? = some e
  increasing : (r.delivered.map Prod.fst).Pairwise (· < ·)
  accounted : ∀ i, i ∈ r.delivered.map Prod.fst ∨ i ∈ r.missed ↔ r.start ≤ i ∧ i < r.next
  disjoint : ∀ i ∈ r.delivered.map Prod.fst, i ∉ r.missed
  missed_gone : ∀ i ∈ r.missed, i < w.base

variable {r : Reader ε} {w : Window ε} {history : List ε}

theorem subscribe_exact {position : ℕ} (h : position ≤ history.length) :
    (subscribe position : Reader ε).Exact w history where
  start_le := Nat.le_refl _
  next_le := h
  entries := fun _ _ he => by cases he
  increasing := List.Pairwise.nil
  accounted := fun i => by simp [subscribe]
  disjoint := fun _ he => by cases he
  missed_gone := fun _ he => by cases he

theorem Exact.push (h : r.Exact w history) (entries : List ε) : r.Exact (w.push entries)
    (history ++ entries) where
  start_le := h.start_le
  next_le := by
    rw [List.length_append]
    exact Nat.le_add_right_of_le h.next_le
  entries := fun i e he => by
    have hi := h.entries i e he
    rw [List.getElem?_append_left (List.getElem?_eq_some_iff.mp hi).1]
    exact hi
  increasing := h.increasing
  accounted := h.accounted
  disjoint := h.disjoint
  missed_gone := h.missed_gone

theorem Exact.letGo (h : r.Exact w history) (n : ℕ) : r.Exact (w.letGo n) history where
  start_le := h.start_le
  next_le := h.next_le
  entries := h.entries
  increasing := h.increasing
  accounted := h.accounted
  disjoint := h.disjoint
  missed_gone := fun i hi => Nat.lt_add_right n (h.missed_gone i hi)

theorem Exact.delivered_before (h : r.Exact w history) : ∀ i ∈ r.delivered.map Prod.fst, i < r.next :=
  fun i hi => ((h.accounted i).mp (.inl hi)).2

theorem Exact.missed_before (h : r.Exact w history) : ∀ i ∈ r.missed, i < r.next :=
  fun i hi => ((h.accounted i).mp (.inr hi)).2

theorem Exact.mem_read (h : r.Exact w history) (hw : w.Shows history) (i : ℕ) :
    i ∈ (numbered (max r.next w.base) (w.readFrom r.next)).map Prod.fst ↔
      max r.next w.base ≤ i ∧ i < w.tail := by
  rw [numbered_indices, List.mem_range'_1, hw.readFrom_length]
  have htail := hw.tail_eq
  have hbase := hw.1
  have hnext := h.next_le
  omega

theorem mem_skipped (r : Reader ε) (w : Window ε) (i : ℕ) :
    i ∈ List.range' r.next (w.base - r.next) ↔ r.next ≤ i ∧ i < w.base := by
  rw [List.mem_range'_1]
  omega

theorem Exact.read_accounted (h : r.Exact w history) (hw : w.Shows history) (i : ℕ) :
    i ∈ (r.read w).delivered.map Prod.fst ∨ i ∈ (r.read w).missed ↔ r.start ≤ i ∧ i < w.tail := by
  simp only [Reader.read, List.map_append, List.mem_append, h.mem_read hw, mem_skipped]
  have htail := hw.tail_eq
  have hbase := hw.1
  have hacc := h.accounted i
  have hstart := h.start_le
  have hnext := h.next_le
  constructor
  · rintro ((hi | hi) | (hi | hi))
    · have := hacc.mp (.inl hi)
      omega
    · omega
    · have := hacc.mp (.inr hi)
      omega
    · omega
  · intro hi
    rcases Nat.lt_or_ge i r.next with hlt | hge
    · rcases hacc.mpr ⟨hi.1, hlt⟩ with hd | hm
      · exact .inl (.inl hd)
      · exact .inr (.inl hm)
    · rcases Nat.lt_or_ge i w.base with hb | hb
      · exact .inr (.inr ⟨hge, hb⟩)
      · exact .inl (.inr ⟨by omega, hi.2⟩)

theorem Exact.read_disjoint (h : r.Exact w history) (hw : w.Shows history) :
    ∀ i ∈ (r.read w).delivered.map Prod.fst, i ∉ (r.read w).missed := by
  intro i hi hm
  simp only [Reader.read, List.map_append, List.mem_append, h.mem_read hw, mem_skipped] at hi hm
  rcases hi with hi | hi
  · rcases hm with hm | hm
    · exact h.disjoint i hi hm
    · have := h.delivered_before i hi
      omega
  · rcases hm with hm | hm
    · have := h.missed_before i hm
      omega
    · omega

theorem Exact.read (h : r.Exact w history) (hw : w.Shows history) : (r.read w).Exact w history where
  start_le := by
    rw [Reader.read, hw.tail_eq]
    exact Nat.le_trans h.start_le h.next_le
  next_le := Nat.le_of_eq hw.tail_eq
  entries := by
    intro i e he
    rcases List.mem_append.mp he with he | he
    · exact h.entries i e he
    · obtain ⟨hle, hi⟩ := (mem_numbered _ _ i e).mp he
      rw [hw.readFrom_eq, List.getElem?_drop, Nat.add_sub_cancel' hle] at hi
      exact hi
  increasing := by
    -- earlier reads stayed below the position at which this one starts
    simp only [Reader.read, List.map_append]
    refine List.pairwise_append.mpr ⟨h.increasing, ?_, ?_⟩
    · rw [numbered_indices]
      exact List.pairwise_lt_range'
    · intro i hi j hj
      have := h.delivered_before i hi
      have := (h.mem_read hw j).mp hj
      omega
  accounted := h.read_accounted hw
  disjoint := h.read_disjoint hw
  missed_gone := by
    intro i hi
    rcases List.mem_append.mp hi with hi | hi
    · exact h.missed_gone i hi
    · exact ((mem_skipped r w i).mp hi).2

end Reader

end Lemnos.Library.RetainedLog
