import Lemnos.Library.Runs
import Mathlib.Algebra.GroupWithZero.Nat

/-! Workers with a batch of jobs each, moving one at a time in any order. -/

namespace Lemnos.Library.Workers

open Runs

structure Worker (J R : Type) where
  waiting : List J
  running : Option J := none
  finished : List R := []

/-- The history lists which worker made each of the moves so far. -/
structure Pool (J R : Type) where
  workers : List (Worker J R)
  history : List ℕ := []

variable {J R : Type}

def spawn (batches : List (List J)) : Pool J R := { workers := batches.map (fun waiting => { waiting }) }

namespace Worker

def pending (worker : Worker J R) : List J := worker.running.toList ++ worker.waiting

def move (answer : J → R) (worker : Worker J R) : Option (Worker J R) :=
  match worker.running, worker.waiting with
  | some job, _ => some { worker with running := none, finished := worker.finished ++ [answer job] }
  | none, job :: waiting => some { worker with running := some job, waiting }
  | none, [] => none

def movesLeft (worker : Worker J R) : ℕ := worker.running.toList.length + 2 * worker.waiting.length

def promised (f : J → R) (worker : Worker J R) : List R := worker.finished ++ worker.pending.map f

variable {answer f : J → R} {worker worker' : Worker J R}

theorem move_cases (h : worker.move answer = some worker') :
    (∃ job, worker.pending = job :: worker'.pending ∧ worker'.finished = worker.finished ++ [answer job]) ∨
      worker'.pending = worker.pending ∧ worker'.finished = worker.finished := by
  unfold move at h
  split at h
  · rename_i job hrunning
    cases h
    exact .inl ⟨job, by simp [pending, hrunning], rfl⟩
  · rename_i job waiting hrunning hwaiting
    cases h
    exact .inr ⟨by simp [pending, hrunning, hwaiting], rfl⟩
  · cases h

theorem move_movesLeft (h : worker.move answer = some worker') :
    worker'.movesLeft + 1 = worker.movesLeft := by
  unfold move at h
  split at h
  · rename_i job hrunning
    cases h
    simp only [movesLeft, hrunning, Option.toList_none, Option.toList_some, List.length_nil,
      List.length_singleton]
    omega
  · rename_i job waiting hrunning hwaiting
    cases h
    simp only [movesLeft, hrunning, hwaiting, Option.toList_none, Option.toList_some, List.length_nil,
      List.length_cons]
    omega
  · cases h

theorem move_eq_none_iff : worker.move answer = none ↔ worker.pending = [] := by
  unfold move pending
  cases worker.running <;> cases worker.waiting <;> simp

theorem move_promised (hanswer : ∀ job ∈ worker.pending, answer job = f job)
    (h : worker.move answer = some worker') : worker'.promised f = worker.promised f := by
  rcases move_cases h with ⟨job, hpending, hfinished⟩ | ⟨hpending, hfinished⟩
  · rw [promised, promised, hpending, hfinished, hanswer job (by simp [hpending]), List.map_cons,
      List.append_assoc, List.singleton_append]
  · rw [promised, promised, hpending, hfinished]

end Worker

namespace Pool

variable {answer : List ℕ → J → R} {f : J → R} {pool pool' : Pool J R} {batches : List (List J)}

/-- What comes of a job may depend on everything that happened before its end. -/
def step (answer : List ℕ → J → R) (i : ℕ) (pool : Pool J R) : Option (Pool J R) :=
  pool.workers[i]?.bind (fun worker => (worker.move (answer pool.history)).map (fun worker =>
    ⟨pool.workers.set i worker, pool.history ++ [i]⟩))

def Joined (pool : Pool J R) : Prop := ∀ worker ∈ pool.workers, worker.pending = []

def results (pool : Pool J R) : List R := pool.workers.flatMap Worker.finished

def movesLeft (pool : Pool J R) : ℕ := (pool.workers.map Worker.movesLeft).sum

theorem step_cases {i : ℕ} (h : pool.step answer i = some pool') :
    ∃ before worker after worker', pool.workers = before ++ worker :: after ∧
      worker.move (answer pool.history) = some worker' ∧ pool'.workers = before ++ worker' :: after := by
  obtain ⟨worker, hworker, hmove⟩ := Option.bind_eq_some_iff.mp h
  obtain ⟨worker', hmoved, rfl⟩ := Option.map_eq_some_iff.mp hmove
  obtain ⟨before, after, hworkers, -, hset⟩ := exists_split hworker
  exact ⟨before, worker, after, worker', hworkers, hmoved, hset worker'⟩

theorem spawn_movesLeft (batches : List (List J)) :
    (spawn batches : Pool J R).movesLeft = 2 * batches.flatten.length := by
  induction batches with
  | nil => rfl
  | cons batch batches ih =>
    rw [List.flatten_cons, List.length_append, Nat.mul_add, ← ih]
    simp [movesLeft, spawn, Worker.movesLeft]

/-- The pool serves its batches: what is pending comes from them, and each worker is to deliver what comes of
its batch. -/
structure Serves (f : J → R) (batches : List (List J)) (pool : Pool J R) : Prop where
  pending : ∀ worker ∈ pool.workers, ∀ job ∈ worker.pending, job ∈ batches.flatten
  promised : pool.workers.map (Worker.promised f) = batches.map (List.map f)

theorem spawn_serves (f : J → R) (batches : List (List J)) : (spawn batches).Serves f batches where
  pending := by
    intro worker hworker job hjob
    obtain ⟨batch, hbatch, rfl⟩ := List.mem_map.mp hworker
    exact List.mem_flatten.mpr ⟨batch, hbatch, hjob⟩
  promised := by
    rw [spawn, List.map_map]
    exact List.map_congr_left fun batch _ => rfl

theorem step_serves (hanswer : ∀ history, ∀ job ∈ batches.flatten, answer history job = f job)
    {i : ℕ} (h : pool.Serves f batches) (hs : pool.step answer i = some pool') : pool'.Serves f batches := by
  obtain ⟨before, worker, after, worker', hworkers, hmove, hworkers'⟩ := step_cases hs
  have hpending := h.pending worker (by simp [hworkers])
  constructor
  · intro other hother job hjob
    rw [hworkers', List.mem_append, List.mem_cons] at hother
    rcases hother with hbefore | rfl | hafter
    · exact h.pending other (by simp [hworkers, hbefore]) job hjob
    · apply hpending
      rcases Worker.move_cases hmove with ⟨done, hsplit, -⟩ | ⟨hsame, -⟩
      · rw [hsplit]
        exact List.mem_cons_of_mem done hjob
      · rwa [hsame] at hjob
    · exact h.pending other (by simp [hworkers, hafter]) job hjob
  · have hpromised := Worker.move_promised (fun job hjob => hanswer pool.history job (hpending job hjob)) hmove
    rw [← h.promised, hworkers, hworkers', List.map_append, List.map_append, List.map_cons, List.map_cons,
      hpromised]

theorem step_movesLeft {i : ℕ} (h : pool.step answer i = some pool') :
    pool'.movesLeft + 1 = pool.movesLeft := by
  obtain ⟨before, worker, after, worker', hworkers, hmove, hworkers'⟩ := step_cases h
  have hone := Worker.move_movesLeft hmove
  simp only [movesLeft, hworkers, hworkers', List.map_append, List.map_cons, List.sum_append, List.sum_cons]
  omega

theorem exists_step (h : ¬pool.Joined) : ∃ i pool', pool.step answer i = some pool' := by
  unfold Joined at h
  push Not at h
  obtain ⟨worker, hworker, hpending⟩ := h
  obtain ⟨i, hi⟩ := List.mem_iff_getElem?.mp hworker
  obtain ⟨worker', hmove⟩ := Option.ne_none_iff_exists'.mp
    (mt (@Worker.move_eq_none_iff J R (answer pool.history) worker).mp hpending)
  exact ⟨i, _, by rw [step, hi, Option.bind_some, hmove, Option.map_some]⟩

theorem run_movesLeft {schedule : List ℕ} (h : run (step answer) schedule pool = some pool') :
    pool'.movesLeft + schedule.length = pool.movesLeft := by
  induction schedule generalizing pool with
  | nil =>
    cases h
    rfl
  | cons i schedule ih =>
    obtain ⟨next, hnext, hrest⟩ := run_cons h
    have hone := step_movesLeft hnext
    have hlater := ih hrest
    rw [List.length_cons]
    omega

theorem results_of_joined (hanswer : ∀ history, ∀ job ∈ batches.flatten, answer history job = f job)
    {schedule : List ℕ} (hrun : run (step answer) schedule (spawn batches) = some pool) (hjoined : pool.Joined) :
    pool.results = batches.flatten.map f := by
  have hserves : pool.Serves f batches := run_invariant (fun _ _ _ => step_serves hanswer)
    (spawn_serves f batches) hrun
  have hfinished : pool.workers.map Worker.finished = pool.workers.map (Worker.promised f) := by
    apply List.map_congr_left
    intro worker hworker
    rw [Worker.promised, hjoined worker hworker, List.map_nil, List.append_nil]
  rw [results, List.flatMap_def, hfinished, hserves.promised, List.map_flatten]

end Pool

end Lemnos.Library.Workers
