import Mathlib.Logic.Function.Basic

/-! Queues under keys: what is put in at one end of a queue comes out at the other, once and in order. -/

namespace Lemnos.Library.Queues

variable {κ α : Type} [DecidableEq κ]

abbrev Waiting (κ α : Type) := κ → List α

inductive QueueCall (κ α : Type) where
  | push (key : κ) (a : α)
  | take (key : κ)
  | clear (keys : κ → Bool)

namespace QueueCall

def step : QueueCall κ α → Waiting κ α → Option (κ × α) × Waiting κ α
  | push key a, queues => (none, Function.update queues key (queues key ++ [a]))
  | take key, queues => ((queues key).head?.map fun a => (key, a), Function.update queues key (queues key).tail)
  | clear keys, queues => (none, fun key => if keys key then [] else queues key)

def pushed (key : κ) : QueueCall κ α → List α
  | push key' a => if key' = key then [a] else []
  | _ => []

def Clears (key : κ) : QueueCall κ α → Prop
  | clear keys => keys key = true
  | _ => False

end QueueCall

def run : List (QueueCall κ α) → Waiting κ α → List (κ × α) × Waiting κ α
  | [], queues => ([], queues)
  | call :: calls, queues =>
    let (taken, queues) := call.step queues
    let (more, queues) := run calls queues
    (taken.toList ++ more, queues)

def takenFrom (key : κ) (taken : List (κ × α)) : List α :=
  taken.filterMap fun entry => if entry.1 = key then some entry.2 else none

def pushedTo (key : κ) (calls : List (QueueCall κ α)) : List α := calls.flatMap (QueueCall.pushed key)

theorem run_append (calls later : List (QueueCall κ α)) (queues : Waiting κ α) :
    run (calls ++ later) queues =
      ((run calls queues).1 ++ (run later (run calls queues).2).1, (run later (run calls queues).2).2) := by
  induction calls generalizing queues with
  | nil => rfl
  | cons call calls ih => simp only [List.cons_append, run, ih, List.append_assoc]

theorem takenFrom_append (key : κ) (taken more : List (κ × α)) :
    takenFrom key (taken ++ more) = takenFrom key taken ++ takenFrom key more := List.filterMap_append

theorem step_conserves {key : κ} {call : QueueCall κ α} (h : ¬ call.Clears key) (queues : Waiting κ α) :
    queues key ++ call.pushed key =
      takenFrom key (call.step queues).1.toList ++ (call.step queues).2 key := by
  cases call with
  | push key' a =>
    by_cases hkey : key' = key
    · subst hkey
      simp [QueueCall.pushed, QueueCall.step, takenFrom]
    · simp [QueueCall.pushed, QueueCall.step, takenFrom, hkey, Ne.symm hkey]
  | take key' =>
    by_cases hkey : key' = key
    · subst hkey
      cases hqueue : queues key' <;> simp [QueueCall.pushed, QueueCall.step, takenFrom, hqueue]
    · cases hqueue : queues key' <;>
        simp [QueueCall.pushed, QueueCall.step, takenFrom, hqueue, hkey, Ne.symm hkey]
  | clear keys => simp_all [QueueCall.pushed, QueueCall.step, takenFrom, QueueCall.Clears]

theorem run_conserves {key : κ} (calls : List (QueueCall κ α)) (h : ∀ call ∈ calls, ¬ call.Clears key)
    (queues : Waiting κ α) :
    queues key ++ pushedTo key calls = takenFrom key (run calls queues).1 ++ (run calls queues).2 key := by
  induction calls generalizing queues with
  | nil => simp [pushedTo, run, takenFrom]
  | cons call calls ih =>
    have hfirst := step_conserves (h call List.mem_cons_self) queues
    have hrest := ih (fun call hcall => h call (List.mem_cons_of_mem _ hcall)) (call.step queues).2
    calc queues key ++ pushedTo key (call :: calls)
        = (queues key ++ call.pushed key) ++ pushedTo key calls := by
          rw [pushedTo, List.flatMap_cons, List.append_assoc, pushedTo]
      _ = takenFrom key (call.step queues).1.toList ++ ((call.step queues).2 key ++ pushedTo key calls) := by
          rw [hfirst, List.append_assoc]
      _ = takenFrom key (run (call :: calls) queues).1 ++ (run (call :: calls) queues).2 key := by
          rw [hrest, ← List.append_assoc, ← takenFrom_append]
          rfl

end Lemnos.Library.Queues
