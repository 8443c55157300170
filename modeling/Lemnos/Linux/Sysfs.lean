import Lemnos.Bus.Session
import Lemnos.Library.Frames
import Lemnos.Library.Runs
import Lemnos.Linux.Files
import Mathlib.Logic.Function.Basic

namespace Lemnos.Linux

open Lemnos.Core Bus Library.Frames Library.Runs

inductive FileCall where
  | read (path : String)
  | write (path text : String)
  | exists (path : String)
  deriving DecidableEq

structure SysfsHost where
  read : List FileCall → String → Except String Unit
  write : List FileCall → String → String → Except String Unit
  exists_ : List FileCall → String → Bool

structure Sysfs where
  files : String → Option String
  calls : List FileCall := []

namespace FileCall

def applied (call : FileCall) (files : String → Option String) : String → Option String :=
  match call with
  | .write path text => Function.update files path (some text)
  | .read _ | .exists _ => files

def step (call : FileCall) (files : String → Option String) : Option (String → Option String) :=
  some (call.applied files)

def IsWrite (call : FileCall) : Prop := ∃ path text, call = .write path text

theorem applied_of_not_isWrite {call : FileCall} (h : ¬call.IsWrite) (files : String → Option String) :
    call.applied files = files := by
  cases call with
  | read path => rfl
  | write path text => exact (h ⟨path, text, rfl⟩).elim
  | «exists» path => rfl

theorem run_of_not_isWrite {calls : List FileCall} (h : ∀ call ∈ calls, ¬call.IsWrite)
    (files : String → Option String) : run step calls files = some files := by
  induction calls with
  | nil => rfl
  | cons call calls ih =>
    rw [run, step, applied_of_not_isWrite (h call List.mem_cons_self), Option.bind_some]
    exact ih fun later hlater => h later (List.mem_cons_of_mem _ hlater)

end FileCall

namespace Sysfs

def called (call : FileCall) (sysfs : Sysfs) : Sysfs := { sysfs with calls := sysfs.calls ++ [call] }

def apply (call : FileCall) (sysfs : Sysfs) : Sysfs where
  files := call.applied sysfs.files
  calls := sysfs.calls ++ [call]

@[simp] theorem called_calls (call : FileCall) (sysfs : Sysfs) :
    (sysfs.called call).calls = sysfs.calls ++ [call] := rfl

@[simp] theorem apply_files (call : FileCall) (sysfs : Sysfs) :
    (sysfs.apply call).files = call.applied sysfs.files := rfl

@[simp] theorem apply_calls (call : FileCall) (sysfs : Sysfs) :
    (sysfs.apply call).calls = sysfs.calls ++ [call] := rfl

end Sysfs

namespace SysfsHost

variable (host : SysfsHost)

def answer (calls : List FileCall) : FileCall → Except String Unit
  | .read path => host.read calls path
  | .write path text => host.write calls path text
  | .exists _ => .ok ()

/-- The call writes to a file, and the write is granted. -/
def grantsWrite (earlier : List FileCall) : FileCall → Bool
  | .write path text => host.write earlier path text = .ok ()
  | _ => false

def Grants (made : List FileCall) : List FileCall → Prop
  | [] => True
  | call :: rest => host.answer made call = .ok () ∧ Grants (made ++ [call]) rest

instance Grants.decidable : (calls made : List FileCall) → Decidable (host.Grants made calls)
  | [], _ => isTrue trivial
  | call :: rest, made =>
    have : Decidable (host.Grants (made ++ [call]) rest) := Grants.decidable rest (made ++ [call])
    inferInstanceAs (Decidable (host.answer made call = .ok () ∧ host.Grants (made ++ [call]) rest))

theorem grants_append (made calls rest : List FileCall) :
    host.Grants made (calls ++ rest) ↔ host.Grants made calls ∧ host.Grants (made ++ calls) rest := by
  induction calls generalizing made with
  | nil => simp [Grants]
  | cons call calls ih => simp [Grants, ih, and_assoc]

def readText (path : String) : Effect Sysfs String (Option String) := do
  let sysfs ← get
  modify (Sysfs.called (.read path))
  MonadExcept.ofExcept ((host.read sysfs.calls path).map fun _ => sysfs.files path)

def writeText (path text : String) : Effect Sysfs String Unit := do
  let sysfs ← get
  match host.write sysfs.calls path text with
  | .error error => do
    modify (Sysfs.called (.write path text))
    throw error
  | .ok () => modify (Sysfs.apply (.write path text))

def pathExists {E : Type} (path : String) : Effect Sysfs E Bool := do
  let sysfs ← get
  modify (Sysfs.called (.exists path))
  return host.exists_ sysfs.calls path

def readTrimmed (path : String) : Effect Sysfs String (Option String) := do
  return trimmed (← host.readText path)

def waitForPath {E : Type} (path : String) : ℕ → Effect Sysfs E Bool
  | 0 => host.pathExists path
  | retries + 1 => do
    if ← host.pathExists path then return true
    waitForPath path retries

theorem exec_readTrimmed (path : String) (sysfs : Sysfs) :
    (host.readTrimmed path).exec sysfs =
      ((host.read sysfs.calls path).map fun _ => trimmed (sysfs.files path), sysfs.called (.read path)) := by
  rw [readTrimmed, exec_bind_pure, readText, exec_bind_of_ok (exec_get sysfs), exec_bind_of_ok (exec_modify _ _),
    exec_ofExcept]
  cases host.read sysfs.calls path <;> rfl

theorem exec_writeText (path text : String) (sysfs : Sysfs) :
    (host.writeText path text).exec sysfs =
      match host.write sysfs.calls path text with
      | .error error => (.error error, sysfs.called (.write path text))
      | .ok () => (.ok (), sysfs.apply (.write path text)) := by
  rw [writeText, exec_bind_of_ok (exec_get sysfs)]
  cases host.write sysfs.calls path text <;> rfl

theorem exec_pathExists {E : Type} (path : String) (sysfs : Sysfs) :
    (host.pathExists path : Effect Sysfs E Bool).exec sysfs =
      (.ok (host.exists_ sysfs.calls path), sysfs.called (.exists path)) := rfl

/-- The effect writes nothing, and gives the value that the files show exactly where its queries are granted. -/
def Queries {E α : Type} (effect : Effect Sysfs E α) (queries : List FileCall)
    (value : (String → Option String) → Option α) : Prop :=
  ∀ sysfs, ∃ result made, effect.exec sysfs = (result, { sysfs with calls := sysfs.calls ++ made }) ∧
    (∀ call ∈ made, ¬call.IsWrite) ∧ (result.isOk = true → made = queries) ∧
    ∀ a, result = .ok a ↔ host.Grants sysfs.calls queries ∧ value sysfs.files = some a

variable {host}

theorem Queries.pure {E α : Type} (a : α) : host.Queries (Pure.pure a : Effect Sysfs E α)
    [] fun _ => some a :=
  fun sysfs => ⟨.ok a, [], by simp; rfl, by simp, fun _ => rfl, by simp [Grants]⟩

theorem Queries.bind {E α β : Type} {effect : Effect Sysfs E α} {next : α → Effect Sysfs E β}
    {queries later : List FileCall} {value : (String → Option String) → Option α}
    {nextValue : α → (String → Option String) → Option β} (h : host.Queries effect queries value)
    (hnext : ∀ a, host.Queries (next a) later (nextValue a)) :
    host.Queries (effect >>= next) (queries ++ later) fun files => (value files).bind (nextValue · files) := by
  intro sysfs
  obtain ⟨first, made, hexec, hreads, hasked, hfirst⟩ := h sysfs
  simp only [host.grants_append, Option.bind_eq_some_iff]
  cases first with
  | error error =>
    refine ⟨.error error, made, exec_bind_of_error hexec, hreads, (fun hok => nomatch hok), fun b => ?_⟩
    simp only [reduceCtorEq, false_iff]
    rintro ⟨⟨hgranted, -⟩, a, ha, -⟩
    cases (hfirst a).mpr ⟨hgranted, ha⟩
  | ok a =>
    obtain ⟨hgranted, ha⟩ := (hfirst a).mp rfl
    obtain rfl : made = queries := hasked rfl
    obtain ⟨result, more, hexec', hreads', hasked', hresult⟩ :=
      hnext a { sysfs with calls := sysfs.calls ++ made }
    refine ⟨result, made ++ more, ?_, ?_, ?_, ?_⟩
    · rw [exec_bind_of_ok hexec, hexec', List.append_assoc]
    · intro call hcall
      rcases List.mem_append.mp hcall with hcall | hcall
      · exact hreads call hcall
      · exact hreads' call hcall
    · intro hok
      rw [hasked' hok]
    · intro b
      rw [hresult b, ha]
      simp only [Option.some.injEq, exists_eq_left', hgranted, true_and]

end SysfsHost

end Lemnos.Linux
