import Mathlib.Data.Nat.Notation
import Mathlib.Logic.Function.Basic

/-! Registers behind a pointer that moves on to the next one after each access. -/

namespace Lemnos.Library

structure RegisterFile (A V : Type) where
  registers : A → V
  pointer : A

namespace RegisterFile

variable {A V : Type}

def select (file : RegisterFile A V) (pointer : A) : RegisterFile A V := { file with pointer }

def load (next : A → A) (file : RegisterFile A V) : ℕ → List V × RegisterFile A V
  | 0 => ([], file)
  | n + 1 =>
    let (values, after) := load next (file.select (next file.pointer)) n
    (file.registers file.pointer :: values, after)

section Store

variable [DecidableEq A] (next : A → A)

def store (file : RegisterFile A V) (value : V) : RegisterFile A V where
  registers := Function.update file.registers file.pointer value
  pointer := next file.pointer

def storeAll (file : RegisterFile A V) (values : List V) : RegisterFile A V := values.foldl (store next) file

/-- The first part of a message selects a register, and those that follow are stored from there. -/
def message (file : RegisterFile A A) : List A → RegisterFile A A
  | [] => file
  | register :: values => (file.select register).storeAll next values

end Store

variable {next : A → A} {file : RegisterFile A V}

theorem load_length (n : ℕ) : (load next file n).1.length = n := by
  induction n generalizing file with
  | zero => rfl
  | succ n ih => exact congrArg Nat.succ ih

section Message

variable [DecidableEq A] {chip : RegisterFile A A}

theorem message_cons_cons (register value second : A) (values : List A) :
    chip.message next (register :: value :: second :: values) =
      (chip.message next [register, value]).message next (next register :: second :: values) := rfl

theorem load_message_succ (register : A) (n : ℕ) :
    load next (chip.message next [register]) (n + 1) =
      let first := load next (chip.message next [register]) 1
      let rest := load next (first.2.message next [next register]) n
      (first.1 ++ rest.1, rest.2) := rfl

end Message

end RegisterFile

end Lemnos.Library
