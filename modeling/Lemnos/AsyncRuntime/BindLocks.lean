import Lemnos.AsyncRuntime.Tasks
import Lemnos.Library.WeakTable

namespace Lemnos

open Lemnos.Core Discovery Registry Library.OrderedMap Library.Runs

def AsyncRuntime.bindLock (deviceId : DeviceId) (locks : WeakTable DeviceId) : ℕ × WeakTable DeviceId :=
  (locks.entries.keys.foldl WeakTable.clean locks).get deviceId

/-- The lock table with the lookup that is under way in it: whose lock is looked up, and the entries that are
still to be retained or cleaned. Only drops of locks come between the parts of a lookup. -/
structure BindLocks where
  table : WeakTable DeviceId := {}
  lookup : Option (DeviceId × List DeviceId) := none

namespace BindLocks

variable (locks : BindLocks)

def lookUp (deviceId : DeviceId) : Option BindLocks :=
  if locks.lookup.isSome then none
  else some { locks with lookup := some (deviceId, locks.table.entries.keys) }

def retain : Option BindLocks :=
  match locks.lookup with
  | some (deviceId, entry :: rest) => some ⟨locks.table.clean entry, some (deviceId, rest)⟩
  | _ => none

def upgrade (deviceId : DeviceId) : Option (ℕ × BindLocks) :=
  if locks.lookup = some (deviceId, []) then
    some ((locks.table.get deviceId).1, ⟨(locks.table.get deviceId).2, none⟩)
  else none

def drop (held : DeviceId × ℕ) : BindLocks := { locks with table := locks.table.drop held }

end BindLocks

inductive BindLockAction where
  | lookUp (deviceId : DeviceId)
  | retain
  | upgrade (deviceId : DeviceId)
  | drop (held : DeviceId × ℕ)

namespace BindLocks

def step : BindLockAction → BindLocks → Option BindLocks
  | .lookUp deviceId, locks => locks.lookUp deviceId
  | .retain, locks => locks.retain
  | .upgrade deviceId, locks => (locks.upgrade deviceId).map Prod.snd
  | .drop held, locks => some (locks.drop held)

variable {locks locks' : BindLocks}

theorem run_retain (deviceId : DeviceId) (entries : List DeviceId) (table : WeakTable DeviceId) :
    run step (List.replicate entries.length .retain) ⟨table, some (deviceId, entries)⟩ =
      some ⟨entries.foldl WeakTable.clean table, some (deviceId, [])⟩ := by
  induction entries generalizing table with
  | nil => rfl
  | cons entry entries ih => exact ih (table.clean entry)

theorem run_lookup (deviceId : DeviceId) (table : WeakTable DeviceId) :
    run step (.lookUp deviceId :: (List.replicate table.entries.keys.length .retain ++ [.upgrade deviceId]))
      ⟨table, none⟩ = some ⟨(AsyncRuntime.bindLock deviceId table).2, none⟩ := by
  have hretained := run_retain deviceId table.entries.keys table
  change run step (List.replicate table.entries.keys.length .retain ++ [.upgrade deviceId])
    ⟨table, some (deviceId, table.entries.keys)⟩ = _
  rw [run_append hretained]
  simp [run, step, upgrade, AsyncRuntime.bindLock]

theorem retain_cases (h : locks.retain = some locks') :
    ∃ entry lookup, locks' = ⟨locks.table.clean entry, lookup⟩ := by
  unfold retain at h
  cases hlookup : locks.lookup with
  | none =>
    rw [hlookup] at h
    cases h
  | some looked =>
    obtain ⟨deviceId, entries⟩ := looked
    rw [hlookup] at h
    cases entries with
    | nil => cases h
    | cons entry rest =>
      cases h
      exact ⟨entry, _, rfl⟩

theorem lookUp_table {deviceId : DeviceId} (h : locks.lookUp deviceId = some locks') :
    locks'.table = locks.table := by
  unfold lookUp at h
  split at h
  · cases h
  · cases h
    rfl

theorem upgrade_eq {deviceId : DeviceId} {lock : ℕ} (h : locks.upgrade deviceId = some (lock, locks')) :
    lock = (locks.table.get deviceId).1 ∧ locks'.table = (locks.table.get deviceId).2 := by
  unfold upgrade at h
  split at h
  · cases h
    exact ⟨rfl, rfl⟩
  · cases h

theorem step_sound {action : BindLockAction} (h : locks.table.Sound) (hs : step action locks = some locks') :
    locks'.table.Sound := by
  cases action with
  | lookUp deviceId =>
    rw [lookUp_table hs]
    exact h
  | retain =>
    obtain ⟨entry, lookup, rfl⟩ := retain_cases hs
    exact h.clean entry
  | upgrade deviceId =>
    obtain ⟨⟨lock, upgraded⟩, hupgrade, rfl⟩ := Option.map_eq_some_iff.mp hs
    rw [(upgrade_eq hupgrade).2]
    exact h.get deviceId
  | drop held =>
    cases hs
    exact h.drop held

end BindLocks

end Lemnos
