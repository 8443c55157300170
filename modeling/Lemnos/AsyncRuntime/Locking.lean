import Lemnos.AsyncRuntime.BindLocks

namespace Lemnos

open Lemnos.Core Discovery Registry Library.OrderedMap Library.Runs

/-- How far an operation is with the bind lock: it looks it up, has it, is inside it, or is out of it again and
about to drop it. -/
inductive LockUse where
  | unused
  | looking (deviceId : DeviceId)
  | handle (held : DeviceId × ℕ)
  | guard (held : DeviceId × ℕ)
  | released (held : DeviceId × ℕ)
  | dropped
  deriving DecidableEq

namespace LockUse

def held : LockUse → Option (DeviceId × ℕ)
  | .handle held | .guard held | .released held => some held
  | _ => none

def guarded : LockUse → Option (DeviceId × ℕ)
  | .guard held => some held
  | _ => none

def after (use : LockUse) (next : Task) : LockUse :=
  match use with
  | .guard held => if next.holdsLock.isSome then .guard held else .released held
  | use => use

end LockUse

structure LockedTask where
  task : Task
  lock : LockUse := .unused

structure LockedRuntime where
  system : System := {}
  tasks : List LockedTask := []
  locks : BindLocks := {}

inductive LockedAction where
  | call (call : AsyncCall)
  | control (op : RuntimeOp)
  | retain
  | lookUp (i : ℕ)
  | upgrade (i : ℕ)
  | acquire (i : ℕ)
  | advance (i : ℕ)
  | drop (i : ℕ)

namespace LockedTask

def inside (task : LockedTask) : Option DeviceId := task.lock.guarded.map Prod.fst

/-- An operation looks up and takes the lock that its next section needs, and sections under the lock are
reached with the guard only. -/
def Consistent (task : LockedTask) : Prop :=
  match task.lock with
  | .looking deviceId => task.task.takesLock = some deviceId
  | .handle held => task.task.takesLock = some held.1
  | .guard held => task.task.takesLock = some held.1 ∨ task.task.holdsLock = some held.1
  | _ => task.task.holdsLock = none

end LockedTask

namespace LockedRuntime

def init (config : RuntimeConfig) : LockedRuntime := { system := { runtime := { config } } }

def setTask (state : LockedRuntime) (i : ℕ) (task : LockedTask) : LockedRuntime :=
  { state with tasks := state.tasks.set i task }

def lookUp (i : ℕ) (state : LockedRuntime) (task : LockedTask) : Option LockedRuntime := do
  let deviceId ← task.task.takesLock
  if task.lock = .unused then
    let locks ← state.locks.lookUp deviceId
    return { state.setTask i { task with lock := .looking deviceId } with locks }
  else none

def upgrade (i : ℕ) (state : LockedRuntime) (task : LockedTask) : Option LockedRuntime :=
  match task.lock with
  | .looking deviceId => do
    let (lock, locks) ← state.locks.upgrade deviceId
    return { state.setTask i { task with lock := .handle (deviceId, lock) } with locks }
  | _ => none

def acquire (i : ℕ) (state : LockedRuntime) (task : LockedTask) : Option LockedRuntime :=
  match task.lock with
  | .handle held =>
    if state.tasks.any fun other => other.lock.guarded.map Prod.snd = some held.2 then none
    else some (state.setTask i { task with lock := .guard held })
  | _ => none

def advance (host : Host) (i : ℕ) (state : LockedRuntime) (task : LockedTask) : Option LockedRuntime :=
  if task.task.isDone || (task.task.takesLock.isSome && task.lock.guarded.isNone) then none
  else
    let (next, system) := task.task.step host state.system
    some { state.setTask i ⟨next, task.lock.after next⟩ with system }

def drop (i : ℕ) (state : LockedRuntime) (task : LockedTask) : Option LockedRuntime :=
  match task.lock with
  | .handle held | .released held =>
    some { state.setTask i { task with lock := .dropped } with locks := state.locks.drop held }
  | _ => none

def step (host : Host) (action : LockedAction) (state : LockedRuntime) : Option LockedRuntime :=
  match action with
  | .call call => some { state with tasks := state.tasks ++ [{ task := call.task }] }
  | .control op => if op.isControl then some { state with system := state.system.exec host op } else none
  | .retain => state.locks.retain.map fun locks => { state with locks }
  | .lookUp i => state.tasks[i]?.bind (lookUp i state)
  | .upgrade i => state.tasks[i]?.bind (upgrade i state)
  | .acquire i => state.tasks[i]?.bind (acquire i state)
  | .advance i => state.tasks[i]?.bind (advance host i state)
  | .drop i => state.tasks[i]?.bind (drop i state)

def erase (state : LockedRuntime) : AsyncRuntime := ⟨state.system, state.tasks.map LockedTask.task⟩

inductive Moves (host : Host) (state : LockedRuntime) (task : LockedTask) :
    LockedTask → System → BindLocks → Prop where
  | lookUp (deviceId : DeviceId) (locks : BindLocks) (takes : task.task.takesLock = some deviceId)
      (locked : state.locks.lookUp deviceId = some locks) (unused : task.lock = .unused) :
      Moves host state task ⟨task.task, .looking deviceId⟩ state.system locks
  | upgrade (deviceId : DeviceId) (lock : ℕ) (locks : BindLocks) (looking : task.lock = .looking deviceId)
      (upgraded : state.locks.upgrade deviceId = some (lock, locks)) :
      Moves host state task ⟨task.task, .handle (deviceId, lock)⟩ state.system locks
  | acquire (held : DeviceId × ℕ) (handle : task.lock = .handle held)
      (free : ∀ other ∈ state.tasks, other.lock.guarded.map Prod.snd ≠ some held.2) :
      Moves host state task ⟨task.task, .guard held⟩ state.system state.locks
  | advance (undone : task.task.isDone = false)
      (guarded : task.task.takesLock.isSome = true → task.lock.guarded.isSome = true) :
      Moves host state task ⟨(task.task.step host state.system).1,
        task.lock.after (task.task.step host state.system).1⟩ (task.task.step host state.system).2 state.locks
  | drop (held : DeviceId × ℕ) (outside : task.lock = .handle held ∨ task.lock = .released held) :
      Moves host state task ⟨task.task, .dropped⟩ state.system (state.locks.drop held)

variable {host : Host} {state state' : LockedRuntime}

def Moved (host : Host) (state : LockedRuntime) (i : ℕ) (task : LockedTask) (state' : LockedRuntime) : Prop :=
  ∃ next system locks, Moves host state task next system locks ∧
    state' = { state.setTask i next with system, locks }

variable {i : ℕ} {task : LockedTask}

theorem lookUp_moved (h : lookUp i state task = some state') : Moved host state i task state' := by
  obtain ⟨deviceId, htakes, h⟩ := Option.bind_eq_some_iff.mp h
  split at h
  · rename_i hunused
    obtain ⟨locks, hlocks, h⟩ := Option.bind_eq_some_iff.mp h
    cases h
    exact ⟨_, _, _, .lookUp deviceId locks htakes hlocks hunused, rfl⟩
  · cases h

theorem upgrade_moved (h : upgrade i state task = some state') : Moved host state i task state' := by
  unfold upgrade at h
  cases hlock : task.lock with
  | looking deviceId =>
    rw [hlock] at h
    obtain ⟨⟨lock, locks⟩, hupgrade, h⟩ := Option.bind_eq_some_iff.mp h
    cases h
    exact ⟨_, _, _, .upgrade deviceId lock locks hlock hupgrade, rfl⟩
  | _ =>
    rw [hlock] at h
    cases h

theorem acquire_moved (h : acquire i state task = some state') : Moved host state i task state' := by
  unfold acquire at h
  cases hlock : task.lock with
  | handle held =>
    simp only [hlock] at h
    split at h
    · cases h
    · rename_i hfree
      cases h
      refine ⟨_, _, _, .acquire held hlock ?_, rfl⟩
      simpa using hfree
  | _ =>
    rw [hlock] at h
    cases h

theorem advance_moved (h : advance host i state task = some state') : Moved host state i task state' := by
  unfold advance at h
  split at h
  · cases h
  · rename_i hfree
    rw [Bool.or_eq_true, not_or, Bool.not_eq_true] at hfree
    cases h
    refine ⟨_, _, _, .advance hfree.1 ?_, rfl⟩
    intro htakes
    have hguarded : task.lock.guarded ≠ none := by simpa [htakes] using hfree.2
    exact Option.isSome_iff_ne_none.mpr hguarded

theorem drop_moved (h : drop i state task = some state') : Moved host state i task state' := by
  unfold drop at h
  cases hlock : task.lock with
  | handle held =>
    rw [hlock] at h
    cases h
    exact ⟨_, _, _, .drop held (.inl hlock), rfl⟩
  | released held =>
    rw [hlock] at h
    cases h
    exact ⟨_, _, _, .drop held (.inr hlock), rfl⟩
  | _ =>
    rw [hlock] at h
    cases h

theorem step_cases {action : LockedAction} (h : step host action state = some state') :
    (∃ call, action = .call call ∧ state' = { state with tasks := state.tasks ++ [{ task := call.task }] }) ∨
    (∃ op, action = .control op ∧ op.isControl = true ∧
      state' = { state with system := state.system.exec host op }) ∨
    (∃ locks, action = .retain ∧ state.locks.retain = some locks ∧ state' = { state with locks }) ∨
    ∃ before task after next system locks, state.tasks = before ++ task :: after ∧
      Moves host state task next system locks ∧ state' = ⟨system, before ++ next :: after, locks⟩ := by
  have hmoved : ∀ {i : ℕ} {move : LockedTask → Option LockedRuntime}, state.tasks[i]?.bind move = some state' →
      (∀ {task : LockedTask}, move task = some state' → Moved host state i task state') →
      ∃ before task after next system locks, state.tasks = before ++ task :: after ∧
        Moves host state task next system locks ∧ state' = ⟨system, before ++ next :: after, locks⟩ := by
    intro i move hdone hmove
    obtain ⟨task, hget, hdone⟩ := Option.bind_eq_some_iff.mp hdone
    obtain ⟨next, system, locks, hmoves, rfl⟩ := hmove hdone
    obtain ⟨before, after, htasks, -, hset⟩ := exists_split hget
    exact ⟨before, task, after, next, system, locks, htasks, hmoves, by rw [setTask, hset]⟩
  cases action with
  | call call =>
    cases h
    exact .inl ⟨call, rfl, rfl⟩
  | control op =>
    simp only [step] at h
    split at h
    · rename_i hcontrol
      cases h
      exact .inr (.inl ⟨op, rfl, hcontrol, rfl⟩)
    · cases h
  | retain =>
    obtain ⟨locks, hretain, rfl⟩ := Option.map_eq_some_iff.mp h
    exact .inr (.inr (.inl ⟨locks, rfl, hretain, rfl⟩))
  | lookUp i => exact .inr (.inr (.inr (hmoved h lookUp_moved)))
  | upgrade i => exact .inr (.inr (.inr (hmoved h upgrade_moved)))
  | acquire i => exact .inr (.inr (.inr (hmoved h acquire_moved)))
  | advance i => exact .inr (.inr (.inr (hmoved h advance_moved)))
  | drop i => exact .inr (.inr (.inr (hmoved h drop_moved)))

end LockedRuntime

namespace Task

theorem takesLock_of_holdsLock {task : Task} {deviceId : DeviceId} (h : task.holdsLock = some deviceId) :
    task.takesLock = none := by
  cases task with
  | bindPrepare | requestPrepare => cases h
  | _ => rfl

theorem Section.holdsLock {host : Host} {sys sys' : System} {task next : Task}
    (h : Section host sys task next sys') {deviceId : DeviceId} (hholds : next.holdsLock = some deviceId) :
    task.takesLock = some deviceId ∨ task.holdsLock = some deviceId := by
  cases h with
  | bindPrepared | requestFound | requestUnbound => exact .inl hholds
  | bindOpened | autoBindFound | autoBindPrepared | requestOpened => exact .inr hholds
  | requestStored | requestOutrun | requestDiscarded => exact .inr hholds
  | _ => cases hholds

end Task

namespace LockedRuntime

def heldLocks (tasks : List LockedTask) : List (DeviceId × ℕ) := tasks.flatMap fun task => task.lock.held.toList

def guardedLocks (tasks : List LockedTask) : List (DeviceId × ℕ) :=
  tasks.flatMap fun task => task.lock.guarded.toList

theorem heldLocks_split (before after : List LockedTask) (task : LockedTask) :
    heldLocks (before ++ task :: after) = heldLocks before ++ (task.lock.held.toList ++ heldLocks after) := by
  rw [heldLocks, List.flatMap_append, List.flatMap_cons]
  rfl

theorem guardedLocks_split (before after : List LockedTask) (task : LockedTask) :
    guardedLocks (before ++ task :: after) =
      guardedLocks before ++ (task.lock.guarded.toList ++ guardedLocks after) := by
  rw [guardedLocks, List.flatMap_append, List.flatMap_cons]
  rfl

theorem mem_guardedLocks {tasks : List LockedTask} {held : DeviceId × ℕ} :
    held ∈ guardedLocks tasks ↔ ∃ task ∈ tasks, task.lock.guarded = some held := by
  simp [guardedLocks]

/-- The locks that are alive are those of the operations, and no two operations have the guard of one lock. -/
structure Sound (state : LockedRuntime) : Prop where
  table : state.locks.table.Sound
  handles : state.locks.table.handles.Perm (heldLocks state.tasks)
  consistent : ∀ task ∈ state.tasks, task.Consistent
  exclusive : ((guardedLocks state.tasks).map Prod.snd).Nodup

variable {host : Host} {state state' : LockedRuntime}

theorem sound_init (config : RuntimeConfig) : (init config).Sound where
  table := .empty
  handles := .refl []
  consistent := by
    intro task htask
    cases htask
  exclusive := List.nodup_nil

theorem call_holdsLock (call : AsyncCall) : call.task.holdsLock = none := by
  cases call <;> rfl

theorem sound_call (h : state.Sound) (call : AsyncCall) :
    Sound { state with tasks := state.tasks ++ [{ task := call.task }] } where
  table := h.table
  handles := by
    rw [heldLocks_split]
    simpa [LockUse.held, heldLocks] using h.handles
  consistent := by
    intro task htask
    rcases List.mem_append.mp htask with hold | hnew
    · exact h.consistent task hold
    · cases List.mem_singleton.mp hnew
      exact call_holdsLock call
  exclusive := by
    rw [guardedLocks_split]
    simpa [LockUse.guarded, guardedLocks] using h.exclusive

theorem sound_retain (h : state.Sound) {locks : BindLocks} (hretain : state.locks.retain = some locks) :
    Sound { state with locks } := by
  obtain ⟨entry, lookup, rfl⟩ := BindLocks.retain_cases hretain
  refine ⟨h.table.clean entry, ?_, h.consistent, h.exclusive⟩
  rw [WeakTable.clean_handles]
  exact h.handles

theorem consistent_advance {task : LockedTask} (h : task.Consistent)
    (hguarded : task.task.takesLock.isSome = true → task.lock.guarded.isSome = true) (sys : System) :
    LockedTask.Consistent ⟨(task.task.step host sys).1, task.lock.after (task.task.step host sys).1⟩ := by
  obtain ⟨work, lock⟩ := task
  have htakes : lock.guarded = none → work.takesLock = none := by
    intro hnone
    cases htakes : work.takesLock with
    | none => rfl
    | some deviceId =>
      have hsome : lock.guarded.isSome = true := hguarded (by rw [htakes]; rfl)
      rw [hnone] at hsome
      cases hsome
  -- without the guard the section is not under the lock, and neither is the next one
  have hout : work.takesLock = none → work.holdsLock = none → (work.step host sys).1.holdsLock = none := by
    intro hnone hfree
    cases hholds : (work.step host sys).1.holdsLock with
    | none => rfl
    | some deviceId =>
      rcases (work.step_section host sys).holdsLock hholds with htaken | hheld
      · rw [hnone] at htaken
        cases htaken
      · rw [hfree] at hheld
        cases hheld
  cases lock with
  | unused => exact hout (htakes rfl) h
  | looking deviceId =>
    have hlooks : work.takesLock = some deviceId := h
    rw [htakes rfl] at hlooks
    cases hlooks
  | handle held =>
    have hwaits : work.takesLock = some held.1 := h
    rw [htakes rfl] at hwaits
    cases hwaits
  | guard held =>
    simp only [LockUse.after]
    cases hholds : (work.step host sys).1.holdsLock with
    | none => exact hholds
    | some deviceId =>
      have hsame : deviceId = held.1 := by
        rcases (work.step_section host sys).holdsLock hholds with htaken | hheld
        · rcases h with hguard | hguard
          · exact Option.some.inj (htaken.symm.trans hguard)
          · rw [Task.takesLock_of_holdsLock hguard] at htaken
            cases htaken
        · rcases h with hguard | hguard
          · rw [Task.takesLock_of_holdsLock hheld] at hguard
            cases hguard
          · exact Option.some.inj (hheld.symm.trans hguard)
      exact .inr (hholds.trans (congrArg some hsame))
  | released held => exact hout (htakes rfl) h
  | dropped => exact hout (htakes rfl) h

theorem consistent_moves {task next : LockedTask} (htask : task.Consistent) {system : System}
    {locks : BindLocks} (hmoves : Moves host state task next system locks) : next.Consistent := by
  cases hmoves with
  | lookUp deviceId locks takes locked unused => exact takes
  | upgrade deviceId lock locks looking upgraded =>
    rw [LockedTask.Consistent, looking] at htask
    exact htask
  | acquire held handle free =>
    rw [LockedTask.Consistent, handle] at htask
    exact .inl htask
  | advance undone guarded => exact consistent_advance htask guarded state.system
  | drop held outside =>
    rcases outside with hlock | hlock
    · rw [LockedTask.Consistent, hlock] at htask
      cases hholds : task.task.holdsLock with
      | none => exact hholds
      | some deviceId =>
        rw [Task.takesLock_of_holdsLock hholds] at htask
        cases htask
    · rw [LockedTask.Consistent, hlock] at htask
      exact htask

theorem after_held (use : LockUse) (next : Task) : (use.after next).held = use.held := by
  cases use with
  | guard held =>
    rw [LockUse.after]
    split <;> rfl
  | _ => rfl

theorem after_guarded (use : LockUse) (next : Task) :
    (use.after next).guarded = use.guarded ∨ (use.after next).guarded = none := by
  cases use with
  | guard held =>
    rw [LockUse.after]
    split
    · exact .inl rfl
    · exact .inr rfl
  | _ => exact .inl rfl

section Moves

variable {before after : List LockedTask} {task next : LockedTask} {system : System} {locks : BindLocks}
  (hmoves : Moves host state task next system locks)

include hmoves

theorem table_moves (h : state.locks.table.Sound) : locks.table.Sound := by
  cases hmoves with
  | lookUp deviceId locks takes locked unused =>
    rw [BindLocks.lookUp_table locked]
    exact h
  | upgrade deviceId lock locks looking upgraded =>
    rw [(BindLocks.upgrade_eq upgraded).2]
    exact h.get deviceId
  | acquire held handle free => exact h
  | advance undone guarded => exact h
  | drop held outside => exact h.drop held

theorem handles_moves (h : state.locks.table.handles.Perm (heldLocks (before ++ task :: after))) :
    locks.table.handles.Perm (heldLocks (before ++ next :: after)) := by
  rw [heldLocks_split] at h ⊢
  cases hmoves with
  | lookUp deviceId locks takes locked unused =>
    rw [unused] at h
    rw [BindLocks.lookUp_table locked]
    exact h
  | upgrade deviceId lock locks looking upgraded =>
    obtain ⟨rfl, htable⟩ := BindLocks.upgrade_eq upgraded
    rw [looking] at h
    rw [htable, WeakTable.get_handles]
    exact (h.cons _).trans List.perm_middle.symm
  | acquire held handle free =>
    rw [handle] at h
    exact h
  | advance undone guarded =>
    rw [after_held]
    exact h
  | drop held outside =>
    have hlock : task.lock.held = some held := by
      rcases outside with hlock | hlock <;> (rw [hlock]; rfl)
    rw [hlock] at h
    have hrest := (h.trans List.perm_middle).erase held
    rw [List.erase_cons_head] at hrest
    exact hrest

theorem exclusive_moves (htasks : state.tasks = before ++ task :: after)
    (h : ((guardedLocks (before ++ task :: after)).map Prod.snd).Nodup) :
    ((guardedLocks (before ++ next :: after)).map Prod.snd).Nodup := by
  rw [guardedLocks_split] at h ⊢
  cases hmoves with
  | lookUp deviceId locks takes locked unused =>
    rw [unused] at h
    exact h
  | upgrade deviceId lock locks looking upgraded =>
    rw [looking] at h
    exact h
  | acquire held handle free =>
    have hfree : held.2 ∉ (guardedLocks before ++ guardedLocks after).map Prod.snd := by
      intro hin
      obtain ⟨guarded, hguarded, hsame⟩ := List.mem_map.mp hin
      rw [List.mem_append, mem_guardedLocks, mem_guardedLocks] at hguarded
      obtain ⟨other, hother, hlock⟩ : ∃ other ∈ state.tasks, other.lock.guarded = some guarded := by
        rw [htasks]
        rcases hguarded with ⟨other, hother, hlock⟩ | ⟨other, hother, hlock⟩
        · exact ⟨other, List.mem_append_left _ hother, hlock⟩
        · exact ⟨other, List.mem_append_right _ (List.mem_cons_of_mem _ hother), hlock⟩
      apply free other hother
      rw [hlock, Option.map_some, hsame]
    rw [handle] at h
    rw [List.map_append] at hfree ⊢
    rw [List.map_append] at h
    exact List.nodup_middle.mpr (List.nodup_cons.mpr ⟨hfree, h⟩)
  | advance undone guarded =>
    rcases after_guarded task.lock (task.task.step host state.system).1 with hsame | hnone
    · rw [hsame]
      exact h
    · rw [hnone]
      refine h.sublist ((List.Sublist.refl _).append ?_ |>.map Prod.snd)
      exact List.sublist_append_right _ _
  | drop held outside =>
    have hlock : task.lock.guarded = none := by
      rcases outside with hlock | hlock <;> (rw [hlock]; rfl)
    rw [hlock] at h
    exact h

theorem sound_moves (h : state.Sound) (htasks : state.tasks = before ++ task :: after) :
    Sound ⟨system, before ++ next :: after, locks⟩ where
  table := table_moves hmoves h.table
  handles := by
    have hhandles := h.handles
    rw [htasks] at hhandles
    exact handles_moves hmoves hhandles
  consistent := by
    have hconsistent := h.consistent
    rw [htasks] at hconsistent
    exact forall_mem_replaced hconsistent (consistent_moves (hconsistent task (by simp)) hmoves)
  exclusive := by
    have hexclusive := h.exclusive
    rw [htasks] at hexclusive
    exact exclusive_moves hmoves htasks hexclusive

end Moves

theorem step_sound (action : LockedAction) (state state' : LockedRuntime) (h : state.Sound)
    (hs : step host action state = some state') : state'.Sound := by
  rcases step_cases hs with ⟨call, -, rfl⟩ | ⟨op, -, -, rfl⟩ | ⟨locks, -, hretain, rfl⟩ |
    ⟨before, task, after, next, system, locks, htasks, hmoves, rfl⟩
  · exact sound_call h call
  · exact ⟨h.table, h.handles, h.consistent, h.exclusive⟩
  · exact sound_retain h hretain
  · exact sound_moves hmoves h htasks

theorem run_sound {config : RuntimeConfig} {actions : List LockedAction}
    (hrun : run (step host) actions (init config) = some state) : state.Sound :=
  run_invariant step_sound (sound_init config) hrun

theorem LockedTask.inside_of_holdsLock {task : LockedTask} (h : task.Consistent) {deviceId : DeviceId}
    (hholds : task.task.holdsLock = some deviceId) : task.inside = some deviceId := by
  have hfree := Task.takesLock_of_holdsLock hholds
  obtain ⟨work, lock⟩ := task
  cases lock with
  | guard held =>
    rcases h with htakes | hheld
    · rw [hfree] at htakes
      cases htakes
    · rw [hholds] at hheld
      exact hheld.symm
  | looking deviceId' => exact absurd (h.symm.trans hfree) (Option.some_ne_none _)
  | handle held => exact absurd (h.symm.trans hfree) (Option.some_ne_none _)
  | _ => exact absurd (hholds.symm.trans h) (Option.some_ne_none _)

theorem LockedTask.inside_of_takesLock {task : LockedTask} (h : task.Consistent) {deviceId : DeviceId}
    (htakes : task.task.takesLock = some deviceId) (hguarded : task.lock.guarded.isSome = true) :
    task.inside = some deviceId := by
  obtain ⟨work, lock⟩ := task
  cases lock with
  | guard held =>
    rcases h with htaken | hheld
    · exact htaken.symm.trans htakes
    · rw [Task.takesLock_of_holdsLock hheld] at htakes
      cases htakes
  | _ => cases hguarded

theorem Sound.mem_handles (h : state.Sound) {task : LockedTask} {held : DeviceId × ℕ} (hmem : task ∈ state.tasks)
    (hguarded : task.lock.guarded = some held) : held ∈ state.locks.table.handles := by
  rw [h.handles.mem_iff, heldLocks, List.mem_flatMap]
  refine ⟨task, hmem, ?_⟩
  cases hlock : task.lock with
  | guard held' =>
    rw [hlock] at hguarded
    cases hguarded
    exact List.mem_singleton.mpr rfl
  | _ =>
    rw [hlock] at hguarded
    cases hguarded

theorem Sound.inside_unique (h : state.Sound) {i j : ℕ} {task other : LockedTask} {deviceId : DeviceId}
    (hi : state.tasks[i]? = some task) (hj : state.tasks[j]? = some other)
    (hin : task.inside = some deviceId) (hin' : other.inside = some deviceId) : i = j := by
  obtain ⟨held, hguarded, rfl⟩ := Option.map_eq_some_iff.mp hin
  obtain ⟨held', hguarded', hdevice⟩ := Option.map_eq_some_iff.mp hin'
  have hmem := h.mem_handles (List.mem_of_getElem? hi) hguarded
  have hmem' := h.mem_handles (List.mem_of_getElem? hj) hguarded'
  rw [show held' = (held.1, held'.2) from Prod.ext hdevice rfl] at hmem'
  have hsame : held.2 = held'.2 := h.table.unique hmem hmem'
  by_contra hne
  obtain ⟨before, after, htasks, rfl, -⟩ := exists_split hi
  have hexclusive := h.exclusive
  rw [htasks] at hj
  rw [htasks, guardedLocks_split, hguarded, List.map_append] at hexclusive
  have honly : held.2 ∉ (guardedLocks before ++ guardedLocks after).map Prod.snd := by
    rw [List.map_append]
    exact (List.nodup_cons.mp (List.nodup_middle.mp hexclusive)).1
  apply honly
  rw [hsame]
  apply List.mem_map_of_mem
  rw [List.mem_append, mem_guardedLocks, mem_guardedLocks]
  exact (mem_of_getElem?_ne hj (Ne.symm hne)).imp (fun hin => ⟨other, hin, hguarded'⟩)
    fun hin => ⟨other, hin, hguarded'⟩

theorem step_refines {action : LockedAction} (h : state.Sound) (hs : step host action state = some state') :
    state'.erase = state.erase ∨ ∃ abstract, AsyncRuntime.step host abstract state.erase = some state'.erase := by
  rcases step_cases hs with ⟨call, -, rfl⟩ | ⟨op, -, hcontrol, rfl⟩ | ⟨locks, -, -, rfl⟩ |
    ⟨before, task, after, next, system, locks, htasks, hmoves, rfl⟩
  · exact .inr ⟨.call call, by simp [AsyncRuntime.step, erase]⟩
  · exact .inr ⟨.control op, by simp [AsyncRuntime.step, erase, hcontrol]⟩
  · exact .inl rfl
  · have hget : state.tasks[before.length]? = some task := by simp [htasks]
    have hconsistent : task.Consistent := h.consistent task (List.mem_of_getElem? hget)
    cases hmoves with
    | advance undone guarded =>
      right
      have hfree : state.erase.blocked task.task = false := by
        rw [AsyncRuntime.blocked]
        cases htakes : task.task.takesLock with
        | none => rfl
        | some deviceId =>
          rw [List.any_eq_false]
          intro other hother hholds
          obtain ⟨locked, hlocked, rfl⟩ := List.mem_map.mp hother
          obtain ⟨j, hj⟩ := List.mem_iff_getElem?.mp hlocked
          have hholds' : locked.task.holdsLock = some deviceId := by simpa using hholds
          have hinside' := LockedTask.inside_of_holdsLock (h.consistent locked hlocked) hholds'
          have hinside : task.inside = some deviceId :=
            LockedTask.inside_of_takesLock hconsistent htakes (guarded (by rw [htakes]; rfl))
          cases h.inside_unique hget hj hinside hinside'
          rw [hget] at hj
          cases hj
          rw [Task.takesLock_of_holdsLock hholds'] at htakes
          cases htakes
      refine ⟨.advance before.length, ?_⟩
      have hget' : state.erase.tasks[before.length]? = some task.task := by simp [erase, hget]
      simp only [AsyncRuntime.step, hget', undone, hfree, Bool.or_self]
      simp [erase, htasks]
    | _ =>
      left
      simp [erase, htasks]

structure Reaches (host : Host) (config : RuntimeConfig) (state : LockedRuntime) : Prop where
  sound : state.Sound
  abstract : ∃ abstract, run (AsyncRuntime.step host) abstract (AsyncRuntime.init config) = some state.erase

theorem run_refines {config : RuntimeConfig} {actions : List LockedAction}
    (hrun : run (step host) actions (init config) = some state) :
    ∃ abstract, run (AsyncRuntime.step host) abstract (AsyncRuntime.init config) = some state.erase := by
  have hstep : ∀ action before after, Reaches host config before → step host action before = some after →
      Reaches host config after := by
    rintro action before after ⟨hsound, abstract, hbefore⟩ hs
    refine ⟨step_sound action before after hsound hs, ?_⟩
    rcases step_refines hsound hs with hsame | ⟨last, hlast⟩
    · exact ⟨abstract, by rw [hsame]; exact hbefore⟩
    · exact ⟨abstract ++ [last], by rw [run_append hbefore, run, hlast]; rfl⟩
  exact (run_invariant hstep ⟨sound_init config, [], rfl⟩ hrun).abstract

end LockedRuntime

end Lemnos
