import Lemnos.Library.Runs
import Lemnos.Runtime.Operations

namespace Lemnos

open Lemnos.Core Discovery Library.Runs

inductive WaitTurn where
  | returned (updated : Bool)
  | asleep
  deriving DecidableEq

/-- One turn of the wait loop: before the first sleep, and after every wake-up. -/
def RuntimeEventNotifier.waitForChangeAfter (notifier : RuntimeEventNotifier) (observedVersion : ℕ)
    (timedOut : Bool) : WaitTurn :=
  if observedVersion < notifier.version then .returned true
  else if timedOut then .returned false
  else .asleep

structure RuntimeEventSubscription where
  cursor : RuntimeEventCursor
  observedVersion : ℕ
  deriving DecidableEq

namespace RuntimeEventSubscription

def new (cursor : RuntimeEventCursor) (notifier : RuntimeEventNotifier) : RuntimeEventSubscription where
  cursor := cursor
  observedVersion :=
    if cursor.nextIndex < notifier.tailIndex then notifier.version - 1 else notifier.version

def pendingCount (subscription : RuntimeEventSubscription) (runtime : Runtime) : ℕ :=
  runtime.log.pendingEventCount subscription.cursor

def hasPending (subscription : RuntimeEventSubscription) (runtime : Runtime) : Bool :=
  subscription.pendingCount runtime > 0

def pollWithStatus (subscription : RuntimeEventSubscription) (runtime : Runtime) :
    RuntimeEventPoll × RuntimeEventSubscription :=
  let (poll, cursor) := runtime.log.pollEventsWithStatus subscription.cursor
  (poll, ⟨cursor, runtime.eventNotifier.version⟩)

def waitForUpdate (subscription : RuntimeEventSubscription) (notifier : RuntimeEventNotifier) : WaitTurn :=
  notifier.waitForChangeAfter subscription.observedVersion false

end RuntimeEventSubscription

def Runtime.subscribeBlocking (runtime : Runtime) : RuntimeEventSubscription :=
  .new runtime.log.subscribe runtime.eventNotifier

def Runtime.subscribeFromStartBlocking (runtime : Runtime) : RuntimeEventSubscription :=
  .new runtime.log.subscribeFromStart runtime.eventNotifier

inductive RuntimeSection where
  | pushRetainedEvents (events : List LemnosEvent)
  | enforceEventRetention
  | notifyEventSubscribers
  | notifyIfTailMoved (priorTail : ℕ)
  | insertState (state : DeviceStateSnapshot)
  | takeEvents
  | setConfig (config : RuntimeConfig)
  | shutdownDetached

inductive RuntimeWrite where
  | cacheState (state : DeviceStateSnapshot)
  | recordInventoryEvents (diff : InventoryDiff)
  | takeEvents
  | setConfig (config : RuntimeConfig)
  | shutdown

variable (layout : Layout)

def RuntimeSection.exec (runtime : Runtime) : RuntimeSection → Runtime
  | .pushRetainedEvents events => runtime.pushRetainedEvents layout events
  | .enforceEventRetention => runtime.enforceEventRetention layout
  | .notifyEventSubscribers => runtime.notifyEventSubscribers
  | .notifyIfTailMoved priorTail =>
    if runtime.log.eventTailIndex ≠ priorTail then runtime.notifyEventSubscribers else runtime
  | .insertState state => { runtime with states := runtime.states.insert state.deviceId state }
  | .takeEvents => runtime.takeEvents.2
  | .setConfig config => { runtime with config }
  | .shutdownDetached => runtime.shutdownDetached.2

namespace Runtime

variable {layout} {runtime runtime' : Runtime}

theorem pushRetainedEvents_tail (events : List LemnosEvent) (runtime : Runtime) :
    (runtime.pushRetainedEvents layout events).log.eventTailIndex =
      runtime.log.eventTailIndex + events.length := by
  have hwindow := @EventLog.pushAll_window layout events runtime.log
  have htail := congrArg Library.RetainedLog.Window.tail hwindow
  simp only [EventLog.window, Library.RetainedLog.Window.tail, Library.RetainedLog.Window.push,
    List.length_append] at htail
  simp only [pushRetainedEvents, EventLog.eventTailIndex]
  omega

theorem enforceEventRetention_tail (runtime : Runtime) :
    (runtime.enforceEventRetention layout).log.eventTailIndex = runtime.log.eventTailIndex := by
  have hle := @EventLog.retentionDropCount_le layout runtime.config runtime.log
  simp only [enforceEventRetention, EventLog.enforceEventRetention, EventLog.eventTailIndex]
  by_cases h : runtime.log.retentionDropCount layout runtime.config = 0
  · rw [if_pos h]
  · rw [if_neg h]
    simp only [EventLog.drain, List.length_drop]
    omega

def Counted (runtime : Runtime) : Prop :=
  0 < runtime.eventNotifier.tailIndex → 0 < runtime.eventNotifier.version

def Published (runtime : Runtime) : Prop :=
  runtime.eventNotifier.tailIndex = runtime.log.eventTailIndex

structure Notifies (runtime runtime' : Runtime) : Prop where
  version_le : runtime.eventNotifier.version ≤ runtime'.eventNotifier.version
  version_le_succ : runtime'.eventNotifier.version ≤ runtime.eventNotifier.version + 1
  counted : runtime.Counted → runtime'.Counted

theorem Notifies.refl (h : runtime'.eventNotifier = runtime.eventNotifier) : Notifies runtime runtime' where
  version_le := Nat.le_of_eq (by rw [h])
  version_le_succ := by
    rw [h]
    exact Nat.le_succ _
  counted := fun hc => by
    rw [Counted, h]
    exact hc

theorem Notifies.changed (h : runtime'.eventNotifier = runtime.eventNotifier.notifyChanged) :
    Notifies runtime runtime' where
  version_le := by
    rw [h]
    exact Nat.le_succ _
  version_le_succ := Nat.le_of_eq (by rw [h]; rfl)
  counted := fun _ _ => by
    rw [h]
    exact Nat.succ_pos _

theorem notifyEventSubscribers_notifies (runtime : Runtime) :
    Notifies runtime runtime.notifyEventSubscribers := by
  by_cases h : runtime.log.eventTailIndex ≤ runtime.eventNotifier.tailIndex
  · apply Notifies.refl
    simp only [notifyEventSubscribers, RuntimeEventNotifier.advanceTo, if_pos h]
  · have hnotifier : runtime.notifyEventSubscribers.eventNotifier =
        ⟨runtime.log.eventTailIndex, runtime.eventNotifier.version + 1⟩ := by
      simp only [notifyEventSubscribers, RuntimeEventNotifier.advanceTo, if_neg h]
    refine ⟨?_, ?_, ?_⟩
    · rw [hnotifier]
      exact Nat.le_succ _
    · rw [hnotifier]
    · intro _ _
      rw [hnotifier]
      exact Nat.succ_pos _

end Runtime

theorem RuntimeSection.exec_notifies {layout : Layout} (entry : RuntimeSection) (runtime : Runtime) :
    runtime.Notifies (entry.exec layout runtime) := by
  cases entry with
  | pushRetainedEvents events => exact .refl rfl
  | enforceEventRetention =>
    by_cases h : runtime.log.retentionDropCount layout runtime.config = 0
    · exact .refl (if_pos h)
    · exact .changed (if_neg h)
  | notifyEventSubscribers => exact runtime.notifyEventSubscribers_notifies
  | notifyIfTailMoved priorTail =>
    rw [RuntimeSection.exec]
    split
    · exact runtime.notifyEventSubscribers_notifies
    · exact .refl rfl
  | insertState state => exact .refl rfl
  | takeEvents =>
    by_cases h : runtime.log.takeEvents.1.isEmpty = true
    · exact .refl (if_pos h)
    · exact .changed (if_neg h)
  | setConfig config => exact .refl rfl
  | shutdownDetached => exact .changed rfl

namespace RuntimeWrite

def sections (runtime : Runtime) : RuntimeWrite → List RuntimeSection
  | cacheState state =>
    [.pushRetainedEvents [.state (.snapshot state)], .enforceEventRetention, .notifyEventSubscribers,
      .insertState state]
  | recordInventoryEvents diff =>
    [.pushRetainedEvents (diff.events.map .inventory), .enforceEventRetention,
      .notifyIfTailMoved runtime.log.eventTailIndex]
  | takeEvents => [.takeEvents]
  | setConfig config => [.setConfig config, .enforceEventRetention]
  | shutdown => [.shutdownDetached]

def exec (runtime : Runtime) : RuntimeWrite → Runtime
  | cacheState state => runtime.cacheState layout state
  | recordInventoryEvents diff => runtime.recordInventoryEvents layout diff
  | takeEvents => runtime.takeEvents.2
  | setConfig config => runtime.setConfig layout config
  | shutdown => runtime.shutdownDetached.2

theorem sections_exec (write : RuntimeWrite) (runtime : Runtime) :
    (write.sections runtime).foldl (RuntimeSection.exec layout) runtime = write.exec layout runtime := by
  cases write with
  | recordInventoryEvents diff =>
    simp only [sections, List.foldl_cons, List.foldl_nil, RuntimeSection.exec, exec,
      Runtime.recordInventoryEvents]
    split <;> rfl
  | cacheState => rfl
  | takeEvents => rfl
  | setConfig => rfl
  | shutdown => rfl

end RuntimeWrite

namespace Runtime

variable {layout} {runtime runtime' : Runtime}

/-- The whole operation publishes the new tail, and with a new version if the tail has moved. -/
structure Announces (runtime runtime' : Runtime) : Prop where
  published : runtime'.Published
  version_lt : runtime.log.eventTailIndex < runtime'.log.eventTailIndex →
    runtime.eventNotifier.version < runtime'.eventNotifier.version

theorem Published.announces_unmoved (h : runtime.Published)
    (htail : runtime'.log.eventTailIndex = runtime.log.eventTailIndex)
    (hindex : runtime'.eventNotifier.tailIndex = runtime.eventNotifier.tailIndex) :
    runtime.Announces runtime' where
  published := by
    rw [Published, hindex, htail]
    exact h
  version_lt := fun hlt => by
    rw [htail] at hlt
    exact absurd hlt (Nat.lt_irrefl _)

theorem Published.announces_notify (h : runtime.Published)
    (htail : runtime.log.eventTailIndex ≤ runtime'.log.eventTailIndex)
    (hindex : runtime'.eventNotifier.tailIndex = runtime.eventNotifier.tailIndex)
    (hversion : runtime.eventNotifier.version ≤ runtime'.eventNotifier.version) :
    runtime.Announces runtime'.notifyEventSubscribers := by
  have hpub : runtime'.eventNotifier.tailIndex = runtime.log.eventTailIndex := hindex.trans h
  by_cases hle : runtime'.log.eventTailIndex ≤ runtime'.eventNotifier.tailIndex
  · have hsame : runtime'.notifyEventSubscribers = runtime' := by
      simp only [notifyEventSubscribers, RuntimeEventNotifier.advanceTo, if_pos hle]
    rw [hsame]
    apply h.announces_unmoved ?_ hindex
    omega
  · have hnotifier : runtime'.notifyEventSubscribers.eventNotifier =
        ⟨runtime'.log.eventTailIndex, runtime'.eventNotifier.version + 1⟩ := by
      simp only [notifyEventSubscribers, RuntimeEventNotifier.advanceTo, if_neg hle]
    refine ⟨?_, ?_⟩
    · rw [Published, hnotifier]
      rfl
    · intro _
      rw [hnotifier]
      exact Nat.lt_succ_of_le hversion

theorem enforceEventRetention_tailIndex (runtime : Runtime) :
    (runtime.enforceEventRetention layout).eventNotifier.tailIndex = runtime.eventNotifier.tailIndex := by
  simp only [enforceEventRetention]
  split <;> rfl

theorem pushAndEnforce (events : List LemnosEvent) (runtime : Runtime) :
    let pushed := (runtime.pushRetainedEvents layout events).enforceEventRetention layout
    pushed.log.eventTailIndex = runtime.log.eventTailIndex + events.length ∧
    pushed.eventNotifier.tailIndex = runtime.eventNotifier.tailIndex ∧
    runtime.eventNotifier.version ≤ pushed.eventNotifier.version := by
  refine ⟨?_, ?_, ?_⟩
  · rw [enforceEventRetention_tail, pushRetainedEvents_tail]
  · exact (runtime.pushRetainedEvents layout events).enforceEventRetention_tailIndex
  · exact (RuntimeSection.exec_notifies .enforceEventRetention
      (runtime.pushRetainedEvents layout events)).version_le

end Runtime

theorem RuntimeWrite.exec_announces {layout : Layout} (write : RuntimeWrite) {runtime : Runtime}
    (h : runtime.Published) : runtime.Announces (write.exec layout runtime) := by
  cases write with
  | cacheState state =>
    obtain ⟨htail, hindex, hversion⟩ :=
      @Runtime.pushAndEnforce layout [.state (.snapshot state)] runtime
    have hann := h.announces_notify (Nat.le_of_lt (by rw [htail]; exact Nat.lt_succ_self _)) hindex hversion
    exact ⟨hann.published, hann.version_lt⟩
  | recordInventoryEvents diff =>
    obtain ⟨htail, hindex, hversion⟩ :=
      @Runtime.pushAndEnforce layout (diff.events.map .inventory) runtime
    rw [← RuntimeWrite.sections_exec]
    simp only [sections, List.foldl_cons, List.foldl_nil, RuntimeSection.exec]
    split
    · exact h.announces_notify (by rw [htail]; exact Nat.le_add_right _ _) hindex hversion
    · rename_i hmoved
      exact h.announces_unmoved (not_not.mp hmoved) hindex
  | takeEvents =>
    apply h.announces_unmoved
    · rfl
    · simp only [exec, Runtime.takeEvents]
      split <;> rfl
  | setConfig config =>
    apply h.announces_unmoved
    · exact Runtime.enforceEventRetention_tail { runtime with config }
    · exact Runtime.enforceEventRetention_tailIndex { runtime with config }
  | shutdown => exact h.announces_unmoved rfl rfl

inductive WaitPhase where
  | idle
  | asleep
  | woken (timedOut : Bool)
  deriving DecidableEq

structure Listener where
  subscription : RuntimeEventSubscription
  phase : WaitPhase := .idle
  deriving DecidableEq

namespace Listener

def takeTurn (listener : Listener) : WaitTurn → Listener
  | .returned _ => { listener with phase := .idle }
  | .asleep => { listener with phase := .asleep }

def notified (listener : Listener) (before after : RuntimeEventNotifier) : Listener :=
  if listener.phase = .asleep ∧ before.version ≠ after.version then
    { listener with phase := .woken false }
  else listener

end Listener

structure ListenedRuntime where
  runtime : Runtime
  inProgress : List RuntimeSection := []
  listeners : List Listener := []

inductive ListenedOp where
  | begin (write : RuntimeWrite)
  | advance
  | subscribeBlocking
  | subscribeFromStartBlocking
  | clone (listener : ℕ)
  | poll (listener : ℕ)
  | waitForUpdate (listener : ℕ)
  | wakeUp (listener : ℕ) (timedOut : Bool)
  | resume (listener : ℕ)

namespace ListenedRuntime

def listen (world : ListenedRuntime) (subscription : RuntimeEventSubscription) : ListenedRuntime :=
  { world with listeners := world.listeners ++ [{ subscription }] }

def setListener (world : ListenedRuntime) (i : ℕ) (listener : Listener) : ListenedRuntime :=
  { world with listeners := world.listeners.set i listener }

/-- A writer has the runtime to itself until its last section; only waits go on meanwhile, as they take
nothing but the notifier's lock. -/
def step (op : ListenedOp) (world : ListenedRuntime) : Option ListenedRuntime :=
  match op with
  | .begin write =>
    if world.inProgress = [] then some { world with inProgress := write.sections world.runtime } else none
  | .advance =>
    match world.inProgress with
    | [] => none
    | entry :: rest =>
      let runtime := entry.exec layout world.runtime
      some ⟨runtime, rest, world.listeners.map
        (fun listener => listener.notified world.runtime.eventNotifier runtime.eventNotifier)⟩
  | .subscribeBlocking =>
    if world.inProgress = [] then some (world.listen world.runtime.subscribeBlocking) else none
  | .subscribeFromStartBlocking =>
    if world.inProgress = [] then some (world.listen world.runtime.subscribeFromStartBlocking) else none
  | .clone i => world.listeners[i]?.map (fun listener => world.listen listener.subscription)
  | .poll i =>
    if world.inProgress = [] then
      match world.listeners[i]? with
      | some ⟨subscription, .idle⟩ =>
        some (world.setListener i ⟨(subscription.pollWithStatus world.runtime).2, .idle⟩)
      | _ => none
    else none
  | .waitForUpdate i =>
    match world.listeners[i]? with
    | some ⟨subscription, .idle⟩ =>
      some (world.setListener i
        (Listener.takeTurn { subscription } (subscription.waitForUpdate world.runtime.eventNotifier)))
    | _ => none
  | .wakeUp i timedOut =>
    match world.listeners[i]? with
    | some ⟨subscription, .asleep⟩ => some (world.setListener i ⟨subscription, .woken timedOut⟩)
    | _ => none
  | .resume i =>
    match world.listeners[i]? with
    | some ⟨subscription, .woken timedOut⟩ =>
      some (world.setListener i (Listener.takeTurn { subscription }
        (world.runtime.eventNotifier.waitForChangeAfter subscription.observedVersion timedOut)))
    | _ => none

def init (config : RuntimeConfig) : ListenedRuntime := { runtime := { config } }

end ListenedRuntime

/-- The listener will be told of every event up to the tail. It sleeps only where nothing is new. -/
structure Listener.Attentive (listener : Listener) (version : ℕ) (completed : Runtime) : Prop where
  observed_le : listener.subscription.observedVersion ≤ version
  told : listener.subscription.cursor.nextIndex < completed.log.eventTailIndex →
    listener.subscription.observedVersion < completed.eventNotifier.version
  asleep : listener.phase = .asleep → version ≤ listener.subscription.observedVersion

theorem Listener.Attentive.awake {listener : Listener} {version : ℕ} {completed : Runtime}
    (h : listener.Attentive version completed) {phase : WaitPhase} (hphase : phase ≠ .asleep) :
    Listener.Attentive ⟨listener.subscription, phase⟩ version completed :=
  ⟨h.observed_le, h.told, fun hasleep => absurd hasleep hphase⟩

theorem Listener.Attentive.takeTurn {listener : Listener} {completed : Runtime}
    {notifier : RuntimeEventNotifier} (h : listener.Attentive notifier.version completed) (timedOut : Bool) :
    Listener.Attentive (Listener.takeTurn { subscription := listener.subscription }
      (notifier.waitForChangeAfter listener.subscription.observedVersion timedOut))
      notifier.version completed := by
  by_cases hnew : listener.subscription.observedVersion < notifier.version
  · rw [RuntimeEventNotifier.waitForChangeAfter, if_pos hnew]
    exact h.awake (by decide)
  · rw [RuntimeEventNotifier.waitForChangeAfter, if_neg hnew]
    cases timedOut with
    | true => exact h.awake (by decide)
    | false => exact ⟨h.observed_le, h.told, fun _ => Nat.le_of_not_lt hnew⟩

namespace ListenedRuntime

def completed (world : ListenedRuntime) : Runtime :=
  world.inProgress.foldl (RuntimeSection.exec layout) world.runtime

structure Inv (world : ListenedRuntime) : Prop where
  counted : world.runtime.Counted
  published : (world.completed layout).Published
  attentive : ∀ listener ∈ world.listeners,
    listener.Attentive world.runtime.eventNotifier.version (world.completed layout)

variable {layout} {world world' : ListenedRuntime}

theorem init_inv (config : RuntimeConfig) : (init config).Inv layout where
  counted := fun h => absurd h (Nat.lt_irrefl 0)
  published := rfl
  attentive := fun _ hl => by cases hl

theorem completed_of_idle (h : world.inProgress = []) : world.completed layout = world.runtime := by
  rw [completed, h]
  rfl

theorem foldl_version_le (sections : List RuntimeSection) (runtime : Runtime) :
    runtime.eventNotifier.version ≤
      (sections.foldl (RuntimeSection.exec layout) runtime).eventNotifier.version := by
  induction sections generalizing runtime with
  | nil => exact Nat.le_refl _
  | cons entry rest ih =>
    rw [List.foldl_cons]
    exact Nat.le_trans (entry.exec_notifies runtime).version_le (ih _)

theorem Inv.begin (hinv : world.Inv layout) (hidle : world.inProgress = []) (write : RuntimeWrite) :
    Inv layout { world with inProgress := write.sections world.runtime } := by
  have hcompleted := @completed_of_idle layout world hidle
  have hnow : completed layout { world with inProgress := write.sections world.runtime } =
      write.exec layout world.runtime := write.sections_exec layout world.runtime
  have hpub : world.runtime.Published := by
    rw [← hcompleted]
    exact hinv.published
  have hann := @RuntimeWrite.exec_announces layout write world.runtime hpub
  refine ⟨hinv.counted, by rw [hnow]; exact hann.published, ?_⟩
  intro listener hl
  have hatt := hinv.attentive listener hl
  rw [hcompleted] at hatt
  refine ⟨hatt.observed_le, ?_, hatt.asleep⟩
  rw [hnow]
  intro hlt
  have hle : world.runtime.eventNotifier.version ≤
      (write.exec layout world.runtime).eventNotifier.version := by
    rw [← write.sections_exec]
    exact foldl_version_le _ _
  by_cases hbefore : listener.subscription.cursor.nextIndex < world.runtime.log.eventTailIndex
  · exact Nat.lt_of_lt_of_le (hatt.told hbefore) hle
  · have hmoved := hann.version_lt (by omega)
    exact Nat.lt_of_le_of_lt hatt.observed_le hmoved

theorem Inv.advance (hinv : world.Inv layout) {entry : RuntimeSection} {rest : List RuntimeSection}
    (hprogress : world.inProgress = entry :: rest) :
    Inv layout ⟨entry.exec layout world.runtime, rest, world.listeners.map (fun listener =>
      listener.notified world.runtime.eventNotifier
        (entry.exec layout world.runtime).eventNotifier)⟩ := by
  have hnotifies := @RuntimeSection.exec_notifies layout entry world.runtime
  have hcompleted : world.completed layout =
      rest.foldl (RuntimeSection.exec layout) (entry.exec layout world.runtime) := by
    rw [completed, hprogress, List.foldl_cons]
  have hpublished := hinv.published
  have hattentive := hinv.attentive
  rw [hcompleted] at hpublished hattentive
  refine ⟨hnotifies.counted hinv.counted, hpublished, ?_⟩
  intro listener hl
  obtain ⟨before, hmem, rfl⟩ := List.mem_map.mp hl
  have hatt := hattentive before hmem
  have hobserved := Nat.le_trans hatt.observed_le hnotifies.version_le
  by_cases hwoken : before.phase = .asleep ∧
      world.runtime.eventNotifier.version ≠ (entry.exec layout world.runtime).eventNotifier.version
  · rw [Listener.notified, if_pos hwoken]
    exact ⟨hobserved, hatt.told, fun hasleep => by cases hasleep⟩
  · rw [Listener.notified, if_neg hwoken]
    refine ⟨hobserved, hatt.told, ?_⟩
    intro hasleep
    have hsame : world.runtime.eventNotifier.version =
        (entry.exec layout world.runtime).eventNotifier.version :=
      not_not.mp (fun hne => hwoken ⟨hasleep, hne⟩)
    exact hsame ▸ hatt.asleep hasleep

theorem Inv.listen (hinv : world.Inv layout) {subscription : RuntimeEventSubscription}
    (hatt : Listener.Attentive { subscription } world.runtime.eventNotifier.version (world.completed layout)) :
    (world.listen subscription).Inv layout where
  counted := hinv.counted
  published := hinv.published
  attentive := by
    intro listener hl
    rcases List.mem_append.mp hl with hl | hl
    · exact hinv.attentive listener hl
    · cases List.mem_singleton.mp hl
      exact hatt

theorem Inv.setListener (hinv : world.Inv layout) {listener : Listener} (i : ℕ)
    (hatt : listener.Attentive world.runtime.eventNotifier.version (world.completed layout)) :
    (world.setListener i listener).Inv layout where
  counted := hinv.counted
  published := hinv.published
  attentive := by
    intro other ho
    rcases List.mem_or_eq_of_mem_set ho with ho | rfl
    · exact hinv.attentive other ho
    · exact hatt

/-- A subscription opened behind the tail starts one version back, so that its first wait returns. -/
theorem Inv.new_attentive (hinv : world.Inv layout) (hidle : world.inProgress = [])
    (cursor : RuntimeEventCursor) :
    Listener.Attentive ⟨.new cursor world.runtime.eventNotifier, .idle⟩ world.runtime.eventNotifier.version
      (world.completed layout) := by
  have hpub := hinv.published
  rw [completed_of_idle hidle] at hpub ⊢
  by_cases hbehind : cursor.nextIndex < world.runtime.eventNotifier.tailIndex
  · have hcounted := hinv.counted (Nat.zero_lt_of_lt hbehind)
    refine ⟨?_, ?_, fun hasleep => by cases hasleep⟩
    · rw [RuntimeEventSubscription.new, if_pos hbehind]
      exact Nat.sub_le _ _
    · intro _
      rw [RuntimeEventSubscription.new, if_pos hbehind]
      exact Nat.sub_lt hcounted Nat.one_pos
  · refine ⟨?_, ?_, fun hasleep => by cases hasleep⟩
    · rw [RuntimeEventSubscription.new, if_neg hbehind]
    · intro hlt
      rw [← hpub] at hlt
      exact absurd hlt hbehind

theorem step_inv (op : ListenedOp) (world world' : ListenedRuntime) (hinv : world.Inv layout)
    (hstep : world.step layout op = some world') : world'.Inv layout := by
  cases op with
  | begin write =>
    obtain ⟨hidle, hstep⟩ := Option.ite_none_right_eq_some.mp hstep
    cases hstep
    exact hinv.begin hidle write
  | advance =>
    simp only [step] at hstep
    split at hstep
    · cases hstep
    · rename_i entry rest hprogress
      cases hstep
      exact hinv.advance hprogress
  | subscribeBlocking | subscribeFromStartBlocking =>
    obtain ⟨hidle, hstep⟩ := Option.ite_none_right_eq_some.mp hstep
    cases hstep
    exact hinv.listen (hinv.new_attentive hidle _)
  | clone i =>
    obtain ⟨listener, hget, rfl⟩ := Option.map_eq_some_iff.mp hstep
    have hatt := hinv.attentive listener (List.mem_of_getElem? hget)
    exact hinv.listen (hatt.awake (by decide))
  | poll i =>
    obtain ⟨hidle, hstep⟩ := Option.ite_none_right_eq_some.mp hstep
    split at hstep
    · cases hstep
      refine hinv.setListener i ⟨Nat.le_refl _, ?_, fun hasleep => by cases hasleep⟩
      rw [completed_of_idle hidle]
      intro hlt
      exact absurd hlt (Nat.lt_irrefl _)
    · cases hstep
  | waitForUpdate i =>
    simp only [step] at hstep
    split at hstep
    · rename_i hget
      cases hstep
      exact hinv.setListener i ((hinv.attentive _ (List.mem_of_getElem? hget)).takeTurn false)
    · cases hstep
  | wakeUp i timedOut =>
    simp only [step] at hstep
    split at hstep
    · rename_i hget
      cases hstep
      have hatt := hinv.attentive _ (List.mem_of_getElem? hget)
      exact hinv.setListener i (hatt.awake (by simp))
    · cases hstep
  | resume i =>
    simp only [step] at hstep
    split at hstep
    · rename_i hget
      cases hstep
      exact hinv.setListener i ((hinv.attentive _ (List.mem_of_getElem? hget)).takeTurn _)
    · cases hstep

theorem step_runtime {op : ListenedOp} (hstep : world.step layout op = some world') :
    world'.runtime = world.runtime ∨
    ∃ entry : RuntimeSection, world'.runtime = entry.exec layout world.runtime := by
  cases op with
  | begin write =>
    obtain ⟨-, hstep⟩ := Option.ite_none_right_eq_some.mp hstep
    cases hstep
    exact .inl rfl
  | advance =>
    simp only [step] at hstep
    split at hstep
    · cases hstep
    · rename_i entry rest hprogress
      cases hstep
      exact .inr ⟨entry, rfl⟩
  | subscribeBlocking | subscribeFromStartBlocking =>
    obtain ⟨-, hstep⟩ := Option.ite_none_right_eq_some.mp hstep
    cases hstep
    exact .inl rfl
  | clone i =>
    obtain ⟨listener, -, rfl⟩ := Option.map_eq_some_iff.mp hstep
    exact .inl rfl
  | poll i =>
    obtain ⟨-, hstep⟩ := Option.ite_none_right_eq_some.mp hstep
    split at hstep <;> cases hstep
    exact .inl rfl
  | waitForUpdate i | wakeUp i timedOut | resume i =>
    simp only [step] at hstep
    split at hstep <;> cases hstep
    exact .inl rfl

theorem step_version (op : ListenedOp) (world world' : ListenedRuntime)
    (hstep : world.step layout op = some world') :
    world'.runtime.eventNotifier.version ≤ world.runtime.eventNotifier.version + 1 := by
  rcases step_runtime hstep with hsame | ⟨entry, hentry⟩
  · rw [hsame]
    exact Nat.le_succ _
  · rw [hentry]
    exact (entry.exec_notifies world.runtime).version_le_succ

/-- No wake-up is lost: once an operation is done its tail is published, and whoever has an event pending is
not asleep and would not go to sleep. The version counts steps, so it stays in its machine word. -/
theorem no_lost_wakeup (layout : Layout) (config : RuntimeConfig) (ops : List ListenedOp)
    (world : ListenedRuntime) (hrun : run (step layout) ops (init config) = some world) :
    world.runtime.eventNotifier.version ≤ ops.length ∧
    (world.inProgress = [] →
      world.runtime.eventNotifier.tailIndex = world.runtime.log.eventTailIndex ∧
      ∀ listener ∈ world.listeners, listener.subscription.hasPending world.runtime = true →
        listener.subscription.observedVersion < world.runtime.eventNotifier.version ∧
        listener.subscription.waitForUpdate world.runtime.eventNotifier = .returned true ∧
        listener.phase ≠ .asleep) := by
  refine ⟨?_, ?_⟩
  · have hbounded := run_bounded step_version hrun
    exact Nat.le_trans hbounded (Nat.le_of_eq (Nat.zero_add _))
  · intro hidle
    have hinv : world.Inv layout := run_invariant step_inv (init_inv config) hrun
    have hpublished := hinv.published
    have hattentive := hinv.attentive
    rw [completed_of_idle hidle] at hpublished hattentive
    refine ⟨hpublished, ?_⟩
    intro listener hl hpending
    have hatt := hattentive listener hl
    have hbehind : listener.subscription.cursor.nextIndex < world.runtime.log.eventTailIndex := by
      have hcount : 0 < listener.subscription.pendingCount world.runtime := of_decide_eq_true hpending
      simp only [RuntimeEventSubscription.pendingCount, EventLog.pendingEventCount] at hcount
      omega
    have hnew := hatt.told hbehind
    refine ⟨hnew, if_pos hnew, ?_⟩
    intro hasleep
    exact absurd hnew (Nat.not_lt_of_le (hatt.asleep hasleep))

def wokenOps : List ListenedOp :=
  [.subscribeBlocking, .begin (.cacheState { deviceId := gpioLine }), .advance, .advance,
    .waitForUpdate 0, .advance, .advance, .resume 0, .subscribeFromStartBlocking]

theorem no_lost_wakeup_woken :
    ∃ world, run (step wordLayout) wokenOps (init {}) = some world ∧
      world.listeners = [⟨⟨⟨0⟩, 0⟩, .idle⟩, ⟨⟨⟨0⟩, 0⟩, .idle⟩] ∧
      ∀ listener ∈ world.listeners, listener.subscription.hasPending world.runtime = true →
        listener.subscription.observedVersion < world.runtime.eventNotifier.version :=
  ⟨_, rfl, by decide, fun listener hl hpending =>
    (((no_lost_wakeup wordLayout {} wokenOps _ rfl).2 rfl).2 listener hl hpending).1⟩

end ListenedRuntime

end Lemnos
