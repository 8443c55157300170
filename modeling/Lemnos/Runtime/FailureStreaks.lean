import Mathlib.Data.List.Induction
import Lemnos.Runtime.Rebinds

/-! Failure records of a device, against the history of what was tried on it. -/

namespace Lemnos

open Lemnos.Core Discovery Registry Library.OrderedMap

structure TrackedFailure where
  operation : RuntimeFailureOperation
  category : RuntimeFailureCategory
  occurredAt : Option TimestampMs
  deriving DecidableEq

/-- What became of an operation that is tracked for a device, or that its record was to be forgotten. -/
inductive TrackedEvent where
  | succeeded
  | failed (failure : TrackedFailure)
  | cleared
  deriving DecidableEq

namespace TrackedEvent

def ofResult {α : Type} (operation : RuntimeFailureOperation) (occurredAt : Option TimestampMs) :
    RuntimeResult α → TrackedEvent
  | .ok _ => .succeeded
  | .error error => .failed ⟨operation, classifyFailure error, occurredAt⟩

def extend (failures : List TrackedFailure) : TrackedEvent → List TrackedFailure
  | .failed failure => failures ++ [failure]
  | .succeeded | .cleared => []

/-- The failures since the last success or clearing. -/
def streak (events : List TrackedEvent) : List TrackedFailure := events.foldl extend []

theorem streak_ne_nil_iff (events : List TrackedEvent) :
    streak events ≠ [] ↔ ∃ failure, events.getLast? = some (.failed failure) := by
  induction events using List.reverseRecOn with
  | nil => simp [streak]
  | append_singleton events event _ =>
    rw [streak, List.foldl_append, List.getLast?_append]
    cases event <;> simp [extend]

theorem length_foldl_extend_le (events : List TrackedEvent) (failures : List TrackedFailure) :
    (events.foldl extend failures).length ≤ failures.length + events.length := by
  induction events generalizing failures with
  | nil => exact Nat.le_refl _
  | cons event events ih =>
    have hone : (extend failures event).length ≤ failures.length + 1 := by cases event <;> simp [extend]
    have hrest := ih (extend failures event)
    rw [List.foldl_cons, List.length_cons]
    omega

end TrackedEvent

/-- The record counts the failures, describes the latest of them and knows the first known time. -/
structure RuntimeFailureRecord.Counts (record : RuntimeFailureRecord) (failures : List TrackedFailure) :
    Prop where
  count : record.occurrenceCount = failures.length
  latest : failures.getLast? = some ⟨record.operation, record.category, record.lastOccurredAt⟩
  first : record.firstOccurredAt = failures.findSome? TrackedFailure.occurredAt

def TracksStreak (failures : BTreeMap DeviceId RuntimeFailureRecord) (deviceId : DeviceId)
    (streak : List TrackedFailure) : Prop :=
  match failures[deviceId]? with
  | none => streak = []
  | some record => record.deviceId = deviceId ∧ record.Counts streak

namespace TracksStreak

variable {failures : BTreeMap DeviceId RuntimeFailureRecord} {deviceId : DeviceId}
  {streak : List TrackedFailure}

theorem congr (h : TracksStreak failures deviceId streak)
    {failures' : BTreeMap DeviceId RuntimeFailureRecord}
    (hsame : failures'[deviceId]? = failures[deviceId]?) : TracksStreak failures' deviceId streak := by
  rw [TracksStreak, hsame]
  exact h

theorem of_absent (h : failures[deviceId]? = none) : TracksStreak failures deviceId [] := by
  rw [TracksStreak, h]

theorem mem_iff (h : TracksStreak failures deviceId streak) : deviceId ∈ failures ↔ streak ≠ [] := by
  rw [BTreeMap.mem_iff_exists]
  unfold TracksStreak at h
  cases hget : failures[deviceId]? with
  | none =>
    rw [hget] at h
    simp [h]
  | some record =>
    rw [hget] at h
    have hlatest := h.2.latest
    refine iff_of_true ⟨record, rfl⟩ ?_
    rintro rfl
    cases hlatest

theorem recordOutcome {α : Type} (h : TracksStreak failures deviceId streak)
    (operation : RuntimeFailureOperation) (occurredAt : Option TimestampMs) (result : RuntimeResult α) :
    TracksStreak (System.recordOutcome failures deviceId operation occurredAt result) deviceId
      (TrackedEvent.extend streak (.ofResult operation occurredAt result)) := by
  cases result with
  | ok value => exact .of_absent (BTreeMap.getElem?_erase_same failures deviceId)
  | error error =>
    unfold TracksStreak at h
    simp only [System.recordOutcome, TrackedEvent.ofResult, TrackedEvent.extend]
    cases hget : failures[deviceId]? with
    | none =>
      rw [hget] at h
      rw [h]
      simp only [TracksStreak, BTreeMap.getElem?_insert_same]
      exact ⟨rfl, rfl, rfl, by simp [RuntimeFailureRecord.new]⟩
    | some record =>
      rw [hget] at h
      obtain ⟨hid, hcount, hlatest, hfirst⟩ := h
      simp only [TracksStreak, BTreeMap.getElem?_insert_same]
      refine ⟨hid, ?_, ?_, ?_⟩
      · simp [RuntimeFailureRecord.recordRepeat, hcount]
      · simp [RuntimeFailureRecord.recordRepeat]
      · simp [RuntimeFailureRecord.recordRepeat, hfirst, List.findSome?_append]

end TracksStreak

namespace System

variable {host : Host} {sys : System} {deviceId : DeviceId}

def rebindEvents (host : Host) (deviceId : DeviceId) : List DeviceId → System → List TrackedEvent
  | [], _ => []
  | target :: targets, sys =>
    let attempt := sys.bindDeviceById host target
    let event := TrackedEvent.ofResult .rebind (host.clock attempt.2.calls) attempt.1
    (if target = deviceId then [event] else []) ++
      rebindEvents host deviceId targets (sys.rebindTrackedDevice host target).2

def refreshEvents (host : Host) (deviceId : DeviceId) (sys : System) (discovery : DiscoveryRunReport)
    (mode : RefreshMode) : List TrackedEvent :=
  match sys.runtime.nextInventory discovery mode with
  | .error _ => []
  | .ok next =>
    (if deviceId ∈ sys.runtime.givenUp next then [.cleared] else []) ++
      rebindEvents host deviceId (sys.rebindTargets next) (sys.afterCommit host discovery mode next)

def trackedRefresh (host : Host) (deviceId : DeviceId) (op : RuntimeOp) (sys : System) : List TrackedEvent :=
  match sys.committedRun host op with
  | none => []
  | some (discovery, mode) => sys.refreshEvents host deviceId discovery mode

def refreshStateEvents (host : Host) (target : DeviceId) (sys : System) : List TrackedEvent :=
  if !sys.runtime.running then []
  else
    match sys.runtime.bindings[target]? with
    | none => [.succeeded]
    | some bound =>
      let attempt := sys.reportState host target bound
      [.ofResult .refreshState (host.clock attempt.2.calls) (sys.refreshState host target).1]

/-- What the operation means for the device: the outcome of a tracked operation on it, with the reading of the
clock if it failed, or a clearing of its record. -/
def trackedBy (host : Host) (deviceId : DeviceId) (op : RuntimeOp) (sys : System) : List TrackedEvent :=
  match op with
  | .bind target =>
    let attempt := sys.bindDeviceById host target
    if target = deviceId then [.ofResult .bind (host.clock attempt.2.calls) (sys.bind host target).1] else []
  | .request request =>
    let attempt := sys.requestInner host request
    if request.deviceId = deviceId then
      [.ofResult .request (host.clock attempt.2.calls) (sys.request host request).1]
    else []
  | .refreshState target => if target = deviceId then sys.refreshStateEvents host target else []
  | .unbind target => if target = deviceId then [.cleared] else []
  | .shutdown => [.cleared]
  | op => sys.trackedRefresh host deviceId op

def trackedEvents (host : Host) (deviceId : DeviceId) : List RuntimeOp → System → List TrackedEvent
  | [], _ => []
  | op :: ops, sys => sys.trackedBy host deviceId op ++ trackedEvents host deviceId ops (sys.exec host op)

theorem bindDeviceById_failures (target : DeviceId) :
    (sys.bindDeviceById host target).2.runtime.failures = sys.runtime.failures := by
  rcases sys.bindDeviceById_cases host target with
    ⟨result, h, -⟩ | ⟨descriptor, prepared, -, -, -, -, ⟨error, sys', hb, h⟩ | ⟨output, sys', hb, h⟩⟩
  · rw [h]
  · have hruntime := prepared.bind_runtime host sys
    rw [hb] at hruntime
    rw [h, hruntime]
  · rw [h, setRuntime, (PreparedBinding.bind_ok hb).2.2]
    simp [Runtime.storeBoundDevice]

theorem requestInner_failures (request : DeviceRequest) :
    (sys.requestInner host request).2.runtime.failures = sys.runtime.failures := by
  have hprepared : (sys.prepareRequestBinding host request).2.runtime.failures = sys.runtime.failures := by
    rcases sys.prepareRequestBinding_snd host request with hsame | ⟨device, hlisted, hbind⟩
    · rw [hsame]
    · rw [hbind, ← bindDeviceById_eq hlisted]
      exact bindDeviceById_failures request.deviceId
  rcases sys.requestInner_cases host request with ⟨hsame, -⟩ | ⟨bound, interaction, state, sys', -, -, hafter⟩
  · rw [hsame]
    exact hprepared
  · rw [hafter, Runtime.cacheReported_failures]
    exact hprepared

theorem markDesired_failures {α : Type} (target : DeviceId) (result : RuntimeResult α) :
    (sys.markDesired target result).runtime.failures = sys.runtime.failures := by
  unfold markDesired
  split <;> rfl

theorem completeOperation_tracks {α : Type} {streak : List TrackedFailure} (target : DeviceId)
    (operation : RuntimeFailureOperation) (result : RuntimeResult α)
    (h : TracksStreak sys.runtime.failures deviceId streak) :
    TracksStreak (sys.completeOperation host target operation result).runtime.failures deviceId
      ((if target = deviceId then [.ofResult operation (host.clock sys.calls) result] else []).foldl
        TrackedEvent.extend streak) := by
  by_cases heq : target = deviceId
  · subst heq
    rw [if_pos rfl]
    exact h.recordOutcome operation (host.clock sys.calls) result
  · rw [if_neg heq]
    exact h.congr (Runtime.recordOutcome_getElem?_ne _ _ _ _ (Ne.symm heq))

theorem rebindTrackedDevices_tracks {streak : List TrackedFailure} (targets : List DeviceId)
    (h : TracksStreak sys.runtime.failures deviceId streak) :
    TracksStreak (rebindTrackedDevices host targets sys).2.runtime.failures deviceId
      ((rebindEvents host deviceId targets sys).foldl TrackedEvent.extend streak) := by
  induction targets generalizing sys streak with
  | nil => exact h
  | cons target targets ih =>
    rw [rebindTrackedDevices_snd, rebindEvents, List.foldl_append]
    apply ih
    apply completeOperation_tracks
    exact h.congr (congrArg (·[deviceId]?) (bindDeviceById_failures target))

theorem finishRefresh_tracks {streak : List TrackedFailure} {discovery : DiscoveryRunReport}
    {mode : RefreshMode} (hr : sys.runtime.running = true)
    (h : TracksStreak sys.runtime.failures deviceId streak) :
    TracksStreak (sys.finishRefresh host discovery mode).2.runtime.failures deviceId
      ((sys.refreshEvents host deviceId discovery mode).foldl TrackedEvent.extend streak) := by
  unfold refreshEvents
  cases hn : sys.runtime.nextInventory discovery mode with
  | error error =>
    have hsame : (sys.finishRefresh host discovery mode).2 = sys := by
      apply finishRefresh_uncommitted
      rintro ⟨-, next, hnext⟩
      rw [hn] at hnext
      cases hnext
    rw [hsame]
    exact h
  | ok next =>
    rw [finishRefresh_of_nextInventory hr hn, List.foldl_append]
    apply rebindTrackedDevices_tracks
    have hcommitted : (sys.afterCommit host discovery mode next).runtime.failures =
        BTreeMap.eraseAll sys.runtime.failures (sys.runtime.givenUp next) := by
      rw [afterCommit_runtime, Runtime.commitRefresh_snd]
    have hget := congrArg (·[deviceId]?) hcommitted
    simp only [BTreeMap.eraseAll_getElem?] at hget
    by_cases hgiven : deviceId ∈ sys.runtime.givenUp next
    · rw [if_pos hgiven] at hget ⊢
      exact .of_absent hget
    · rw [if_neg hgiven] at hget ⊢
      exact h.congr hget

theorem refreshState_bound {target : DeviceId} {bound : BoundDevice} (hr : sys.runtime.running = true)
    (hbound : sys.runtime.bindings[target]? = some bound) {snapshot : RuntimeResult (Option DeviceStateSnapshot)}
    {sys' : System} (hreport : sys.reportState host target bound = (snapshot, sys')) :
    (sys.refreshState host target).2.runtime.failures =
        (sys'.completeOperation host target .refreshState snapshot).runtime.failures ∧
      ∀ occurredAt, TrackedEvent.ofResult .refreshState occurredAt (sys.refreshState host target).1 =
        .ofResult .refreshState occurredAt snapshot := by
  simp only [refreshState, hr, hbound, hreport]
  cases snapshot with
  | error error => exact ⟨rfl, fun _ => rfl⟩
  | ok reported => exact ⟨by simp [setRuntime], fun _ => rfl⟩

theorem refreshState_tracks {streak : List TrackedFailure} (target : DeviceId)
    (h : TracksStreak sys.runtime.failures deviceId streak) :
    TracksStreak (sys.refreshState host target).2.runtime.failures deviceId
      ((if target = deviceId then sys.refreshStateEvents host target else []).foldl
        TrackedEvent.extend streak) := by
  cases hr : sys.runtime.running with
  | false =>
    have hstopped : (sys.refreshState host target).2 = sys := by simp [refreshState, hr]
    have hnone : sys.refreshStateEvents host target = [] := by simp [refreshStateEvents, hr]
    rw [hstopped, hnone, ite_self]
    exact h
  | true =>
    cases hbound : sys.runtime.bindings[target]? with
    | none =>
      have hcleared : (sys.refreshState host target).2.runtime.failures = sys.runtime.failures.erase target := by
        simp only [refreshState, hr, hbound]
        rfl
      rw [hcleared]
      by_cases heq : target = deviceId
      · subst heq
        rw [if_pos rfl, refreshStateEvents, hr, hbound]
        exact .of_absent (BTreeMap.getElem?_erase_same _ _)
      · rw [if_neg heq]
        exact h.congr (BTreeMap.getElem?_erase_ne _ (Ne.symm heq))
    | some bound =>
      have hruntime := reportState_runtime host sys target bound
      cases hreport : sys.reportState host target bound with
      | mk snapshot sys' =>
        rw [hreport] at hruntime
        obtain ⟨hfailures, hevent⟩ := refreshState_bound hr hbound hreport
        have hevents : sys.refreshStateEvents host target =
            [.ofResult .refreshState (host.clock sys'.calls) snapshot] := by
          simp [refreshStateEvents, hr, hbound, hreport, hevent]
        rw [hfailures, hevents]
        exact completeOperation_tracks target .refreshState snapshot
          (h.congr (congrArg (·.failures[deviceId]?) hruntime))

theorem request_tracks {streak : List TrackedFailure} (request : DeviceRequest)
    (h : TracksStreak sys.runtime.failures deviceId streak) :
    TracksStreak (sys.request host request).2.runtime.failures deviceId
      ((sys.trackedBy host deviceId (.request request)).foldl TrackedEvent.extend streak) := by
  have hinner := h.congr (congrArg (·[deviceId]?) (@requestInner_failures host sys request))
  have hcomplete := @completeOperation_tracks host _ deviceId _ streak request.deviceId .request
    (sys.requestInner host request).1 hinner
  have hresult : (sys.request host request).1 = (sys.requestInner host request).1 := by
    simp only [System.request]
    split <;> rfl
  have hfailures : (sys.request host request).2.runtime.failures =
      ((sys.requestInner host request).2.completeOperation host request.deviceId .request
        (sys.requestInner host request).1).runtime.failures := by
    simp only [System.request]
    split
    · rfl
    · exact markDesired_failures _ _
  rw [trackedBy, hfailures, hresult]
  exact hcomplete

theorem unbind_tracks {streak : List TrackedFailure} (target : DeviceId)
    (h : TracksStreak sys.runtime.failures deviceId streak) :
    TracksStreak (sys.unbind target).2.runtime.failures deviceId
      ((sys.trackedBy host deviceId (.unbind target)).foldl TrackedEvent.extend streak) := by
  have hcleared : (sys.unbind target).2.runtime.failures = sys.runtime.failures.erase target := by
    rw [unbind, closeDetachedBindings_runtime]
    rfl
  rw [hcleared, trackedBy]
  by_cases heq : target = deviceId
  · rw [if_pos heq, heq]
    exact .of_absent (BTreeMap.getElem?_erase_same _ _)
  · rw [if_neg heq]
    exact h.congr (BTreeMap.getElem?_erase_ne _ (Ne.symm heq))

theorem refresh_tracks {streak : List TrackedFailure} {op : RuntimeOp} (hop : op.isRefresh = true)
    (h : TracksStreak sys.runtime.failures deviceId streak) :
    TracksStreak (sys.exec host op).runtime.failures deviceId
      ((sys.trackedRefresh host deviceId op).foldl TrackedEvent.extend streak) := by
  unfold trackedRefresh
  cases hrun : sys.committedRun host op with
  | none =>
    rw [exec_uncommitted hop hrun]
    exact h
  | some run =>
    rw [exec_of_committedRun hrun]
    exact finishRefresh_tracks (committedRun_eq_some.mp hrun).2.1 h

theorem exec_tracks {streak : List TrackedFailure} (op : RuntimeOp)
    (h : TracksStreak sys.runtime.failures deviceId streak) :
    TracksStreak (sys.exec host op).runtime.failures deviceId
      ((sys.trackedBy host deviceId op).foldl TrackedEvent.extend streak) := by
  cases op with
  | bind target =>
    have hbind := h.congr (congrArg (·[deviceId]?) (@bindDeviceById_failures host sys target))
    have hcomplete := @completeOperation_tracks host _ deviceId _ streak target .bind
      (sys.bindDeviceById host target).1 hbind
    rw [exec, System.bind, markDesired_failures]
    exact hcomplete
  | request request => exact request_tracks request h
  | refreshState target => exact refreshState_tracks target h
  | unbind target => exact unbind_tracks target h
  | shutdown => exact .of_absent (by simp [exec, shutdown, setRuntime, Runtime.shutdownDetached])
  | refresh | pollWatcher => exact refresh_tracks rfl h
  | registerDriver driver =>
    rw [exec, setRuntime]
    cases sys.runtime.registry.register driver <;> exact h
  | preferDriver target driverId =>
    rw [exec, setRuntime]
    cases sys.runtime.registry.preferDriverForDevice target driverId <;> exact h
  | start | setConfig | clearPreferredDriver | takeEvents => exact h

theorem runOps_tracks {streak : List TrackedFailure} (ops : List RuntimeOp)
    (h : TracksStreak sys.runtime.failures deviceId streak) :
    TracksStreak (sys.runOps host ops).runtime.failures deviceId
      ((trackedEvents host deviceId ops sys).foldl TrackedEvent.extend streak) := by
  induction ops generalizing sys streak with
  | nil => exact h
  | cons op ops ih =>
    rw [trackedEvents, List.foldl_append]
    exact ih (exec_tracks op h)

theorem rebindEvents_length_le {targets : List DeviceId} (hnodup : targets.Nodup) (sys : System) :
    (rebindEvents host deviceId targets sys).length ≤ if deviceId ∈ targets then 1 else 0 := by
  induction targets generalizing sys with
  | nil => exact Nat.le_refl _
  | cons target targets ih =>
    obtain ⟨hfresh, hrest⟩ := List.nodup_cons.mp hnodup
    have hlater := ih hrest (sys.rebindTrackedDevice host target).2
    rw [rebindEvents, List.length_append]
    by_cases heq : target = deviceId
    · subst heq
      rw [if_neg hfresh] at hlater
      rw [if_pos rfl, if_pos List.mem_cons_self, List.length_singleton]
      omega
    · simpa [heq, Ne.symm heq] using hlater

theorem rebindTargets_nodup (next : InventorySnapshot) : (sys.rebindTargets next).Nodup := by
  refine (rebindTargets_ordered next).imp ?_
  rintro first _ hlt rfl
  have heq : compare first first = .eq := Std.ReflCmp.compare_self
  rw [hlt] at heq
  cases heq

theorem refreshEvents_extend_length_le (discovery : DiscoveryRunReport) (mode : RefreshMode)
    (streak : List TrackedFailure) :
    ((sys.refreshEvents host deviceId discovery mode).foldl TrackedEvent.extend streak).length ≤
      streak.length + 1 := by
  unfold refreshEvents
  cases sys.runtime.nextInventory discovery mode with
  | error error => exact Nat.le_succ _
  | ok next =>
    have hone := @rebindEvents_length_le host deviceId _ (@rebindTargets_nodup sys next)
      (sys.afterCommit host discovery mode next)
    have hle : (if deviceId ∈ sys.rebindTargets next then 1 else 0) ≤ 1 := by split <;> omega
    rw [List.foldl_append]
    refine Nat.le_trans (TrackedEvent.length_foldl_extend_le _ _) ?_
    by_cases hgiven : deviceId ∈ sys.runtime.givenUp next
    · rw [if_pos hgiven]
      simp only [List.foldl_cons, List.foldl_nil, TrackedEvent.extend, List.length_nil]
      omega
    · rw [if_neg hgiven]
      simp only [List.foldl_nil]
      omega

theorem trackedRefresh_extend_length_le (op : RuntimeOp) (streak : List TrackedFailure) :
    ((sys.trackedRefresh host deviceId op).foldl TrackedEvent.extend streak).length ≤ streak.length + 1 := by
  unfold trackedRefresh
  cases sys.committedRun host op with
  | none => exact Nat.le_succ _
  | some run => exact refreshEvents_extend_length_le run.1 run.2 streak

theorem trackedBy_extend_length_le (op : RuntimeOp) (streak : List TrackedFailure) :
    ((sys.trackedBy host deviceId op).foldl TrackedEvent.extend streak).length ≤ streak.length + 1 := by
  have hshort : ∀ events : List TrackedEvent, events.length ≤ 1 →
      (events.foldl TrackedEvent.extend streak).length ≤ streak.length + 1 := by
    intro events hlength
    have hle := TrackedEvent.length_foldl_extend_le events streak
    omega
  cases op with
  | bind target | request request =>
    apply hshort
    rw [trackedBy]
    split <;> simp
  | refreshState target =>
    apply hshort
    unfold trackedBy refreshStateEvents
    repeat' split
    all_goals simp
  | unbind target =>
    apply hshort
    rw [trackedBy]
    split <;> simp
  | shutdown => exact hshort [.cleared] (Nat.le_refl 1)
  | _ =>
    unfold trackedBy
    exact trackedRefresh_extend_length_le _ streak

theorem trackedEvents_streak_length_le (ops : List RuntimeOp) (streak : List TrackedFailure) :
    ((trackedEvents host deviceId ops sys).foldl TrackedEvent.extend streak).length ≤
      streak.length + ops.length := by
  induction ops generalizing sys streak with
  | nil => exact Nat.le_refl _
  | cons op ops ih =>
    have hone := @trackedBy_extend_length_le host sys deviceId op streak
    rw [trackedEvents, List.foldl_append, List.length_cons]
    refine Nat.le_trans (ih _) ?_
    omega

theorem runOps_failures_count_streak (host : Host) (config : RuntimeConfig) (ops : List RuntimeOp)
    (deviceId : DeviceId) :
    let start : System := { runtime := { config } }
    let failures := (start.runOps host ops).runtime.failures
    let events := trackedEvents host deviceId ops start
    (deviceId ∈ failures ↔ ∃ failure, events.getLast? = some (.failed failure)) ∧
      ∀ record, failures[deviceId]? = some record →
        record.deviceId = deviceId ∧ record.Counts (TrackedEvent.streak events) ∧
          record.occurrenceCount ≤ ops.length := by
  intro start failures events
  have htracks : TracksStreak failures deviceId (TrackedEvent.streak events) :=
    runOps_tracks ops (.of_absent (by simp [start]))
  refine ⟨htracks.mem_iff.trans (TrackedEvent.streak_ne_nil_iff events), ?_⟩
  intro record hrecord
  rw [TracksStreak, hrecord] at htracks
  refine ⟨htracks.1, htracks.2, ?_⟩
  have hle := @trackedEvents_streak_length_le host start deviceId ops []
  rw [List.length_nil, Nat.zero_add] at hle
  rw [htracks.2.count]
  exact hle

def bindUnlistedTwice : List RuntimeOp := [.start, .bind gpioLine, .bind gpioLine]

theorem runOps_failures_count_streak_unlisted : ∃ record,
    (runOps .quiet bindUnlistedTwice { runtime := { config := {} } }).runtime.failures[gpioLine]? = some record ∧
      record.occurrenceCount = 2 ∧ record.category = .unknownDevice ∧
      record.Counts (TrackedEvent.streak
        (trackedEvents .quiet gpioLine bindUnlistedTwice { runtime := { config := {} } })) :=
  ⟨_, rfl, by decide, by decide,
    ((runOps_failures_count_streak .quiet {} bindUnlistedTwice gpioLine).2 _ rfl).2.1⟩

end System

end Lemnos
