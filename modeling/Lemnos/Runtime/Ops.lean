import Lemnos.Runtime.Effects
import Lemnos.Runtime.Watch

namespace Lemnos

open Lemnos.Core Discovery Registry Library.OrderedMap

inductive RuntimeOp where
  | start
  | shutdown
  | setConfig (config : RuntimeConfig)
  | registerDriver (driver : Driver)
  | preferDriver (deviceId : DeviceId) (driverId : String)
  | clearPreferredDriver (deviceId : DeviceId)
  | takeEvents
  | bind (deviceId : DeviceId)
  | unbind (deviceId : DeviceId)
  | refreshState (deviceId : DeviceId)
  | request (request : DeviceRequest)
  | refresh (mode : RefreshMode) (context : DiscoveryContext) (probes : List DiscoveryProbe)
  | pollWatcher (mode : RefreshMode) (context : DiscoveryContext) (probes : List DiscoveryProbe)
      (polled : DiscoveryResult (List InventoryWatchEvent))

def RuntimeOp.isRefresh : RuntimeOp → Bool
  | .refresh .. | .pollWatcher .. => true
  | _ => false

def RuntimeOp.isShutdown : RuntimeOp → Bool
  | .shutdown => true
  | _ => false

def Runtime.setRegistry (runtime : Runtime) : RegistryResult DriverRegistry → Runtime
  | .ok registry => { runtime with registry }
  | .error _ => runtime

namespace System

def exec (host : Host) (op : RuntimeOp) (sys : System) : System :=
  match op with
  | .start => sys.setRuntime sys.runtime.start
  | .shutdown => sys.shutdown
  | .setConfig config => sys.setRuntime (sys.runtime.setConfig host.layout config)
  | .registerDriver driver => sys.setRuntime (sys.runtime.setRegistry (sys.runtime.registry.register driver))
  | .preferDriver deviceId driverId =>
    sys.setRuntime (sys.runtime.setRegistry (sys.runtime.registry.preferDriverForDevice deviceId driverId))
  | .clearPreferredDriver deviceId =>
    sys.setRuntime
      (sys.runtime.setRegistry (.ok (sys.runtime.registry.clearPreferredDriverForDevice deviceId)))
  | .takeEvents => sys.setRuntime sys.runtime.takeEvents.2
  | .bind deviceId => (sys.bind host deviceId).2
  | .unbind deviceId => (sys.unbind deviceId).2
  | .refreshState deviceId => (sys.refreshState host deviceId).2
  | .request request => (sys.request host request).2
  | .refresh mode context probes => (sys.refreshWithMode host context probes mode).2
  | .pollWatcher mode context probes polled => (sys.pollWatcherWithMode host context probes polled mode).2

def discoveryOf (host : Host) (op : RuntimeOp) (sys : System) : Option (DiscoveryRunReport × RefreshMode) :=
  match op with
  | .refresh mode context probes =>
    (runProbes host.availableParallelism context probes).toOption.map (fun discovery => (discovery, mode))
  | .pollWatcher mode context probes (.ok watchEvents) =>
    if watchEvents.isEmpty then none
    else
      (watchRefreshScope sys.runtime.config context probes watchEvents).bind (fun scope =>
        (runProbes host.availableParallelism scope.1 scope.2).toOption.map
          (fun discovery => (discovery, mode)))
  | _ => none

def committedRun (host : Host) (op : RuntimeOp) (sys : System) : Option (DiscoveryRunReport × RefreshMode) :=
  (sys.discoveryOf host op).filter (fun run =>
    sys.runtime.running && (sys.runtime.nextInventory run.1 run.2).isOk)

variable {host : Host} {sys : System}

theorem finishRefresh_of_error {discovery : DiscoveryRunReport} {mode : RefreshMode} {error : RuntimeError}
    (h : sys.runtime.prepareRefreshCommit host.layout discovery mode = .error error) :
    sys.finishRefresh host discovery mode = (.error error, sys) := by
  simp [finishRefresh, h]

def afterCommit (host : Host) (sys : System) (discovery : DiscoveryRunReport) (mode : RefreshMode)
    (snapshot : InventorySnapshot) : System :=
  let committed := sys.runtime.commitRefresh host.layout discovery mode snapshot
  (sys.setRuntime committed.2).closeDetachedBindings committed.1.detached

theorem afterCommit_runtime (discovery : DiscoveryRunReport) (mode : RefreshMode)
    (snapshot : InventorySnapshot) : (sys.afterCommit host discovery mode snapshot).runtime =
      (sys.runtime.commitRefresh host.layout discovery mode snapshot).2 := by
  simp [afterCommit, setRuntime]

def rebindTargets (sys : System) (snapshot : InventorySnapshot) : List DeviceId :=
  sys.runtime.collectRebindTargets (sys.runtime.inventory.diff snapshot)
    (sys.runtime.collectInvalidatedBindings (sys.runtime.inventory.diff snapshot))

theorem finishRefresh_of_nextInventory {discovery : DiscoveryRunReport} {mode : RefreshMode}
    {snapshot : InventorySnapshot} (hr : sys.runtime.running = true)
    (hn : sys.runtime.nextInventory discovery mode = .ok snapshot) :
    sys.finishRefresh host discovery mode =
      let rebinding := rebindTrackedDevices host (sys.rebindTargets snapshot)
        (sys.afterCommit host discovery mode snapshot)
      (.ok ⟨{ discovery with snapshot }, sys.runtime.inventory.diff snapshot, rebinding.1⟩, rebinding.2) := by
  simp only [finishRefresh, Runtime.prepareRefreshCommit_of_nextInventory hr hn]
  rfl

variable (host)

theorem finishRefresh_sameDiscovery {discovery : DiscoveryRunReport} {mode : RefreshMode}
    {snapshot : InventorySnapshot} (hr : sys.runtime.running = true)
    (hn : sys.runtime.nextInventory discovery mode = .ok snapshot) :
    (sys.runtime.commitRefresh host.layout discovery mode snapshot).2.SameDiscovery
      (sys.finishRefresh host discovery mode).2.runtime := by
  rw [finishRefresh_of_nextInventory hr hn, ← afterCommit_runtime]
  exact rebindTrackedDevices_sameDiscovery host _ _

variable (sys)

theorem bind_sameDiscovery (deviceId : DeviceId) :
    sys.runtime.SameDiscovery (sys.bind host deviceId).2.runtime :=
  (sys.bindDeviceById_sameDiscovery host deviceId).trans
    ((completeOperation_sameDiscovery host _ deviceId .bind _).trans (markDesired_sameDiscovery _ deviceId _))

theorem unbind_sameDiscovery (deviceId : DeviceId) :
    sys.runtime.SameDiscovery (sys.unbind deviceId).2.runtime := by
  simp only [unbind, closeDetachedBindings_runtime]
  exact ⟨rfl, rfl, rfl, rfl, rfl⟩

theorem reportState_runtime (deviceId : DeviceId) (bound : BoundDevice) :
    (sys.reportState host deviceId bound).2.runtime = sys.runtime := by
  unfold reportState callState
  cases host.state sys.calls bound <;> rfl

theorem executeBound_runtime (request : DeviceRequest) (bound : BoundDevice) (cacheStateOnRequest : Bool) :
    (sys.executeBound host request bound cacheStateOnRequest).2.runtime = sys.runtime := by
  unfold executeBound callExecute
  cases host.execute sys.calls bound request.interaction with
  | error source => rfl
  | ok interaction =>
    cases cacheStateOnRequest with
    | false => rfl
    | true =>
      simp only [if_true]
      have hr := reportState_runtime host { sys with calls := sys.calls ++ [.execute bound.handle] }
        request.deviceId bound
      split <;> (rename_i h; rw [h] at hr; exact hr)

theorem refreshState_cases (deviceId : DeviceId) :
    (sys.refreshState host deviceId).2.runtime = sys.runtime ∨
    (sys.refreshState host deviceId).2.runtime = sys.runtime.clearFailure deviceId ∨
    ∃ bound result sys', sys.runtime.bindings[deviceId]? = some bound ∧
      sys.reportState host deviceId bound = (result, sys') ∧ sys'.runtime = sys.runtime ∧
      (sys.refreshState host deviceId).2.runtime =
        (sys'.completeOperation host deviceId .refreshState result).runtime.cacheReported host.layout
          (result.toOption.getD none) := by
  unfold refreshState
  split
  · exact .inl rfl
  · split
    · exact .inr (.inl rfl)
    · rename_i bound hbound
      have hruntime := reportState_runtime host sys deviceId bound
      cases hreport : sys.reportState host deviceId bound with
      | mk result sys' =>
        rw [hreport] at hruntime
        refine .inr (.inr ⟨bound, result, sys', hbound, hreport, hruntime, ?_⟩)
        cases result <;> rfl

theorem prepareRequestBinding_snd (request : DeviceRequest) :
    (sys.prepareRequestBinding host request).2 = sys ∨
    ∃ device, sys.runtime.inventory.get request.deviceId = some device ∧
      (sys.prepareRequestBinding host request).2 = (sys.bindDiscoveredDevice host device).2 := by
  unfold prepareRequestBinding
  split
  · exact .inl rfl
  · rename_i device hvalid
    split
    · exact .inl rfl
    · split
      · exact .inl rfl
      · exact .inr ⟨device, (Runtime.validatedRequestDevice_ok hvalid).2, rfl⟩

theorem requestInner_cases (request : DeviceRequest) :
    let prepared := (sys.prepareRequestBinding host request).2
    (sys.requestInner host request).2.runtime = prepared.runtime ∧
      (sys.requestInner host request).1.isOk = false ∨
    ∃ bound interaction state sys', prepared.runtime.bindings[request.deviceId]? = some bound ∧
      prepared.executeBound host request bound prepared.runtime.config.cacheStateOnRequest =
        (.ok (interaction, state), sys') ∧
      (sys.requestInner host request).2.runtime = prepared.runtime.cacheReported host.layout state := by
  unfold requestInner
  cases hprepare : sys.prepareRequestBinding host request with
  | mk result prepared =>
    cases result with
    | error error => exact .inl ⟨rfl, rfl⟩
    | ok granted =>
      simp only
      cases hbound : prepared.runtime.bindings[request.deviceId]? with
      | none => exact .inl ⟨rfl, rfl⟩
      | some bound =>
        have hruntime :=
          executeBound_runtime host prepared request bound prepared.runtime.config.cacheStateOnRequest
        simp only
        cases hexecute : prepared.executeBound host request bound prepared.runtime.config.cacheStateOnRequest with
        | mk answer sys' =>
          rw [hexecute] at hruntime
          simp only at hruntime
          cases answer with
          | error error => exact .inl ⟨hruntime, rfl⟩
          | ok executed =>
            refine .inr ⟨bound, executed.1, executed.2, sys', rfl, hexecute, ?_⟩
            simp only [setRuntime, hruntime]

theorem refreshState_sameDiscovery (deviceId : DeviceId) :
    sys.runtime.SameDiscovery (sys.refreshState host deviceId).2.runtime := by
  rcases sys.refreshState_cases host deviceId with
    hsame | hcleared | ⟨bound, result, sys', -, -, hread, hafter⟩
  · rw [hsame]
    exact .refl _
  · rw [hcleared]
    exact ⟨rfl, rfl, rfl, rfl, rfl⟩
  · have hcomplete := completeOperation_sameDiscovery host sys' deviceId .refreshState result
    rw [hread] at hcomplete
    rw [hafter]
    exact hcomplete.trans (Runtime.cacheReported_sameDiscovery _ _ _)

theorem prepareRequestBinding_sameDiscovery (request : DeviceRequest) :
    sys.runtime.SameDiscovery (sys.prepareRequestBinding host request).2.runtime := by
  rcases sys.prepareRequestBinding_snd host request with hsame | ⟨device, -, hbind⟩
  · rw [hsame]
    exact .refl _
  · rw [hbind]
    exact sys.bindDiscoveredDevice_sameDiscovery host device

theorem requestInner_sameDiscovery (request : DeviceRequest) :
    sys.runtime.SameDiscovery (sys.requestInner host request).2.runtime := by
  have hprepare := prepareRequestBinding_sameDiscovery host sys request
  rcases sys.requestInner_cases host request with ⟨hsame, -⟩ | ⟨bound, interaction, state, sys', -, -, hafter⟩
  · rw [hsame]
    exact hprepare
  · rw [hafter]
    exact hprepare.trans (Runtime.cacheReported_sameDiscovery _ _ _)

theorem request_sameDiscovery (request : DeviceRequest) :
    sys.runtime.SameDiscovery (sys.request host request).2.runtime := by
  have hinner := (requestInner_sameDiscovery host sys request).trans
    (completeOperation_sameDiscovery host _ request.deviceId .request (sys.requestInner host request).1)
  simp only [System.request]
  split
  · exact hinner
  · exact hinner.trans (markDesired_sameDiscovery _ _ _)

variable {host sys}

theorem committedRun_eq_some {op : RuntimeOp} {discovery : DiscoveryRunReport} {mode : RefreshMode} :
    sys.committedRun host op = some (discovery, mode) ↔
      sys.discoveryOf host op = some (discovery, mode) ∧ sys.runtime.running = true ∧
        ∃ snapshot, sys.runtime.nextInventory discovery mode = .ok snapshot := by
  rw [committedRun, Option.filter_eq_some_iff]
  simp only [Bool.and_eq_true, and_congr_right_iff]
  intro _ _
  cases sys.runtime.nextInventory discovery mode <;> simp [Except.isOk, Except.toBool]

theorem finishRefresh_uncommitted {discovery : DiscoveryRunReport} {mode : RefreshMode}
    (h : ¬ (sys.runtime.running = true ∧
      ∃ snapshot, sys.runtime.nextInventory discovery mode = .ok snapshot)) :
    (sys.finishRefresh host discovery mode).2 = sys := by
  cases hc : sys.runtime.prepareRefreshCommit host.layout discovery mode with
  | error error => rw [finishRefresh_of_error hc]
  | ok committed =>
    obtain ⟨hr, snapshot, hn, -⟩ := Runtime.prepareRefreshCommit_ok hc
    exact absurd ⟨hr, snapshot, hn⟩ h

variable (host sys) in
theorem finishWatchRefresh_snd (discovery : DiscoveryRunReport) (mode : RefreshMode)
    (watchEvents : List InventoryWatchEvent) :
    (sys.finishWatchRefresh host discovery mode watchEvents).2 =
      (sys.finishRefresh host discovery mode).2 := by
  unfold finishWatchRefresh
  split <;> (rename_i h; rw [h])

def finishDiscovery (host : Host) (sys : System) : Option (DiscoveryRunReport × RefreshMode) → System
  | none => sys
  | some (discovery, mode) => (sys.finishRefresh host discovery mode).2

theorem exec_refresh {op : RuntimeOp} (hop : op.isRefresh = true) :
    sys.exec host op = sys.finishDiscovery host (sys.discoveryOf host op) := by
  cases op with
  | refresh mode context probes =>
    simp only [exec, refreshWithMode, discoveryOf]
    cases hr : sys.runtime.running with
    | false =>
      cases runProbes host.availableParallelism context probes with
      | error error => rfl
      | ok discovery => exact (finishRefresh_uncommitted (by simp [hr])).symm
    | true =>
      cases runProbes host.availableParallelism context probes <;> rfl
  | pollWatcher mode context probes polled =>
    cases polled with
    | error error => rfl
    | ok watchEvents =>
      simp only [exec, pollWatcherWithMode, handleWatchEventsAndRefreshWithMode, discoveryOf]
      split
      · rfl
      · cases watchRefreshScope sys.runtime.config context probes watchEvents with
        | none => rfl
        | some scope =>
          simp only [Option.bind_some]
          cases runProbes host.availableParallelism scope.1 scope.2 with
          | error error => rfl
          | ok discovery =>
            have hsnd := finishWatchRefresh_snd host sys discovery mode watchEvents
            simp only [Except.toOption, Option.map_some, finishDiscovery, ← hsnd]
            split <;> (rename_i h; rw [h])
  | _ => cases hop

theorem discoveryOf_isRefresh {op : RuntimeOp} {run : DiscoveryRunReport × RefreshMode}
    (h : sys.discoveryOf host op = some run) : op.isRefresh = true := by
  cases op with
  | refresh => rfl
  | pollWatcher => rfl
  | _ => cases h

theorem exec_of_committedRun {op : RuntimeOp} {discovery : DiscoveryRunReport} {mode : RefreshMode}
    (h : sys.committedRun host op = some (discovery, mode)) :
    sys.exec host op = (sys.finishRefresh host discovery mode).2 := by
  have hd := (committedRun_eq_some.mp h).1
  rw [exec_refresh (discoveryOf_isRefresh hd), hd, finishDiscovery]

theorem exec_uncommitted {op : RuntimeOp} (hop : op.isRefresh = true)
    (h : sys.committedRun host op = none) : sys.exec host op = sys := by
  rw [exec_refresh hop]
  cases hd : sys.discoveryOf host op with
  | none => rfl
  | some run =>
    obtain ⟨discovery, mode⟩ := run
    apply finishRefresh_uncommitted
    intro hcommit
    rw [committedRun_eq_some.mpr ⟨hd, hcommit⟩] at h
    cases h

theorem exec_committedRun_index {op : RuntimeOp} {discovery : DiscoveryRunReport} {mode : RefreshMode}
    (h : sys.committedRun host op = some (discovery, mode)) :
    ∃ snapshot, sys.runtime.nextInventory discovery mode = .ok snapshot ∧
      (sys.exec host op).runtime.inventory = snapshot ∧
      (sys.exec host op).runtime.probeInventory =
        Runtime.nextProbeInventory sys.runtime.probeInventory discovery mode := by
  obtain ⟨-, hr, snapshot, hn⟩ := committedRun_eq_some.mp h
  have hsame := finishRefresh_sameDiscovery host hr hn
  rw [Runtime.commitRefresh_snd] at hsame
  exact ⟨snapshot, hn, by rw [exec_of_committedRun h]; exact hsame.inventory,
    by rw [exec_of_committedRun h]; exact hsame.probeInventory⟩

theorem setRegistry_sameIndex (runtime : Runtime) (result : RegistryResult DriverRegistry) :
    (runtime.setRegistry result).inventory = runtime.inventory ∧
      (runtime.setRegistry result).probeInventory = runtime.probeInventory := by
  cases result <;> exact ⟨rfl, rfl⟩

@[simp] theorem shutdown_inventory : sys.shutdown.runtime.inventory = sys.runtime.inventory := by
  simp [shutdown, setRuntime, Runtime.shutdownDetached, Runtime.takeAllBoundDevices]

@[simp] theorem shutdown_probeInventory : sys.shutdown.runtime.probeInventory = {} := by
  simp [shutdown, setRuntime, Runtime.shutdownDetached, Runtime.takeAllBoundDevices]

variable (host sys) in
theorem exec_sameIndex {op : RuntimeOp} (hop : op.isRefresh = false) (hshutdown : op ≠ .shutdown) :
    (sys.exec host op).runtime.inventory = sys.runtime.inventory ∧
      (sys.exec host op).runtime.probeInventory = sys.runtime.probeInventory := by
  cases op with
  | start => exact ⟨rfl, rfl⟩
  | shutdown => exact absurd rfl hshutdown
  | setConfig => exact ⟨rfl, rfl⟩
  | registerDriver => exact setRegistry_sameIndex _ _
  | preferDriver => exact setRegistry_sameIndex _ _
  | clearPreferredDriver => exact ⟨rfl, rfl⟩
  | takeEvents => exact ⟨rfl, rfl⟩
  | bind deviceId =>
    have hsame := bind_sameDiscovery host sys deviceId
    exact ⟨hsame.inventory, hsame.probeInventory⟩
  | unbind deviceId =>
    have hsame := unbind_sameDiscovery sys deviceId
    exact ⟨hsame.inventory, hsame.probeInventory⟩
  | refreshState deviceId =>
    have hsame := refreshState_sameDiscovery host sys deviceId
    exact ⟨hsame.inventory, hsame.probeInventory⟩
  | request request =>
    have hsame := request_sameDiscovery host sys request
    exact ⟨hsame.inventory, hsame.probeInventory⟩
  | refresh => cases hop
  | pollWatcher => cases hop

def runOps (host : Host) (ops : List RuntimeOp) (sys : System) : System :=
  ops.foldl (fun sys op => sys.exec host op) sys

theorem runOps_invariant {p : System → Prop} (host : Host)
    (hstep : ∀ sys op, p sys → p (sys.exec host op)) (ops : List RuntimeOp) (sys : System) (h : p sys) :
    p (sys.runOps host ops) := by
  induction ops generalizing sys with
  | nil => exact h
  | cons op ops ih => exact ih (sys.exec host op) (hstep sys op h)

end System

def gpioDriver : Driver := { id := "lemnos.gpio", matchResult := fun _ => ⟨.exact, 100, [], none⟩ }

def gpioProbe (devices : List DeviceDescriptor) : DiscoveryProbe :=
  ⟨"linux-gpio", [.gpio], fun _ => .ok { devices }⟩

def bindLine : List RuntimeOp :=
  [.registerDriver gpioDriver, .refresh .full {} [gpioProbe [gpioLineDescriptor]], .bind gpioLine]

def classLine : DeviceDescriptor := { gpioLineDescriptor with controlSurface := some (.linuxClass "gpio") }

def i2cSensor : DeviceId := ⟨"i2c-1-0x44", by decide⟩

def sensorProbe : DiscoveryProbe :=
  ⟨"linux-i2c", [.i2c], fun _ => .ok { devices := [{ id := i2cSensor, interface := .i2c }] }⟩

def bindBoth : List RuntimeOp :=
  [.registerDriver gpioDriver, .refresh .full {} [gpioProbe [gpioLineDescriptor], sensorProbe], .bind gpioLine,
    .bind i2cSensor]

def Host.stating : Host :=
  { Host.quiet with state := fun _ bound => .ok (some { deviceId := bound.device.id }) }

def System.twoBuses : System := System.runOps .stating bindBoth {}

end Lemnos
