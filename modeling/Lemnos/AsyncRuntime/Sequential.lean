import Lemnos.AsyncRuntime.Awaited
import Lemnos.Runtime.Subscription

namespace Lemnos

open Lemnos.Core Discovery Registry Library.OrderedMap Library.Runs

inductive ClientOp where
  | start
  | shutdown
  | refresh (mode : RefreshMode) (context : DiscoveryContext) (probes : List DiscoveryProbe)
  | bind (deviceId : DeviceId)
  | unbind (deviceId : DeviceId)
  | refreshState (deviceId : DeviceId)
  | request (request : DeviceRequest)
  | subscribe
  | subscribeFromStart
  | poll (subscription : ℕ)

inductive ClientResult where
  | unit
  | refreshed (result : RuntimeResult RuntimeRefreshReport)
  | bound (result : RuntimeResult Unit)
  | unbound (removedAnything : Bool)
  | state (result : RuntimeResult (Option DeviceStateSnapshot))
  | response (result : RuntimeResult DeviceResponse)
  | events (polled : Option (List LemnosEvent))

structure Observation where
  results : List ClientResult
  inventory : InventorySnapshot
  boundIds : List DeviceId
  desiredIds : BTreeSet DeviceId
  states : BTreeMap DeviceId DeviceStateSnapshot
  failures : List (DeviceId × RuntimeFailureOperation × RuntimeFailureCategory × ℕ)
  events : List LemnosEvent

def Runtime.observe (runtime : Runtime) (results : List ClientResult) : Observation where
  results := results
  inventory := runtime.inventory
  boundIds := runtime.bindings.keys
  desiredIds := runtime.desiredBindings
  states := runtime.states
  failures := runtime.failures.toList.map (fun (deviceId, failure) =>
    (deviceId, failure.operation, failure.category, failure.occurrenceCount))
  events := runtime.log.pushed

structure SyncClient where
  system : System
  cursors : List RuntimeEventCursor := []
  results : List ClientResult := []

def SyncClient.exec (host : Host) (op : ClientOp) (client : SyncClient) : SyncClient :=
  let ⟨sys, cursors, results⟩ := client
  match op with
  | .start => ⟨sys.setRuntime sys.runtime.start, cursors, results ++ [.unit]⟩
  | .shutdown => ⟨sys.shutdown, cursors, results ++ [.unit]⟩
  | .refresh mode context probes =>
    let (result, sys) := sys.refreshWithMode host context probes mode
    ⟨sys, cursors, results ++ [.refreshed result]⟩
  | .bind deviceId =>
    let (result, sys) := sys.bind host deviceId
    ⟨sys, cursors, results ++ [.bound result]⟩
  | .unbind deviceId =>
    let (removedAnything, sys) := sys.unbind deviceId
    ⟨sys, cursors, results ++ [.unbound removedAnything]⟩
  | .refreshState deviceId =>
    let (result, sys) := sys.refreshState host deviceId
    ⟨sys, cursors, results ++ [.state result]⟩
  | .request request =>
    let (result, sys) := sys.request host request
    ⟨sys, cursors, results ++ [.response result]⟩
  | .subscribe => ⟨sys, cursors ++ [sys.runtime.log.subscribe], results ++ [.unit]⟩
  | .subscribeFromStart => ⟨sys, cursors ++ [sys.runtime.log.subscribeFromStart], results ++ [.unit]⟩
  | .poll i =>
    match cursors[i]? with
    | none => ⟨sys, cursors, results ++ [.events none]⟩
    | some cursor =>
      let (poll, cursor) := sys.runtime.log.pollEventsWithStatus cursor
      ⟨sys, cursors.set i cursor, results ++ [.events (some poll.events)]⟩

structure AsyncClient where
  system : System
  subscriptions : List RuntimeEventSubscription := []
  results : List ClientResult := []

def AsyncClient.exec (host : Host) (op : ClientOp) (client : AsyncClient) : AsyncClient :=
  let ⟨sys, subscriptions, results⟩ := client
  match op with
  | .start => ⟨sys.setRuntime sys.runtime.start, subscriptions, results ++ [.unit]⟩
  | .shutdown => ⟨AsyncRuntime.shutdownAsync sys, subscriptions, results ++ [.unit]⟩
  | .refresh mode context probes =>
    let (result, sys) := AsyncRuntime.runRefresh host sys context probes mode
    ⟨sys, subscriptions, results ++ [.refreshed result]⟩
  | .bind deviceId =>
    let (result, sys) := AsyncRuntime.bind host sys deviceId
    ⟨sys, subscriptions, results ++ [.bound result]⟩
  | .unbind deviceId =>
    let (removedAnything, sys) := AsyncRuntime.unbind sys deviceId
    ⟨sys, subscriptions, results ++ [.unbound removedAnything]⟩
  | .refreshState deviceId =>
    let (result, sys) := AsyncRuntime.refreshState host sys deviceId
    ⟨sys, subscriptions, results ++ [.state result]⟩
  | .request request =>
    let (result, sys) := AsyncRuntime.request host sys request
    ⟨sys, subscriptions, results ++ [.response result]⟩
  | .subscribe => ⟨sys, subscriptions ++ [sys.runtime.subscribeBlocking], results ++ [.unit]⟩
  | .subscribeFromStart =>
    ⟨sys, subscriptions ++ [sys.runtime.subscribeFromStartBlocking], results ++ [.unit]⟩
  | .poll i =>
    match subscriptions[i]? with
    | none => ⟨sys, subscriptions, results ++ [.events none]⟩
    | some subscription =>
      let (poll, subscription) := subscription.pollWithStatus sys.runtime
      ⟨sys, subscriptions.set i subscription, results ++ [.events (some poll.events)]⟩

def SyncClient.observe (client : SyncClient) : Observation := client.system.runtime.observe client.results

def AsyncClient.observe (client : AsyncClient) : Observation := client.system.runtime.observe client.results

structure Clients where
  async : AsyncClient
  sync : SyncClient

namespace Clients

def step (host : Host) (op : ClientOp) (clients : Clients) : Option Clients :=
  some ⟨clients.async.exec host op, clients.sync.exec host op⟩

def start (sys : System) : Clients := ⟨{ system := sys }, { system := sys }⟩

/-- No `bind` finds a device bound that is not desired, and no refresh that fails meets a stopped runtime. -/
def Matches (host : Host) (op : ClientOp) (clients : Clients) : Prop :=
  let runtime := clients.sync.system.runtime
  match op with
  | .bind deviceId =>
    runtime.running = true → deviceId ∈ runtime.bindings → deviceId ∈ runtime.desiredBindings
  | .refresh _ context probes =>
    runtime.running = false → (runProbes host.availableParallelism context probes).isOk = true
  | _ => True

structure Agree (clients : Clients) : Prop where
  system : clients.async.system = clients.sync.system
  cursors : clients.async.subscriptions.map RuntimeEventSubscription.cursor = clients.sync.cursors
  results : clients.async.results = clients.sync.results

variable {host : Host} {clients : Clients}

theorem Agree.observe (h : clients.Agree) : clients.async.observe = clients.sync.observe := by
  rw [AsyncClient.observe, SyncClient.observe, h.system, h.results]

theorem Agree.step (h : clients.Agree) {op : ClientOp} (hmatches : clients.Matches host op) :
    Agree ⟨clients.async.exec host op, clients.sync.exec host op⟩ := by
  obtain ⟨⟨sys, subscriptions, results⟩, ⟨sys', cursors, results'⟩⟩ := clients
  obtain ⟨hsys, hcursors, hresults⟩ := h
  cases hsys
  cases hresults
  have hcursors : subscriptions.map RuntimeEventSubscription.cursor = cursors := hcursors
  subst hcursors
  cases op with
  | start => exact ⟨rfl, rfl, rfl⟩
  | shutdown => exact ⟨AsyncRuntime.shutdownAsync_eq, rfl, rfl⟩
  | refresh mode context probes =>
    simp only [AsyncClient.exec, SyncClient.exec, AsyncRuntime.runRefresh_eq mode hmatches]
    exact ⟨rfl, rfl, rfl⟩
  | bind deviceId =>
    simp only [AsyncClient.exec, SyncClient.exec, AsyncRuntime.bind_eq hmatches]
    exact ⟨rfl, rfl, rfl⟩
  | unbind deviceId => exact ⟨rfl, rfl, rfl⟩
  | refreshState deviceId =>
    simp only [AsyncClient.exec, SyncClient.exec, AsyncRuntime.refreshState_eq]
    exact ⟨rfl, rfl, rfl⟩
  | request request =>
    simp only [AsyncClient.exec, SyncClient.exec, AsyncRuntime.request_eq]
    exact ⟨rfl, rfl, rfl⟩
  | subscribe =>
    refine ⟨rfl, ?_, rfl⟩
    simp only [AsyncClient.exec, SyncClient.exec, List.map_append]
    rfl
  | subscribeFromStart =>
    refine ⟨rfl, ?_, rfl⟩
    simp only [AsyncClient.exec, SyncClient.exec, List.map_append]
    rfl
  | poll i =>
    simp only [AsyncClient.exec, SyncClient.exec, List.getElem?_map]
    cases subscriptions[i]? with
    | none => exact ⟨rfl, rfl, rfl⟩
    | some subscription =>
      refine ⟨rfl, ?_, rfl⟩
      simp only [Option.map_some, List.map_set]
      rfl

theorem Agree.matches_of_observe (h : clients.Agree) {op : ClientOp}
    (hobserve : (clients.async.exec host op).observe = (clients.sync.exec host op).observe) :
    clients.Matches host op := by
  obtain ⟨⟨sys, subscriptions, results⟩, ⟨sys', cursors, results'⟩⟩ := clients
  obtain ⟨hsys, hcursors, hresults⟩ := h
  cases hsys
  cases hresults
  cases op with
  | bind deviceId =>
    intro hr hbound
    obtain ⟨hasync, hsync⟩ := @AsyncRuntime.bind_desired host sys deviceId hr hbound
    have hdesired : (AsyncRuntime.bind host sys deviceId).2.runtime.desiredBindings =
        (sys.bind host deviceId).2.runtime.desiredBindings := congrArg Observation.desiredIds hobserve
    rw [hasync, hsync] at hdesired
    rw [hdesired, BTreeSet.mem_insert_iff]
    exact .inl rfl
  | refresh mode context probes =>
    intro hr
    cases hrun : runProbes host.availableParallelism context probes with
    | ok discovery => rfl
    | error error =>
      obtain ⟨hasync, hsync⟩ := AsyncRuntime.runRefresh_stopped mode hr hrun
      have hlast := congrArg Observation.results hobserve
      simp only [AsyncClient.exec, SyncClient.exec, AsyncClient.observe, SyncClient.observe,
        Runtime.observe, hasync, hsync] at hlast
      have hlast := List.append_cancel_left hlast
      cases hlast
  | start | shutdown | unbind | refreshState | request | subscribe | subscribeFromStart | poll => trivial

theorem sequential_async_matches_sync (host : Host) (sys : System) (ops : List ClientOp) :
    (∀ before after clients, ops = before ++ after → run (step host) before (start sys) = some clients →
      clients.async.observe = clients.sync.observe) ↔
      Along (step host) (fun op clients => clients.Matches host op) ops (start sys) := by
  obtain ⟨last, hrun⟩ := @run_total _ _ (step host) (fun _ _ => ⟨_, rfl⟩) ops (start sys)
  apply observed_iff_along (p := Agree) (q := fun clients => clients.async.observe = clients.sync.observe)
    (fun _ h => h.observe) _ _ ⟨rfl, rfl, rfl⟩ hrun
  · intro op clients clients' h hmatches hstep
    cases hstep
    exact h.step hmatches
  · intro op clients clients' h hstep hobserve
    cases hstep
    exact h.matches_of_observe hobserve

def readThenBind : List ClientOp :=
  [.refresh .full {} [gpioProbe [gpioLineDescriptor]], .request System.readLine, .bind gpioLine]

def withGpioDriver : System := { runtime := { registry := ⟨[gpioDriver], ∅⟩ } }

theorem observe_ne {deviceId : DeviceId} (hsync : deviceId ∈ clients.sync.observe.desiredIds)
    (hasync : deviceId ∉ clients.async.observe.desiredIds) : clients.async.observe ≠ clients.sync.observe := by
  intro h
  rw [h] at hasync
  exact hasync hsync

theorem async_bind_of_bound_device_leaves_it_undesired :
    ∃ clients, run (step .quiet) readThenBind (start withGpioDriver) = some clients ∧
      gpioLine ∈ clients.async.system.runtime.bindings ∧ clients.async.observe ≠ clients.sync.observe :=
  ⟨_, rfl, by decide, @observe_ne _ gpioLine (by decide) (by decide)⟩

end Clients

end Lemnos
