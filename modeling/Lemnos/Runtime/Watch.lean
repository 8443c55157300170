import Lemnos.Runtime.Refresh

namespace Lemnos

open Lemnos.Core Discovery Registry Library.OrderedMap

structure RuntimeWatchedRefreshReport where
  watchEvents : List InventoryWatchEvent
  refresh : RuntimeRefreshReport

def touchedInterfaces (watchEvents : List InventoryWatchEvent) : BTreeSet InterfaceKind :=
  BTreeSet.collect (watchEvents.flatMap InventoryWatchEvent.interfaces)

def requestedTouched (context : DiscoveryContext) (touched : BTreeSet InterfaceKind) :
    BTreeSet InterfaceKind :=
  if context.requestedInterfaces.isEmpty then touched
  else context.requestedInterfaces ∩ touched

def probesOf (probes : List DiscoveryProbe) (interfaces : BTreeSet InterfaceKind) : List DiscoveryProbe :=
  probes.filter (fun probe => probe.interfaces.any interfaces.contains)

def unscopedRefresh (config : RuntimeConfig) (context : DiscoveryContext) (probes : List DiscoveryProbe) :
    Option (DiscoveryContext × List DiscoveryProbe) :=
  match config.watchRefreshMode with
  | .strictScoped => none
  | .fallbackToFull | .full => some (context, probes)

def watchRefreshScope (config : RuntimeConfig) (context : DiscoveryContext) (probes : List DiscoveryProbe)
    (watchEvents : List InventoryWatchEvent) : Option (DiscoveryContext × List DiscoveryProbe) :=
  if config.watchRefreshMode = .full then some (context, probes)
  else if (touchedInterfaces watchEvents).isEmpty then unscopedRefresh config context probes
  else
    let requestedInterfaces := requestedTouched context (touchedInterfaces watchEvents)
    if requestedInterfaces.isEmpty then unscopedRefresh config context probes
    else
      let scopedProbes := probesOf probes requestedInterfaces
      if scopedProbes.isEmpty then unscopedRefresh config context probes
      else some ({ context with requestedInterfaces }, scopedProbes)

structure ScopesTo (config : RuntimeConfig) (context : DiscoveryContext) (probes : List DiscoveryProbe)
    (watchEvents : List InventoryWatchEvent) (interfaces : BTreeSet InterfaceKind) : Prop where
  mode : config.watchRefreshMode ≠ .full
  touched : (touchedInterfaces watchEvents).isEmpty = false
  interfaces_eq : interfaces = requestedTouched context (touchedInterfaces watchEvents)
  interfaces_nonempty : interfaces.isEmpty = false
  probes_nonempty : probesOf probes interfaces ≠ []

theorem ScopesTo.watchRefreshScope_eq {config : RuntimeConfig} {context : DiscoveryContext}
    {probes : List DiscoveryProbe} {watchEvents : List InventoryWatchEvent}
    {interfaces : BTreeSet InterfaceKind} (h : ScopesTo config context probes watchEvents interfaces) :
    watchRefreshScope config context probes watchEvents =
      some ({ context with requestedInterfaces := interfaces }, probesOf probes interfaces) := by
  obtain ⟨hmode, htouched, rfl, hne, hprobes⟩ := h
  have hprobes' :
      (probesOf probes (requestedTouched context (touchedInterfaces watchEvents))).isEmpty = false := by
    simpa using hprobes
  simp [watchRefreshScope, hmode, htouched, hne, hprobes']

theorem ScopesTo.wants_iff {config : RuntimeConfig} {context : DiscoveryContext}
    {probes : List DiscoveryProbe} {watchEvents : List InventoryWatchEvent}
    {interfaces : BTreeSet InterfaceKind} (h : ScopesTo config context probes watchEvents interfaces)
    (interface : InterfaceKind) :
    ({ context with requestedInterfaces := interfaces } : DiscoveryContext).wants interface = true ↔
      interface ∈ interfaces := by
  simp [DiscoveryContext.wants, h.interfaces_nonempty]

namespace System

def finishWatchRefresh (host : Host) (sys : System) (discovery : DiscoveryRunReport) (mode : RefreshMode)
    (watchEvents : List InventoryWatchEvent) : RuntimeResult RuntimeWatchedRefreshReport × System :=
  match sys.finishRefresh host discovery mode with
  | (.error error, sys) => (.error error, sys)
  | (.ok refresh, sys) => (.ok ⟨watchEvents, refresh⟩, sys)

def handleWatchEventsAndRefreshWithMode (host : Host) (sys : System) (context : DiscoveryContext)
    (probes : List DiscoveryProbe) (watchEvents : List InventoryWatchEvent) (mode : RefreshMode) :
    RuntimeResult (Option RuntimeWatchedRefreshReport) × System :=
  if watchEvents.isEmpty then (.ok none, sys)
  else
    match watchRefreshScope sys.runtime.config context probes watchEvents with
    | none => (.ok none, sys)
    | some (scopedContext, scopedProbes) =>
      match runProbes host.availableParallelism scopedContext scopedProbes with
      | .error error => (.error (.discovery error), sys)
      | .ok discovery =>
        match sys.finishWatchRefresh host discovery mode watchEvents with
        | (.error error, sys) => (.error error, sys)
        | (.ok report, sys) => (.ok (some report), sys)

def pollWatcherWithMode (host : Host) (sys : System) (context : DiscoveryContext)
    (probes : List DiscoveryProbe) (polled : DiscoveryResult (List InventoryWatchEvent))
    (mode : RefreshMode) : RuntimeResult (Option RuntimeWatchedRefreshReport) × System :=
  match polled with
  | .error error => (.error (.discovery error), sys)
  | .ok watchEvents => sys.handleWatchEventsAndRefreshWithMode host context probes watchEvents mode

def pollWatcherAndRefresh (host : Host) (sys : System) (context : DiscoveryContext)
    (probes : List DiscoveryProbe) (polled : DiscoveryResult (List InventoryWatchEvent)) :
    RuntimeResult (Option RuntimeWatchedRefreshReport) × System :=
  sys.pollWatcherWithMode host context probes polled .full

def pollWatcherAndRefreshIncremental (host : Host) (sys : System) (context : DiscoveryContext)
    (probes : List DiscoveryProbe) (polled : DiscoveryResult (List InventoryWatchEvent)) :
    RuntimeResult (Option RuntimeWatchedRefreshReport) × System :=
  sys.pollWatcherWithMode host context probes polled .incremental

end System

end Lemnos
