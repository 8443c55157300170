import Lemnos.Discovery.Observation

namespace Lemnos.Discovery

open Lemnos.Core Library.OrderedMap

/-- Probes with what there is for each of them to find in every world. A probe asked about some of its
interfaces answers with the devices on those, in any order. -/
structure ProbeSet (World : Type) where
  specs : List ProbeSpec
  devices : World → String → List DeviceDescriptor
  discover : World → ProbeSpec → DiscoveryContext → DiscoveryResult ProbeDiscovery
  names_nodup : (specs.map Prod.fst).Nodup
  on_interfaces : ∀ world, ∀ spec ∈ specs, ∀ device ∈ devices world spec.1, device.interface ∈ spec.2
  ids_nodup : ∀ world,
    ((specs.flatMap (fun spec => devices world spec.1)).map DeviceDescriptor.id).Nodup
  honours : ∀ world, ∀ spec ∈ specs, ∀ context discovery, discover world spec context = .ok discovery →
    discovery.devices.Perm ((devices world spec.1).filter
      (fun device => device.interface ∈ selectedInterfaces context spec.2))

theorem validateDiscovered_ok (probe : String) (devices : List DeviceDescriptor) :
    validateDiscovered probe devices = .ok () ↔ ∀ device ∈ devices, device.validate = .ok () := by
  induction devices with
  | nil => simp [validateDiscovered]
  | cons device devices ih =>
    cases hv : device.validate with
    | error source => simp [validateDiscovered, hv]
    | ok u => simp [validateDiscovered, hv, ih]

theorem processProbeResults_of_valid {context : DiscoveryContext} {selectedProbes : List SelectedProbe}
    (h : ∀ selected ∈ selectedProbes, ∃ discovery, selected.probe.discover context = .ok discovery ∧
      ∀ device ∈ discovery.devices, device.validate = .ok ())
    (devices : List DeviceDescriptor) (probeReports : List ProbeReport) :
    processProbeResults
        (selectedProbes.map (fun selected => (selected, selected.probe.discover context)))
        devices probeReports =
      .ok (devices ++ selectedProbes.flatMap (discoveredBy context),
        probeReports ++ selectedProbes.map (reportOf context)) := by
  induction selectedProbes generalizing devices probeReports with
  | nil => simp [processProbeResults]
  | cons selected selectedProbes ih =>
    obtain ⟨discovery, hd, hvalid⟩ := h selected List.mem_cons_self
    have hv := (validateDiscovered_ok selected.probe.name discovery.devices).mpr hvalid
    have hrest := ih (fun other hother => h other (List.mem_cons_of_mem selected hother))
    rw [List.map_cons, processProbeResults, List.flatMap_cons, List.map_cons, discoveredBy, reportOf]
    simp only [hd, processProbeResult, hv, bind, Except.bind, pure, Except.pure]
    rw [hrest]
    simp

namespace ProbeSet

variable {World : Type} (P : ProbeSet World)

def probe (world : World) (spec : ProbeSpec) : DiscoveryProbe := ⟨spec.1, spec.2, P.discover world spec⟩

def probes (world : World) : List DiscoveryProbe := P.specs.map (P.probe world)

def all (world : World) : List DeviceDescriptor := P.specs.flatMap (fun spec => P.devices world spec.1)

def Succeeds (world : World) (context : DiscoveryContext) : Prop :=
  ∀ spec ∈ P.specs, selectedInterfaces context spec.2 ≠ [] →
    ∃ discovery, P.discover world spec context = .ok discovery ∧
      ∀ device ∈ discovery.devices, device.validate = .ok ()

variable {P} {world : World} {context : DiscoveryContext} {availableParallelism : ℕ}
  {run : DiscoveryRunReport}

theorem mem_selectProbes (selected : SelectedProbe) : selected ∈ selectProbes context (P.probes world) ↔
    ∃ spec ∈ P.specs, selectedInterfaces context spec.2 ≠ [] ∧
      selected = ⟨P.probe world spec, spec.2, selectedInterfaces context spec.2⟩ := by
  rw [selectProbes, List.mem_filterMap]
  constructor
  · rintro ⟨probe, hprobe, hselected⟩
    obtain ⟨spec, hspec, rfl⟩ := List.mem_map.mp hprobe
    obtain ⟨rfl, hne⟩ := selectProbe_eq_some hselected
    exact ⟨spec, hspec, hne, rfl⟩
  · rintro ⟨spec, hspec, hne, rfl⟩
    refine ⟨P.probe world spec, List.mem_map_of_mem hspec, ?_⟩
    simp [selectProbe, probe, hne]

theorem discoveredBy_perm (hsucceeds : P.Succeeds world context) {spec : ProbeSpec} (hspec : spec ∈ P.specs)
    (hne : selectedInterfaces context spec.2 ≠ []) (interfaces refreshed : List InterfaceKind) :
    (discoveredBy context ⟨P.probe world spec, interfaces, refreshed⟩).Perm
      ((P.devices world spec.1).filter
        (fun device => device.interface ∈ selectedInterfaces context spec.2)) := by
  obtain ⟨discovery, hd, -⟩ := hsucceeds spec hspec hne
  simp only [discoveredBy, probe, hd]
  exact P.honours world spec hspec context discovery hd

theorem found_perm (hsucceeds : P.Succeeds world context) :
    ((selectProbes context (P.probes world)).flatMap (discoveredBy context)).Perm
      ((P.all world).filter (fun device => context.wants device.interface)) := by
  have hspecs : ∀ specs : List ProbeSpec, (∀ spec ∈ specs, spec ∈ P.specs) →
      ((selectProbes context (specs.map (P.probe world))).flatMap (discoveredBy context)).Perm
        ((specs.flatMap (fun spec => P.devices world spec.1)).filter
          (fun device => context.wants device.interface)) := by
    intro specs hsub
    induction specs with
    | nil => exact List.Perm.refl _
    | cons spec specs ih =>
      have hspec := hsub spec List.mem_cons_self
      have hrest := ih (fun other hother => hsub other (List.mem_cons_of_mem spec hother))
      have hwanted : (P.devices world spec.1).filter (fun device => context.wants device.interface) =
          (P.devices world spec.1).filter
            (fun device => decide (device.interface ∈ selectedInterfaces context spec.2)) := by
        apply List.filter_congr
        intro device hdevice
        have hscoped := P.on_interfaces world spec hspec device hdevice
        simp [mem_selectedInterfaces, hscoped]
      rw [List.flatMap_cons, List.filter_append, hwanted, List.map_cons, selectProbes, List.filterMap_cons]
      by_cases hne : selectedInterfaces context spec.2 = []
      · have hnone : selectProbe context (P.probe world spec) = none := by
          simp [selectProbe, probe, hne]
        have hnothing : (P.devices world spec.1).filter
            (fun device => decide (device.interface ∈ selectedInterfaces context spec.2)) = [] := by
          simp [hne]
        rw [hnone, hnothing]
        exact hrest
      · have hsome : selectProbe context (P.probe world spec) =
            some ⟨P.probe world spec, spec.2, selectedInterfaces context spec.2⟩ := by
          simp [selectProbe, probe, hne]
        rw [hsome, List.flatMap_cons]
        exact (discoveredBy_perm hsucceeds hspec hne _ _).append hrest
  exact hspecs P.specs (fun _ hspec => hspec)

theorem found_ids_nodup (hsucceeds : P.Succeeds world context) :
    (((selectProbes context (P.probes world)).flatMap (discoveredBy context)).map
      DeviceDescriptor.id).Nodup := by
  apply ((found_perm hsucceeds).map DeviceDescriptor.id).nodup_iff.mpr
  exact (P.ids_nodup world).sublist (List.filter_sublist.map _)

theorem found_valid (hsucceeds : P.Succeeds world context) : ∀ device ∈
    (selectProbes context (P.probes world)).flatMap (discoveredBy context), device.validate = .ok () := by
  intro device hdevice
  obtain ⟨selected, hselected, hfound⟩ := List.mem_flatMap.mp hdevice
  obtain ⟨spec, hspec, hne, rfl⟩ := (mem_selectProbes selected).mp hselected
  obtain ⟨discovery, hd, hvalid⟩ := hsucceeds spec hspec hne
  simp only [discoveredBy, probe, hd] at hfound
  exact hvalid device hfound

theorem runProbes_of_succeeds (availableParallelism : ℕ) (hsucceeds : P.Succeeds world context) :
    ∃ run, runProbes availableParallelism context (P.probes world) = .ok run := by
  have hprocessed := @processProbeResults_of_valid context (selectProbes context (P.probes world)) (by
      intro selected hselected
      obtain ⟨spec, hspec, hne, rfl⟩ := (mem_selectProbes selected).mp hselected
      exact hsucceeds spec hspec hne) [] []
  have hvalid := (validateDevices_ok _).mpr ⟨found_valid hsucceeds, found_ids_nodup hsucceeds⟩
  refine ⟨⟨⟨context.observedAt, _, hvalid⟩, (selectProbes context (P.probes world)).map (reportOf context),
    []⟩, ?_⟩
  simp only [runProbes, runSelectedProbes_snd, hprocessed, bind, Except.bind, List.nil_append,
    InventorySnapshot.withObservedAt_of_valid context.observedAt hvalid]
  rfl

theorem run_devices (hsucceeds : P.Succeeds world context)
    (h : runProbes availableParallelism context (P.probes world) = .ok run) (device : DeviceDescriptor) :
    device ∈ run.snapshot.devices ↔ device ∈ P.all world ∧ context.wants device.interface = true := by
  rw [(runProbes_ok h).1, (found_perm hsucceeds).mem_iff, List.mem_filter]

theorem run_attributed (h : runProbes availableParallelism context (P.probes world) = .ok run) :
    run.Attributed := by
  apply runProbes_attributed h
  rw [probes, List.map_map]
  exact P.names_nodup

theorem run_refreshes_iff (hsucceeds : P.Succeeds world context)
    (h : runProbes availableParallelism context (P.probes world) = .ok run) (slot : ProbeSlot) :
    run.Refreshes slot ↔
      ∃ spec ∈ P.specs, spec.1 = slot.1 ∧ slot.2 ∈ spec.2 ∧ context.wants slot.2 = true := by
  obtain ⟨-, hreports, -, -⟩ := runProbes_ok h
  unfold DiscoveryRunReport.Refreshes
  rw [hreports]
  constructor
  · rintro ⟨report, hreport, -, hp, hi⟩
    obtain ⟨selected, hselected, rfl⟩ := List.mem_map.mp hreport
    obtain ⟨spec, hspec, -, rfl⟩ := (mem_selectProbes selected).mp hselected
    rw [reportOf_refreshedInterfaces] at hi
    rw [reportOf_probe] at hp
    exact ⟨spec, hspec, hp, (mem_selectedInterfaces context spec.2 slot.2).mp hi⟩
  · rintro ⟨spec, hspec, hp, hi⟩
    have hselected := (mem_selectedInterfaces context spec.2 slot.2).mpr hi
    have hne := List.ne_nil_of_mem hselected
    obtain ⟨discovery, hd, -⟩ := hsucceeds spec hspec hne
    refine ⟨reportOf context ⟨P.probe world spec, spec.2, selectedInterfaces context spec.2⟩, ?_, ?_, ?_, ?_⟩
    · exact List.mem_map_of_mem ((mem_selectProbes _).mpr ⟨spec, hspec, hne, rfl⟩)
    · simp [reportOf, probe, hd, ProbeReport.success, ProbeReport.succeeded]
    · rw [reportOf_probe]
      exact hp
    · rw [reportOf_refreshedInterfaces]
      exact hselected

theorem run_scoped (h : runProbes availableParallelism context (P.probes world) = .ok run) : run.Scoped := by
  apply runProbes_scoped h
  intro probe hprobe discovery hdiscovery device hdevice
  obtain ⟨spec, hspec, rfl⟩ := List.mem_map.mp hprobe
  have hmem := (P.honours world spec hspec context discovery hdiscovery).mem_iff.mp hdevice
  exact of_decide_eq_true (List.mem_filter.mp hmem).2

theorem succeeds_of_clean (h : runProbes availableParallelism context (P.probes world) = .ok run)
    (hclean : run.hasProbeFailures = false) : P.Succeeds world context := by
  intro spec hspec hne
  obtain ⟨hdevices, hreports, -, -⟩ := runProbes_ok h
  have hselected := (@mem_selectProbes World P world context _).mpr ⟨spec, hspec, hne, rfl⟩
  have hs := run.hasProbeFailures_eq_false.mp hclean _ (by
    rw [hreports]
    exact List.mem_map_of_mem hselected)
  cases hd : P.discover world spec context with
  | error error => simp [reportOf, probe, hd, ProbeReport.failure, ProbeReport.succeeded] at hs
  | ok discovery =>
    refine ⟨discovery, rfl, ?_⟩
    intro device hdevice
    apply ((validateDevices_ok _).mp run.snapshot.valid).1
    rw [hdevices]
    apply List.mem_flatMap.mpr
    exact ⟨_, hselected, by simpa [discoveredBy, probe, hd] using hdevice⟩

variable (P) in
/-- The inventory shows the world, and the index knows a probe of the set for all that it shows. -/
structure Mirrors (world : World) (inventory : InventorySnapshot) (index : ProbeInventoryIndex) : Prop where
  shows_all : ∀ device, device ∈ inventory.devices ↔ device ∈ P.all world
  covers : Covers inventory index
  known : ∀ probe interface id, index.Attributes probe interface id →
    ∃ spec ∈ P.specs, spec.1 = probe ∧ interface ∈ spec.2

theorem slotOf_known (hsucceeds : P.Succeeds world context)
    (h : runProbes availableParallelism context (P.probes world) = .ok run) {deviceId : DeviceId}
    {slot : ProbeSlot} (hslot : run.slotOf deviceId = some slot) :
    ∃ spec ∈ P.specs, spec.1 = slot.1 ∧ slot.2 ∈ spec.2 := by
  have hrefreshes := DiscoveryRunReport.slotOf_refreshes (run_scoped h) hslot
  obtain ⟨spec, hspec, hname, hi, -⟩ := (run_refreshes_iff hsucceeds h slot).mp hrefreshes
  exact ⟨spec, hspec, hname, hi⟩

theorem fromRun_mirrors (hfull : context.requestedInterfaces.isEmpty = true)
    (h : runProbes availableParallelism context (P.probes world) = .ok run)
    (hclean : run.hasProbeFailures = false) : P.Mirrors world run.snapshot (.fromRun run) where
  shows_all := by
    intro device
    rw [run_devices (succeeds_of_clean h hclean) h]
    simp [DiscoveryContext.wants, hfull]
  covers := by
    intro device hdevice
    obtain ⟨probe, hslot⟩ := DiscoveryRunReport.slotOf_found (run_attributed h) hdevice
    exact ⟨probe, (ProbeInventoryIndex.fromRun_attributes_iff (run_attributed h) _ _ _).mpr hslot⟩
  known := by
    intro probe interface id ha
    have hslot := (ProbeInventoryIndex.fromRun_attributes_iff (run_attributed h) _ _ _).mp ha
    exact slotOf_known (succeeds_of_clean h hclean) h hslot

variable (P) in
def Changes (world world' : World) (interface : InterfaceKind) : Prop :=
  ∃ device, device.interface = interface ∧ ¬ (device ∈ P.all world ↔ device ∈ P.all world')

variable {world' : World} {inventory : InventorySnapshot} {index : ProbeInventoryIndex}

theorem Mirrors.replaced_eq (hm : P.Mirrors world inventory index) (hsucceeds : P.Succeeds world' context)
    (h : runProbes availableParallelism context (P.probes world') = .ok run) {device : DeviceDescriptor}
    (hdevice : device ∈ inventory.devices) :
    index.wasReplacedByRun device.id device.interface run = context.wants device.interface := by
  cases hwants : context.wants device.interface with
  | true =>
    obtain ⟨probe, ha⟩ := hm.covers device hdevice
    obtain ⟨spec, hspec, hname, hi⟩ := hm.known probe device.interface device.id ha
    apply ProbeInventoryIndex.wasReplacedByRun_of_refreshes _ ha
    exact (run_refreshes_iff hsucceeds h (probe, device.interface)).mpr ⟨spec, hspec, hname, hi, hwants⟩
  | false =>
    rw [← Bool.not_eq_true]
    intro hreplaced
    obtain ⟨report, hreport, -, hi, -⟩ := (index.wasReplacedByRun_iff _ _ run).mp hreplaced
    rw [runProbes_refreshed_wanted h hreport hi] at hwants
    cases hwants

theorem all_eq_of_id_eq (P : ProbeSet World) {world : World} {device device' : DeviceDescriptor}
    (hd : device ∈ P.all world) (hd' : device' ∈ P.all world) (hid : device.id = device'.id) :
    device = device' :=
  List.inj_on_of_nodup_map (P.ids_nodup world) hd hd' hid

theorem Mirrors.merge (hm : P.Mirrors world inventory index) (hsucceeds : P.Succeeds world' context)
    (h : runProbes availableParallelism context (P.probes world') = .ok run)
    (hscope : ∀ interface, P.Changes world world' interface → context.wants interface = true) :
    ∃ next, index.mergeSnapshot inventory run = .ok next ∧ P.Mirrors world' next (index.recordRun run) := by
  have hkept : ∀ device, context.wants device.interface = false →
      (device ∈ P.all world ↔ device ∈ P.all world') := by
    intro device hwants
    by_contra hchanged
    rw [hscope device.interface ⟨device, rfl, hchanged⟩] at hwants
    cases hwants
  cases hmerged : index.mergeSnapshot inventory run with
  | error error =>
    -- a device that stays and one that the run found would share their id in the new world
    obtain ⟨device, hdevice, -, hstays, hid⟩ := ProbeInventoryIndex.mergeSnapshot_error hmerged
    obtain ⟨found, hfound, heq⟩ := List.mem_map.mp hid
    obtain ⟨hnew, hwants⟩ := (run_devices hsucceeds h found).mp hfound
    rw [hm.replaced_eq hsucceeds h hdevice] at hstays
    have hold := (hkept device hstays).mp ((hm.shows_all device).mp hdevice)
    rw [P.all_eq_of_id_eq hnew hold heq, hstays] at hwants
    cases hwants
  | ok next =>
    refine ⟨next, rfl, ?_, merge_covers hm.covers (run_attributed h) hmerged, ?_⟩
    · intro device
      rw [ProbeInventoryIndex.mergeSnapshot_mem hmerged, run_devices hsucceeds h]
      constructor
      · rintro (⟨hdevice, hstays⟩ | ⟨hnew, -⟩)
        · rw [hm.replaced_eq hsucceeds h hdevice] at hstays
          exact (hkept device hstays).mp ((hm.shows_all device).mp hdevice)
        · exact hnew
      · intro hnew
        cases hwants : context.wants device.interface with
        | true => exact .inr ⟨hnew, rfl⟩
        | false =>
          have hdevice := (hm.shows_all device).mpr ((hkept device hwants).mpr hnew)
          exact .inl ⟨hdevice, by rw [hm.replaced_eq hsucceeds h hdevice, hwants]⟩
    · intro probe interface id ha
      rcases (ProbeInventoryIndex.recordRun_attributes_iff (run_attributed h) _ _ _ _).mp ha with
        hslot | ⟨-, ha⟩
      · exact slotOf_known hsucceeds h hslot
      · exact hm.known probe interface id ha

section Rescans

variable (P) (availableParallelism : ℕ)

/-- Incremental runs one after another, each over the world it finds, merged and recorded in turn. -/
def rescan : List (World × DiscoveryContext) → InventorySnapshot → ProbeInventoryIndex →
    DiscoveryResult (InventorySnapshot × ProbeInventoryIndex)
  | [], inventory, index => .ok (inventory, index)
  | (world, context) :: scans, inventory, index => do
    let run ← runProbes availableParallelism context (P.probes world)
    let next ← index.mergeSnapshot inventory run
    rescan scans next (index.recordRun run)

/-- Each scan asks for every interface that changed since the scan before, and its probes succeed. -/
def Follows : World → List (World × DiscoveryContext) → Prop
  | _, [] => True
  | world, (world', context) :: scans =>
    (∀ interface, P.Changes world world' interface → context.wants interface = true) ∧
      P.Succeeds world' context ∧ Follows world' scans

def lastWorld : World → List (World × DiscoveryContext) → World
  | world, [] => world
  | _, (world', _) :: scans => lastWorld world' scans

variable {P} {availableParallelism}

theorem Mirrors.rescan (hm : P.Mirrors world inventory index) {scans : List (World × DiscoveryContext)}
    (hscans : P.Follows world scans) : ∃ next index',
      P.rescan availableParallelism scans inventory index = .ok (next, index') ∧
        P.Mirrors (lastWorld world scans) next index' := by
  induction scans generalizing world inventory index with
  | nil => exact ⟨inventory, index, rfl, hm⟩
  | cons scan scans ih =>
    obtain ⟨world', context⟩ := scan
    obtain ⟨hscope, hsucceeds, hrest⟩ := hscans
    obtain ⟨run, hrun⟩ := runProbes_of_succeeds availableParallelism hsucceeds
    obtain ⟨next, hmerged, hnext⟩ := hm.merge hsucceeds hrun hscope
    obtain ⟨last, index', hlater, hlast⟩ := ih hnext hrest
    refine ⟨last, index', ?_, hlast⟩
    simp only [ProbeSet.rescan, hrun, hmerged, bind, Except.bind]
    exact hlater

theorem Mirrors.get_eq (hm : P.Mirrors world inventory index) {inventory' : InventorySnapshot}
    {index' : ProbeInventoryIndex} (hm' : P.Mirrors world inventory' index') (id : DeviceId) :
    inventory.get id = inventory'.get id := by
  apply Option.ext
  intro device
  rw [inventory.get_eq_some, inventory'.get_eq_some, hm.shows_all, hm'.shows_all]

theorem rescan_eq_full_run (P : ProbeSet World) (availableParallelism : ℕ) (world : World)
    (context : DiscoveryContext) (hfull : context.requestedInterfaces.isEmpty = true)
    (run : DiscoveryRunReport) (hrun : runProbes availableParallelism context (P.probes world) = .ok run)
    (hclean : run.hasProbeFailures = false) (scans : List (World × DiscoveryContext))
    (hscans : P.Follows world scans) :
    ∃ inventory index,
      P.rescan availableParallelism scans run.snapshot (.fromRun run) = .ok (inventory, index) ∧
      ∀ context' full, context'.requestedInterfaces.isEmpty = true →
        runProbes availableParallelism context' (P.probes (lastWorld world scans)) = .ok full →
        full.hasProbeFailures = false → ∀ id, inventory.get id = full.snapshot.get id := by
  have hfirst : P.Mirrors world run.snapshot (.fromRun run) := fromRun_mirrors hfull hrun hclean
  obtain ⟨inventory, index, hrescan, hlast⟩ := hfirst.rescan hscans
  refine ⟨inventory, index, hrescan, ?_⟩
  intro context' full hfull' hrun' hclean' id
  exact hlast.get_eq (fromRun_mirrors hfull' hrun' hclean') id

end Rescans

def plugged (present : Bool) (name : String) : List DeviceDescriptor :=
  if present && name == "linux-gpio" then [gpioLineDescriptor] else []

def lineProbes : ProbeSet Bool where
  specs := [("linux-gpio", [.gpio]), ("linux-bus", [.i2c, .spi])]
  devices := plugged
  discover := fun present spec context =>
    .ok ⟨(plugged present spec.1).filter
      (fun device => device.interface ∈ selectedInterfaces context spec.2), []⟩
  names_nodup := by decide
  on_interfaces := by decide
  ids_nodup := by decide
  honours := by
    intro world spec hspec context discovery h
    cases h
    exact List.Perm.refl _

def gpioScan : DiscoveryContext := { requestedInterfaces := .collect [.gpio] }

theorem lineProbes_changes {present present' : Bool} {interface : InterfaceKind}
    (h : lineProbes.Changes present present' interface) : interface = .gpio := by
  obtain ⟨device, rfl, hne⟩ := h
  by_cases hline : device = gpioLineDescriptor
  · rw [hline]
    rfl
  · cases present <;> cases present' <;> simp [all, lineProbes, plugged, hline] at hne

theorem lineProbes_succeeds (present : Bool) (context : DiscoveryContext) :
    lineProbes.Succeeds present context := by
  intro spec hspec hne
  refine ⟨_, rfl, ?_⟩
  intro device hdevice
  have hmem := List.mem_of_mem_filter hdevice
  unfold plugged at hmem
  split at hmem
  · rw [List.mem_singleton.mp hmem]
    decide
  · cases hmem

theorem lineProbes_follows (present present' : Bool) :
    lineProbes.Follows present [(present', gpioScan)] := by
  refine ⟨?_, lineProbes_succeeds present' gpioScan, trivial⟩
  intro interface hchanged
  rw [lineProbes_changes hchanged]
  decide

theorem rescan_eq_full_run_unplugged :
    ∃ run inventory index, runProbes 4 {} (lineProbes.probes true) = .ok run ∧
      run.snapshot.devices = [gpioLineDescriptor] ∧
      lineProbes.rescan 4 [(false, gpioScan)] run.snapshot (.fromRun run) = .ok (inventory, index) ∧
      ∀ context' full, context'.requestedInterfaces.isEmpty = true →
        runProbes 4 context' (lineProbes.probes false) = .ok full →
        full.hasProbeFailures = false → ∀ id, inventory.get id = full.snapshot.get id := by
  obtain ⟨inventory, index, hscans⟩ := rescan_eq_full_run lineProbes 4 true {} rfl _ rfl rfl
    [(false, gpioScan)] (lineProbes_follows true false)
  exact ⟨_, inventory, index, rfl, rfl, hscans⟩

end ProbeSet

end Lemnos.Discovery
