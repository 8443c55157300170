import Mathlib.Data.List.Sort
import Lemnos.Discovery.Inventory

namespace Lemnos.Discovery

open Lemnos.Core Library.OrderedMap

structure DiscoveryContext where
  observedAt : Option TimestampMs := none
  requestedInterfaces : BTreeSet InterfaceKind := ∅
  inlineProbeThreshold : Option ℕ := none
  maxParallelProbeWorkers : Option ℕ := none
  properties : ValueMap := []

def DiscoveryContext.wants (context : DiscoveryContext) (interface : InterfaceKind) : Bool :=
  context.requestedInterfaces.isEmpty || context.requestedInterfaces.contains interface

structure ProbeDiscovery where
  devices : List DeviceDescriptor := []
  notes : List String := []

/-- A probe, with what it would find at the moment of the call it is handed to. -/
structure DiscoveryProbe where
  name : String
  interfaces : List InterfaceKind
  discover : DiscoveryContext → DiscoveryResult ProbeDiscovery

structure ProbeReport where
  probe : String
  interfaces : List InterfaceKind
  refreshedInterfaces : List InterfaceKind
  discoveredDevices : ℕ
  discoveredDeviceIds : List DeviceId
  notes : List String
  error : Option String
  deriving DecidableEq

namespace ProbeReport

def success (probe : String) (interfaces refreshedInterfaces : List InterfaceKind) (discoveredDevices : ℕ)
    (discoveredDeviceIds : List DeviceId) (notes : List String) : ProbeReport :=
  ⟨probe, interfaces, refreshedInterfaces, discoveredDevices, discoveredDeviceIds, notes, none⟩

def failure (probe : String) (interfaces refreshedInterfaces : List InterfaceKind) (error : String) :
    ProbeReport :=
  ⟨probe, interfaces, refreshedInterfaces, 0, [], [], some error⟩

def succeeded (report : ProbeReport) : Bool :=
  report.error.isNone

end ProbeReport

structure EnrichmentReport where
  enricher : String
  interfaces : List InterfaceKind
  refreshedInterfaces : List InterfaceKind
  notes : List String
  error : Option String
  deriving DecidableEq

def EnrichmentReport.succeeded (report : EnrichmentReport) : Bool :=
  report.error.isNone

structure DiscoveryRunReport where
  snapshot : InventorySnapshot := {}
  probeReports : List ProbeReport := []
  enrichmentReports : List EnrichmentReport := []
  deriving DecidableEq

namespace DiscoveryRunReport

def hasProbeFailures (run : DiscoveryRunReport) : Bool :=
  run.probeReports.any (fun report => !report.succeeded)

theorem hasProbeFailures_eq_false (run : DiscoveryRunReport) :
    run.hasProbeFailures = false ↔ ∀ report ∈ run.probeReports, report.succeeded = true := by
  simp [hasProbeFailures]

end DiscoveryRunReport

structure SelectedProbe where
  probe : DiscoveryProbe
  interfaces : List InterfaceKind
  refreshedInterfaces : List InterfaceKind

def selectedInterfaces (context : DiscoveryContext) (interfaces : List InterfaceKind) : List InterfaceKind :=
  if context.requestedInterfaces.isEmpty then interfaces
  else interfaces.filter context.wants

def selectProbe (context : DiscoveryContext) (probe : DiscoveryProbe) : Option SelectedProbe :=
  let refreshedInterfaces := selectedInterfaces context probe.interfaces
  if refreshedInterfaces.isEmpty then none
  else some ⟨probe, probe.interfaces, refreshedInterfaces⟩

def selectProbes (context : DiscoveryContext) (probes : List DiscoveryProbe) : List SelectedProbe :=
  probes.filterMap (selectProbe context)

theorem mem_selectedInterfaces (context : DiscoveryContext) (interfaces : List InterfaceKind)
    (interface : InterfaceKind) : interface ∈ selectedInterfaces context interfaces ↔
      interface ∈ interfaces ∧ context.wants interface = true := by
  unfold selectedInterfaces
  split
  · rename_i h
    simp [DiscoveryContext.wants, h]
  · rw [List.mem_filter]

theorem selectProbe_eq_some {context : DiscoveryContext} {probe : DiscoveryProbe} {selected : SelectedProbe}
    (h : selectProbe context probe = some selected) :
    selected = ⟨probe, probe.interfaces, selectedInterfaces context probe.interfaces⟩ ∧
      selected.refreshedInterfaces ≠ [] := by
  simp only [selectProbe] at h
  split at h
  · cases h
  · rename_i hne
    cases h
    exact ⟨rfl, by simpa using hne⟩

theorem mem_selectProbes {context : DiscoveryContext} {probes : List DiscoveryProbe}
    {selected : SelectedProbe}
    (h : selected ∈ selectProbes context probes) : selected.probe ∈ probes ∧
      selected = ⟨selected.probe, selected.probe.interfaces,
        selectedInterfaces context selected.probe.interfaces⟩ := by
  obtain ⟨probe, hprobe, hselected⟩ := List.mem_filterMap.mp h
  obtain ⟨rfl, -⟩ := selectProbe_eq_some hselected
  exact ⟨hprobe, rfl⟩

theorem selectProbes_names_nodup {context : DiscoveryContext} {probes : List DiscoveryProbe}
    (h : (probes.map DiscoveryProbe.name).Nodup) :
    ((selectProbes context probes).map (fun selected => selected.probe.name)).Nodup := by
  induction probes with
  | nil => exact List.nodup_nil
  | cons probe probes ih =>
    rw [List.map_cons, List.nodup_cons] at h
    rw [selectProbes, List.filterMap_cons]
    cases hs : selectProbe context probe with
    | none => exact ih h.2
    | some selected =>
      rw [List.map_cons, List.nodup_cons]
      refine ⟨?_, ih h.2⟩
      rintro hmem
      obtain ⟨other, hother, hname⟩ := List.mem_map.mp hmem
      rw [(selectProbe_eq_some hs).1] at hname
      exact h.1 (hname ▸ List.mem_map_of_mem (mem_selectProbes hother).1)

def defaultInlineProbeThreshold : ℕ := 2
def defaultMaxParallelProbeWorkers : ℕ := 4

def parallelWorkerCount (availableParallelism : ℕ) (context : DiscoveryContext)
    (selectedProbeCount : ℕ) : ℕ :=
  if selectedProbeCount ≤ context.inlineProbeThreshold.getD defaultInlineProbeThreshold then 1
  else
    let maxParallelProbeWorkers :=
      max (context.maxParallelProbeWorkers.getD defaultMaxParallelProbeWorkers) 1
    min (min selectedProbeCount availableParallelism) maxParallelProbeWorkers

section Batches

variable {α : Type}

def pushToBatch (workerCount : ℕ) (batches : List (List (ℕ × α))) (indexed : ℕ × α) :
    List (List (ℕ × α)) :=
  batches.modify (indexed.1 % workerCount) (fun batch => batch ++ [indexed])

def buildProbeBatches (selectedProbes : List α) (workerCount : ℕ) : List (List (ℕ × α)) :=
  (selectedProbes.zipIdx.map Prod.swap).foldl (pushToBatch workerCount) (List.replicate workerCount [])

theorem modify_append_flatten_perm (batches : List (List α)) (i : ℕ) (a : α) (h : i < batches.length) :
    (batches.modify i (fun batch => batch ++ [a])).flatten.Perm (a :: batches.flatten) := by
  induction batches generalizing i with
  | nil => cases h
  | cons batch batches ih =>
    cases i with
    | zero =>
      rw [List.modify_zero_cons, List.flatten_cons, List.append_assoc, List.singleton_append]
      exact List.perm_middle
    | succ i =>
      rw [List.modify_succ_cons, List.flatten_cons, List.flatten_cons]
      exact ((ih i (Nat.lt_of_succ_lt_succ h)).append_left batch).trans List.perm_middle

theorem foldl_pushToBatch_flatten_perm (workerCount : ℕ) (hw : 0 < workerCount) (indexed : List (ℕ × α))
    (batches : List (List (ℕ × α))) (hlen : batches.length = workerCount) :
    (indexed.foldl (pushToBatch workerCount) batches).flatten.Perm (batches.flatten ++ indexed) := by
  induction indexed generalizing batches with
  | nil => simp
  | cons entry indexed ih =>
    have hlen' : (pushToBatch workerCount batches entry).length = workerCount := by
      rw [pushToBatch, List.length_modify, hlen]
    have hlt : entry.1 % workerCount < batches.length := by
      rw [hlen]
      exact Nat.mod_lt _ hw
    have hpush := modify_append_flatten_perm batches (entry.1 % workerCount) entry hlt
    exact (ih _ hlen').trans ((hpush.append_right indexed).trans List.perm_middle.symm)

theorem buildProbeBatches_flatten_perm (selectedProbes : List α) {workerCount : ℕ} (hw : 0 < workerCount) :
    (buildProbeBatches selectedProbes workerCount).flatten.Perm (selectedProbes.zipIdx.map Prod.swap) := by
  have h := foldl_pushToBatch_flatten_perm workerCount hw (selectedProbes.zipIdx.map Prod.swap)
    (List.replicate workerCount []) List.length_replicate
  rwa [List.flatten_replicate_nil, List.nil_append] at h

end Batches

abbrev ProbeRunResult := ℕ × SelectedProbe × DiscoveryResult ProbeDiscovery

def runIndexedProbe (context : DiscoveryContext) (indexed : ℕ × SelectedProbe) : ProbeRunResult :=
  (indexed.1, indexed.2, indexed.2.probe.discover context)

def runProbeBatch (context : DiscoveryContext) (batch : List (ℕ × SelectedProbe)) : List ProbeRunResult :=
  batch.map (runIndexedProbe context)

def runSelectedProbesParallel (context : DiscoveryContext) (selectedProbes : List SelectedProbe)
    (workerCount : ℕ) : List ProbeRunResult :=
  ((buildProbeBatches selectedProbes workerCount).flatMap (runProbeBatch context)).insertionSort
    (fun left right => left.1 ≤ right.1)

def runSelectedProbes (availableParallelism : ℕ) (context : DiscoveryContext)
    (selectedProbes : List SelectedProbe) : List ProbeRunResult :=
  let workerCount := parallelWorkerCount availableParallelism context selectedProbes.length
  if workerCount ≤ 1 then
    (selectedProbes.zipIdx.map Prod.swap).map (runIndexedProbe context)
  else
    runSelectedProbesParallel context selectedProbes workerCount

theorem indexed_pairwise_lt (context : DiscoveryContext) (selectedProbes : List SelectedProbe) (start : ℕ) :
    (((selectedProbes.zipIdx start).map Prod.swap).map (runIndexedProbe context)).Pairwise
      (fun left right => left.1 < right.1) := by
  induction selectedProbes generalizing start with
  | nil => exact List.Pairwise.nil
  | cons selected selectedProbes ih =>
    rw [List.zipIdx_cons, List.map_cons, List.map_cons]
    refine List.Pairwise.cons ?_ (ih (start + 1))
    intro result hresult
    simp only [List.mem_map] at hresult
    obtain ⟨_, ⟨⟨other, index⟩, hmem, rfl⟩, rfl⟩ := hresult
    exact List.le_snd_of_mem_zipIdx hmem

theorem runSelectedProbesParallel_eq (context : DiscoveryContext) (selectedProbes : List SelectedProbe)
    {workerCount : ℕ} (hw : 0 < workerCount) :
    runSelectedProbesParallel context selectedProbes workerCount =
      (selectedProbes.zipIdx.map Prod.swap).map (runIndexedProbe context) := by
  have hlt := indexed_pairwise_lt context selectedProbes 0
  have hperm : ((buildProbeBatches selectedProbes workerCount).flatMap (runProbeBatch context)).Perm
      ((selectedProbes.zipIdx.map Prod.swap).map (runIndexedProbe context)) := by
    have hmap : (buildProbeBatches selectedProbes workerCount).flatMap (runProbeBatch context) =
        (buildProbeBatches selectedProbes workerCount).flatten.map (runIndexedProbe context) := by
      rw [List.map_flatten, List.flatMap_def]
      rfl
    rw [hmap]
    exact (buildProbeBatches_flatten_perm selectedProbes hw).map _
  have hsort := (List.perm_insertionSort (fun left right : ProbeRunResult => left.1 ≤ right.1)
    ((buildProbeBatches selectedProbes workerCount).flatMap (runProbeBatch context))).trans hperm
  refine List.Perm.eq_of_pairwise ?_ (List.pairwise_insertionSort _ _) (hlt.imp Nat.le_of_lt) hsort
  intro left right hleft hright hlr hrl
  have hnd : (((selectedProbes.zipIdx.map Prod.swap).map (runIndexedProbe context)).map Prod.fst).Nodup :=
    List.pairwise_map.mpr (hlt.imp Nat.ne_of_lt)
  exact List.inj_on_of_nodup_map hnd (hsort.subset hleft) hright (Nat.le_antisymm hlr hrl)

theorem runSelectedProbes_eq (availableParallelism : ℕ) (context : DiscoveryContext)
    (selectedProbes : List SelectedProbe) : runSelectedProbes availableParallelism context selectedProbes =
      (selectedProbes.zipIdx.map Prod.swap).map (runIndexedProbe context) := by
  simp only [runSelectedProbes]
  split
  · rfl
  · exact runSelectedProbesParallel_eq context selectedProbes (by omega)

theorem runSelectedProbes_snd (availableParallelism : ℕ) (context : DiscoveryContext)
    (selectedProbes : List SelectedProbe) :
    (runSelectedProbes availableParallelism context selectedProbes).map Prod.snd =
      selectedProbes.map (fun selected => (selected, selected.probe.discover context)) := by
  rw [runSelectedProbes_eq, List.map_map, List.map_map]
  conv_rhs => rw [← List.zipIdx_map_fst 0 selectedProbes, List.map_map]
  rfl

def validateDiscovered (probe : String) : List DeviceDescriptor → DiscoveryResult Unit
  | [] => .ok ()
  | device :: devices =>
    match device.validate with
    | .error source => .error (.invalidDescriptor probe device.id source)
    | .ok () => validateDiscovered probe devices

def processProbeResult (selectedProbe : SelectedProbe) (discovery : DiscoveryResult ProbeDiscovery)
    (devices : List DeviceDescriptor) (probeReports : List ProbeReport) :
    DiscoveryResult (List DeviceDescriptor × List ProbeReport) :=
  match discovery with
  | .ok discovery => do
    validateDiscovered selectedProbe.probe.name discovery.devices
    pure (devices ++ discovery.devices,
      probeReports ++ [.success selectedProbe.probe.name selectedProbe.interfaces
        selectedProbe.refreshedInterfaces discovery.devices.length
        (discovery.devices.map DeviceDescriptor.id) discovery.notes])
  | .error error =>
    .ok (devices, probeReports ++ [.failure selectedProbe.probe.name selectedProbe.interfaces
      selectedProbe.refreshedInterfaces error.display])

def processProbeResults : List (SelectedProbe × DiscoveryResult ProbeDiscovery) →
    List DeviceDescriptor → List ProbeReport → DiscoveryResult (List DeviceDescriptor × List ProbeReport)
  | [], devices, probeReports => .ok (devices, probeReports)
  | (selectedProbe, discovery) :: results, devices, probeReports => do
    let (devices, probeReports) ← processProbeResult selectedProbe discovery devices probeReports
    processProbeResults results devices probeReports

def runProbes (availableParallelism : ℕ) (context : DiscoveryContext) (probes : List DiscoveryProbe) :
    DiscoveryResult DiscoveryRunReport := do
  let selectedProbes := selectProbes context probes
  let probeResults := runSelectedProbes availableParallelism context selectedProbes
  let (devices, probeReports) ← processProbeResults (probeResults.map Prod.snd) [] []
  let snapshot ← InventorySnapshot.withObservedAt devices context.observedAt
  pure { snapshot, probeReports }

def discoveredBy (context : DiscoveryContext) (selectedProbe : SelectedProbe) : List DeviceDescriptor :=
  match selectedProbe.probe.discover context with
  | .ok discovery => discovery.devices
  | .error _ => []

def reportOf (context : DiscoveryContext) (selectedProbe : SelectedProbe) : ProbeReport :=
  match selectedProbe.probe.discover context with
  | .ok discovery =>
    .success selectedProbe.probe.name selectedProbe.interfaces selectedProbe.refreshedInterfaces
      discovery.devices.length (discovery.devices.map DeviceDescriptor.id) discovery.notes
  | .error error =>
    .failure selectedProbe.probe.name selectedProbe.interfaces selectedProbe.refreshedInterfaces error.display

theorem processProbeResults_ok {context : DiscoveryContext} {selectedProbes : List SelectedProbe}
    {devices found : List DeviceDescriptor} {probeReports reports : List ProbeReport}
    (h : processProbeResults
      (selectedProbes.map (fun selected => (selected, selected.probe.discover context)))
      devices probeReports = .ok (found, reports)) :
    found = devices ++ selectedProbes.flatMap (discoveredBy context) ∧
      reports = probeReports ++ selectedProbes.map (reportOf context) := by
  induction selectedProbes generalizing devices probeReports with
  | nil =>
    cases h
    simp
  | cons selected selectedProbes ih =>
    rw [List.map_cons, processProbeResults] at h
    rw [List.flatMap_cons, List.map_cons, discoveredBy, reportOf]
    cases hd : selected.probe.discover context with
    | ok discovery =>
      simp only [hd, processProbeResult] at h
      cases hv : validateDiscovered selected.probe.name discovery.devices with
      | error e =>
        rw [hv] at h
        cases h
      | ok u =>
        rw [hv] at h
        obtain ⟨rfl, rfl⟩ := ih h
        simp
    | error error =>
      simp only [hd, processProbeResult] at h
      obtain ⟨rfl, rfl⟩ := ih h
      simp

theorem runProbes_ok {availableParallelism : ℕ} {context : DiscoveryContext} {probes : List DiscoveryProbe}
    {run : DiscoveryRunReport} (h : runProbes availableParallelism context probes = .ok run) :
    run.snapshot.devices = (selectProbes context probes).flatMap (discoveredBy context) ∧
      run.probeReports = (selectProbes context probes).map (reportOf context) ∧
      run.snapshot.observedAt = context.observedAt ∧ run.enrichmentReports = [] := by
  simp only [runProbes, runSelectedProbes_snd] at h
  cases hp : processProbeResults ((selectProbes context probes).map
      (fun selected => (selected, selected.probe.discover context))) [] [] with
  | error e =>
    rw [hp] at h
    cases h
  | ok result =>
    obtain ⟨found, reports⟩ := result
    obtain ⟨rfl, rfl⟩ := processProbeResults_ok hp
    rw [hp] at h
    simp only [bind, Except.bind, List.nil_append] at h
    cases hs : InventorySnapshot.withObservedAt ((selectProbes context probes).flatMap (discoveredBy context))
        context.observedAt with
    | error e =>
      rw [hs] at h
      cases h
    | ok snapshot =>
      rw [hs] at h
      cases h
      obtain ⟨hdevices, hat⟩ := InventorySnapshot.withObservedAt_ok hs
      exact ⟨hdevices, rfl, hat, rfl⟩

def DiscoveryProbe.Honours (probe : DiscoveryProbe) (context : DiscoveryContext) : Prop :=
  ∀ discovery, probe.discover context = .ok discovery →
    ∀ device ∈ discovery.devices, device.interface ∈ selectedInterfaces context probe.interfaces

namespace DiscoveryRunReport

/-- The devices of the snapshot are those of the successful reports, and no two reports share a name. -/
structure Attributed (run : DiscoveryRunReport) : Prop where
  names_nodup : (run.probeReports.map ProbeReport.probe).Nodup
  ids_eq :
    run.snapshot.devices.map DeviceDescriptor.id = run.probeReports.flatMap ProbeReport.discoveredDeviceIds
  failed_empty : ∀ report ∈ run.probeReports, report.succeeded = false → report.discoveredDeviceIds = []

def Scoped (run : DiscoveryRunReport) : Prop :=
  ∀ report ∈ run.probeReports, ∀ device ∈ run.snapshot.devices,
    device.id ∈ report.discoveredDeviceIds → device.interface ∈ report.refreshedInterfaces

theorem Attributed.exists_report {run : DiscoveryRunReport} (h : run.Attributed) {device : DeviceDescriptor}
    (hd : device ∈ run.snapshot.devices) :
    ∃ report ∈ run.probeReports, report.succeeded = true ∧ device.id ∈ report.discoveredDeviceIds := by
  have hid : device.id ∈ run.snapshot.devices.map DeviceDescriptor.id := List.mem_map_of_mem hd
  rw [h.ids_eq] at hid
  obtain ⟨report, hreport, hmem⟩ := List.mem_flatMap.mp hid
  refine ⟨report, hreport, ?_, hmem⟩
  by_contra hfailed
  rw [h.failed_empty report hreport (by simpa using hfailed)] at hmem
  cases hmem

end DiscoveryRunReport

theorem discoveredBy_ids (context : DiscoveryContext) (selected : SelectedProbe) :
    (discoveredBy context selected).map DeviceDescriptor.id =
      (reportOf context selected).discoveredDeviceIds := by
  unfold discoveredBy reportOf
  cases selected.probe.discover context <;> rfl

@[simp] theorem reportOf_probe (context : DiscoveryContext) (selected : SelectedProbe) :
    (reportOf context selected).probe = selected.probe.name := by
  unfold reportOf
  cases selected.probe.discover context <;> rfl

@[simp] theorem reportOf_refreshedInterfaces (context : DiscoveryContext) (selected : SelectedProbe) :
    (reportOf context selected).refreshedInterfaces = selected.refreshedInterfaces := by
  unfold reportOf
  cases selected.probe.discover context <;> rfl

theorem reportOf_failed (context : DiscoveryContext) (selected : SelectedProbe)
    (h : (reportOf context selected).succeeded = false) :
    (reportOf context selected).discoveredDeviceIds = [] := by
  unfold reportOf at h ⊢
  cases hd : selected.probe.discover context with
  | ok discovery =>
    rw [hd] at h
    cases h
  | error error => rfl

theorem runProbes_attributed {availableParallelism : ℕ} {context : DiscoveryContext}
    {probes : List DiscoveryProbe} {run : DiscoveryRunReport}
    (h : runProbes availableParallelism context probes = .ok run)
    (hnames : (probes.map DiscoveryProbe.name).Nodup) : run.Attributed := by
  obtain ⟨hdevices, hreports, -, -⟩ := runProbes_ok h
  refine ⟨?_, ?_, ?_⟩
  · rw [hreports, List.map_map]
    simpa [Function.comp_def] using selectProbes_names_nodup hnames
  · rw [hdevices, hreports, List.map_flatMap, List.flatMap_map]
    simp [discoveredBy_ids]
  · intro report hreport hfailed
    rw [hreports] at hreport
    obtain ⟨selected, -, rfl⟩ := List.mem_map.mp hreport
    exact reportOf_failed context selected hfailed

theorem runProbes_scoped {availableParallelism : ℕ} {context : DiscoveryContext}
    {probes : List DiscoveryProbe} {run : DiscoveryRunReport}
    (h : runProbes availableParallelism context probes = .ok run)
    (hhonours : ∀ probe ∈ probes, probe.Honours context) : run.Scoped := by
  obtain ⟨hdevices, hreports, -, -⟩ := runProbes_ok h
  intro report hreport device hd hid
  rw [hreports] at hreport
  obtain ⟨selected, hselected, rfl⟩ := List.mem_map.mp hreport
  obtain ⟨hprobe, heq⟩ := mem_selectProbes hselected
  rw [← discoveredBy_ids] at hid
  obtain ⟨found, hfound, hsame⟩ := List.mem_map.mp hid
  have hfound' : found ∈ run.snapshot.devices := by
    rw [hdevices]
    exact List.mem_flatMap.mpr ⟨selected, hselected, hfound⟩
  rw [← run.snapshot.eq_of_id_eq hfound' hd hsame, reportOf_refreshedInterfaces, heq]
  unfold discoveredBy at hfound
  cases hdis : selected.probe.discover context with
  | ok discovery =>
    rw [hdis] at hfound
    exact hhonours selected.probe hprobe discovery hdis found hfound
  | error error =>
    rw [hdis] at hfound
    cases hfound

theorem runProbes_refreshed_wanted {availableParallelism : ℕ} {context : DiscoveryContext}
    {probes : List DiscoveryProbe} {run : DiscoveryRunReport}
    (h : runProbes availableParallelism context probes = .ok run) {report : ProbeReport}
    (hreport : report ∈ run.probeReports) {interface : InterfaceKind}
    (hi : interface ∈ report.refreshedInterfaces) : context.wants interface = true := by
  obtain ⟨-, hreports, -, -⟩ := runProbes_ok h
  rw [hreports] at hreport
  obtain ⟨selected, hselected, rfl⟩ := List.mem_map.mp hreport
  rw [reportOf_refreshedInterfaces, (mem_selectProbes hselected).2] at hi
  exact ((mem_selectedInterfaces _ _ _).mp hi).2

end Lemnos.Discovery
