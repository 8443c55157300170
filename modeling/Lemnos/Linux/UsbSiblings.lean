import Lemnos.Linux.UsbEmissions

namespace Lemnos.Linux

open Lemnos.Core Discovery Library.OrderedMap UsbEntry

/-! What is emitted for an entry of the directory, and what else in the directory this depends on. -/

variable {host : DiscoveryHost} {paths : LinuxPaths}

structure UsbContents (paths : LinuxPaths) where
  host : DiscoveryHost
  names : List String
  present : host.pathExists paths.usbDevicesRoot = true
  listed : host.readDir paths.usbDevicesRoot = .ok (names.map .ok)
  fileNames : ∀ name ∈ names, IsFileName name

namespace UsbEntry

def isNamed : UsbEntry → String → Bool
  | bus n, name => parseUsbBusName name = some n
  | device location, name => parseUsbDeviceName name = some (location.bus, location.ports)
  | interface location configuration number, name =>
    parseUsbInterfaceName name = some (location.bus, location.ports, configuration, number)

/-- The entry is in both directories with the same attribute files. -/
structure Same (entry : UsbEntry) (first second : UsbContents paths) : Prop where
  names : (first.names.filter entry.isNamed).Perm (second.names.filter entry.isNamed)
  files : ∀ name, entry.isNamed name = true → ∀ file ∈ entry.files,
    first.host.readToString (joinPath (joinPath paths.usbDevicesRoot name) file) =
      second.host.readToString (joinPath (joinPath paths.usbDevicesRoot name) file)

end UsbEntry

/-- The node below the device directory that the entry of this name says is the device's. -/
def UsbLocation.ownNode (host : DiscoveryHost) (paths : LinuxPaths) (name : String) (location : UsbLocation) :
    Option String := do
  let attributes ← (readDeviceAttributes host name (joinPath paths.usbDevicesRoot name)).toOption
  let deviceNumber ← attributes.deviceNumber
  guard (deviceNumber.toNat < UInt16.size)
  return paths.usbBusDevnode location.bus deviceNumber.toUInt16

/-- The device's own node is there both times or neither time. -/
def UsbLocation.SameNode (location : UsbLocation) (first second : UsbContents paths) : Prop :=
  ∀ name ∈ first.names, (device location).isNamed name = true →
    ∀ node, location.ownNode first.host paths name = some node →
      first.host.pathExists node = second.host.pathExists node

namespace UsbContents

variable (contents : UsbContents paths)

def sortedNames : List String := contents.names.insertionSort fun a b => a ≤ b

def discovered : ProbeDiscovery :=
  ((contents.sortedNames.map (joinPath paths.usbDevicesRoot)).foldl
    (UsbDiscovery.discoverEntry contents.host paths) {}).discovery

def HasDevice (n : UInt16) : Prop :=
  ∃ name ∈ contents.names, ∃ ports, parseUsbDeviceName name = some (n, ports)

variable {contents}

theorem discover_eq (contents : UsbContents paths) (context : DiscoveryContext) :
    (usbDiscoveryProbe contents.host paths).discover context = .ok contents.discovered := by
  have hsorted : contents.host.readDirSorted paths.usbDevicesRoot =
      .ok (contents.sortedNames.map (joinPath paths.usbDevicesRoot)) := by
    have hnames : (contents.names.map (Except.ok : String → Except IoError String)).mapM id =
        .ok contents.names := by
      rw [mapM_ok fun name => name, List.map_id']
    rw [DiscoveryHost.readDirSorted, contents.listed]
    simp only
    rw [hnames]
    rfl
  rw [usbDiscoveryProbe, discoverUsb, contents.present, hsorted]
  rfl

theorem mem_sortedNames {name : String} : name ∈ contents.sortedNames ↔ name ∈ contents.names :=
  (List.perm_insertionSort _ _).mem_iff

theorem sortedNames_pairwise (contents : UsbContents paths) : contents.sortedNames.Pairwise fun a b => a ≤ b :=
  List.pairwise_insertionSort _ _

theorem sorted_filter_eq {first second : UsbContents paths} {p : String → Bool}
    (h : (first.names.filter p).Perm (second.names.filter p)) :
    first.sortedNames.filter p = second.sortedNames.filter p := by
  have hfirst := (List.perm_insertionSort (fun a b => a ≤ b) first.names).filter p
  have hsecond := (List.perm_insertionSort (fun a b => a ≤ b) second.names).filter p
  apply List.Perm.eq_of_pairwise (fun _ _ _ _ => le_antisymm)
  · exact first.sortedNames_pairwise.filter p
  · exact second.sortedNames_pairwise.filter p
  · exact hfirst.trans (h.trans hsecond.symm)

theorem knowsBuses_init : ({} : UsbDiscovery).KnowsBuses := by
  intro n id h
  have hnone : (∅ : BTreeMap UInt16 DeviceId)[n]? = none := Std.ExtTreeMap.getElem?_empty
  exact absurd (hnone.symm.trans h) (by simp)

theorem emitted_bus (contents : UsbContents paths) (n : UInt16) :
    emitted contents.discovered.devices (bus n) =
      (contents.sortedNames.findSome? fun name => offeredForBus contents.host paths name n).toList := by
  have hnames : ∀ name ∈ contents.sortedNames, IsFileName name :=
    fun name h => contents.fileNames name (mem_sortedNames.mp h)
  have hfold := (@UsbDiscovery.emitted_foldl contents.host paths {} _ hnames knowsBuses_init).1 n
  have hnew : n ∉ ({} : UsbDiscovery).busIds := Std.ExtTreeMap.not_mem_empty
  rw [if_neg hnew] at hfold
  exact hfold

theorem emitted_device (contents : UsbContents paths) (location : UsbLocation) :
    emitted contents.discovered.devices (device location) =
      contents.sortedNames.filterMap fun name => offeredForDevice contents.host paths name location := by
  have hnames : ∀ name ∈ contents.sortedNames, IsFileName name :=
    fun name h => contents.fileNames name (mem_sortedNames.mp h)
  exact (@UsbDiscovery.emitted_foldl contents.host paths {} _ hnames knowsBuses_init).2 location

theorem emitted_bus_of_device {n : UInt16} {descriptor : DeviceDescriptor}
    (hbuild : buildBusDescriptorFromNumber n = .ok descriptor) (h : contents.HasDevice n) :
    emitted contents.discovered.devices (bus n) = [descriptor] := by
  obtain ⟨name, hname, ports, hparsed⟩ := h
  have hoffered : offeredForBus contents.host paths name n = some descriptor := by
    rw [offeredForBus_of_device hparsed]
    simp only [if_true, hbuild]
    rfl
  rw [emitted_bus]
  cases hfound : contents.sortedNames.findSome? fun name => offeredForBus contents.host paths name n with
  | none =>
    rw [List.findSome?_eq_none_iff] at hfound
    rw [hfound name (mem_sortedNames.mpr hname)] at hoffered
    cases hoffered
  | some found =>
    obtain ⟨before, first, after, hsplit, hfirst, hbefore⟩ := List.findSome?_eq_some_iff.mp hfound
    have hle : first ≤ name := by
      have hmem := mem_sortedNames.mpr hname
      rw [hsplit, List.mem_append, List.mem_cons] at hmem
      rcases hmem with hearlier | rfl | hlater
      · rw [hbefore name hearlier] at hoffered
        cases hoffered
      · exact le_refl name
      · have hpairwise := contents.sortedNames_pairwise
        rw [hsplit] at hpairwise
        exact (List.pairwise_cons.mp (List.pairwise_append.mp hpairwise).2.1).1 name hlater
    cases hbus : parseUsbBusName first with
    | some m => exact absurd hle (not_bus_le_device hbus hparsed)
    | none =>
      cases hdevice : parseUsbDeviceName first with
      | none =>
        rw [offeredForBus_of_neither hbus hdevice] at hfirst
        cases hfirst
      | some location =>
        obtain ⟨m, ports'⟩ := location
        rw [offeredForBus_of_device hdevice] at hfirst
        simp only at hfirst
        split at hfirst
        · rename_i hm
          rw [hm, hbuild] at hfirst
          cases hfirst
          rfl
        · cases hfirst

theorem emitted_bus_of_entry {n : UInt16} (h : ¬contents.HasDevice n) :
    emitted contents.discovered.devices (bus n) =
      ((contents.sortedNames.filter (bus n).isNamed).findSome? fun name =>
        (buildBusDescriptor contents.host n (joinPath paths.usbDevicesRoot name)).toOption).toList := by
  rw [emitted_bus, ← List.head?_filterMap, ← List.head?_filterMap, List.filterMap_filter]
  congr 2
  apply List.filterMap_congr
  intro name hname
  cases hbus : parseUsbBusName name with
  | some m =>
    rw [offeredForBus_of_bus hbus, isNamed, hbus]
    by_cases hm : m = n
    · simp [hm]
    · simp [hm]
  | none =>
    rw [isNamed, hbus]
    cases hdevice : parseUsbDeviceName name with
    | none =>
      rw [offeredForBus_of_neither hbus hdevice]
      simp
    | some location =>
      obtain ⟨m, ports⟩ := location
      rw [offeredForBus_of_device hdevice]
      simp only
      rw [if_neg]
      · simp
      · rintro rfl
        exact h ⟨name, mem_sortedNames.mp hname, ports, hdevice⟩

end UsbContents

/-! What a description is built from. -/

section Congr

variable {host' : DiscoveryHost} {path : String}

theorem readTrimmed_congr (h : host.readToString path = host'.readToString path) :
    host.readTrimmed path = host'.readTrimmed path := by
  rw [DiscoveryHost.readTrimmed, DiscoveryHost.readTrimmed, h]

theorem buildBusDescriptor_congr {n : UInt16} (h : ∀ file ∈ (bus n).files,
    host.readToString (joinPath path file) = host'.readToString (joinPath path file)) :
    buildBusDescriptor host n path = buildBusDescriptor host' n path := by
  rw [buildBusDescriptor, buildBusDescriptor, readTrimmed_congr (h "product" List.mem_cons_self)]

theorem readDeviceAttributes_congr {location : UsbLocation} {kernelName : String}
    (h : ∀ file ∈ (device location).files,
      host.readToString (joinPath path file) = host'.readToString (joinPath path file)) :
    readDeviceAttributes host kernelName path = readDeviceAttributes host' kernelName path := by
  have hread : ∀ file ∈ (device location).files,
      host.readTrimmed (joinPath path file) = host'.readTrimmed (joinPath path file) :=
    fun file hfile => readTrimmed_congr (h file hfile)
  simp only [files, List.forall_mem_cons] at hread
  obtain ⟨hvendor, hproduct, hnumber, hmodalias, hmanufacturer, hname, hserial, -⟩ := hread
  simp only [readDeviceAttributes, DiscoveryHost.readHexU16, DiscoveryHost.readU32, hvendor, hproduct, hnumber,
    hmodalias, hmanufacturer, hname, hserial]

theorem whenRead_health {α : Type} (value : Option α) {f : α → DeviceDescriptor → DeviceDescriptor}
    (hf : ∀ a builder, (f a builder).health = builder.health) (builder : DeviceDescriptor) :
    (whenRead value f builder).health = builder.health := by
  cases value with
  | none => rfl
  | some a => exact hf a builder

theorem withDeviceNumber_eq_iff {n : UInt16} {deviceNumber : Option UInt32} {builder : DeviceDescriptor}
    (hhealthy : builder.health = .healthy) :
    withDeviceNumber host paths n deviceNumber builder = withDeviceNumber host' paths n deviceNumber builder ↔
      ∀ number, deviceNumber = some number → number.toNat < UInt16.size →
        host.pathExists (paths.usbBusDevnode n number.toUInt16) =
          host'.pathExists (paths.usbBusDevnode n number.toUInt16) := by
  cases deviceNumber with
  | none => exact iff_of_true rfl fun _ h => by cases h
  | some number =>
    by_cases hsize : number.toNat < UInt16.size
    · -- a device with a node keeps its health, one without is degraded
      have hnode : ∀ builder : DeviceDescriptor, builder.health = .healthy → ∀ devnode,
          withDevnode devnode builder ≠ withHealth .degraded builder := by
        intro builder hbuilder devnode heq
        have hhealth : builder.health = .degraded := congrArg DeviceDescriptor.health heq
        rw [hbuilder] at hhealth
        cases hhealth
      have hnumber : (withNumber "device_number" number.toUInt64 builder).health = .healthy := hhealthy
      simp only [withDeviceNumber, DiscoveryHost.existingPathString, Option.some.injEq,
        forall_eq', forall_const, hsize]
      cases host.pathExists (paths.usbBusDevnode n number.toUInt16) <;>
        cases host'.pathExists (paths.usbBusDevnode n number.toUInt16)
      · simp
      · simpa using (hnode _ hnumber _).symm
      · simpa using hnode _ hnumber _
      · simp
    · simp only [withDeviceNumber, if_neg hsize, true_iff]
      rintro other hother hfits
      cases hother
      exact absurd hfits hsize

theorem buildDeviceDescriptor_toOption {location : UsbLocation} {kernelName : String}
    (hname : fileName path = some kernelName) :
    (buildDeviceDescriptor host paths (bus location.bus).deviceId location.bus location.ports
      path).toOption.map Prod.fst = (readDeviceAttributes host kernelName path).toOption.map fun attributes =>
        describeDevice host paths (bus location.bus).deviceId location.bus location.ports kernelName path
          attributes (device location).started := by
  have hstart : DeviceDescriptor.builderForKind (usbDeviceId location.bus location.ports) .usbDevice =
      .ok (device location).started := builderForKind_idText (.device location)
  rw [buildDeviceDescriptor, hname]
  simp only [hstart]
  cases readDeviceAttributes host kernelName path with
  | error note => rfl
  | ok attributes =>
    obtain ⟨builder, hdetails, hvalid, hdescribes⟩ :=
      @describeDevice_details host path kernelName paths location attributes
    simp only [bind, Except.bind, Except.mapError]
    rw [(hdetails.build_describes hvalid hdescribes).1]
    rfl

theorem describeDevice_eq_iff {location : UsbLocation} {kernelName : String} {attributes : UsbDeviceAttributes} :
    describeDevice host paths (bus location.bus).deviceId location.bus location.ports kernelName path attributes
        (device location).started =
      describeDevice host' paths (bus location.bus).deviceId location.bus location.ports kernelName path
        attributes (device location).started ↔
      ∀ number, attributes.deviceNumber = some number → number.toNat < UInt16.size →
        host.pathExists (paths.usbBusDevnode location.bus number.toUInt16) =
          host'.pathExists (paths.usbBusDevnode location.bus number.toUInt16) := by
  refine withDeviceNumber_eq_iff ?_
  rw [whenRead_health, whenRead_health, whenRead_health, whenRead_health, whenRead_health, whenRead_health]
  · rfl
  all_goals exact fun _ _ => rfl

theorem sameDescriptor_iff {location : UsbLocation} {name : String} (hname : IsFileName name)
    (hfiles : ∀ file ∈ (device location).files,
      host.readToString (joinPath (joinPath paths.usbDevicesRoot name) file) =
        host'.readToString (joinPath (joinPath paths.usbDevicesRoot name) file)) :
    (buildDeviceDescriptor host paths (bus location.bus).deviceId location.bus location.ports
        (joinPath paths.usbDevicesRoot name)).toOption.map Prod.fst =
      (buildDeviceDescriptor host' paths (bus location.bus).deviceId location.bus location.ports
        (joinPath paths.usbDevicesRoot name)).toOption.map Prod.fst ↔
      ∀ node, location.ownNode host paths name = some node → host.pathExists node = host'.pathExists node := by
  have hfile := fileName_joinPath paths.usbDevicesRoot hname
  rw [buildDeviceDescriptor_toOption hfile, buildDeviceDescriptor_toOption hfile,
    ← readDeviceAttributes_congr hfiles, UsbLocation.ownNode]
  cases readDeviceAttributes host name (joinPath paths.usbDevicesRoot name) with
  | error note => exact iff_of_true rfl fun _ h => by cases h
  | ok attributes =>
    simp only [Except.toOption, Option.map_some, Option.some.injEq, describeDevice_eq_iff, Option.bind_eq_bind,
      Option.bind_some]
    cases attributes.deviceNumber with
    | none => exact iff_of_true (fun _ h => by cases h) fun _ h => by cases h
    | some number =>
      by_cases hsize : number.toNat < UInt16.size
      · simp [guard, hsize]
      · simp [guard, hsize]

theorem buildBusDescriptorFromNumber_keys {n : UInt16} {descriptor : DeviceDescriptor}
    (h : buildBusDescriptorFromNumber n = .ok descriptor) :
    "sysfs_path" ∉ descriptor.properties.map Prod.fst := by
  have hstart : DeviceDescriptor.builderForKind (usbBusId n) .usbBus = _ := builderForKind_idText (.bus n)
  rw [buildBusDescriptorFromNumber] at h
  obtain ⟨started, hstarted, h⟩ := exists_of_bind_eq_ok h
  rw [startBusDescriptor, hstart] at hstarted
  cases hstarted
  rw [(DeviceDescriptor.of_build_eq_ok (of_mapError_eq_ok h)).1]
  refine mt (mem_keys_insertValue _ _ _ _).mp ?_
  rintro (hkey | hkey)
  · exact absurd hkey (by decide)
  · cases hkey

theorem buildBusDescriptor_keys {n : UInt16} {descriptor : DeviceDescriptor}
    (h : buildBusDescriptor host n path = .ok descriptor) :
    "sysfs_path" ∈ descriptor.properties.map Prod.fst := by
  rw [buildBusDescriptor] at h
  obtain ⟨builder, -, h⟩ := exists_of_bind_eq_ok h
  obtain ⟨product, -, h⟩ := exists_of_bind_eq_ok h
  rw [(DeviceDescriptor.of_build_eq_ok (of_mapError_eq_ok h)).1]
  have hpath : "sysfs_path" ∈ (withText "sysfs_path" path builder).properties.map Prod.fst :=
    (mem_keys_insertValue _ _ _ _).mpr (.inl rfl)
  cases product with
  | none => exact hpath
  | some product => exact (mem_keys_insertValue _ _ _ _).mpr (.inr hpath)

end Congr

structure Unchanged (entry : UsbEntry) (before after : ProbeDiscovery) : Prop where
  same : emitted before.devices entry = emitted after.devices entry
  unreported : ∀ observedAt observedAt' previous next,
    InventorySnapshot.withObservedAt before.devices observedAt = .ok previous →
    InventorySnapshot.withObservedAt after.devices observedAt' = .ok next →
    ∀ change ∈ (previous.diff next).changed, change.current.id ≠ entry.deviceId

theorem get_eq_head_emitted {devices : List DeviceDescriptor} {observedAt : Option TimestampMs}
    {snapshot : InventorySnapshot} (h : InventorySnapshot.withObservedAt devices observedAt = .ok snapshot)
    (entry : UsbEntry) : snapshot.get entry.deviceId = (emitted devices entry).head? := by
  rw [InventorySnapshot.get, (InventorySnapshot.withObservedAt_ok h).1, emitted, List.head?_filter]

theorem unchanged_of_same {entry : UsbEntry} {before after : ProbeDiscovery}
    (h : emitted before.devices entry = emitted after.devices entry) : Unchanged entry before after where
  same := h
  unreported := by
    intro observedAt observedAt' previous next hprevious hnext change hchange hid
    obtain ⟨hcurrent, hearlier, hne⟩ := InventorySnapshot.mem_diff_changed.mp hchange
    rw [hid, get_eq_head_emitted hnext] at hcurrent
    rw [hid, get_eq_head_emitted hprevious, h, hcurrent] at hearlier
    exact hne (Option.some.inj hearlier).symm

variable {first second : UsbContents paths}

theorem filterMap_eq_iff {α β : Type} {l : List α} {f g : α → Option β}
    (h : ∀ a ∈ l, (f a).isSome = (g a).isSome) : l.filterMap f = l.filterMap g ↔ ∀ a ∈ l, f a = g a := by
  refine ⟨?_, List.filterMap_congr⟩
  induction l with
  | nil => simp
  | cons a l ih =>
    obtain ⟨ha, hl⟩ := List.forall_mem_cons.mp h
    rw [List.forall_mem_cons]
    cases hf : f a with
    | none =>
      rw [hf] at ha
      have hg : g a = none := Option.not_isSome_iff_eq_none.mp (by simpa using ha.symm)
      rw [List.filterMap_cons_none hf, List.filterMap_cons_none hg]
      exact fun heq => ⟨hg.symm, ih hl heq⟩
    | some b =>
      rw [hf] at ha
      obtain ⟨c, hg⟩ := Option.isSome_iff_exists.mp ha.symm
      rw [List.filterMap_cons_some hf, List.filterMap_cons_some hg, List.cons.injEq, hg, Option.some.injEq]
      exact fun heq => ⟨heq.1, ih hl heq.2⟩

theorem device_same_iff {location : UsbLocation} (h : (device location).Same first second) :
    emitted first.discovered.devices (device location) = emitted second.discovered.devices (device location) ↔
      location.SameNode first second := by
  have hfilter : ∀ contents : UsbContents paths, emitted contents.discovered.devices (device location) =
      (contents.sortedNames.filter (device location).isNamed).filterMap fun name =>
        offeredForDevice contents.host paths name location := by
    intro contents
    rw [UsbContents.emitted_device, List.filterMap_filter]
    apply List.filterMap_congr
    intro name hname
    rw [isNamed]
    split
    · rfl
    · rename_i hnot
      rw [offeredForDevice, if_neg (by simpa using hnot)]
  have hoffered : ∀ name ∈ first.sortedNames.filter (device location).isNamed, ∀ contents : UsbContents paths,
      offeredForDevice contents.host paths name location = (buildDeviceDescriptor contents.host paths
        (bus location.bus).deviceId location.bus location.ports
        (joinPath paths.usbDevicesRoot name)).toOption.map Prod.fst := by
    intro name hname contents
    have hnamed := (List.mem_filter.mp hname).2
    rw [isNamed, decide_eq_true_eq] at hnamed
    rw [offeredForDevice, if_pos hnamed]
  have hfile : ∀ name ∈ first.sortedNames.filter (device location).isNamed, IsFileName name :=
    fun name hname => first.fileNames name (UsbContents.mem_sortedNames.mp (List.mem_filter.mp hname).1)
  rw [hfilter, hfilter, ← UsbContents.sorted_filter_eq h.names, filterMap_eq_iff]
  · constructor
    · intro hsame name hname hnamed
      have hmem : name ∈ first.sortedNames.filter (device location).isNamed :=
        List.mem_filter.mpr ⟨UsbContents.mem_sortedNames.mpr hname, hnamed⟩
      have heq := hsame name hmem
      rw [hoffered name hmem, hoffered name hmem] at heq
      exact (sameDescriptor_iff (hfile name hmem) (h.files name hnamed)).mp heq
    · intro hnode name hmem
      obtain ⟨hname, hnamed⟩ := List.mem_filter.mp hmem
      rw [hoffered name hmem, hoffered name hmem]
      exact (sameDescriptor_iff (hfile name hmem) (h.files name hnamed)).mpr
        (hnode name (UsbContents.mem_sortedNames.mp hname) hnamed)
  · intro name hmem
    have hread := @readDeviceAttributes_congr first.host second.host (joinPath paths.usbDevicesRoot name) location
      name (h.files name (List.mem_filter.mp hmem).2)
    have hname := fileName_joinPath paths.usbDevicesRoot (hfile name hmem)
    rw [hoffered name hmem, hoffered name hmem, buildDeviceDescriptor_toOption hname,
      buildDeviceDescriptor_toOption hname, hread, Option.isSome_map, Option.isSome_map]

theorem bus_same_iff {n : UInt16} (h : (bus n).Same first second) :
    emitted first.discovered.devices (bus n) = emitted second.discovered.devices (bus n) ↔
      (first.HasDevice n ↔ second.HasDevice n) := by
  obtain ⟨descriptor, hbuild, -⟩ := buildBusDescriptorFromNumber_spec n
  have hdiffer : ∀ attached empty : UsbContents paths, attached.HasDevice n → ¬empty.HasDevice n →
      emitted attached.discovered.devices (bus n) ≠ emitted empty.discovered.devices (bus n) := by
    intro attached empty hattached hempty heq
    rw [UsbContents.emitted_bus_of_device hbuild hattached, UsbContents.emitted_bus_of_entry hempty] at heq
    have hfound := Option.toList_eq_singleton_iff.mp heq.symm
    obtain ⟨before, name, after, -, hname, -⟩ := List.findSome?_eq_some_iff.mp hfound
    cases hentry : buildBusDescriptor empty.host n (joinPath paths.usbDevicesRoot name) with
    | error text =>
      rw [hentry] at hname
      cases hname
    | ok described =>
      rw [hentry] at hname
      cases hname
      exact buildBusDescriptorFromNumber_keys hbuild (buildBusDescriptor_keys hentry)
  by_cases hfirst : first.HasDevice n
  · by_cases hsecond : second.HasDevice n
    · refine iff_of_true ?_ (iff_of_true hfirst hsecond)
      rw [UsbContents.emitted_bus_of_device hbuild hfirst, UsbContents.emitted_bus_of_device hbuild hsecond]
    · exact iff_of_false (hdiffer first second hfirst hsecond) fun hiff => hsecond (hiff.mp hfirst)
  · by_cases hsecond : second.HasDevice n
    · exact iff_of_false (hdiffer second first hsecond hfirst).symm fun hiff => hfirst (hiff.mpr hsecond)
    · refine iff_of_true ?_ (iff_of_false hfirst hsecond)
      rw [UsbContents.emitted_bus_of_entry hfirst, UsbContents.emitted_bus_of_entry hsecond,
        UsbContents.sorted_filter_eq h.names, ← List.head?_filterMap, ← List.head?_filterMap]
      congr 2
      apply List.filterMap_congr
      intro name hname
      have hnamed := (List.mem_filter.mp hname).2
      rw [buildBusDescriptor_congr (h.files name hnamed)]

/-- What is emitted for a device depends on its own entry and its node only. For a bus it depends on its entry
only, exactly if a device of the bus is attached both times or neither time. -/
theorem usb_descriptors_unchanged_iff (paths : LinuxPaths) (first second : UsbContents paths)
    (context : DiscoveryContext) (before after : ProbeDiscovery)
    (hbefore : (usbDiscoveryProbe first.host paths).discover context = .ok before)
    (hafter : (usbDiscoveryProbe second.host paths).discover context = .ok after) :
    (∀ location, (device location).Same first second →
        (Unchanged (device location) before after ↔ location.SameNode first second)) ∧
      ∀ n, (bus n).Same first second →
        (Unchanged (bus n) before after ↔ (first.HasDevice n ↔ second.HasDevice n)) := by
  rw [UsbContents.discover_eq] at hbefore hafter
  cases hbefore
  cases hafter
  constructor
  · intro location h
    rw [← device_same_iff h]
    exact ⟨Unchanged.same, unchanged_of_same⟩
  · intro n h
    rw [← bus_same_iff h]
    exact ⟨Unchanged.same, unchanged_of_same⟩

def withRootHub (names nodes : List String) : DiscoveryHost :=
  { withoutFiles names with
    pathExists path := path = "/sys/bus/usb/devices" || path ∈ nodes
    readToString path :=
      if path = "/sys/bus/usb/devices/usb1/product" then .ok "Root Hub\n"
      else if path = "/sys/bus/usb/devices/1-2/devnum" then .ok "3\n"
      else .error .notFound }

def hubOnly : UsbContents {} where
  host := withRootHub ["usb1"] []
  names := ["usb1"]
  present := rfl
  listed := rfl
  fileNames := by
    intro name h
    rw [List.mem_singleton] at h
    subst h
    exact ⟨by decide, by decide, by decide, by decide⟩

def hubWithDevice : UsbContents {} where
  host := withRootHub ["usb1", "1-2"] ["/dev/bus/usb/001/003"]
  names := ["usb1", "1-2"]
  present := rfl
  listed := rfl
  fileNames := by
    intro name h
    rw [List.mem_cons, List.mem_singleton] at h
    rcases h with rfl | rfl
    · exact ⟨by decide, by decide, by decide, by decide⟩
    · exact ⟨by decide, by decide, by decide, by decide⟩

def hubWithDevices : UsbContents {} where
  host := withRootHub ["usb1", "1-2", "1-3"] ["/dev/bus/usb/001/003", "/dev/bus/usb/001/004"]
  names := ["usb1", "1-2", "1-3"]
  present := rfl
  listed := rfl
  fileNames := by
    intro name h
    rw [List.mem_cons, List.mem_cons, List.mem_singleton] at h
    rcases h with rfl | rfl | rfl
    · exact ⟨by decide, by decide, by decide, by decide⟩
    · exact ⟨by decide, by decide, by decide, by decide⟩
    · exact ⟨by decide, by decide, by decide, by decide⟩

theorem same_hub : (bus 1).Same hubOnly hubWithDevice where
  names := by
    have hnames : hubOnly.names.filter (bus 1).isNamed = hubWithDevice.names.filter (bus 1).isNamed := by decide
    rw [hnames]
  files _ _ _ _ := rfl

theorem hubWithDevice_hasDevice : hubWithDevice.HasDevice 1 := ⟨"1-2", by decide, [2], by decide⟩

theorem hubOnly_hasNoDevice : ¬hubOnly.HasDevice 1 := by
  rintro ⟨name, hname, ports, hparsed⟩
  obtain rfl := List.mem_singleton.mp hname
  have hnone : parseUsbDeviceName "usb1" = none := by decide
  rw [hnone] at hparsed
  cases hparsed

theorem hubWithDevices_hasDevice : hubWithDevices.HasDevice 1 := ⟨"1-2", by decide, [2], by decide⟩

theorem secondPort_sameNode : secondPort.SameNode hubWithDevice hubWithDevices := by
  intro name hname hnamed node hnode
  obtain rfl | rfl : name = "usb1" ∨ name = "1-2" := by simpa [hubWithDevice] using hname
  · have hnot : (device secondPort).isNamed "usb1" = false := by decide
    rw [hnot] at hnamed
    cases hnamed
  · have hown : secondPort.ownNode hubWithDevice.host {} "1-2" = some "/dev/bus/usb/001/003" := by decide
    rw [hown] at hnode
    cases hnode
    decide

theorem usb_descriptors_unchanged_iff_hub :
    Unchanged (bus 1) hubWithDevice.discovered hubWithDevices.discovered ∧
      Unchanged (device secondPort) hubWithDevice.discovered hubWithDevices.discovered := by
  have hiff := usb_descriptors_unchanged_iff {} hubWithDevice hubWithDevices {} _ _ (UsbContents.discover_eq _ _)
    (UsbContents.discover_eq _ _)
  have hbus : hubWithDevice.names.filter (bus 1).isNamed = hubWithDevices.names.filter (bus 1).isNamed := by decide
  have hdevice : hubWithDevice.names.filter (device secondPort).isNamed =
      hubWithDevices.names.filter (device secondPort).isNamed := by decide
  constructor
  · refine (hiff.2 1 ⟨by rw [hbus], fun _ _ _ _ => rfl⟩).mpr ?_
    exact iff_of_true hubWithDevice_hasDevice hubWithDevices_hasDevice
  · exact (hiff.1 secondPort ⟨by rw [hdevice], fun _ _ _ _ => rfl⟩).mpr secondPort_sameNode

/-- Plugging in the device makes the bus another one: its description loses the path and the product. -/
theorem plugged_device_changes_bus : (bus 1).Same hubOnly hubWithDevice ∧ ∃ before after previous next,
    (usbDiscoveryProbe hubOnly.host {}).discover {} = .ok before ∧
      (usbDiscoveryProbe hubWithDevice.host {}).discover {} = .ok after ∧
      InventorySnapshot.withObservedAt before.devices none = .ok previous ∧
      InventorySnapshot.withObservedAt after.devices none = .ok next ∧
      emitted before.devices (bus 1) ≠ emitted after.devices (bus 1) ∧
      ∃ change ∈ (previous.diff next).changed, change.current.id = (bus 1).deviceId := by
  have hbefore : validateDevices hubOnly.discovered.devices = .ok () := by decide
  have hafter : validateDevices hubWithDevice.discovered.devices = .ok () := by decide
  have hdiffer : emitted hubOnly.discovered.devices (bus 1) ≠
      emitted hubWithDevice.discovered.devices (bus 1) := by
    intro heq
    exact hubOnly_hasNoDevice (((bus_same_iff same_hub).mp heq).mpr hubWithDevice_hasDevice)
  refine ⟨same_hub, hubOnly.discovered, hubWithDevice.discovered, ⟨none, _, hbefore⟩, ⟨none, _, hafter⟩,
    UsbContents.discover_eq _ _, UsbContents.discover_eq _ _, ?_, ?_, hdiffer, ?_⟩
  · exact InventorySnapshot.withObservedAt_of_valid none hbefore
  · exact InventorySnapshot.withObservedAt_of_valid none hafter
  · have hone : (emitted hubOnly.discovered.devices (bus 1)).length = 1 := by decide
    have hother : (emitted hubWithDevice.discovered.devices (bus 1)).length = 1 := by decide
    obtain ⟨previous, hprevious⟩ := List.length_eq_one_iff.mp hone
    obtain ⟨current, hcurrent⟩ := List.length_eq_one_iff.mp hother
    have hget := get_eq_head_emitted (InventorySnapshot.withObservedAt_of_valid none hbefore) (bus 1)
    have hget' := get_eq_head_emitted (InventorySnapshot.withObservedAt_of_valid none hafter) (bus 1)
    rw [hprevious] at hget
    rw [hcurrent] at hget'
    have hid := InventorySnapshot.get_id _ hget'
    refine ⟨⟨previous, current⟩, InventorySnapshot.mem_diff_changed.mpr ⟨?_, ?_, ?_⟩, hid⟩
    · rw [hid]
      exact hget'
    · rw [hid]
      exact hget
    · intro heq
      have hsame : previous = current := heq
      rw [hsame, ← hcurrent] at hprevious
      exact hdiffer hprevious

end Lemnos.Linux
