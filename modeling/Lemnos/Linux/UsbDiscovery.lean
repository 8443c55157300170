import Lemnos.Library.Census
import Lemnos.Linux.UsbOutcomes

namespace Lemnos.Linux

open Lemnos.Core Discovery Library.OrderedMap Library.Census

/-- What the probe keeps while it goes through the entries. -/
structure UsbDiscovery where
  discovery : ProbeDiscovery := {}
  busIds : BTreeMap UInt16 DeviceId := ∅
  deviceIds : BTreeMap String DeviceId := ∅
  deviceVendorProducts : BTreeMap String UsbVendorProduct := ∅

namespace UsbDiscovery

def emit (state : UsbDiscovery) (descriptor : DeviceDescriptor) : UsbDiscovery :=
  { state with discovery := { state.discovery with devices := state.discovery.devices ++ [descriptor] } }

def note (state : UsbDiscovery) (note : String) : UsbDiscovery :=
  { state with discovery := { state.discovery with notes := state.discovery.notes ++ [note] } }

def emitBus (state : UsbDiscovery) (bus : UInt16) (descriptor : DeviceDescriptor) : UsbDiscovery :=
  { state with busIds := state.busIds.insert bus descriptor.id }.emit descriptor

def emitDevice (state : UsbDiscovery) (key : String) (descriptor : DeviceDescriptor)
    (vendorProduct : UsbVendorProduct) : UsbDiscovery :=
  { state with
    deviceVendorProducts := state.deviceVendorProducts.insert key vendorProduct
    deviceIds := state.deviceIds.insert key descriptor.id }.emit descriptor

variable (host : DiscoveryHost) (paths : LinuxPaths)

def discoverBus (bus : UInt16) (entry : String) (state : UsbDiscovery) : UsbDiscovery :=
  if bus ∈ state.busIds then state
  else match buildBusDescriptor host bus entry with
    | .ok descriptor => state.emitBus bus descriptor
    | .error note => state.note note

def ensureBus (bus : UInt16) (state : UsbDiscovery) : Except String (DeviceId × UsbDiscovery) :=
  match state.busIds[bus]? with
  | some busId => .ok (busId, state)
  | none => do
    let descriptor ← buildBusDescriptorFromNumber bus
    return (descriptor.id, state.emitBus bus descriptor)

def discoverDevice (bus : UInt16) (ports : List UInt8) (entry : String) (state : UsbDiscovery) : UsbDiscovery :=
  match ensureBus bus state with
  | .error note => state.note note
  | .ok (busId, state) =>
    match buildDeviceDescriptor host paths busId bus ports entry with
    | .ok (descriptor, vendorProduct) => state.emitDevice (usbDeviceKey bus ports) descriptor vendorProduct
    | .error note => state.note note

def skippingNote (name key : String) : String :=
  s!"skipping Linux USB interface '{name}' because parent device '{key}' was not discovered"

def discoverInterface (name : String) (bus : UInt16) (ports : List UInt8) (configuration interfaceNumber : UInt8)
    (entry : String) (state : UsbDiscovery) : UsbDiscovery :=
  let key := usbDeviceKey bus ports
  match state.deviceIds[key]? with
  | none => state.note (skippingNote name key)
  | some parentDeviceId =>
    let vendorProduct := state.deviceVendorProducts[key]?.getD (none, none)
    match buildInterfaceDescriptor host
        ⟨parentDeviceId, bus, ports, configuration, interfaceNumber, vendorProduct.1, vendorProduct.2, entry⟩ with
    | .ok descriptor => state.emit descriptor
    | .error note => state.note note

def discoverEntry (state : UsbDiscovery) (entry : String) : UsbDiscovery :=
  match fileName entry with
  | none => state
  | some name =>
    match parseUsbBusName name with
    | some bus => discoverBus host bus entry state
    | none =>
      match parseUsbDeviceName name with
      | some (bus, ports) => discoverDevice host paths bus ports entry state
      | none =>
        match parseUsbInterfaceName name with
        | some (bus, ports, configuration, interfaceNumber) =>
          discoverInterface host name bus ports configuration interfaceNumber entry state
        | none => state

end UsbDiscovery

def discoverUsb (host : DiscoveryHost) (paths : LinuxPaths) : DiscoveryResult ProbeDiscovery :=
  let devicesRoot := paths.usbDevicesRoot
  if !host.pathExists devicesRoot then .ok { notes := [s!"USB sysfs root '{devicesRoot}' is not present"] }
  else match host.readDirSorted devicesRoot with
    | .error error =>
      .error (.probeFailed "linux-usb" s!"enumerate USB devices at '{devicesRoot}': {error.display}")
    | .ok entries => .ok (entries.foldl (UsbDiscovery.discoverEntry host paths) {}).discovery

def usbDiscoveryProbe (host : DiscoveryHost) (paths : LinuxPaths) : DiscoveryProbe where
  name := "linux-usb"
  interfaces := [.usb]
  discover _ := discoverUsb host paths

namespace UsbEntry

def brings : UsbEntry → Option UsbEntry
  | device location => some (bus location.bus)
  | _ => none

def needs : UsbEntry → Option UsbEntry
  | interface location _ _ => some (device location)
  | _ => none

def path (paths : LinuxPaths) (entry : UsbEntry) : String := joinPath paths.usbDevicesRoot entry.name

def isReadable (host : DiscoveryHost) (paths : LinuxPaths) (entry : UsbEntry) : Bool :=
  entry.readable host (entry.path paths)

def takeUp (host : DiscoveryHost) (paths : LinuxPaths) : Register UsbEntry → UsbEntry → Register UsbEntry :=
  step brings needs (isReadable host paths)

def Agrees (host : DiscoveryHost) (paths : LinuxPaths) : UsbEntry → Prop
  | interface location configuration number =>
    NumberAgrees host ((interface location configuration number).path paths) number
  | _ => True

/-- The note says what could not be read of the entry, or that the device of an interface was not described. -/
def Notes (paths : LinuxPaths) : UsbEntry → String → Prop
  | bus n, note => UnreadNote (toString n) ((bus n).path paths) note
  | device location, note => UnreadNote (device location).name ((device location).path paths) note
  | interface location configuration number, note =>
    UnreadNote (interface location configuration number).name
      ((interface location configuration number).path paths) note ∨
    note = UsbDiscovery.skippingNote (interface location configuration number).name location.key

end UsbEntry

namespace UsbDiscovery

/-- The probe has emitted a descriptor for each entry that the register describes and a note for each one that it
notes, and knows the ids of the buses and the devices among them. -/
structure Mirrors (paths : LinuxPaths) (state : UsbDiscovery) (register : Register UsbEntry) : Prop where
  devices : List.Forall₂ UsbEntry.Describes register.described state.discovery.devices
  notes : List.Forall₂ (UsbEntry.Notes paths) register.noted state.discovery.notes
  buses : ∀ n, state.busIds[n]? =
    if UsbEntry.bus n ∈ register.described then some (UsbEntry.bus n).deviceId else none
  locations : ∀ location : UsbLocation, state.deviceIds[location.key]? =
    if UsbEntry.device location ∈ register.described then some (UsbEntry.device location).deviceId else none

namespace Mirrors

variable {host : DiscoveryHost} {paths : LinuxPaths} {state : UsbDiscovery} {register : Register UsbEntry}
  {descriptor : DeviceDescriptor}

theorem init : Mirrors paths {} {} where
  devices := .nil
  notes := .nil
  buses _ := by simp
  locations _ := by simp

theorem note {entry : UsbEntry} {text : String} (h : Mirrors paths state register)
    (hnotes : entry.Notes paths text) :
    Mirrors paths (state.note text) { register with noted := register.noted ++ [entry] } where
  devices := h.devices
  notes := List.rel_append h.notes (.cons hnotes .nil)
  buses := h.buses
  locations := h.locations

theorem emitBus {n : UInt16} (h : Mirrors paths state register)
    (hdescribes : (UsbEntry.bus n).Describes descriptor) :
    Mirrors paths (state.emitBus n descriptor) { register with described := register.described ++ [.bus n] } where
  devices := List.rel_append h.devices (.cons hdescribes .nil)
  notes := h.notes
  buses m := by
    refine (BTreeMap.getElem?_insert_eq state.busIds n descriptor.id m).trans ?_
    by_cases hm : m = n
    · rw [if_pos hm, hm, if_pos (List.mem_append_right _ (List.mem_singleton_self _)), hdescribes.id]
    · have hmem : UsbEntry.bus m ∈ register.described ++ [UsbEntry.bus n] ↔
          UsbEntry.bus m ∈ register.described := by
        simp [hm]
      rw [if_neg hm, h.buses, if_congr hmem rfl rfl]
  locations location := by
    have hmem : UsbEntry.device location ∈ register.described ++ [UsbEntry.bus n] ↔
        UsbEntry.device location ∈ register.described := by
      simp
    rw [if_congr hmem rfl rfl]
    exact h.locations location

theorem emitDevice {location : UsbLocation} (h : Mirrors paths state register)
    (hdescribes : (UsbEntry.device location).Describes descriptor) (vendorProduct : UsbVendorProduct) :
    Mirrors paths (state.emitDevice location.key descriptor vendorProduct)
      { register with described := register.described ++ [.device location] } where
  devices := List.rel_append h.devices (.cons hdescribes .nil)
  notes := h.notes
  buses n := by
    have hmem : UsbEntry.bus n ∈ register.described ++ [UsbEntry.device location] ↔
        UsbEntry.bus n ∈ register.described := by
      simp
    rw [if_congr hmem rfl rfl]
    exact h.buses n
  locations other := by
    refine (BTreeMap.getElem?_insert_eq state.deviceIds location.key descriptor.id other.key).trans ?_
    by_cases hother : other = location
    · rw [hother, if_pos rfl, if_pos (List.mem_append_right _ (List.mem_singleton_self _)), hdescribes.id]
    · have hkey : other.key ≠ location.key := fun hkey => hother (UsbLocation.key_injective hkey)
      have hmem : UsbEntry.device other ∈ register.described ++ [UsbEntry.device location] ↔
          UsbEntry.device other ∈ register.described := by
        simp [hother]
      rw [if_neg hkey, h.locations, if_congr hmem rfl rfl]

theorem emitInterface {location : UsbLocation} {configuration number : UInt8} (h : Mirrors paths state register)
    (hdescribes : (UsbEntry.interface location configuration number).Describes descriptor) :
    Mirrors paths (state.emit descriptor)
      { register with described := register.described ++ [.interface location configuration number] } where
  devices := List.rel_append h.devices (.cons hdescribes .nil)
  notes := h.notes
  buses n := by
    have hmem : UsbEntry.bus n ∈ register.described ++ [UsbEntry.interface location configuration number] ↔
        UsbEntry.bus n ∈ register.described := by
      simp
    rw [if_congr hmem rfl rfl]
    exact h.buses n
  locations other := by
    have hmem : UsbEntry.device other ∈ register.described ++ [UsbEntry.interface location configuration number] ↔
        UsbEntry.device other ∈ register.described := by
      simp
    rw [if_congr hmem rfl rfl]
    exact h.locations other

theorem mem_busIds_iff (h : Mirrors paths state register) (n : UInt16) :
    n ∈ state.busIds ↔ UsbEntry.bus n ∈ register.described := by
  rw [BTreeMap.mem_iff_exists, h.buses]
  split <;> simp [*]

theorem isFileName_name (entry : UsbEntry) : IsFileName entry.name := by
  obtain ⟨c, rest, hcons, hdot⟩ := entry.exists_name_cons
  refine ⟨entry.slash_not_mem_name, ?_, ?_, ?_⟩ <;> rw [hcons] <;> simp [hdot]

theorem fileName_path (paths : LinuxPaths) (entry : UsbEntry) : fileName (entry.path paths) = some entry.name :=
  fileName_joinPath _ (isFileName_name entry)

theorem not_isReadable {entry : UsbEntry} (h : entry.readable host (entry.path paths) = false) :
    ¬(entry.isReadable host paths = true ∧ ∀ p ∈ entry.needs, p ∈ bring register.described entry.brings) := by
  rintro ⟨hreadable, -⟩
  rw [UsbEntry.isReadable, h] at hreadable
  cases hreadable

theorem discoverBus (h : Mirrors paths state register) (n : UInt16) :
    Mirrors paths (discoverBus host n ((UsbEntry.bus n).path paths) state)
      (UsbEntry.takeUp host paths register (.bus n)) := by
  have hspec := @buildBusDescriptor_spec host ((UsbEntry.bus n).path paths) n
  rw [UsbDiscovery.discoverBus, if_congr (h.mem_busIds_iff n) rfl rfl, UsbEntry.takeUp, step]
  by_cases hknown : UsbEntry.bus n ∈ register.described
  · have hbrought : UsbEntry.bus n ∈ bring register.described (UsbEntry.brings (.bus n)) := hknown
    rw [if_pos hknown, if_pos hbrought]
    exact h
  · have hnot : UsbEntry.bus n ∉ bring register.described (UsbEntry.brings (.bus n)) := hknown
    rw [if_neg hknown, if_neg hnot]
    cases hbuild : buildBusDescriptor host n ((UsbEntry.bus n).path paths) with
    | ok descriptor =>
      rw [hbuild] at hspec
      obtain ⟨hreadable, hdescribes⟩ := hspec
      rw [if_pos ⟨hreadable, fun p hp => absurd hp (Option.not_mem_none p)⟩]
      exact h.emitBus hdescribes
    | error note =>
      rw [hbuild] at hspec
      obtain _ | ⟨hunreadable, hnote⟩ := hspec
      rw [if_neg (not_isReadable hunreadable)]
      exact h.note hnote

theorem ensureBus (h : Mirrors paths state register) (n : UInt16) : ∃ state',
    ensureBus n state = .ok ((UsbEntry.bus n).deviceId, state') ∧
      Mirrors paths state' { register with described := bring register.described (some (.bus n)) } := by
  rw [UsbDiscovery.ensureBus, h.buses, bring]
  by_cases hknown : UsbEntry.bus n ∈ register.described
  · rw [if_pos hknown, if_pos hknown]
    exact ⟨state, rfl, h⟩
  · obtain ⟨descriptor, hbuild, hdescribes⟩ := buildBusDescriptorFromNumber_spec n
    rw [if_neg hknown, if_neg hknown, hbuild]
    refine ⟨state.emitBus n descriptor, ?_, h.emitBus hdescribes⟩
    rw [← hdescribes.id]
    rfl

theorem discoverDevice (h : Mirrors paths state register) (location : UsbLocation)
    (hfresh : UsbEntry.device location ∉ register.described) :
    Mirrors paths
      (discoverDevice host paths location.bus location.ports ((UsbEntry.device location).path paths) state)
      (UsbEntry.takeUp host paths register (.device location)) := by
  obtain ⟨state', hensure, hbrought⟩ := @ensureBus paths state register h location.bus
  have hspec := @buildDeviceDescriptor_spec host _ _ paths location (fileName_path paths (.device location))
  have hnot : UsbEntry.device location ∉ bring register.described (UsbEntry.brings (.device location)) := by
    rw [mem_bring, not_or]
    exact ⟨hfresh, fun hbrings => by cases hbrings⟩
  rw [UsbDiscovery.discoverDevice, hensure, UsbEntry.takeUp, step, if_neg hnot]
  simp only
  cases hbuild : buildDeviceDescriptor host paths (UsbEntry.bus location.bus).deviceId location.bus location.ports
      ((UsbEntry.device location).path paths) with
  | ok result =>
    obtain ⟨descriptor, vendorProduct⟩ := result
    rw [hbuild] at hspec
    obtain ⟨hreadable, hdescribes⟩ := hspec
    rw [if_pos ⟨hreadable, fun p hp => absurd hp (Option.not_mem_none p)⟩]
    exact hbrought.emitDevice hdescribes vendorProduct
  | error note =>
    rw [hbuild] at hspec
    obtain _ | ⟨hunreadable, hnote⟩ := hspec
    rw [if_neg (not_isReadable hunreadable)]
    exact hbrought.note hnote

theorem discoverInterface (h : Mirrors paths state register) (location : UsbLocation)
    (configuration number : UInt8)
    (hfresh : UsbEntry.interface location configuration number ∉ register.described)
    (hagrees : NumberAgrees host ((UsbEntry.interface location configuration number).path paths) number) :
    Mirrors paths (discoverInterface host (UsbEntry.interface location configuration number).name location.bus
      location.ports configuration number ((UsbEntry.interface location configuration number).path paths) state)
      (UsbEntry.takeUp host paths register (.interface location configuration number)) := by
  have hnot : UsbEntry.interface location configuration number ∉
      bring register.described (UsbEntry.brings (.interface location configuration number)) := hfresh
  have hparent := h.locations location
  rw [UsbLocation.key] at hparent
  rw [UsbDiscovery.discoverInterface, UsbEntry.takeUp, step, if_neg hnot]
  simp only [hparent]
  by_cases hknown : UsbEntry.device location ∈ register.described
  · rw [if_pos hknown]
    simp only
    generalize state.deviceVendorProducts[usbDeviceKey location.bus location.ports]?.getD (none, none) =
      vendorProduct
    have hspec := @buildInterfaceDescriptor_spec host
      ((UsbEntry.interface location configuration number).path paths)
      (UsbEntry.interface location configuration number).name location configuration number vendorProduct
      (fileName_path paths (.interface location configuration number)) hagrees
    rw [interfaceInput] at hspec
    cases hbuild : buildInterfaceDescriptor host ⟨(UsbEntry.device location).deviceId, location.bus,
        location.ports, configuration, number, vendorProduct.1, vendorProduct.2,
        (UsbEntry.interface location configuration number).path paths⟩ with
    | ok descriptor =>
      rw [hbuild] at hspec
      obtain ⟨hreadable, hdescribes⟩ := hspec
      have hneeds : ∀ p ∈ (UsbEntry.interface location configuration number).needs,
          p ∈ bring register.described (UsbEntry.brings (.interface location configuration number)) := by
        rintro p hp
        cases hp
        exact hknown
      rw [if_pos ⟨hreadable, hneeds⟩]
      exact h.emitInterface hdescribes
    | error note =>
      rw [hbuild] at hspec
      obtain _ | ⟨hunreadable, hnote⟩ := hspec
      rw [if_neg (not_isReadable hunreadable)]
      exact h.note (.inl hnote)
  · rw [if_neg hknown, if_neg fun hcan => hknown (hcan.2 _ rfl)]
    exact h.note (.inr rfl)

/-- The probe does with each entry what the register does. -/
theorem discoverEntry (h : Mirrors paths state register) (entry : UsbEntry)
    (hfresh : (∀ n, entry ≠ .bus n) → entry ∉ register.described) (hagrees : entry.Agrees host paths) :
    Mirrors paths (discoverEntry host paths state (entry.path paths))
      (UsbEntry.takeUp host paths register entry) := by
  rw [UsbDiscovery.discoverEntry, fileName_path]
  cases entry with
  | bus n =>
    simp only [UsbEntry.parseUsbBusName_bus]
    exact h.discoverBus n
  | device location =>
    simp only [UsbEntry.parseUsbBusName_device, UsbEntry.parseUsbDeviceName_device]
    exact h.discoverDevice location (hfresh nofun)
  | interface location configuration number =>
    simp only [UsbEntry.parseUsbBusName_interface, UsbEntry.parseUsbDeviceName_interface,
      UsbEntry.parseUsbInterfaceName_interface]
    exact h.discoverInterface location configuration number (hfresh nofun) hagrees

end Mirrors

end UsbDiscovery

namespace UsbEntry

theorem plain : Plain brings needs where
  brought e b h := by
    cases e with
    | device location =>
      cases h
      exact ⟨rfl, rfl⟩
    | bus n => cases h
    | interface location configuration number => cases h
  needed e p h d hbrings := by
    cases e with
    | interface location configuration number =>
      cases h
      cases d <;> cases hbrings
    | bus n => cases h
    | device location => cases h

theorem inOrder_of_name_le {a b : UsbEntry} (h : a.name ≤ b.name) : InOrder brings needs a b := by
  constructor
  · intro hneeds
    cases a with
    | interface location configuration number =>
      cases hneeds
      exact not_interface_le_device _ _ _ h
    | bus n => cases hneeds
    | device location => cases hneeds
  · intro hbrings
    cases b with
    | device location =>
      cases hbrings
      exact not_bus_le_device _ _ h
    | bus n => cases hbrings
    | interface location configuration number => cases hbrings

variable {host : DiscoveryHost} {paths : LinuxPaths}

theorem not_brought {entry : UsbEntry} (hbus : ∀ n, entry ≠ .bus n) (d : UsbEntry) : brings d ≠ some entry := by
  intro hbrings
  cases d with
  | device location =>
    cases hbrings
    exact hbus _ rfl
  | bus n => cases hbrings
  | interface location configuration number => cases hbrings

theorem mem_of_described {entries : List UsbEntry} {register : Register UsbEntry}
    (h : Complete brings needs (isReadable host paths) entries register) {entry : UsbEntry}
    (hentry : entry ∈ register.described) (hbus : ∀ n, entry ≠ .bus n) : entry ∈ entries := by
  rcases (h.described_iff entry).mp hentry with ⟨d, -, hbrings⟩ | ⟨hlisted, -⟩
  · exact absurd hbrings (not_brought hbus d)
  · exact hlisted

theorem foldl_mirrors {entries : List UsbEntry} (hnodup : entries.Nodup)
    (horder : entries.Pairwise (InOrder brings needs)) (hagrees : ∀ entry ∈ entries, entry.Agrees host paths) :
    UsbDiscovery.Mirrors paths ((entries.map (path paths)).foldl (UsbDiscovery.discoverEntry host paths) {})
      (take brings needs (isReadable host paths) entries) := by
  induction entries using List.reverseRecOn with
  | nil => exact .init
  | append_singleton entries entry ih =>
    obtain ⟨hbefore, -, hdisjoint⟩ := List.nodup_append.mp hnodup
    obtain ⟨horder, -, -⟩ := List.pairwise_append.mp horder
    have hnew : entry ∉ entries := fun h => hdisjoint entry h entry (List.mem_singleton_self entry) rfl
    have hcomplete := take_complete brings needs (isReadable host paths) plain hbefore horder
    have hmirrors := ih hbefore horder fun earlier h => hagrees earlier (List.mem_append_left _ h)
    rw [List.map_append, List.foldl_append, List.map_singleton, List.foldl_cons, List.foldl_nil, take,
      List.foldl_append, List.foldl_cons, List.foldl_nil]
    refine hmirrors.discoverEntry entry (fun hbus hentry => hnew (mem_of_described hcomplete hentry hbus)) ?_
    exact hagrees entry (List.mem_append_right _ (List.mem_singleton_self entry))

end UsbEntry

end Lemnos.Linux
