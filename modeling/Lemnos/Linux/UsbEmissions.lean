import Lemnos.Linux.UsbCensus

namespace Lemnos.Linux

open Lemnos.Core Discovery Library.OrderedMap UsbEntry

/-! What each name in the directory adds to what the probe emits for a bus and for a device. -/

theorem parseU16_eq_some {digits : List Char} {n : UInt16} (h : parseU16 digits = some n) :
    ∃ c rest, digits = c :: rest ∧ (c = '+' ∨ c.isDigit = true) := by
  rw [parseU16, Option.map_eq_some_iff] at h
  obtain ⟨value, hvalue, -⟩ := h
  rw [Library.Decimal.parse, String.toList_ofList] at hvalue
  cases digits with
  | nil => cases hvalue
  | cons c rest =>
    refine ⟨c, rest, rfl, ?_⟩
    by_cases hplus : c = '+'
    · exact .inl hplus
    · right
      by_contra hdigit
      have hread : Library.Decimal.readDigits UInt16.size (c :: rest) 0 =
          .error "invalid digit found in string" := by
        rw [Library.Decimal.readDigits, if_neg hdigit]
      split at hvalue
      · cases hvalue
      · cases hvalue
      · rename_i hcons
        exact hplus (List.cons.inj hcons).1
      · rw [hread] at hvalue
        cases hvalue

theorem parseUsbDeviceName_eq_some {name : String} {bus : UInt16} {ports : List UInt8}
    (h : parseUsbDeviceName name = some (bus, ports)) :
    (∃ location : UsbLocation, location.bus = bus ∧ location.ports = ports) ∧
      ∃ c rest, name.toList = c :: rest ∧ (c = '+' ∨ c.isDigit = true) := by
  rw [parseUsbDeviceName] at h
  split at h
  · cases h
  · obtain ⟨⟨front, back⟩, hsplit, h⟩ := Option.bind_eq_some_iff.mp h
    obtain ⟨ports', hports, h⟩ := Option.bind_eq_some_iff.mp h
    obtain ⟨bus', hbus, h⟩ := Option.bind_eq_some_iff.mp h
    cases h
    constructor
    · refine ⟨⟨bus, ports, ?_⟩, rfl, rfl⟩
      rintro rfl
      rcases hwords : back.splitOn '.' with _ | ⟨word, words⟩
      · exact List.splitOn_ne_nil _ _ hwords
      · rw [hwords, List.mapM_cons] at hports
        obtain ⟨port, -, hrest⟩ := Option.bind_eq_some_iff.mp hports
        obtain ⟨ports, -, hcons⟩ := Option.bind_eq_some_iff.mp hrest
        cases hcons
    · obtain ⟨c, rest, hfront, hc⟩ := parseU16_eq_some hbus
      rw [Library.Separated.eq_of_splitOnce hsplit, hfront]
      exact ⟨c, rest ++ '-' :: back, rfl, hc⟩

theorem parseUsbBusName_eq_some {name : String} {n : UInt16} (h : parseUsbBusName name = some n) :
    ∃ rest, name.toList = 'u' :: rest := by
  rw [parseUsbBusName] at h
  obtain ⟨digits, hdrop, -⟩ := Option.bind_eq_some_iff.mp h
  obtain ⟨front, hname, hfront⟩ := List.dropPrefix?_eq_some_iff.mp hdrop
  rw [hname, eq_of_beq hfront]
  exact ⟨_, rfl⟩

theorem not_bus_le_device {bus device : String} {n : UInt16} {location : UInt16 × List UInt8}
    (hbus : parseUsbBusName bus = some n) (hdevice : parseUsbDeviceName device = some location) :
    ¬bus ≤ device := by
  obtain ⟨rest, hu⟩ := parseUsbBusName_eq_some hbus
  obtain ⟨-, c, rest', hc, hfirst⟩ := @parseUsbDeviceName_eq_some device location.1 location.2 hdevice
  have hlt : c < 'u' := by
    have hrange : c.toNat ≤ 57 := by
      rcases hfirst with rfl | hdigit
      · decide
      · have hdigits : 48 ≤ c.toNat ∧ c.toNat ≤ 57 := by
          simpa [Char.isDigit, UInt32.le_iff_toNat_le] using hdigit
        exact hdigits.2
    rw [Char.lt_def, UInt32.lt_iff_toNat_lt]
    exact Nat.lt_of_le_of_lt hrange (by decide)
  rw [not_le, String.lt_iff_toList_lt, hu, hc]
  exact List.Lex.rel hlt

theorem parseUsbBusName_of_device {name : String} {location : UInt16 × List UInt8}
    (h : parseUsbDeviceName name = some location) : parseUsbBusName name = none := by
  cases hbus : parseUsbBusName name with
  | none => rfl
  | some n => exact absurd (le_refl name) (not_bus_le_device hbus h)

variable {host : DiscoveryHost} {paths : LinuxPaths} {state : UsbDiscovery}

theorem buildBusDescriptor_id {n : UInt16} {path : String} {descriptor : DeviceDescriptor}
    (h : buildBusDescriptor host n path = .ok descriptor) : descriptor.id = (bus n).deviceId := by
  have hspec := @buildBusDescriptor_spec host path n
  rw [h] at hspec
  obtain ⟨-, hdescribes⟩ := hspec
  exact hdescribes.id

theorem buildDeviceDescriptor_id {location : UsbLocation} {path : String}
    {result : DeviceDescriptor × UsbVendorProduct}
    (h : buildDeviceDescriptor host paths (bus location.bus).deviceId location.bus location.ports path =
      .ok result) : result.1.id = (device location).deviceId := by
  cases hname : fileName path with
  | none =>
    rw [buildDeviceDescriptor, hname] at h
    cases h
  | some kernelName =>
    have hspec := @buildDeviceDescriptor_spec host _ _ paths location hname
    rw [h] at hspec
    obtain ⟨-, hdescribes⟩ := hspec
    exact hdescribes.id

theorem describeInterface_id (input : UsbInterfaceDescriptorInput) (kernelName : String) (number : UInt8)
    (attributes : UsbInterfaceAttributes) (builder : DeviceDescriptor) :
    (describeInterface input kernelName number attributes builder).id = builder.id :=
  ((((((Details.refl _).withUsbProperties _ _ _ _).withNumber _ _).withNumber _ _).withLink _
    |>.withCapabilities).withInterfaceAttributes _).id

theorem buildInterfaceDescriptor_id {location : UsbLocation} {parentDeviceId : DeviceId}
    {configuration number : UInt8} {vendorProduct : UsbVendorProduct} {path : String}
    {descriptor : DeviceDescriptor}
    (h : buildInterfaceDescriptor host ⟨parentDeviceId, location.bus, location.ports, configuration, number,
      vendorProduct.1, vendorProduct.2, path⟩ = .ok descriptor) :
    ∃ said, descriptor.id = (interface location configuration said).deviceId := by
  rw [buildInterfaceDescriptor] at h
  simp only at h
  cases hname : fileName path with
  | none =>
    simp only [hname] at h
    cases h
  | some kernelName =>
    simp only [hname] at h
    obtain ⟨attributes, -, h⟩ := exists_of_bind_eq_ok h
    obtain ⟨builder, hbuilder, h⟩ := exists_of_bind_eq_ok h
    have hstart := builderForKind_idText
      (.interface location configuration (attributes.interfaceNumber.getD number))
    rw [idText, kind] at hstart
    rw [hstart] at hbuilder
    cases hbuilder
    refine ⟨attributes.interfaceNumber.getD number, ?_⟩
    rw [(DeviceDescriptor.of_build_eq_ok (of_mapError_eq_ok h)).1]
    exact describeInterface_id _ _ _ _ _

def emitted (devices : List DeviceDescriptor) (entry : UsbEntry) : List DeviceDescriptor :=
  devices.filter fun device => device.id = entry.deviceId

theorem emitted_append (devices added : List DeviceDescriptor) (entry : UsbEntry) :
    emitted (devices ++ added) entry = emitted devices entry ++ emitted added entry :=
  List.filter_append _ _

theorem emitted_self {entry : UsbEntry} {descriptor : DeviceDescriptor} (h : descriptor.id = entry.deviceId) :
    emitted [descriptor] entry = [descriptor] :=
  List.filter_cons_of_pos (by simpa using h)

theorem emitted_other {entry other : UsbEntry} {descriptor : DeviceDescriptor}
    (h : descriptor.id = other.deviceId) (hne : other.unconfigured ≠ entry.unconfigured) :
    emitted [descriptor] entry = [] := by
  refine List.filter_cons_of_neg ?_
  rw [decide_eq_true_iff, h]
  exact fun hid => hne (idText_injective (congrArg Identifier.asStr hid))

theorem emitted_concat_other {entry other : UsbEntry} {descriptor : DeviceDescriptor}
    (h : descriptor.id = other.deviceId) (hne : other.unconfigured ≠ entry.unconfigured)
    (devices : List DeviceDescriptor) : emitted (devices ++ [descriptor]) entry = emitted devices entry := by
  rw [emitted_append, emitted_other h hne, List.append_nil]

def offeredForBus (host : DiscoveryHost) (paths : LinuxPaths) (name : String) (n : UInt16) :
    Option DeviceDescriptor :=
  match parseUsbBusName name, parseUsbDeviceName name with
  | some m, _ => if m = n then (buildBusDescriptor host m (joinPath paths.usbDevicesRoot name)).toOption else none
  | none, some (m, _) => if m = n then (buildBusDescriptorFromNumber m).toOption else none
  | none, none => none

def offeredForDevice (host : DiscoveryHost) (paths : LinuxPaths) (name : String) (location : UsbLocation) :
    Option DeviceDescriptor :=
  if parseUsbDeviceName name = some (location.bus, location.ports) then
    (buildDeviceDescriptor host paths (bus location.bus).deviceId location.bus location.ports
      (joinPath paths.usbDevicesRoot name)).toOption.map Prod.fst
  else none

theorem offeredForBus_of_bus {name : String} {n : UInt16} (h : parseUsbBusName name = some n) :
    offeredForBus host paths name = fun m =>
      if n = m then (buildBusDescriptor host n (joinPath paths.usbDevicesRoot name)).toOption else none := by
  funext m
  rw [offeredForBus, h]

theorem offeredForBus_of_device {name : String} {n : UInt16} {ports : List UInt8}
    (h : parseUsbDeviceName name = some (n, ports)) : offeredForBus host paths name = fun m =>
      if n = m then (buildBusDescriptorFromNumber n).toOption else none := by
  funext m
  rw [offeredForBus, parseUsbBusName_of_device h, h]

theorem offeredForBus_of_neither {name : String} (hbus : parseUsbBusName name = none)
    (hdevice : parseUsbDeviceName name = none) : offeredForBus host paths name = fun _ => none := by
  funext m
  rw [offeredForBus, hbus, hdevice]

theorem offeredForDevice_of_not {name : String} (h : parseUsbDeviceName name = none) :
    offeredForDevice host paths name = fun _ => none := by
  funext location
  rw [offeredForDevice, h, if_neg fun heq => by cases heq]

namespace UsbDiscovery

def KnowsBuses (state : UsbDiscovery) : Prop :=
  ∀ n id, state.busIds[n]? = some id → id = (bus n).deviceId

/-- What is added to what is emitted for each bus and for each device. A bus that has a descriptor already gets
no other one. -/
structure Emits (forBus : UInt16 → Option DeviceDescriptor)
    (forDevice : UsbLocation → Option DeviceDescriptor) (state state' : UsbDiscovery) : Prop where
  knows : state.KnowsBuses → state'.KnowsBuses
  mem_busIds : ∀ n, n ∈ state'.busIds ↔ n ∈ state.busIds ∨ (forBus n).isSome = true
  buses : ∀ n, emitted state'.discovery.devices (bus n) = emitted state.discovery.devices (bus n) ++
    if n ∈ state.busIds then [] else (forBus n).toList
  locations : ∀ location, emitted state'.discovery.devices (device location) =
    emitted state.discovery.devices (device location) ++ (forDevice location).toList

section Emits

variable {forBus : UInt16 → Option DeviceDescriptor} {forDevice : UsbLocation → Option DeviceDescriptor}
  {between : UsbDiscovery} {descriptor : DeviceDescriptor}

theorem emits_refl (hbus : ∀ n, n ∉ state.busIds → forBus n = none) :
    Emits forBus (fun _ => none) state state where
  knows h := h
  mem_busIds n := by
    by_cases hn : n ∈ state.busIds
    · exact iff_of_true hn (.inl hn)
    · simp [hbus n hn]
  buses n := by
    split
    · rw [List.append_nil]
    · rename_i hn
      rw [hbus n hn, Option.toList_none, List.append_nil]
  locations location := (List.append_nil _).symm

theorem Emits.note (h : Emits forBus forDevice state between) (text : String) :
    Emits forBus forDevice state (between.note text) :=
  ⟨h.knows, h.mem_busIds, h.buses, h.locations⟩

theorem KnowsBuses.emitBus {n : UInt16} (h : state.KnowsBuses) (hid : descriptor.id = (bus n).deviceId) :
    (state.emitBus n descriptor).KnowsBuses := by
  intro m id hm
  have hinsert := (BTreeMap.getElem?_insert_eq state.busIds n descriptor.id m).symm.trans hm
  split at hinsert
  · rename_i hmn
    cases hinsert
    rw [hid, hmn]
  · exact h m id hinsert

theorem emits_emitBus {n : UInt16} (hnew : n ∉ state.busIds) (hid : descriptor.id = (bus n).deviceId) :
    Emits (fun m => if n = m then some descriptor else none) (fun _ => none) state
      (state.emitBus n descriptor) where
  knows h := h.emitBus hid
  mem_busIds m := by
    refine (BTreeMap.mem_insert_iff state.busIds n descriptor.id m).trans ?_
    by_cases hnm : n = m
    · simp [hnm]
    · simp [hnm, Ne.symm hnm]
  buses m := by
    refine (emitted_append state.discovery.devices [descriptor] (bus m)).trans ?_
    by_cases hnm : n = m
    · subst hnm
      rw [if_neg hnew, if_pos rfl, emitted_self hid, Option.toList_some]
    · have hother : emitted [descriptor] (bus m) = [] := by
        apply emitted_other hid
        intro heq
        cases heq
        exact hnm rfl
      rw [if_neg hnm, hother, Option.toList_none, ite_self]
  locations location := by
    refine (emitted_append state.discovery.devices [descriptor] (device location)).trans ?_
    rw [emitted_other hid (fun heq => by cases heq), Option.toList_none]

theorem Emits.emitDevice {location : UsbLocation} (h : Emits forBus (fun _ => none) state between)
    (hid : descriptor.id = (device location).deviceId) (key : String) (vendorProduct : UsbVendorProduct) :
    Emits forBus (fun other => if location = other then some descriptor else none) state
      (between.emitDevice key descriptor vendorProduct) where
  knows := h.knows
  mem_busIds := h.mem_busIds
  buses n := (emitted_concat_other hid (fun heq => by cases heq) _).trans (h.buses n)
  locations other := by
    refine (emitted_append between.discovery.devices [descriptor] (device other)).trans ?_
    rw [h.locations, Option.toList_none, List.append_nil]
    by_cases hother : location = other
    · subst hother
      rw [if_pos rfl, emitted_self hid, Option.toList_some]
    · have hnone : emitted [descriptor] (device other) = [] := by
        apply emitted_other hid
        intro heq
        cases heq
        exact hother rfl
      rw [if_neg hother, hnone, Option.toList_none]

theorem Emits.emitInterface {location : UsbLocation} {configuration number : UInt8}
    (h : Emits forBus forDevice state between)
    (hid : descriptor.id = (interface location configuration number).deviceId) :
    Emits forBus forDevice state (between.emit descriptor) where
  knows := h.knows
  mem_busIds := h.mem_busIds
  buses n := (emitted_concat_other hid (fun heq => by cases heq) _).trans (h.buses n)
  locations other := (emitted_concat_other hid (fun heq => by cases heq) _).trans (h.locations other)

end Emits

variable {name : String}

theorem emits_discoverBus {n : UInt16} (hname : parseUsbBusName name = some n) :
    Emits (offeredForBus host paths name) (offeredForDevice host paths name) state
      (discoverBus host n (joinPath paths.usbDevicesRoot name) state) := by
  have hdevice : parseUsbDeviceName name = none := by
    cases hdevice : parseUsbDeviceName name with
    | none => rfl
    | some location =>
      rw [parseUsbBusName_of_device hdevice] at hname
      cases hname
  rw [discoverBus, offeredForBus_of_bus hname, offeredForDevice_of_not hdevice]
  split
  · rename_i hknown
    apply emits_refl
    intro m hm
    rw [if_neg]
    rintro rfl
    exact hm hknown
  · rename_i hnew
    cases hbuild : buildBusDescriptor host n (joinPath paths.usbDevicesRoot name) with
    | ok descriptor => exact emits_emitBus hnew (buildBusDescriptor_id hbuild)
    | error text => exact (emits_refl fun m _ => ite_self _).note text

theorem emits_ensureBus (hknows : state.KnowsBuses) (n : UInt16) : ∃ between,
    ensureBus n state = .ok ((bus n).deviceId, between) ∧
      Emits (fun m => if n = m then (buildBusDescriptorFromNumber n).toOption else none) (fun _ => none) state
        between := by
  rw [ensureBus]
  cases hget : state.busIds[n]? with
  | some id =>
    refine ⟨state, ?_, ?_⟩
    · rw [hknows n id hget]
    · apply emits_refl
      intro m hm
      rw [if_neg]
      rintro rfl
      exact hm ((BTreeMap.mem_iff_exists _ _).mpr ⟨id, hget⟩)
  | none =>
    obtain ⟨descriptor, hbuild, hdescribes⟩ := buildBusDescriptorFromNumber_spec n
    refine ⟨state.emitBus n descriptor, ?_, ?_⟩
    · rw [hbuild, ← hdescribes.id]
      rfl
    · rw [hbuild]
      exact emits_emitBus ((BTreeMap.not_mem_iff _ _).mpr hget) hdescribes.id

theorem emits_discoverDevice {location : UsbLocation} (hknows : state.KnowsBuses)
    (hname : parseUsbDeviceName name = some (location.bus, location.ports)) :
    Emits (offeredForBus host paths name) (offeredForDevice host paths name) state
      (discoverDevice host paths location.bus location.ports (joinPath paths.usbDevicesRoot name) state) := by
  obtain ⟨between, hensure, hbetween⟩ := emits_ensureBus hknows location.bus
  have hoffered : offeredForDevice host paths name = fun other => if location = other then
      (buildDeviceDescriptor host paths (bus location.bus).deviceId location.bus location.ports
        (joinPath paths.usbDevicesRoot name)).toOption.map Prod.fst else none := by
    funext other
    rw [offeredForDevice, hname]
    by_cases hother : location = other
    · rw [if_pos hother, hother, if_pos rfl]
    · rw [if_neg hother, if_neg]
      intro heq
      obtain ⟨hbus, hports⟩ := Prod.mk.inj (Option.some.inj heq)
      cases location
      cases other
      cases hbus
      cases hports
      exact hother rfl
  rw [discoverDevice, hensure, offeredForBus_of_device hname, hoffered]
  simp only
  cases hbuild : buildDeviceDescriptor host paths (bus location.bus).deviceId location.bus location.ports
      (joinPath paths.usbDevicesRoot name) with
  | ok result => exact hbetween.emitDevice (buildDeviceDescriptor_id hbuild) _ _
  | error text =>
    have hnone : (fun other => if location = other then
        ((Except.error text : Except String (DeviceDescriptor × UsbVendorProduct)).toOption.map Prod.fst)
        else none) = fun _ => none := by
      funext other
      exact ite_self _
    rw [hnone]
    exact hbetween.note text

theorem emits_discoverInterface (location : UsbLocation) (configuration number : UInt8) (path : String)
    {forBus : UInt16 → Option DeviceDescriptor} {forDevice : UsbLocation → Option DeviceDescriptor}
    (h : Emits forBus forDevice state state) : Emits forBus forDevice state
      (discoverInterface host name location.bus location.ports configuration number path state) := by
  rw [discoverInterface]
  simp only
  cases state.deviceIds[usbDeviceKey location.bus location.ports]? with
  | none => exact h.note _
  | some parentDeviceId =>
    simp only
    generalize state.deviceVendorProducts[usbDeviceKey location.bus location.ports]?.getD (none, none) =
      vendorProduct
    cases hbuild : buildInterfaceDescriptor host ⟨parentDeviceId, location.bus, location.ports, configuration,
        number, vendorProduct.1, vendorProduct.2, path⟩ with
    | ok descriptor =>
      obtain ⟨said, hid⟩ := buildInterfaceDescriptor_id hbuild
      exact h.emitInterface hid
    | error text => exact h.note text

theorem emits_discoverEntry (hknows : state.KnowsBuses) (hname : IsFileName name) :
    Emits (offeredForBus host paths name) (offeredForDevice host paths name) state
      (discoverEntry host paths state (joinPath paths.usbDevicesRoot name)) := by
  rw [discoverEntry, fileName_joinPath _ hname]
  simp only
  cases hbus : parseUsbBusName name with
  | some n => exact emits_discoverBus hbus
  | none =>
    simp only
    cases hdevice : parseUsbDeviceName name with
    | some parsed =>
      obtain ⟨n, ports⟩ := parsed
      obtain ⟨⟨location, rfl, rfl⟩, -⟩ := parseUsbDeviceName_eq_some hdevice
      exact emits_discoverDevice hknows hdevice
    | none =>
      have hnothing : Emits (offeredForBus host paths name) (offeredForDevice host paths name) state state := by
        rw [offeredForBus_of_neither hbus hdevice, offeredForDevice_of_not hdevice]
        exact emits_refl fun _ _ => rfl
      simp only
      cases hinterface : parseUsbInterfaceName name with
      | some parsed =>
        obtain ⟨n, ports, configuration, number⟩ := parsed
        rw [parseUsbInterfaceName] at hinterface
        obtain ⟨⟨front, suffix⟩, -, hinterface⟩ := Option.bind_eq_some_iff.mp hinterface
        obtain ⟨⟨n', ports'⟩, hlocation, hinterface⟩ := Option.bind_eq_some_iff.mp hinterface
        obtain ⟨⟨first, second⟩, -, hinterface⟩ := Option.bind_eq_some_iff.mp hinterface
        obtain ⟨configuration', -, hinterface⟩ := Option.bind_eq_some_iff.mp hinterface
        obtain ⟨number', -, hinterface⟩ := Option.bind_eq_some_iff.mp hinterface
        cases hinterface
        obtain ⟨⟨location, rfl, rfl⟩, -⟩ := parseUsbDeviceName_eq_some hlocation
        exact emits_discoverInterface location configuration number _ hnothing
      | none => exact hnothing

/-- A bus gets the first description that is offered for it, a device all of them. -/
theorem emitted_foldl (names : List String) (hnames : ∀ name ∈ names, IsFileName name)
    (hknows : state.KnowsBuses) :
    (∀ n, emitted ((names.map (joinPath paths.usbDevicesRoot)).foldl (discoverEntry host paths)
        state).discovery.devices (bus n) = emitted state.discovery.devices (bus n) ++
      if n ∈ state.busIds then [] else (names.findSome? fun name => offeredForBus host paths name n).toList) ∧
    ∀ location, emitted ((names.map (joinPath paths.usbDevicesRoot)).foldl (discoverEntry host paths)
        state).discovery.devices (device location) = emitted state.discovery.devices (device location) ++
      names.filterMap fun name => offeredForDevice host paths name location := by
  induction names generalizing state with
  | nil =>
    constructor
    · intro n
      rw [List.findSome?_nil, Option.toList_none, ite_self, List.append_nil]
      rfl
    · intro location
      rw [List.filterMap_nil, List.append_nil]
      rfl
  | cons name names ih =>
    have hstep := @emits_discoverEntry host paths state name hknows (hnames name List.mem_cons_self)
    obtain ⟨hbuses, hlocations⟩ := ih (fun later h => hnames later (List.mem_cons_of_mem name h))
      (hstep.knows hknows)
    rw [List.map_cons, List.foldl_cons]
    constructor
    · intro n
      rw [hbuses, hstep.buses, List.append_assoc, List.findSome?_cons]
      congr 1
      by_cases hknown : n ∈ state.busIds
      · rw [if_pos hknown, if_pos hknown, if_pos ((hstep.mem_busIds n).mpr (.inl hknown)), List.append_nil]
      · rw [if_neg hknown, if_neg hknown, if_congr (hstep.mem_busIds n) rfl rfl]
        cases offeredForBus host paths name n with
        | some descriptor => simp
        | none => simp [hknown]
    · intro location
      rw [hlocations, hstep.locations, List.append_assoc, List.filterMap_cons]
      cases offeredForDevice host paths name location with
      | some descriptor => rfl
      | none => rfl

end UsbDiscovery

end Lemnos.Linux
