import Lemnos.Mock.Bench
import Lemnos.Mock.Made

/-! What holds of everything that the mock hardware lists, whatever was put into it and taken out of it. -/

namespace Lemnos.Mock

open Lemnos.Core Bus DriverSdk Drivers Linux Library.Frames Library.OrderedMap MockHardware

def Device.descriptors : (interface : InterfaceKind) → Device interface → List DeviceDescriptor
  | .gpio, line => [MockGpioLineState.descriptor line]
  | .pwm, channel => [MockPwmChannelState.descriptor channel]
  | .i2c, device => [MockI2cDeviceState.descriptor device]
  | .spi, device => [MockSpiDeviceState.descriptor device]
  | .uart, port => [MockUartPortState.descriptor port]
  | .usb, device => MockUsbDeviceState.descriptors device

def shown (interface : InterfaceKind) (key : DeviceId) (hardware : MockHardwareState) :
    Option (List DeviceDescriptor) :=
  ((deviceTable interface).at key hardware).map (Device.descriptors interface)

/-- The ids of the interfaces of a USB device are made of its place, as its own is. -/
def Belongs : InterfaceKind → DeviceId → DeviceId → Prop
  | .usb, key, id => ∃ bus ports, key = (MockUsbEntry.device bus ports).deviceId ∧
      (id = key ∨ ∃ number, id = (MockUsbEntry.interface bus ports number).deviceId)
  | _, key, id => id = key

theorem Belongs.unique {interface : InterfaceKind} {key key' id : DeviceId} (h : Belongs interface key id)
    (h' : Belongs interface key' id) : key = key' := by
  cases interface with
  | usb =>
    obtain ⟨bus, ports, rfl, hid⟩ := h
    obtain ⟨bus', ports', rfl, hid'⟩ := h'
    rcases hid with rfl | ⟨number, rfl⟩
    · rcases hid' with hid' | ⟨number', hid'⟩
      · exact hid'
      · cases MockUsbEntry.deviceId_injective hid'
    · rcases hid' with hid' | ⟨number', hid'⟩
      · cases MockUsbEntry.deviceId_injective hid'
      · cases MockUsbEntry.deviceId_injective hid'
        rfl
  | _ => exact h.symm.trans h'

structure Stocked (interface : InterfaceKind) (key : DeviceId) (descriptors : List DeviceDescriptor) : Prop where
  first : (descriptors.map DeviceDescriptor.id).head? = some key
  made : ∀ descriptor ∈ descriptors, Made interface descriptor
  belongs : ∀ descriptor ∈ descriptors, Belongs interface key descriptor.id
  ids_nodup : (descriptors.map DeviceDescriptor.id).Nodup

theorem stocked_single {interface : InterfaceKind} (h : interface ≠ .usb) {descriptor : DeviceDescriptor}
    (hmade : Made interface descriptor) : Stocked interface descriptor.id [descriptor] where
  first := rfl
  made := List.forall_mem_singleton.mpr hmade
  belongs := by
    intro listed hlisted
    obtain rfl := List.mem_singleton.mp hlisted
    cases interface <;> first | rfl | exact absurd rfl h
  ids_nodup := List.nodup_singleton _

section Usb

theorem MockUsbDevice.Built.numbers_nodup {device : MockUsbDevice} (h : MockUsbDevice.Built device) :
    (device.interfaces.map MockUsbInterfaceConfig.interfaceNumber).Nodup := by
  induction h with
  | new bus ports => exact List.nodup_nil
  | @withInterfaceDetails device h interface ih =>
    apply ((List.perm_insertionSort _ _).map _).nodup_iff.mpr
    rw [List.map_append, List.nodup_append]
    refine ⟨ih.sublist (List.filter_sublist.map _), List.nodup_singleton _, ?_⟩
    intro number hnumber other hnew heq
    obtain ⟨kept, hkept, rfl⟩ := List.mem_map.mp hnumber
    obtain rfl := List.mem_singleton.mp hnew
    exact absurd heq (of_decide_eq_true (List.mem_filter.mp hkept).2)
  | _ => assumption

theorem buildInterfaceDescriptor_eq_described {descriptor : DeviceDescriptor} {bus : UInt16} {ports : List UInt8}
    (h : LocatedAt descriptor bus ports) (interface : MockUsbInterfaceDescriptor) :
    buildInterfaceDescriptor descriptor interface =
      describedDevice (MockUsbEntry.interface bus ports interface.interfaceNumber).idText .usbInterface
        (describeInterface descriptor.id bus ports interface) := by
  rw [buildInterfaceDescriptor, h.usbBus_eq, h.usbPorts_eq]
  rfl

theorem whenRead_same {α γ : Type} {view : DeviceDescriptor → γ} {f : α → DeviceDescriptor → DeviceDescriptor}
    (h : ∀ a builder, view (f a builder) = view builder) (value : Option α) (builder : DeviceDescriptor) :
    view (whenRead value f builder) = view builder := by
  cases value with
  | none => rfl
  | some a => exact h a builder

def bindingView (descriptor : DeviceDescriptor) : DeviceId × DeviceKind × Option String :=
  (descriptor.id, descriptor.kind, descriptor.matchHints.driverHint)

theorem bindingView_describeInterface (parent : DeviceId) (bus : UInt16) (ports : List UInt8)
    (interface : MockUsbInterfaceDescriptor) (builder : DeviceDescriptor) :
    bindingView (describeInterface parent bus ports interface builder) =
      (builder.id, builder.kind, some "lemnos.usb.generic") := by
  have hnumber : ∀ (key : String) (value : Option UInt8) (builder : DeviceDescriptor),
      bindingView (whenRead value (fun number => withNumber key number.toUInt64) builder) = bindingView builder :=
    fun key value builder => @whenRead_same UInt8 _ bindingView
      (fun number => withNumber key number.toUInt64) (fun _ _ => rfl) value builder
  rw [describeInterface, hnumber, hnumber, hnumber, hnumber]
  rfl

theorem made_interface {descriptor built : DeviceDescriptor} {bus : UInt16} {ports : List UInt8}
    (h : LocatedAt descriptor bus ports) {interface : MockUsbInterfaceDescriptor}
    (hbuilt : buildInterfaceDescriptor descriptor interface = some built) : Made .usb built := by
  rw [buildInterfaceDescriptor_eq_described h] at hbuilt
  refine made_described hbuilt (idPrefix_usb _) (by decide) fun builder => ?_
  have hview := bindingView_describeInterface descriptor.id bus ports interface builder
  exact ⟨congrArg Prod.fst hview, congrArg (fun view => view.2.1) hview, congrArg (fun view => view.2.2) hview⟩

theorem exists_of_mapM {α β : Type} {f : α → Option β} {as : List α} {bs : List β} (h : as.mapM f = some bs) :
    ∀ b ∈ bs, ∃ a ∈ as, f a = some b := by
  induction as generalizing bs with
  | nil =>
    cases h
    exact fun b hb => absurd hb List.not_mem_nil
  | cons a as ih =>
    rw [List.mapM_cons] at h
    obtain ⟨first, hfirst, hlater⟩ := Option.bind_eq_some_iff.mp h
    obtain ⟨rest, hrest, heq⟩ := Option.bind_eq_some_iff.mp hlater
    cases heq
    refine List.forall_mem_cons.mpr ⟨⟨a, List.mem_cons_self, hfirst⟩, ?_⟩
    intro b hb
    obtain ⟨a', ha', hb⟩ := ih hrest b hb
    exact ⟨a', List.mem_cons_of_mem a ha', hb⟩

theorem stocked_usb {value : MockUsbDevice} (hbuilt : MockUsbDevice.Built value) {device : MockUsbDeviceState}
    (hof : MockUsbDeviceState.of value = some device) :
    Stocked .usb device.deviceDescriptor.id (Device.descriptors .usb device) := by
  obtain ⟨bus, ports, hlocated⟩ := value.located
  obtain ⟨vendorId, productId, haddress⟩ := hlocated.address
  obtain ⟨interfaces, hinterfaces, hids⟩ :=
    MockUsbDeviceState.mapM_buildInterfaceDescriptor hlocated { vendorId, productId } value.interfaces
  have hmade : ∀ descriptor ∈ interfaces, Made .usb descriptor := by
    intro descriptor hin
    obtain ⟨interface, -, hbuilt⟩ := exists_of_mapM hinterfaces descriptor hin
    exact made_interface hlocated hbuilt
  have hdevice : device.deviceDescriptor = value.deviceDescriptor ∧ device.interfaceDescriptors = interfaces := by
    simp only [MockUsbDeviceState.of, haddress, hinterfaces, Option.bind_eq_bind, Option.bind_some] at hof
    cases hof
    exact ⟨rfl, rfl⟩
  have hdescriptors : Device.descriptors .usb device = value.deviceDescriptor :: interfaces := by
    rw [← hdevice.1, ← hdevice.2]
    rfl
  have hinterface : ∀ id ∈ interfaces.map DeviceDescriptor.id, ∃ number,
      id = (MockUsbEntry.interface bus ports number).deviceId := by
    intro id hid
    rw [hids] at hid
    obtain ⟨interface, -, rfl⟩ := List.mem_map.mp hid
    exact ⟨_, rfl⟩
  rw [hdescriptors, hdevice.1]
  refine ⟨rfl, List.forall_mem_cons.mpr ⟨hbuilt.made, hmade⟩, ?_, ?_⟩
  · refine List.forall_mem_cons.mpr ⟨⟨bus, ports, hlocated.id, .inl rfl⟩, ?_⟩
    intro descriptor hin
    exact ⟨bus, ports, hlocated.id, .inr (hinterface _ (List.mem_map_of_mem hin))⟩
  · rw [List.map_cons, List.nodup_cons]
    constructor
    · intro hown
      obtain ⟨number, heq⟩ := hinterface _ hown
      rw [hlocated.id] at heq
      cases MockUsbEntry.deviceId_injective heq
    · have hnumbers : (value.interfaces.map fun interface =>
          (MockUsbEntry.interface bus ports interface.interfaceNumber).deviceId) =
          (value.interfaces.map MockUsbInterfaceConfig.interfaceNumber).map fun number =>
            (MockUsbEntry.interface bus ports number).deviceId := by
        rw [List.map_map]
        rfl
      rw [hids, hnumbers]
      refine hbuilt.numbers_nodup.map ?_
      intro number number' heq
      cases MockUsbEntry.deviceId_injective heq
      rfl

end Usb

structure Inventoried (hardware : MockHardwareState) : Prop where
  stocked : ∀ interface key descriptors, shown interface key hardware = some descriptors →
    Stocked interface key descriptors
  owned : ∀ key descriptors, shown .usb key hardware = some descriptors → ∀ descriptor ∈ descriptors,
    hardware.usbDescriptorOwners[descriptor.id]? = some key

section Tables

variable {hardware hardware' : MockHardwareState} {interface other : InterfaceKind}

theorem shown_store_own (entries : BTreeMap DeviceId (Device interface)) (key : DeviceId) :
    shown interface key ((deviceTable interface).store entries hardware) =
      (entries[key]?).map (Device.descriptors interface) := by
  rw [shown, Table.at, (deviceTable_lawful interface).entries_store]

theorem shown_store_other (h : other ≠ interface) (entries : BTreeMap DeviceId (Device interface)) (key : DeviceId) :
    shown other key ((deviceTable interface).store entries hardware) = shown other key hardware := by
  rw [shown, Table.at, deviceTable_apart (Ne.symm h)]
  rfl

theorem owners_store (entries : BTreeMap DeviceId (Device interface)) :
    ((deviceTable interface).store entries hardware).usbDescriptorOwners = hardware.usbDescriptorOwners := by
  cases interface <;> rfl

theorem shown_faults (key : DeviceId) (faults : MockFaultRegistry) :
    shown interface key { hardware with faults } = shown interface key hardware := by
  rw [shown, Table.at, (deviceTable_lawful interface).entries_faults]
  rfl

theorem Inventoried.shrink (h : Inventoried hardware)
    (hshown : ∀ interface key descriptors, shown interface key hardware' = some descriptors →
      shown interface key hardware = some descriptors)
    (howners : ∀ key descriptors, shown .usb key hardware' = some descriptors → ∀ descriptor ∈ descriptors,
      hardware'.usbDescriptorOwners[descriptor.id]? = hardware.usbDescriptorOwners[descriptor.id]?) :
    Inventoried hardware' where
  stocked interface key descriptors hlisted := h.stocked interface key descriptors (hshown _ _ _ hlisted)
  owned key descriptors hlisted descriptor hin := by
    rw [howners key descriptors hlisted descriptor hin]
    exact h.owned key descriptors (hshown _ _ _ hlisted) descriptor hin

theorem shown_erase {removed key : DeviceId} {descriptors : List DeviceDescriptor}
    (h : shown other key ((deviceTable interface).store (((deviceTable interface).entries hardware).erase removed)
      hardware) = some descriptors) : shown other key hardware = some descriptors := by
  by_cases hother : other = interface
  · subst hother
    rw [shown_store_own] at h
    obtain ⟨device, hdevice, rfl⟩ := Option.map_eq_some_iff.mp h
    have hbefore := ((BTreeMap.getElem?_erase_eq_some _).mp hdevice).2
    rw [shown, Table.at, hbefore, Option.map_some]
  · rwa [shown_store_other hother] at h

theorem Inventoried.remove (h : Inventoried hardware) {id : DeviceId}
    (hremove : (deviceTable interface).remove id hardware = some hardware') : Inventoried hardware' := by
  obtain ⟨-, heq⟩ := Option.ite_none_right_eq_some.mp hremove
  cases heq
  refine h.shrink ?_ ?_
  · intro other key descriptors hlisted
    rw [shown_faults] at hlisted
    exact shown_erase hlisted
  · intro key descriptors hlisted descriptor hin
    change ((deviceTable interface).store _ hardware).usbDescriptorOwners[descriptor.id]? = _
    rw [owners_store]

theorem Inventoried.attach (h : Inventoried hardware) (hinterface : interface ≠ .usb)
    {descriptor : Device interface → DeviceDescriptor} {device : Device interface}
    (hdescriptors : Device.descriptors interface device = [descriptor device])
    (hmade : Made interface (descriptor device)) :
    Inventoried ((deviceTable interface).attach descriptor device hardware).2 where
  stocked other key descriptors hlisted := by
    rw [Table.attach] at hlisted
    by_cases hother : other = interface
    · subst hother
      rw [shown_store_own, BTreeMap.getElem?_insert_eq] at hlisted
      by_cases hkey : key = (descriptor device).id
      · rw [if_pos hkey, Option.map_some, hdescriptors] at hlisted
        cases hlisted
        rw [hkey]
        exact stocked_single hinterface hmade
      · rw [if_neg hkey] at hlisted
        exact h.stocked other key descriptors hlisted
    · rw [shown_store_other hother] at hlisted
      exact h.stocked other key descriptors hlisted
  owned key descriptors hlisted listed hin := by
    rw [Table.attach] at hlisted ⊢
    rw [shown_store_other (Ne.symm hinterface)] at hlisted
    rw [owners_store]
    exact h.owned key descriptors hlisted listed hin

theorem shown_usb (key : DeviceId) :
    shown .usb key hardware = (hardware.usbDevices[key]?).map MockUsbDeviceState.descriptors := rfl

theorem not_mem_ids {owner key : DeviceId} {descriptors : List DeviceDescriptor} {device : MockUsbDeviceState}
    (hdevice : Stocked .usb owner device.descriptors) (h : Stocked .usb key descriptors) (hne : key ≠ owner)
    {descriptor : DeviceDescriptor} (hin : descriptor ∈ descriptors) : descriptor.id ∉ device.ids := by
  intro hshared
  obtain ⟨own, hown, heq⟩ := List.mem_map.mp hshared
  have hbelongs := hdevice.belongs own hown
  rw [heq] at hbelongs
  exact hne ((h.belongs descriptor hin).unique hbelongs)

theorem Inventoried.removeUsb (h : Inventoried hardware) {id : DeviceId}
    (hremove : removeUsbDevice id hardware = some hardware') : Inventoried hardware' := by
  obtain ⟨owner, -, hremove⟩ := Option.bind_eq_some_iff.mp hremove
  obtain ⟨device, hdevice, heq⟩ := Option.bind_eq_some_iff.mp hremove
  cases heq
  have hstocked : Stocked .usb owner device.descriptors := by
    apply h.stocked
    rw [shown_usb, hdevice, Option.map_some]
  refine h.shrink ?_ ?_
  · intro other key descriptors hlisted
    by_cases hother : other = .usb
    · subst hother
      exact @shown_erase hardware .usb .usb owner key descriptors hlisted
    · cases other <;> first | exact hlisted | exact absurd rfl hother
  · intro key descriptors hlisted descriptor hin
    obtain ⟨other, hother, rfl⟩ := Option.map_eq_some_iff.mp hlisted
    obtain ⟨hne, hother⟩ := (BTreeMap.getElem?_erase_eq_some _).mp hother
    have hlisted : Stocked .usb key other.descriptors := by
      apply h.stocked
      rw [shown_usb, hother]
      rfl
    have hkept := not_mem_ids hstocked hlisted hne hin
    change (BTreeMap.eraseAll hardware.usbDescriptorOwners device.ids)[descriptor.id]? = _
    rw [BTreeMap.eraseAll_getElem?, if_neg hkept]

theorem Inventoried.attachUsb (h : Inventoried hardware) {value : MockUsbDevice} (hbuilt : MockUsbDevice.Built value)
    {id : DeviceId} (hattach : attachUsbDevice value hardware = some (id, hardware')) : Inventoried hardware' := by
  obtain ⟨device, hof, rfl, rfl⟩ := attachUsbDevice_cases hattach
  have hstocked := stocked_usb hbuilt hof
  have hshown : ∀ key, shown .usb key { hardware with
      usbDescriptorOwners := hardware.usbDescriptorOwners.own device.deviceDescriptor.id device.ids
      usbDevices := hardware.usbDevices.insert device.deviceDescriptor.id device } =
      if key = device.deviceDescriptor.id then some device.descriptors else shown .usb key hardware := by
    intro key
    rw [shown_usb, BTreeMap.getElem?_insert_eq]
    split <;> rfl
  constructor
  · intro other key descriptors hlisted
    by_cases hother : other = .usb
    · subst hother
      rw [hshown] at hlisted
      by_cases hkey : key = device.deviceDescriptor.id
      · rw [if_pos hkey] at hlisted
        cases hlisted
        rw [hkey]
        exact hstocked
      · rw [if_neg hkey] at hlisted
        exact h.stocked .usb key descriptors hlisted
    · apply h.stocked other key descriptors
      cases other <;> first | exact hlisted | exact absurd rfl hother
  · intro key descriptors hlisted descriptor hin
    rw [hshown] at hlisted
    change (hardware.usbDescriptorOwners.own device.deviceDescriptor.id device.ids)[descriptor.id]? = _
    rw [BTreeMap.own_getElem?]
    by_cases hkey : key = device.deviceDescriptor.id
    · rw [if_pos hkey] at hlisted
      cases hlisted
      have hid : descriptor.id ∈ device.ids := List.mem_map_of_mem hin
      rw [if_pos hid, hkey]
    · rw [if_neg hkey] at hlisted
      rw [if_neg (not_mem_ids hstocked (h.stocked .usb key descriptors hlisted) hkey hin)]
      exact h.owned key descriptors hlisted descriptor hin

theorem Inventoried.removeDevice (h : Inventoried hardware) (id : DeviceId) :
    Inventoried (removeDevice id hardware).2 := by
  rw [MockHardware.removeDevice]
  cases hremoval : removal id hardware with
  | none => exact h
  | some removed =>
    simp only [removal, Option.orElse_eq_orElse, Option.orElse_eq_or, Option.or_eq_some_iff] at hremoval
    rcases hremoval with hgpio | ⟨-, hpwm | ⟨-, hi2c | ⟨-, hspi | ⟨-, huart | ⟨-, husb⟩⟩⟩⟩⟩
    · exact @Inventoried.remove hardware removed .gpio h id hgpio
    · exact @Inventoried.remove hardware removed .pwm h id hpwm
    · exact @Inventoried.remove hardware removed .i2c h id hi2c
    · exact @Inventoried.remove hardware removed .spi h id hspi
    · exact @Inventoried.remove hardware removed .uart h id huart
    · exact h.removeUsb husb

end Tables

def InventoryCall.Built : InventoryCall → Prop
  | .attachGpioLine line => MockGpioLine.Built line
  | .attachPwmChannel channel => MockPwmChannel.Built channel
  | .attachI2cDevice device => MockI2cDevice.Built device
  | .attachSpiDevice device => MockSpiDevice.Built device
  | .attachUartPort port => MockUartPort.Built port
  | .attachUsbDevice device => MockUsbDevice.Built device
  | .removeDevice _ => True

theorem Inventoried.exec {hardware hardware' : MockHardwareState} {call : InventoryCall} (h : Inventoried hardware)
    (hbuilt : call.Built) (hexec : call.exec hardware = some hardware') : Inventoried hardware' := by
  cases call with
  | attachGpioLine line =>
    cases hexec
    exact @Inventoried.attach hardware .gpio h (by decide) _ line rfl (MockGpioLine.Built.made hbuilt)
  | attachPwmChannel channel =>
    cases hexec
    exact @Inventoried.attach hardware .pwm h (by decide) _ channel rfl (MockPwmChannel.Built.made hbuilt)
  | attachI2cDevice device =>
    cases hexec
    exact @Inventoried.attach hardware .i2c h (by decide) _ device rfl (MockI2cDevice.Built.made hbuilt)
  | attachSpiDevice device =>
    cases hexec
    exact @Inventoried.attach hardware .spi h (by decide) _ device rfl (MockSpiDevice.Built.made hbuilt)
  | attachUartPort port =>
    cases hexec
    exact @Inventoried.attach hardware .uart h (by decide) _ port rfl (MockUartPort.Built.made hbuilt)
  | attachUsbDevice device =>
    obtain ⟨attached, hattach, rfl⟩ := Option.map_eq_some_iff.mp hexec
    exact h.attachUsb hbuilt hattach
  | removeDevice deviceId =>
    cases hexec
    exact h.removeDevice deviceId

structure MockHardwareBuilder.Built (builder : MockHardwareBuilder) : Prop where
  gpioLines : ∀ line ∈ builder.gpioLines, MockGpioLine.Built line
  pwmChannels : ∀ channel ∈ builder.pwmChannels, MockPwmChannel.Built channel
  i2cDevices : ∀ device ∈ builder.i2cDevices, MockI2cDevice.Built device
  spiDevices : ∀ device ∈ builder.spiDevices, MockSpiDevice.Built device
  uartPorts : ∀ port ∈ builder.uartPorts, MockUartPort.Built port
  usbDevices : ∀ device ∈ builder.usbDevices, MockUsbDevice.Built device

theorem mem_of_buildStateMap {σ : Type} {descriptor : σ → DeviceDescriptor} {items : List σ} {key : DeviceId}
    {state : σ} (h : (buildStateMap descriptor items)[key]? = some state) :
    state ∈ items ∧ key = (descriptor state).id := by
  obtain ⟨item, hitem, heq⟩ := List.mem_map.mp (BTreeMap.mem_of_collect_getElem? h)
  cases heq
  exact ⟨hitem, rfl⟩

theorem MockHardwareBuilder.Built.inventoried {builder : MockHardwareBuilder} (h : builder.Built) :
    ∃ hardware, builder.build = some hardware ∧ Inventoried hardware := by
  obtain ⟨hardware, hbuild, htidy⟩ := builder.build_tidy
  refine ⟨hardware, hbuild, ?_, ?_⟩
  · obtain ⟨usbStates, husb, heq⟩ := Option.bind_eq_some_iff.mp hbuild
    cases heq
    intro interface key descriptors hlisted
    obtain ⟨device, hdevice, rfl⟩ := Option.map_eq_some_iff.mp hlisted
    cases interface with
    | gpio =>
      obtain ⟨hin, rfl⟩ := mem_of_buildStateMap hdevice
      exact stocked_single (by decide) (h.gpioLines device hin).made
    | pwm =>
      obtain ⟨hin, rfl⟩ := mem_of_buildStateMap hdevice
      exact stocked_single (by decide) (h.pwmChannels device hin).made
    | i2c =>
      obtain ⟨hin, rfl⟩ := mem_of_buildStateMap hdevice
      exact stocked_single (by decide) (h.i2cDevices device hin).made
    | spi =>
      obtain ⟨hin, rfl⟩ := mem_of_buildStateMap hdevice
      exact stocked_single (by decide) (h.spiDevices device hin).made
    | uart =>
      obtain ⟨hin, rfl⟩ := mem_of_buildStateMap hdevice
      exact stocked_single (by decide) (h.uartPorts device hin).made
    | usb =>
      obtain ⟨hin, rfl⟩ := mem_of_buildStateMap hdevice
      obtain ⟨value, hvalue, hof⟩ := exists_of_mapM husb device hin
      exact stocked_usb (h.usbDevices value hvalue) hof
  · intro key descriptors hlisted descriptor hin
    obtain ⟨device, hdevice, rfl⟩ := Option.map_eq_some_iff.mp hlisted
    exact (htidy.owners descriptor.id key).mpr ⟨device, hdevice, List.mem_map_of_mem hin⟩

end Lemnos.Mock
