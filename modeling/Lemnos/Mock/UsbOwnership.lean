import Lemnos.Mock.Inventory

namespace Lemnos.Mock

open Lemnos.Core Library Linux OrderedMap Runs MockHardware

def KeyedBy {σ : Type} (descriptor : σ → DeviceDescriptor) (entries : BTreeMap DeviceId σ) : Prop :=
  ∀ id state, entries[id]? = some state → (descriptor state).id = id

namespace KeyedBy

variable {σ : Type} {descriptor : σ → DeviceDescriptor} {entries : BTreeMap DeviceId σ}

theorem insert (h : KeyedBy descriptor entries) (state : σ) :
    KeyedBy descriptor (entries.insert (descriptor state).id state) := by
  intro id other hother
  rw [BTreeMap.getElem?_insert_eq] at hother
  by_cases hid : id = (descriptor state).id
  · rw [if_pos hid] at hother
    cases hother
    exact hid.symm
  · rw [if_neg hid] at hother
    exact h id other hother

theorem erase (h : KeyedBy descriptor entries) (key : DeviceId) : KeyedBy descriptor (entries.erase key) := by
  intro id state hstate
  exact h id state ((BTreeMap.getElem?_erase_eq_some entries).mp hstate).2

theorem build (items : List σ) : KeyedBy descriptor (buildStateMap descriptor items) := by
  intro id state hstate
  obtain ⟨item, -, heq⟩ := List.mem_map.mp (BTreeMap.mem_of_collect_getElem? hstate)
  cases heq
  rfl

theorem mem_ids_iff (h : KeyedBy descriptor entries) (id : DeviceId) :
    id ∈ (descriptorsOf descriptor entries).map DeviceDescriptor.id ↔ id ∈ entries := by
  rw [BTreeMap.mem_iff_exists, descriptorsOf, List.map_map, List.mem_map]
  constructor
  · rintro ⟨entry, hentry, rfl⟩
    have hstate := Std.ExtTreeMap.mem_toList_iff_getElem?_eq_some.mp hentry
    exact ⟨entry.2, by rw [Function.comp_apply, h entry.1 entry.2 hstate]; exact hstate⟩
  · rintro ⟨state, hstate⟩
    exact ⟨(id, state), Std.ExtTreeMap.mem_toList_iff_getElem?_eq_some.mpr hstate, h id state hstate⟩

end KeyedBy

structure Keyed (hardware : MockHardwareState) : Prop where
  gpioLines : KeyedBy MockGpioLineState.descriptor hardware.gpioLines
  pwmChannels : KeyedBy MockPwmChannelState.descriptor hardware.pwmChannels
  i2cDevices : KeyedBy MockI2cDeviceState.descriptor hardware.i2cDevices
  spiDevices : KeyedBy MockSpiDeviceState.descriptor hardware.spiDevices
  uartPorts : KeyedBy MockUartPortState.descriptor hardware.uartPorts
  usbDevices : KeyedBy MockUsbDeviceState.deviceDescriptor hardware.usbDevices
  attached : ∀ (id : DeviceId) (device : MockUsbDeviceState),
    hardware.usbDevices[id]? = some device → ∃ bus ports, device.AttachedAt bus ports

def OwnersExact (hardware : MockHardwareState) : Prop :=
  PartOwners hardware.usbDescriptorOwners hardware.usbDevices MockUsbDeviceState.ids

structure IndexExact (hardware : MockHardwareState) : Prop where
  owners : OwnersExact hardware
  removes : ∀ id, (removeDevice id hardware).1 = true ↔ id ∈ listed hardware
  refuses : ∀ id, id ∉ listed hardware → (removeDevice id hardware).2 = hardware

theorem partsApart {entries : BTreeMap DeviceId MockUsbDeviceState}
    (hkeyed : KeyedBy MockUsbDeviceState.deviceDescriptor entries)
    (hattached : ∀ (id : DeviceId) (device : MockUsbDeviceState),
      entries[id]? = some device → ∃ bus ports, device.AttachedAt bus ports) :
    PartsApart entries MockUsbDeviceState.ids := by
  intro owner device owner' device' id hdevice hdevice' hid hid'
  obtain ⟨bus, ports, hat⟩ := hattached owner device hdevice
  obtain ⟨bus', ports', hat'⟩ := hattached owner' device' hdevice'
  obtain ⟨rfl, rfl⟩ := hat.place_unique hat' hid hid'
  rw [← hkeyed owner device hdevice, ← hkeyed owner' device' hdevice', hat.id, hat'.id]

theorem Table.remove_isSome {σ : Type} (table : Table σ) (id : DeviceId) (hardware : MockHardwareState) :
    (table.remove id hardware).isSome = true ↔ id ∈ table.entries hardware := by
  rw [Table.remove]
  by_cases hid : id ∈ table.entries hardware <;> simp [hid]

def UsbListed (hardware : MockHardwareState) (id : DeviceId) : Prop :=
  ∃ (owner : DeviceId) (device : MockUsbDeviceState), hardware.usbDevices[owner]? = some device ∧ id ∈ device.ids

theorem removeUsbDevice_isSome {hardware : MockHardwareState} (h : OwnersExact hardware) (id : DeviceId) :
    (removeUsbDevice id hardware).isSome = true ↔
      UsbListed hardware id := by
  constructor
  · intro hremoved
    obtain ⟨removed, hremoved⟩ := Option.isSome_iff_exists.mp hremoved
    obtain ⟨owner, howner, -⟩ := Option.bind_eq_some_iff.mp hremoved
    exact ⟨owner, (h id owner).mp howner⟩
  · rintro ⟨owner, device, hdevice, hid⟩
    have howner : hardware.usbDescriptorOwners[id]? = some owner := (h id owner).mpr ⟨device, hdevice, hid⟩
    simp [removeUsbDevice, howner, hdevice]

theorem removeDevice_fst (id : DeviceId) (hardware : MockHardwareState) :
    (removeDevice id hardware).1 = true ↔ id ∈ hardware.gpioLines ∨ id ∈ hardware.pwmChannels ∨
      id ∈ hardware.i2cDevices ∨ id ∈ hardware.spiDevices ∨ id ∈ hardware.uartPorts ∨
      (removeUsbDevice id hardware).isSome = true := by
  have hanswer : (removeDevice id hardware).1 = (removal id hardware).isSome := by
    rw [removeDevice]
    cases removal id hardware <;> rfl
  rw [hanswer, removal]
  simp only [Option.orElse_eq_orElse, Option.orElse_eq_or, Option.isSome_or, Bool.or_eq_true, Table.remove_isSome]
  rfl

theorem mem_listed {hardware : MockHardwareState} (h : Keyed hardware) (id : DeviceId) :
    id ∈ listed hardware ↔ id ∈ hardware.gpioLines ∨ id ∈ hardware.pwmChannels ∨
      id ∈ hardware.i2cDevices ∨ id ∈ hardware.spiDevices ∨ id ∈ hardware.uartPorts ∨
      UsbListed hardware id := by
  have husb : id ∈ (hardware.usbDevices.toList.flatMap fun entry => entry.2.descriptors).map DeviceDescriptor.id ↔
      UsbListed hardware id := by
    simp only [UsbListed, List.map_flatMap, List.mem_flatMap, MockUsbDeviceState.ids, Prod.exists,
      Std.ExtTreeMap.mem_toList_iff_getElem?_eq_some]
  rw [listed, descriptors, ((List.perm_insertionSort _ _).map _).mem_iff]
  simp only [List.map_append, List.mem_append, husb, or_assoc]
  rw [h.gpioLines.mem_ids_iff, h.pwmChannels.mem_ids_iff, h.i2cDevices.mem_ids_iff, h.spiDevices.mem_ids_iff,
    h.uartPorts.mem_ids_iff]

theorem indexExact {hardware : MockHardwareState} (hkeyed : Keyed hardware) (howners : OwnersExact hardware) :
    IndexExact hardware := by
  have hremoves : ∀ id, (removeDevice id hardware).1 = true ↔ id ∈ listed hardware := by
    intro id
    rw [removeDevice_fst, mem_listed hkeyed, removeUsbDevice_isSome howners]
  refine ⟨howners, hremoves, ?_⟩
  intro id hid
  have hanswer : (removeDevice id hardware).1 ≠ true := fun htrue => hid ((hremoves id).mp htrue)
  rw [removeDevice] at hanswer ⊢
  cases hremoval : removal id hardware with
  | none => rfl
  | some removed =>
    rw [hremoval] at hanswer
    exact absurd rfl hanswer

structure Tidy (hardware : MockHardwareState) : Prop extends Keyed hardware where
  owners : OwnersExact hardware

theorem mapM_of_eq_some (values : List MockUsbDevice) : ∃ devices,
    values.mapM MockUsbDeviceState.of = some devices ∧
      ∀ device ∈ devices, ∃ bus ports, device.AttachedAt bus ports := by
  induction values with
  | nil => exact ⟨[], rfl, by simp⟩
  | cons value values ih =>
    obtain ⟨device, hdevice, -, -, hat⟩ := MockUsbDeviceState.of_eq_some value
    obtain ⟨devices, hdevices, hall⟩ := ih
    refine ⟨device :: devices, ?_, ?_⟩
    · rw [List.mapM_cons, hdevice, hdevices]
      rfl
    · intro other hother
      rcases List.mem_cons.mp hother with rfl | hin
      · exact hat
      · exact hall other hin

theorem MockHardwareBuilder.build_tidy (builder : MockHardwareBuilder) :
    ∃ hardware, builder.build = some hardware ∧ Tidy hardware := by
  obtain ⟨devices, hdevices, hall⟩ := mapM_of_eq_some builder.usbDevices
  refine ⟨_, by rw [build, hdevices]; rfl, ?_⟩
  have hkeyed : KeyedBy MockUsbDeviceState.deviceDescriptor
      (buildStateMap MockUsbDeviceState.deviceDescriptor devices) := KeyedBy.build devices
  have hattached : ∀ (id : DeviceId) (device : MockUsbDeviceState),
      (buildStateMap MockUsbDeviceState.deviceDescriptor devices)[id]? = some device →
        ∃ bus ports, device.AttachedAt bus ports := by
    intro id device hdevice
    obtain ⟨device', hin, heq⟩ := List.mem_map.mp (BTreeMap.mem_of_collect_getElem? hdevice)
    cases heq
    exact hall device hin
  refine ⟨⟨.build _, .build _, .build _, .build _, .build _, hkeyed, hattached⟩, ?_⟩
  apply PartOwners.collect (partsApart hkeyed hattached)
  intro id device hdevice
  rw [← hkeyed id device hdevice]
  rfl

inductive InventoryCall where
  | attachGpioLine (line : MockGpioLineState)
  | attachPwmChannel (channel : MockPwmChannelState)
  | attachI2cDevice (device : MockI2cDeviceState)
  | attachSpiDevice (device : MockSpiDeviceState)
  | attachUartPort (port : MockUartPortState)
  | attachUsbDevice (device : MockUsbDevice)
  | removeDevice (deviceId : DeviceId)

namespace InventoryCall

def exec : InventoryCall → MockHardwareState → Option MockHardwareState
  | attachGpioLine line, hardware => some (MockHardware.attachGpioLine line hardware).2
  | attachPwmChannel channel, hardware => some (MockHardware.attachPwmChannel channel hardware).2
  | attachI2cDevice device, hardware => some (MockHardware.attachI2cDevice device hardware).2
  | attachSpiDevice device, hardware => some (MockHardware.attachSpiDevice device hardware).2
  | attachUartPort port, hardware => some (MockHardware.attachUartPort port hardware).2
  | attachUsbDevice device, hardware => (MockHardware.attachUsbDevice device hardware).map Prod.snd
  | removeDevice deviceId, hardware => some (MockHardware.removeDevice deviceId hardware).2

/-- A USB device that is attached again comes with all interfaces that it had. -/
def KeepsInterfaces : InventoryCall → MockHardwareState → Prop
  | attachUsbDevice device, hardware =>
    ∀ old : MockUsbDeviceState, hardware.usbDevices[device.deviceDescriptor.id]? = some old →
      ∀ number ∈ old.interfaceNumbers, number ∈ device.interfaces.map MockUsbInterfaceConfig.interfaceNumber
  | _, _ => True

end InventoryCall

variable {hardware hardware' : MockHardwareState}

theorem removal_tidy (h : Tidy hardware) {id : DeviceId} (hremoval : removal id hardware = some hardware') :
    Tidy hardware' := by
  simp only [removal, Option.orElse_eq_orElse, Option.orElse_eq_or, Option.or_eq_some_iff, Table.remove,
    Option.ite_none_right_eq_some, Option.some.injEq] at hremoval
  rcases hremoval with ⟨-, rfl⟩ | ⟨-, ⟨-, rfl⟩ | ⟨-, ⟨-, rfl⟩ | ⟨-, ⟨-, rfl⟩ | ⟨-, ⟨-, rfl⟩ | ⟨-, husb⟩⟩⟩⟩⟩
  · exact { h with gpioLines := h.gpioLines.erase id }
  · exact { h with pwmChannels := h.pwmChannels.erase id }
  · exact { h with i2cDevices := h.i2cDevices.erase id }
  · exact { h with spiDevices := h.spiDevices.erase id }
  · exact { h with uartPorts := h.uartPorts.erase id }
  · obtain ⟨owner, -, husb⟩ := Option.bind_eq_some_iff.mp husb
    obtain ⟨device, hdevice, husb⟩ := Option.bind_eq_some_iff.mp husb
    cases husb
    have hattached : ∀ (other : DeviceId) (state : MockUsbDeviceState),
        (hardware.usbDevices.erase owner)[other]? = some state → ∃ bus ports, state.AttachedAt bus ports := by
      intro other state hstate
      exact h.attached other state ((BTreeMap.getElem?_erase_eq_some _).mp hstate).2
    exact { h with
      usbDevices := h.usbDevices.erase owner
      attached := hattached
      owners := PartOwners.erase h.owners hdevice }

theorem removeDevice_tidy (h : Tidy hardware) (id : DeviceId) : Tidy (removeDevice id hardware).2 := by
  rw [removeDevice]
  cases hremoval : removal id hardware with
  | none => exact h
  | some removed => exact removal_tidy h hremoval

theorem attachUsbDevice_cases {value : MockUsbDevice} {id : DeviceId}
    (h : attachUsbDevice value hardware = some (id, hardware')) :
    ∃ device, MockUsbDeviceState.of value = some device ∧ id = device.deviceDescriptor.id ∧
      hardware' = { hardware with
        usbDescriptorOwners := hardware.usbDescriptorOwners.own id device.ids
        usbDevices := hardware.usbDevices.insert id device } := by
  obtain ⟨device, hof, heq⟩ := Option.bind_eq_some_iff.mp h
  cases heq
  exact ⟨device, hof, rfl, rfl⟩

theorem attachUsbDevice_owners (h : Tidy hardware) {value : MockUsbDevice} {id : DeviceId}
    (hattach : attachUsbDevice value hardware = some (id, hardware')) : Keyed hardware' ∧
      (OwnersExact hardware' ↔ (InventoryCall.attachUsbDevice value).KeepsInterfaces hardware) := by
  obtain ⟨device, hof, rfl, rfl⟩ := attachUsbDevice_cases hattach
  obtain ⟨device', hof', hdescriptor, hnumbers, bus, ports, hat⟩ := MockUsbDeviceState.of_eq_some value
  rw [hof] at hof'
  cases hof'
  have hattached : ∀ (other : DeviceId) (state : MockUsbDeviceState),
      (hardware.usbDevices.insert device.deviceDescriptor.id device)[other]? = some state →
        ∃ bus ports, state.AttachedAt bus ports := by
    intro other state hstate
    rw [BTreeMap.getElem?_insert_eq] at hstate
    by_cases hother : other = device.deviceDescriptor.id
    · rw [if_pos hother] at hstate
      cases hstate
      exact ⟨bus, ports, hat⟩
    · rw [if_neg hother] at hstate
      exact h.attached other state hstate
  have hkeyed := h.usbDevices.insert device
  refine ⟨{ h with usbDevices := hkeyed, attached := hattached }, ?_⟩
  refine (PartOwners.insert_iff h.owners (partsApart hkeyed hattached)).trans ?_
  rw [InventoryCall.KeepsInterfaces, ← hdescriptor]
  apply forall_congr'
  intro old
  apply forall_congr'
  intro hold
  obtain ⟨bus', ports', hat'⟩ := h.attached _ old hold
  have hplace : (MockUsbEntry.device bus ports).deviceId = (MockUsbEntry.device bus' ports').deviceId := by
    rw [← hat.id, ← hat'.id, h.usbDevices _ old hold]
  cases MockUsbEntry.deviceId_injective hplace
  rw [MockUsbDeviceState.ids_subset_iff hat' hat, hnumbers]
  simp only [BTreeSet.mem_collect]

namespace InventoryCall

theorem exec_total (call : InventoryCall) (hardware : MockHardwareState) :
    ∃ hardware', call.exec hardware = some hardware' := by
  cases call with
  | attachGpioLine line => exact ⟨_, rfl⟩
  | attachPwmChannel channel => exact ⟨_, rfl⟩
  | attachI2cDevice device => exact ⟨_, rfl⟩
  | attachSpiDevice device => exact ⟨_, rfl⟩
  | attachUartPort port => exact ⟨_, rfl⟩
  | attachUsbDevice device =>
    obtain ⟨state, hof, -⟩ := MockUsbDeviceState.of_eq_some device
    exact ⟨_, by rw [exec, MockHardware.attachUsbDevice, hof]; rfl⟩
  | removeDevice deviceId => exact ⟨_, rfl⟩

theorem exec_spec (call : InventoryCall) (h : Tidy hardware) (hexec : call.exec hardware = some hardware') :
    Keyed hardware' ∧ (OwnersExact hardware' ↔ call.KeepsInterfaces hardware) := by
  cases call with
  | attachGpioLine line =>
    cases hexec
    exact ⟨{ h with gpioLines := h.gpioLines.insert line }, iff_of_true h.owners trivial⟩
  | attachPwmChannel channel =>
    cases hexec
    exact ⟨{ h with pwmChannels := h.pwmChannels.insert channel }, iff_of_true h.owners trivial⟩
  | attachI2cDevice device =>
    cases hexec
    exact ⟨{ h with i2cDevices := h.i2cDevices.insert device }, iff_of_true h.owners trivial⟩
  | attachSpiDevice device =>
    cases hexec
    exact ⟨{ h with spiDevices := h.spiDevices.insert device }, iff_of_true h.owners trivial⟩
  | attachUartPort port =>
    cases hexec
    exact ⟨{ h with uartPorts := h.uartPorts.insert port }, iff_of_true h.owners trivial⟩
  | attachUsbDevice device =>
    obtain ⟨attached, hattach, rfl⟩ := Option.map_eq_some_iff.mp hexec
    exact attachUsbDevice_owners h hattach
  | removeDevice deviceId =>
    cases hexec
    have htidy := removeDevice_tidy h deviceId
    exact ⟨htidy.toKeyed, iff_of_true htidy.owners trivial⟩

end InventoryCall

theorem usb_ownership_exact_iff (builder : MockHardwareBuilder) (calls : List InventoryCall) :
    ∃ built last, builder.build = some built ∧ run InventoryCall.exec calls built = some last ∧
      ((∀ before after hardware, calls = before ++ after →
          run InventoryCall.exec before built = some hardware → IndexExact hardware) ↔
        Along InventoryCall.exec InventoryCall.KeepsInterfaces calls built) := by
  obtain ⟨built, hbuild, htidy⟩ := builder.build_tidy
  obtain ⟨last, hrun⟩ := run_total InventoryCall.exec_total calls built
  refine ⟨built, last, hbuild, hrun, ?_⟩
  refine observed_iff_along ?_ ?_ ?_ htidy hrun
  · intro hardware h
    exact indexExact h.toKeyed h.owners
  · intro call hardware hardware' h hkeeps hexec
    obtain ⟨hkeyed, howners⟩ := call.exec_spec h hexec
    exact ⟨hkeyed, howners.mpr hkeeps⟩
  · intro call hardware hardware' h hexec hexact
    exact (call.exec_spec h hexec).2.mp hexact.owners

def audioCard : MockUsbDevice := (MockUsbDevice.new 1 [2]).withInterface 0

theorem unlisted_interface_removes_card :
    let card := (MockUsbEntry.device 1 [2]).deviceId
    let second := (MockUsbEntry.interface 1 [2] 1).deviceId
    ∃ built hardware, MockHardwareBuilder.build {} = some built ∧
      run InventoryCall.exec [.attachUsbDevice (audioCard.withInterface 1), .attachUsbDevice audioCard] built =
        some hardware ∧
      card ∈ listed hardware ∧ second ∉ listed hardware ∧
      hardware.usbDescriptorOwners[second]? = some card ∧
      (removeDevice second hardware).1 = true ∧ card ∉ listed (removeDevice second hardware).2 := by
  refine ⟨_, _, rfl, rfl, ?_, ?_, rfl, rfl, ?_⟩
  · decide
  · decide
  · decide

end Lemnos.Mock
