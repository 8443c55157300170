import Lemnos.Library.PartOwners
import Lemnos.Library.Runs
import Lemnos.Mock.UsbDevice

namespace Lemnos.Mock

open Lemnos.Core Library Linux OrderedMap Runs

namespace MockUsbDeviceState

def of (value : MockUsbDevice) : Option MockUsbDeviceState := do
  let identity : MockUsbInterfaceIdentity :=
    match value.deviceDescriptor.address with
    | some (.usbDevice _ _ vendorId productId) => { vendorId, productId }
    | _ => {}
  let interfaceDescriptors ← value.interfaces.mapM fun interface =>
    buildInterfaceDescriptor value.deviceDescriptor { interface with identity }
  pure
    { deviceDescriptor := value.deviceDescriptor
      interfaceDescriptors
      interfaceNumbers := BTreeSet.collect (value.interfaces.map MockUsbInterfaceConfig.interfaceNumber)
      controlResponses := value.controlResponses
      bulkInResponses := value.bulkInResponses
      interruptInResponses := value.interruptInResponses
      claimedInterfaces := value.claimedInterfaces
      lastControlOut := value.lastControlOut
      lastBulkWrites := value.lastBulkWrites
      lastInterruptWrites := value.lastInterruptWrites }

def descriptors (device : MockUsbDeviceState) : List DeviceDescriptor :=
  device.deviceDescriptor :: device.interfaceDescriptors

def ids (device : MockUsbDeviceState) : List DeviceId := device.descriptors.map DeviceDescriptor.id

structure AttachedAt (device : MockUsbDeviceState) (bus : UInt16) (ports : List UInt8) : Prop where
  id : device.deviceDescriptor.id = (MockUsbEntry.device bus ports).deviceId
  interfaces : ∀ id, id ∈ device.interfaceDescriptors.map DeviceDescriptor.id ↔
    ∃ number ∈ device.interfaceNumbers, id = (MockUsbEntry.interface bus ports number).deviceId

theorem mapM_buildInterfaceDescriptor {descriptor : DeviceDescriptor} {bus : UInt16} {ports : List UInt8}
    (h : LocatedAt descriptor bus ports) (identity : MockUsbInterfaceIdentity)
    (interfaces : List MockUsbInterfaceConfig) :
    ∃ built, (interfaces.mapM fun interface =>
        buildInterfaceDescriptor descriptor { interface with identity }) = some built ∧
      built.map DeviceDescriptor.id = interfaces.map fun interface =>
        (MockUsbEntry.interface bus ports interface.interfaceNumber).deviceId := by
  induction interfaces with
  | nil => exact ⟨[], rfl, rfl⟩
  | cons interface interfaces ih =>
    obtain ⟨first, hfirst, hid⟩ := h.buildInterfaceDescriptor_eq { interface with identity }
    obtain ⟨built, hbuilt, hids⟩ := ih
    refine ⟨first :: built, ?_, ?_⟩
    · rw [List.mapM_cons, hfirst, hbuilt]
      rfl
    · rw [List.map_cons, hid, hids]
      rfl

theorem of_eq_some (value : MockUsbDevice) : ∃ device, of value = some device ∧
    device.deviceDescriptor = value.deviceDescriptor ∧
    device.interfaceNumbers = BTreeSet.collect (value.interfaces.map MockUsbInterfaceConfig.interfaceNumber) ∧
    ∃ bus ports, device.AttachedAt bus ports := by
  obtain ⟨bus, ports, hlocated⟩ := value.located
  obtain ⟨vendorId, productId, haddress⟩ := hlocated.address
  obtain ⟨built, hbuilt, hids⟩ :=
    mapM_buildInterfaceDescriptor hlocated { vendorId, productId } value.interfaces
  have hof : of value = some
      { deviceDescriptor := value.deviceDescriptor
        interfaceDescriptors := built
        interfaceNumbers := BTreeSet.collect (value.interfaces.map MockUsbInterfaceConfig.interfaceNumber)
        controlResponses := value.controlResponses
        bulkInResponses := value.bulkInResponses
        interruptInResponses := value.interruptInResponses
        claimedInterfaces := value.claimedInterfaces
        lastControlOut := value.lastControlOut
        lastBulkWrites := value.lastBulkWrites
        lastInterruptWrites := value.lastInterruptWrites } := by
    simp only [of, haddress, hbuilt, Option.bind_eq_bind, Option.bind_some]
    rfl
  refine ⟨_, hof, rfl, rfl, bus, ports, hlocated.id, ?_⟩
  intro id
  simp only [hids, BTreeSet.mem_collect, List.mem_map]
  constructor
  · rintro ⟨interface, hin, rfl⟩
    exact ⟨interface.interfaceNumber, ⟨interface, hin, rfl⟩, rfl⟩
  · rintro ⟨number, ⟨interface, hin, rfl⟩, rfl⟩
    exact ⟨interface, hin, rfl⟩

theorem mem_ids {device : MockUsbDeviceState} {bus : UInt16} {ports : List UInt8}
    (h : device.AttachedAt bus ports) (id : DeviceId) : id ∈ device.ids ↔
      id = (MockUsbEntry.device bus ports).deviceId ∨
        ∃ number ∈ device.interfaceNumbers, id = (MockUsbEntry.interface bus ports number).deviceId := by
  rw [ids, descriptors, List.map_cons, List.mem_cons, h.id, h.interfaces]

theorem ids_subset_iff {old device : MockUsbDeviceState} {bus : UInt16} {ports : List UInt8}
    (hold : old.AttachedAt bus ports) (hnew : device.AttachedAt bus ports) :
    old.ids ⊆ device.ids ↔ ∀ number ∈ old.interfaceNumbers, number ∈ device.interfaceNumbers := by
  constructor
  · intro hsubset number hnumber
    have hid : (MockUsbEntry.interface bus ports number).deviceId ∈ device.ids :=
      hsubset ((mem_ids hold _).mpr (.inr ⟨number, hnumber, rfl⟩))
    rcases (mem_ids hnew _).mp hid with heq | ⟨number', hnumber', heq⟩
    · cases MockUsbEntry.deviceId_injective heq
    · cases MockUsbEntry.deviceId_injective heq
      exact hnumber'
  · intro hnumbers id hid
    rcases (mem_ids hold id).mp hid with heq | ⟨number, hnumber, heq⟩
    · exact (mem_ids hnew id).mpr (.inl heq)
    · exact (mem_ids hnew id).mpr (.inr ⟨number, hnumbers number hnumber, heq⟩)

theorem AttachedAt.place_unique {device device' : MockUsbDeviceState} {bus bus' : UInt16}
    {ports ports' : List UInt8} (h : device.AttachedAt bus ports) (h' : device'.AttachedAt bus' ports')
    {id : DeviceId} (hid : id ∈ device.ids) (hid' : id ∈ device'.ids) : bus = bus' ∧ ports = ports' := by
  rcases (mem_ids h id).mp hid with rfl | ⟨number, -, rfl⟩
  · rcases (mem_ids h' _).mp hid' with heq | ⟨number', -, heq⟩
    · cases MockUsbEntry.deviceId_injective heq
      exact ⟨rfl, rfl⟩
    · cases MockUsbEntry.deviceId_injective heq
  · rcases (mem_ids h' _).mp hid' with heq | ⟨number', -, heq⟩
    · cases MockUsbEntry.deviceId_injective heq
    · cases MockUsbEntry.deviceId_injective heq
      exact ⟨rfl, rfl⟩

end MockUsbDeviceState

namespace Table

variable {σ : Type} (table : Table σ)

def attach (descriptor : σ → DeviceDescriptor) (state : σ) (hardware : MockHardwareState) :
    DeviceId × MockHardwareState :=
  ((descriptor state).id, table.store ((table.entries hardware).insert (descriptor state).id state) hardware)

def remove (deviceId : DeviceId) (hardware : MockHardwareState) : Option MockHardwareState :=
  if deviceId ∈ table.entries hardware then
    some { table.store ((table.entries hardware).erase deviceId) hardware with
      faults := hardware.faults.clearDevice deviceId }
  else none

end Table

namespace MockHardware

def attachGpioLine (line : MockGpioLineState) : MockHardwareState → DeviceId × MockHardwareState :=
  gpioLines.attach MockGpioLineState.descriptor line

def attachPwmChannel (channel : MockPwmChannelState) : MockHardwareState → DeviceId × MockHardwareState :=
  pwmChannels.attach MockPwmChannelState.descriptor channel

def attachI2cDevice (device : MockI2cDeviceState) : MockHardwareState → DeviceId × MockHardwareState :=
  i2cDevices.attach MockI2cDeviceState.descriptor device

def attachSpiDevice (device : MockSpiDeviceState) : MockHardwareState → DeviceId × MockHardwareState :=
  spiDevices.attach MockSpiDeviceState.descriptor device

def attachUartPort (port : MockUartPortState) : MockHardwareState → DeviceId × MockHardwareState :=
  uartPorts.attach MockUartPortState.descriptor port

def attachUsbDevice (device : MockUsbDevice) (hardware : MockHardwareState) :
    Option (DeviceId × MockHardwareState) := do
  let device ← MockUsbDeviceState.of device
  let deviceId := device.deviceDescriptor.id
  pure (deviceId,
    { hardware with
      usbDescriptorOwners := hardware.usbDescriptorOwners.own deviceId device.ids
      usbDevices := hardware.usbDevices.insert deviceId device })

def removeUsbDevice (deviceId : DeviceId) (hardware : MockHardwareState) : Option MockHardwareState := do
  let ownerId ← hardware.usbDescriptorOwners[deviceId]?
  let device ← hardware.usbDevices[ownerId]?
  pure
    { hardware with
      usbDevices := hardware.usbDevices.erase ownerId
      usbDescriptorOwners := BTreeMap.eraseAll hardware.usbDescriptorOwners device.ids
      faults := (device.ids.foldl MockFaultRegistry.clearDevice hardware.faults).clearDevice ownerId }

/-- The removal from the first table that has the device; the USB devices come last. -/
def removal (deviceId : DeviceId) (hardware : MockHardwareState) : Option MockHardwareState :=
  gpioLines.remove deviceId hardware <|> pwmChannels.remove deviceId hardware <|>
    i2cDevices.remove deviceId hardware <|> spiDevices.remove deviceId hardware <|>
    uartPorts.remove deviceId hardware <|> removeUsbDevice deviceId hardware

def removeDevice (deviceId : DeviceId) (hardware : MockHardwareState) : Bool × MockHardwareState :=
  match removal deviceId hardware with
  | some removed => (true, removed)
  | none => (false, hardware)

def descriptorsOf {σ : Type} (descriptor : σ → DeviceDescriptor) (entries : BTreeMap DeviceId σ) :
    List DeviceDescriptor :=
  entries.toList.map fun entry => descriptor entry.2

def descriptors (hardware : MockHardwareState) : List DeviceDescriptor :=
  (descriptorsOf MockGpioLineState.descriptor hardware.gpioLines ++
    descriptorsOf MockPwmChannelState.descriptor hardware.pwmChannels ++
    descriptorsOf MockI2cDeviceState.descriptor hardware.i2cDevices ++
    descriptorsOf MockSpiDeviceState.descriptor hardware.spiDevices ++
    descriptorsOf MockUartPortState.descriptor hardware.uartPorts ++
    hardware.usbDevices.toList.flatMap fun entry => entry.2.descriptors).insertionSort
      fun left right => (compare left.id right.id).isLE = true

def listed (hardware : MockHardwareState) : List DeviceId := (descriptors hardware).map DeviceDescriptor.id

end MockHardware

structure MockHardwareBuilder where
  gpioLines : List MockGpioLineState := []
  pwmChannels : List MockPwmChannelState := []
  i2cDevices : List MockI2cDeviceState := []
  spiDevices : List MockSpiDeviceState := []
  uartPorts : List MockUartPortState := []
  usbDevices : List MockUsbDevice := []

def buildStateMap {σ : Type} (descriptor : σ → DeviceDescriptor) (items : List σ) : BTreeMap DeviceId σ :=
  BTreeMap.collect (items.map fun state => ((descriptor state).id, state))

def MockHardwareBuilder.build (builder : MockHardwareBuilder) : Option MockHardwareState := do
  let usbStates ← builder.usbDevices.mapM MockUsbDeviceState.of
  let usbDevices := buildStateMap MockUsbDeviceState.deviceDescriptor usbStates
  pure
    { gpioLines := buildStateMap MockGpioLineState.descriptor builder.gpioLines
      pwmChannels := buildStateMap MockPwmChannelState.descriptor builder.pwmChannels
      i2cDevices := buildStateMap MockI2cDeviceState.descriptor builder.i2cDevices
      spiDevices := buildStateMap MockSpiDeviceState.descriptor builder.spiDevices
      uartPorts := buildStateMap MockUartPortState.descriptor builder.uartPorts
      usbDevices
      usbDescriptorOwners := BTreeMap.collect (partEntries usbDevices fun deviceId device =>
        deviceId :: device.interfaceDescriptors.map DeviceDescriptor.id) }

end Lemnos.Mock
