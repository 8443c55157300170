import Lemnos.Bus.Calls
import Lemnos.Core.Request

namespace Lemnos.Mock

open Lemnos.Core Bus Library.Frames Library.OrderedMap

structure MockGpioLineState where
  descriptor : DeviceDescriptor
  level : GpioLevel
  configuration : GpioLineConfiguration

structure MockPwmChannelState where
  descriptor : DeviceDescriptor
  configuration : PwmConfiguration

structure MockI2cDeviceState where
  descriptor : DeviceDescriptor
  memory : List UInt8
  pointer : ℕ

structure MockSpiDeviceState where
  descriptor : DeviceDescriptor
  configuration : SpiConfiguration
  transferResponses : BTreeMap (List UInt8) (List UInt8)
  lastWrite : List UInt8

structure MockUartPortState where
  descriptor : DeviceDescriptor
  configuration : UartConfiguration
  rxBuffer : List UInt8
  txBuffer : List UInt8

structure MockUsbControlKey where
  setup : UsbControlSetup
  data : List UInt8
  deriving DecidableEq

def MockUsbControlKey.of (transfer : UsbControlTransfer) : MockUsbControlKey :=
  ⟨transfer.setup, transfer.data⟩

structure MockUsbDeviceState where
  deviceDescriptor : DeviceDescriptor
  interfaceDescriptors : List DeviceDescriptor
  interfaceNumbers : BTreeSet UInt8
  controlResponses : List (MockUsbControlKey × List UInt8)
  bulkInResponses : BTreeMap UInt8 (List (List UInt8))
  interruptInResponses : BTreeMap UInt8 (List (List UInt8))
  claimedInterfaces : BTreeMap UInt8 (Option UInt8)
  lastControlOut : Option UsbControlTransfer
  lastBulkWrites : BTreeMap UInt8 (List UInt8)
  lastInterruptWrites : BTreeMap UInt8 (List UInt8)

/-- A queue is kept only as long as it holds an error. -/
structure FaultQueue where
  front : BusError
  rest : List BusError

structure MockFaultRegistry where
  faults : BTreeMap DeviceId (BTreeMap String FaultQueue) := ∅

namespace MockFaultRegistry

def next (registry : MockFaultRegistry) (deviceId : DeviceId) (operation : String) : Option FaultQueue := do
  let operations ← registry.faults[deviceId]?
  operations[operation]?

def afterTake (operations : BTreeMap String FaultQueue) (operation : String) (queue : FaultQueue) :
    BTreeMap String FaultQueue :=
  match queue.rest with
  | [] => operations.erase operation
  | front :: rest => operations.insert operation ⟨front, rest⟩

def take (registry : MockFaultRegistry) (deviceId : DeviceId) (operation : String) :
    Option BusError × MockFaultRegistry :=
  match registry.faults[deviceId]? with
  | none => (none, registry)
  | some operations =>
    match operations[operation]? with
    | none => (none, registry)
    | some queue =>
      let operations := afterTake operations operation queue
      (some queue.front,
        ⟨if operations.isEmpty then registry.faults.erase deviceId
          else registry.faults.insert deviceId operations⟩)

def clearDevice (registry : MockFaultRegistry) (deviceId : DeviceId) : MockFaultRegistry :=
  ⟨registry.faults.erase deviceId⟩

end MockFaultRegistry

structure MockHardwareState where
  gpioLines : BTreeMap DeviceId MockGpioLineState := ∅
  pwmChannels : BTreeMap DeviceId MockPwmChannelState := ∅
  i2cDevices : BTreeMap DeviceId MockI2cDeviceState := ∅
  spiDevices : BTreeMap DeviceId MockSpiDeviceState := ∅
  uartPorts : BTreeMap DeviceId MockUartPortState := ∅
  usbDevices : BTreeMap DeviceId MockUsbDeviceState := ∅
  usbDescriptorOwners : BTreeMap DeviceId DeviceId := ∅
  faults : MockFaultRegistry := {}

abbrev HardwareCall (α : Type) := Effect MockHardwareState BusError α

def takeInjectedError (deviceId : DeviceId) (operation : String) : HardwareCall Unit := do
  let hardware ← get
  let (error, faults) := hardware.faults.take deviceId operation
  set { hardware with faults }
  match error with
  | some error => throw error
  | none => pure ()

structure Table (σ : Type) where
  entries : MockHardwareState → BTreeMap DeviceId σ
  store : BTreeMap DeviceId σ → MockHardwareState → MockHardwareState

def gpioLines : Table MockGpioLineState :=
  ⟨MockHardwareState.gpioLines, fun gpioLines hardware => { hardware with gpioLines }⟩

def pwmChannels : Table MockPwmChannelState :=
  ⟨MockHardwareState.pwmChannels, fun pwmChannels hardware => { hardware with pwmChannels }⟩

def i2cDevices : Table MockI2cDeviceState :=
  ⟨MockHardwareState.i2cDevices, fun i2cDevices hardware => { hardware with i2cDevices }⟩

def spiDevices : Table MockSpiDeviceState :=
  ⟨MockHardwareState.spiDevices, fun spiDevices hardware => { hardware with spiDevices }⟩

def uartPorts : Table MockUartPortState :=
  ⟨MockHardwareState.uartPorts, fun uartPorts hardware => { hardware with uartPorts }⟩

def usbDevices : Table MockUsbDeviceState :=
  ⟨MockHardwareState.usbDevices, fun usbDevices hardware => { hardware with usbDevices }⟩

namespace Table

variable {σ : Type} (table : Table σ)

def stateOf (key : DeviceId) (missing : BusError) : HardwareCall σ := do
  let hardware ← get
  match (table.entries hardware)[key]? with
  | some state => pure state
  | none => throw missing

def withStateMut {α : Type} (key : DeviceId) (missing : BusError) (update : Effect σ BusError α) :
    HardwareCall α := do
  let state ← table.stateOf key missing
  update.within (fun _ => state)
    (fun state hardware => table.store ((table.entries hardware).insert key state) hardware)

end Table

namespace MockFaultRegistry

variable {registry : MockFaultRegistry} {deviceId : DeviceId} {operation : String}

theorem take_of_none (h : registry.next deviceId operation = none) :
    registry.take deviceId operation = (none, registry) := by
  unfold next at h
  unfold take
  cases hdevice : registry.faults[deviceId]? with
  | none => rfl
  | some operations =>
    rw [hdevice] at h
    have hnone : operations[operation]? = none := h
    simp only [hnone]

theorem take_fst (registry : MockFaultRegistry) (deviceId : DeviceId) (operation : String) :
    (registry.take deviceId operation).1 = (registry.next deviceId operation).map FaultQueue.front := by
  unfold next take
  cases registry.faults[deviceId]? with
  | none => rfl
  | some operations =>
    cases hqueue : operations[operation]? with
    | none => simp [hqueue]
    | some queue => simp [hqueue]

theorem afterTake_ne (operations : BTreeMap String FaultQueue) (operation : String) (queue : FaultQueue) :
    (afterTake operations operation queue)[operation]? ≠ some queue := by
  unfold afterTake
  obtain ⟨front, rest⟩ := queue
  cases rest with
  | nil => simp
  | cons next rest =>
    rw [BTreeMap.getElem?_insert_same]
    intro heq
    have hlength := congrArg (fun queue : FaultQueue => queue.rest.length) (Option.some.inj heq)
    simp at hlength

theorem take_ne {queue : FaultQueue} (h : registry.next deviceId operation = some queue) :
    (registry.take deviceId operation).2 ≠ registry := by
  intro heq
  have hnext : (registry.take deviceId operation).2.next deviceId operation = some queue := by
    rw [heq]
    exact h
  obtain ⟨operations, hoperations, hqueue⟩ := Option.bind_eq_some_iff.mp h
  have htake : (registry.take deviceId operation).2 =
      ⟨if (afterTake operations operation queue).isEmpty then registry.faults.erase deviceId
        else registry.faults.insert deviceId (afterTake operations operation queue)⟩ := by
    unfold take
    rw [hoperations]
    simp only [hqueue]
  rw [htake] at hnext
  obtain ⟨left, hleft, hentry⟩ := Option.bind_eq_some_iff.mp hnext
  by_cases hempty : (afterTake operations operation queue).isEmpty = true
  · simp [hempty] at hleft
  · simp only [if_neg hempty, BTreeMap.getElem?_insert_same, Option.some.injEq] at hleft
    rw [← hleft] at hentry
    exact afterTake_ne operations operation queue hentry

end MockFaultRegistry

end Lemnos.Mock
