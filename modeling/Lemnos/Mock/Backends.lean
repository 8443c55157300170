import Lemnos.Mock.DriverSessions
import Lemnos.Mock.Inventory

/-! The mock hardware as the backend of all interfaces. -/

namespace Lemnos.Mock

open Lemnos.Core Bus DriverSdk Drivers Library.Frames Library.OrderedMap

/-- What the backend opens: a session of the device, that calls the entry of its owner. -/
structure MockSession where
  device : DeviceDescriptor
  owner : DeviceId
  metadata : SessionMetadata

namespace MockHardware

def backendName : String := "mock-hardware"

def unsupportedDevice (deviceId : DeviceId) : BusError := .unsupportedDevice backendName deviceId

def supportsDevice (hardware : MockHardwareState) (device : DeviceDescriptor) : Bool :=
  match device.interface with
  | .gpio => hardware.gpioLines.contains device.id
  | .pwm => hardware.pwmChannels.contains device.id
  | .i2c => hardware.i2cDevices.contains device.id
  | .spi => hardware.spiDevices.contains device.id
  | .uart => hardware.uartPorts.contains device.id
  | .usb => hardware.usbDescriptorOwners.contains device.id

def opened (access : SessionAccess) (device : DeviceDescriptor) (owner : DeviceId) : MockSession where
  device
  owner
  metadata := { access, state := .idle }

/-- A session is opened for the descriptor that the hardware has, not for the one that it was asked with. -/
def openEntry {σ : Type} (table : Table σ) (descriptor : σ → DeviceDescriptor) (device : DeviceDescriptor)
    (access : SessionAccess) : HardwareCall MockSession := do
  takeInjectedError device.id "open"
  let state ← table.stateOf device.id (unsupportedDevice device.id)
  pure (opened access (descriptor state) (descriptor state).id)

def openGpio := openEntry gpioLines MockGpioLineState.descriptor
def openPwm := openEntry pwmChannels MockPwmChannelState.descriptor
def openI2c := openEntry i2cDevices MockI2cDeviceState.descriptor
def openSpi := openEntry spiDevices MockSpiDeviceState.descriptor
def openUart := openEntry uartPorts MockUartPortState.descriptor

def descriptorOwners : Table DeviceId :=
  ⟨MockHardwareState.usbDescriptorOwners, fun usbDescriptorOwners hardware => { hardware with usbDescriptorOwners }⟩

def openUsb (device : DeviceDescriptor) (access : SessionAccess) : HardwareCall MockSession := do
  takeInjectedError device.id "open"
  let owner ← descriptorOwners.stateOf device.id (unsupportedDevice device.id)
  pure (opened access device owner)

def openSession : InterfaceKind → DeviceDescriptor → SessionAccess → HardwareCall MockSession
  | .gpio => openGpio
  | .pwm => openPwm
  | .i2c => openI2c
  | .spi => openSpi
  | .uart => openUart
  | .usb => openUsb

def bindContext : DriverBindContext MockHardwareState fun _ => MockSession where
  backend interface := some (openSession interface)

end MockHardware

end Lemnos.Mock
