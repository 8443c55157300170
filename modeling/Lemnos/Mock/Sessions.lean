import Lemnos.Mock.Hardware

namespace Lemnos.Mock

open Lemnos.Core Bus Library.Frames Library.OrderedMap

structure MockOpened where
  hardware : MockHardwareState
  device : DeviceId
  metadata : SessionMetadata

abbrev SessionCall (α : Type) := Effect MockOpened BusError α

namespace MockOpened

def setMetadata (f : SessionMetadata → SessionMetadata) (opened : MockOpened) : MockOpened :=
  { opened with metadata := f opened.metadata }

def onHardware {α : Type} (call : HardwareCall α) : SessionCall α :=
  call.within MockOpened.hardware (fun hardware opened => { opened with hardware })

def runCall {α : Type} (call : HardwareCall α) : SessionCall α := runCallOn setMetadata (onHardware call)

def close : SessionCall Unit := modify (setMetadata .markClosed)

end MockOpened

/-- The methods of the mock sessions are of two shapes: checks of the arguments and the access, then a call
under `run_call` that an injected error can fail; and a read of a device's configuration outside of it. -/
inductive MockMethod (α : Type) : Type 1 where
  | run (check : DeviceId → SessionAccess → BusResult Unit) (operation : String)
      (body : DeviceId → HardwareCall α)
  | observe {σ : Type} (operation : String) (table : Table σ) (read : σ → α)

def MockMethod.call {α : Type} : MockMethod α → SessionCall α
  | .run check operation body => do
    let opened ← get
    MonadExcept.ofExcept (check opened.device opened.metadata.access)
    MockOpened.runCall (do
      takeInjectedError opened.device operation
      body opened.device)
  | .observe operation table read => do
    let opened ← get
    MockOpened.onHardware (do
      takeInjectedError opened.device operation
      let state ← table.stateOf opened.device (.disconnected opened.device)
      pure (read state))

section Checks

def unchecked (_ : DeviceId) (_ : SessionAccess) : BusResult Unit := .ok ()

def ensureWritable (operation reason : String) (device : DeviceId) (access : SessionAccess) :
    BusResult Unit :=
  if access.canWrite then .ok () else .error (.permissionDenied device operation reason)

def rejectIf (p : Prop) [Decidable p] (error : BusError) : BusResult Unit :=
  if p then .error error else .ok ()

end Checks

namespace MockGpioSession

def readLevel : MockMethod GpioLevel :=
  .run unchecked "gpio.read" fun device => do
    let line ← gpioLines.stateOf device (.disconnected device)
    pure line.level

def writeLevel (level : GpioLevel) : MockMethod Unit :=
  .run unchecked "gpio.write" fun device =>
    gpioLines.withStateMut device (.disconnected device) do
      let line ← get
      if line.configuration.direction ≠ .output then
        throw (.permissionDenied device "gpio.write" "line is not configured for output")
      set { line with level }

def configureLine (configuration : GpioLineConfiguration) : MockMethod Unit :=
  .run
    (fun device _ => rejectIf (configuration.direction = .input ∧ configuration.initialLevel.isSome)
      (.invalidConfiguration device "input lines cannot set an initial level"))
    "gpio.configure" fun device =>
      gpioLines.withStateMut device (.disconnected device) do
        let line ← get
        set { line with level := configuration.initialLevel.getD line.level, configuration }

def configuration : MockMethod GpioLineConfiguration :=
  .observe "gpio.get_configuration" gpioLines MockGpioLineState.configuration

end MockGpioSession

namespace MockPwmSession

def validateConfiguration (device : DeviceId) (configuration : PwmConfiguration) : BusResult Unit := do
  rejectIf (configuration.periodNs = 0) (.invalidConfiguration device "PWM period must be greater than zero")
  rejectIf (configuration.periodNs < configuration.dutyCycleNs)
    (.invalidConfiguration device "PWM duty cycle must not exceed the period")

def setEnabled (enabled : Bool) : MockMethod Unit :=
  .run (ensureWritable "pwm.enable" "session access is read-only") "pwm.enable" fun device =>
    pwmChannels.withStateMut device (.disconnected device) do
      let channel ← get
      set { channel with configuration := { channel.configuration with enabled } }

def setPeriodNs (periodNs : UInt64) : MockMethod Unit :=
  .run
    (fun device access => do
      ensureWritable "pwm.set_period" "session access is read-only" device access
      rejectIf (periodNs = 0) (.invalidConfiguration device "PWM period must be greater than zero"))
    "pwm.set_period" fun device =>
      pwmChannels.withStateMut device (.disconnected device) do
        let channel ← get
        if periodNs < channel.configuration.dutyCycleNs then
          throw (.invalidConfiguration device "PWM duty cycle must not exceed the period")
        set { channel with configuration := { channel.configuration with periodNs } }

def setDutyCycleNs (dutyCycleNs : UInt64) : MockMethod Unit :=
  .run (ensureWritable "pwm.set_duty_cycle" "session access is read-only") "pwm.set_duty_cycle" fun device =>
    pwmChannels.withStateMut device (.disconnected device) do
      let channel ← get
      if channel.configuration.periodNs < dutyCycleNs then
        throw (.invalidConfiguration device "PWM duty cycle must not exceed the period")
      set { channel with configuration := { channel.configuration with dutyCycleNs } }

def configure (configuration : PwmConfiguration) : MockMethod Unit :=
  .run
    (fun device access => do
      ensureWritable "pwm.configure" "session access does not allow configuration changes" device access
      validateConfiguration device configuration)
    "pwm.configure" fun device =>
      pwmChannels.withStateMut device (.disconnected device) (modify fun channel => { channel with configuration })

def configuration : MockMethod PwmConfiguration :=
  .observe "pwm.get_configuration" pwmChannels MockPwmChannelState.configuration

end MockPwmSession

section I2c

abbrev I2cStateCall (α : Type) := Effect MockI2cDeviceState BusError α

def readFromState (length : UInt32) : I2cStateCall (List UInt8) := do
  let device ← get
  set { device with pointer := device.pointer + length.toNat }
  pure ((List.range length.toNat).map (fun index => device.memory.getD (device.pointer + index) 0))

def overwrite (memory : List UInt8) (offset : ℕ) (bytes : List UInt8) : List UInt8 :=
  let memory := memory ++ List.replicate (offset + bytes.length - memory.length) 0
  memory.take offset ++ bytes ++ memory.drop (offset + bytes.length)

def writeToState (deviceId : DeviceId) : List UInt8 → I2cStateCall Unit
  | [] => throw (.invalidRequest deviceId "i2c.write" "write payload must not be empty")
  | [offset] => modify (fun device => { device with pointer := offset.toNat })
  | offset :: bytes => modify (fun device =>
    { device with
      memory := overwrite device.memory offset.toNat bytes
      pointer := offset.toNat + bytes.length })

def writeReadState (deviceId : DeviceId) (write : List UInt8) (readLength : UInt32) :
    I2cStateCall (List UInt8) := do
  match write with
  | [offset] => modify (fun device => { device with pointer := offset.toNat })
  | write =>
    writeToState deviceId write
    modify (fun device => { device with pointer := (write.headD 0).toNat })
  readFromState readLength

def transactionState (deviceId : DeviceId) : List I2cOperation → I2cStateCall (List (List UInt8))
  | [] => pure []
  | .read length :: operations => do
    let bytes ← readFromState length
    let results ← transactionState deviceId operations
    pure (bytes :: results)
  | .write bytes :: operations => do
    writeToState deviceId bytes
    let results ← transactionState deviceId operations
    pure ([] :: results)

def rejectZeroLength (operation : String) (length : UInt32) (device : DeviceId) : BusResult Unit :=
  rejectIf (length = 0) (.invalidRequest device operation "read length must be greater than zero")

def rejectNoOperations (operations : List I2cOperation) (device : DeviceId) : BusResult Unit :=
  rejectIf (operations = [])
    (.invalidRequest device "i2c.transaction" "transaction operations must not be empty")

abbrev I2cTarget := ∀ {α : Type}, DeviceId → I2cStateCall α → HardwareCall α

variable (target : I2cTarget)

def i2cRead (length : UInt32) : MockMethod (List UInt8) :=
  .run (fun device _ => rejectZeroLength "i2c.read" length device) "i2c.read" fun device =>
    target device (readFromState length)

def i2cWrite (bytes : List UInt8) : MockMethod Unit :=
  .run unchecked "i2c.write" fun device => target device (writeToState device bytes)

def i2cWriteRead (write : List UInt8) (readLength : UInt32) : MockMethod (List UInt8) :=
  .run (fun device _ => rejectZeroLength "i2c.write_read" readLength device) "i2c.write_read" fun device =>
    target device (writeReadState device write readLength)

def i2cTransaction (operations : List I2cOperation) : MockMethod (List (List UInt8)) :=
  .run (fun device _ => rejectNoOperations operations device) "i2c.transaction" fun device =>
    target device (transactionState device operations)

end I2c

namespace MockI2cSession

def withDeviceStateMut : I2cTarget := fun device update =>
  i2cDevices.withStateMut device (.disconnected device) update

def read := i2cRead withDeviceStateMut
def write := i2cWrite withDeviceStateMut
def writeRead := i2cWriteRead withDeviceStateMut
def transaction := i2cTransaction withDeviceStateMut

end MockI2cSession

namespace MockI2cControllerSession

def withTargetDeviceStateMut (bus : UInt32) (address : UInt16) : I2cTarget := fun owner update => do
  let hardware ← get
  match hardware.i2cDevices.toList.find?
      (fun (_, device) => device.descriptor.address = some (.i2cDevice bus address)) with
  | none =>
    throw (.sessionUnavailable owner
      ("mock I2C address 0x" ++ DeviceAddress.hex 2 address.toNat ++ s!" is not available on bus {bus}"))
  | some (deviceId, _) => i2cDevices.withStateMut deviceId (.disconnected deviceId) update

def read (bus : UInt32) (address : UInt16) := i2cRead (withTargetDeviceStateMut bus address)
def write (bus : UInt32) (address : UInt16) := i2cWrite (withTargetDeviceStateMut bus address)
def writeRead (bus : UInt32) (address : UInt16) := i2cWriteRead (withTargetDeviceStateMut bus address)
def transaction (bus : UInt32) (address : UInt16) := i2cTransaction (withTargetDeviceStateMut bus address)

end MockI2cControllerSession

namespace MockSpiSession

def validateConfiguration (device : DeviceId) (configuration : SpiConfiguration) : BusResult Unit := do
  rejectIf (configuration.maxFrequencyHz = some 0)
    (.invalidConfiguration device "SPI max frequency must be greater than zero")
  rejectIf (configuration.bitsPerWord = some 0)
    (.invalidConfiguration device "SPI bits per word must be greater than zero")

def transfer (write : List UInt8) : MockMethod (List UInt8) :=
  .run
    (fun device access => do
      ensureWritable "spi.transfer" "session access is read-only" device access
      rejectIf (write = []) (.invalidRequest device "spi.transfer" "transfer payload must not be empty"))
    "spi.transfer" fun device =>
      spiDevices.withStateMut device (.disconnected device) do
        let state ← get
        set { state with lastWrite := write }
        pure (state.transferResponses[write]?.getD (List.replicate write.length 0))

def write (bytes : List UInt8) : MockMethod Unit :=
  .run
    (fun device access => do
      ensureWritable "spi.write" "session access is read-only" device access
      rejectIf (bytes = []) (.invalidRequest device "spi.write" "write payload must not be empty"))
    "spi.write" fun device =>
      spiDevices.withStateMut device (.disconnected device)
        (modify (fun state => { state with lastWrite := bytes }))

def configure (configuration : SpiConfiguration) : MockMethod Unit :=
  .run
    (fun device access => do
      ensureWritable "spi.configure" "session access does not allow configuration changes" device access
      validateConfiguration device configuration)
    "spi.configure" fun device =>
      spiDevices.withStateMut device (.disconnected device)
        (modify (fun state => { state with configuration }))

def configuration : MockMethod SpiConfiguration :=
  .observe "spi.get_configuration" spiDevices MockSpiDeviceState.configuration

end MockSpiSession

namespace MockUartSession

def validateConfiguration (device : DeviceId) (configuration : UartConfiguration) : BusResult Unit :=
  rejectIf (configuration.baudRate = 0)
    (.invalidConfiguration device "UART baud rate must be greater than zero")

def read (maxBytes : UInt32) : MockMethod (List UInt8) :=
  .run
    (fun device _ => rejectIf (maxBytes = 0)
      (.invalidRequest device "uart.read" "max_bytes must be greater than zero"))
    "uart.read" fun device =>
      uartPorts.withStateMut device (.disconnected device) do
        let port ← get
        set { port with rxBuffer := port.rxBuffer.drop maxBytes.toNat }
        pure (port.rxBuffer.take maxBytes.toNat)

def write (bytes : List UInt8) : MockMethod Unit :=
  .run
    (fun device access => do
      ensureWritable "uart.write" "session access is read-only" device access
      rejectIf (bytes = []) (.invalidRequest device "uart.write" "write payload must not be empty"))
    "uart.write" fun device =>
      uartPorts.withStateMut device (.disconnected device)
        (modify (fun port => { port with txBuffer := port.txBuffer ++ bytes }))

def flush : MockMethod Unit :=
  .run (ensureWritable "uart.flush" "session access is read-only") "uart.flush" fun _ => pure ()

def configure (configuration : UartConfiguration) : MockMethod Unit :=
  .run
    (fun device access => do
      ensureWritable "uart.configure" "session access does not allow configuration changes" device access
      validateConfiguration device configuration)
    "uart.configure" fun device =>
      uartPorts.withStateMut device (.disconnected device)
        (modify (fun port => { port with configuration }))

def configuration : MockMethod UartConfiguration :=
  .observe "uart.get_configuration" uartPorts MockUartPortState.configuration

end MockUartSession

namespace MockUsbSession

def takeQueuedUsbRead (queue : List (List UInt8)) (length : UInt32) : List UInt8 × List (List UInt8) :=
  match queue with
  | [] => (List.replicate length.toNat 0, [])
  | bytes :: queue => (bytes.take length.toNat, queue)

def rejectEndpointZero (operation kind : String) (endpoint : UInt8) (device : DeviceId) : BusResult Unit :=
  rejectIf (endpoint = 0)
    (.invalidRequest device operation s!"{kind} endpoint must be greater than zero")

def rejectNoLength (operation kind : String) (length : UInt32) (device : DeviceId) : BusResult Unit :=
  rejectIf (length = 0) (.invalidRequest device operation s!"{kind} length must be greater than zero")

def rejectNoBytes (operation kind : String) (bytes : List UInt8) (device : DeviceId) : BusResult Unit :=
  rejectIf (bytes = []) (.invalidRequest device operation s!"{kind} payload must not be empty")

def withDeviceMut {α : Type} (ownerId : DeviceId) (update : DeviceId → Effect MockUsbDeviceState BusError α)
    (device : DeviceId) : HardwareCall α :=
  usbDevices.withStateMut ownerId (.disconnected device) (update device)

variable (ownerId : DeviceId)

def controlTransfer (transfer : UsbControlTransfer) : MockMethod (List UInt8) :=
  .run
    (fun device access =>
      if transfer.setup.direction = .output then
        ensureWritable "usb.control_transfer" "session access is read-only for outbound control transfers"
          device access
      else .ok ())
    "usb.control_transfer" <| withDeviceMut ownerId fun _ => do
      if transfer.setup.direction = .output then
        modify (fun state => { state with lastControlOut := some transfer })
      let state ← get
      pure ((state.controlResponses.lookup (.of transfer)).getD [])

def bulkRead (endpoint : UInt8) (length : UInt32) : MockMethod (List UInt8) :=
  .run
    (fun device _ => do
      rejectEndpointZero "usb.bulk_read" "bulk read" endpoint device
      rejectNoLength "usb.bulk_read" "bulk read" length device)
    "usb.bulk_read" <| withDeviceMut ownerId fun _ => do
      let state ← get
      let (bytes, queue) := takeQueuedUsbRead (state.bulkInResponses[endpoint]?.getD []) length
      set { state with bulkInResponses := state.bulkInResponses.insert endpoint queue }
      pure bytes

def bulkWrite (endpoint : UInt8) (bytes : List UInt8) : MockMethod Unit :=
  .run
    (fun device access => do
      ensureWritable "usb.bulk_write" "session access is read-only" device access
      rejectEndpointZero "usb.bulk_write" "bulk write" endpoint device
      rejectNoBytes "usb.bulk_write" "bulk write" bytes device)
    "usb.bulk_write" <| withDeviceMut ownerId fun _ =>
      modify (fun state => { state with lastBulkWrites := state.lastBulkWrites.insert endpoint bytes })

def interruptRead (endpoint : UInt8) (length : UInt32) : MockMethod (List UInt8) :=
  .run
    (fun device _ => do
      rejectEndpointZero "usb.interrupt_read" "interrupt read" endpoint device
      rejectNoLength "usb.interrupt_read" "interrupt read" length device)
    "usb.interrupt_read" <| withDeviceMut ownerId fun _ => do
      let state ← get
      let (bytes, queue) := takeQueuedUsbRead (state.interruptInResponses[endpoint]?.getD []) length
      set { state with interruptInResponses := state.interruptInResponses.insert endpoint queue }
      pure bytes

def interruptWrite (transfer : UsbInterruptTransfer) : MockMethod Unit :=
  .run
    (fun device access => do
      ensureWritable "usb.interrupt_write" "session access is read-only" device access
      rejectEndpointZero "usb.interrupt_write" "interrupt write" transfer.endpoint device
      rejectNoBytes "usb.interrupt_write" "interrupt write" transfer.bytes device)
    "usb.interrupt_write" <| withDeviceMut ownerId fun _ =>
      modify (fun state =>
        { state with lastInterruptWrites := state.lastInterruptWrites.insert transfer.endpoint transfer.bytes })

def claimInterface (interfaceNumber : UInt8) (alternateSetting : Option UInt8) : MockMethod Unit :=
  .run (ensureWritable "usb.claim_interface" "session access does not allow interface claims")
    "usb.claim_interface" <| withDeviceMut ownerId fun device => do
      let state ← get
      if !state.interfaceNumbers.contains interfaceNumber then
        throw (.invalidRequest device "usb.claim_interface"
          s!"USB interface {interfaceNumber} is not present on device")
      set { state with claimedInterfaces := state.claimedInterfaces.insert interfaceNumber alternateSetting }

def releaseInterface (interfaceNumber : UInt8) : MockMethod Unit :=
  .run (ensureWritable "usb.release_interface" "session access does not allow interface release")
    "usb.release_interface" <| withDeviceMut ownerId fun _ =>
      modify (fun state => { state with claimedInterfaces := state.claimedInterfaces.erase interfaceNumber })

end MockUsbSession

end Lemnos.Mock
