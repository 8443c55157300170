import Lemnos.Core.SessionCapabilities
import Lemnos.Mock.Machines
import Lemnos.Mock.UsbOwnership

/-! The devices that a test puts into the mock hardware. -/

namespace Lemnos.Mock

open Lemnos.Core Bus Linux Library.OrderedMap

/-- A descriptor from its builder; `none` is the panic of a name that makes no id. -/
def describedDevice (id : String) (kind : DeviceKind) (describe : DeviceDescriptor → DeviceDescriptor) :
    Option DeviceDescriptor := do
  let builder ← (DeviceDescriptor.builderForKind id kind).toOption
  (describe builder).build.toOption

namespace MockGpioLine

def idText (chipName : String) (offset : UInt32) : String := s!"mock.gpio.{chipName}.{offset}"

def describe (chipName : String) (offset : UInt32) (builder : DeviceDescriptor) : DeviceDescriptor :=
  let builder := { builder with
    displayName := some s!"{chipName}:{offset}"
    summary := some "Mock GPIO line"
    address := some (.gpioLine chipName offset) }
  let builder := (builder.withDriverHint (some "lemnos.gpio.generic")).withLabel "chip_name" chipName
    |> withNumber "offset" offset.toUInt64
  configuredBuilderWithCapabilities builder gpioSessionCapabilities

def new (chipName : String) (offset : UInt32) : Option MockGpioLineState :=
  (describedDevice (idText chipName offset) .gpioLine (describe chipName offset)).map fun descriptor =>
    { descriptor
      level := .low
      configuration :=
        { direction := .input, activeLow := false, bias := none, drive := none, edge := none, debounceUs := none,
          initialLevel := none } }

def withLevel (line : MockGpioLineState) (level : GpioLevel) : MockGpioLineState := { line with level }

def withConfiguration (line : MockGpioLineState) (configuration : GpioLineConfiguration) : MockGpioLineState :=
  { line with level := configuration.initialLevel.getD line.level, configuration }

def withLineName (line : MockGpioLineState) (lineName : String) : MockGpioLineState :=
  { line with descriptor := line.descriptor.withLabel "line_name" lineName }

end MockGpioLine

namespace MockPwmChannel

def idText (chipName : String) (channel : UInt32) : String := s!"mock.pwm.{chipName}.{channel}"

def defaultPeriodNs : UInt64 := 20000000

def describe (chipName : String) (channel : UInt32) (builder : DeviceDescriptor) : DeviceDescriptor :=
  let builder := { builder with
    displayName := some s!"{chipName}:{channel}"
    summary := some "Mock PWM channel"
    address := some (.pwmChannel chipName channel) }
  let builder := (builder.withDriverHint (some "lemnos.pwm.generic")).withLabel "chip_name" chipName
    |> withText "chip_name" chipName
    |> withNumber "channel" channel.toUInt64
  configuredBuilderWithCapabilities builder pwmSessionCapabilities

def new (chipName : String) (channel : UInt32) : Option MockPwmChannelState :=
  (describedDevice (idText chipName channel) .pwmChannel (describe chipName channel)).map fun descriptor =>
    { descriptor
      configuration := { periodNs := defaultPeriodNs, dutyCycleNs := 0, enabled := false, polarity := .normal } }

def withDisplayName (channel : MockPwmChannelState) (displayName : String) : MockPwmChannelState :=
  { channel with descriptor := { channel.descriptor with displayName := some displayName } }

def withConfiguration (channel : MockPwmChannelState) (configuration : PwmConfiguration) :
    Option MockPwmChannelState := do
  let _ ← (MockPwmSession.validateConfiguration channel.descriptor.id configuration).toOption
  pure { channel with configuration }

end MockPwmChannel

namespace MockI2cDevice

def idText (bus : UInt32) (address : UInt16) : String :=
  s!"mock.i2c.bus{bus}." ++ "0x" ++ DeviceAddress.hex 2 address.toNat

def defaultMemorySize : ℕ := 256

def describe (bus : UInt32) (address : UInt16) (builder : DeviceDescriptor) : DeviceDescriptor :=
  let builder := { builder with
    displayName := some (s!"i2c-{bus}-" ++ "0x" ++ DeviceAddress.hex 2 address.toNat)
    summary := some "Mock I2C device"
    address := some (.i2cDevice bus address) }
  let builder := (builder.withDriverHint (some "lemnos.i2c.generic")).withLabel "bus" (toString bus)
    |> withNumber "bus" bus.toUInt64
    |> withNumber "address" address.toUInt64
  configuredBuilderWithCapabilities builder i2cConfiguredCapabilities

def new (bus : UInt32) (address : UInt16) : Option MockI2cDeviceState :=
  (describedDevice (idText bus address) .i2cDevice (describe bus address)).map fun descriptor =>
    { descriptor, memory := List.replicate defaultMemorySize 0, pointer := 0 }

def withDisplayName (device : MockI2cDeviceState) (displayName : String) : MockI2cDeviceState :=
  { device with descriptor := { device.descriptor with displayName := some displayName } }

def withMemory (device : MockI2cDeviceState) (memory : List UInt8) : MockI2cDeviceState :=
  { device with memory := if memory.isEmpty then List.replicate defaultMemorySize 0 else memory }

def withBytes (device : MockI2cDeviceState) (offset : UInt8) (bytes : List UInt8) : MockI2cDeviceState :=
  { device with memory := overwrite device.memory offset.toNat bytes }

def withU8 (device : MockI2cDeviceState) (offset value : UInt8) : MockI2cDeviceState :=
  withBytes device offset [value]

def withBeU16 (device : MockI2cDeviceState) (offset : UInt8) (value : UInt16) : MockI2cDeviceState :=
  withBytes device offset [(value >>> 8).toUInt8, value.toUInt8]

def withLeU16 (device : MockI2cDeviceState) (offset : UInt8) (value : UInt16) : MockI2cDeviceState :=
  withBytes device offset [value.toUInt8, (value >>> 8).toUInt8]

def withBeI16 (device : MockI2cDeviceState) (offset : UInt8) (value : Int16) : MockI2cDeviceState :=
  withBeU16 device offset value.toUInt16

def withLeI16 (device : MockI2cDeviceState) (offset : UInt8) (value : Int16) : MockI2cDeviceState :=
  withLeU16 device offset value.toUInt16

def withPointer (device : MockI2cDeviceState) (pointer : ℕ) : MockI2cDeviceState := { device with pointer }

end MockI2cDevice

namespace MockSpiDevice

def idText (bus : UInt32) (chipSelect : UInt16) : String := s!"mock.spi.bus{bus}.cs{chipSelect}"

def describe (bus : UInt32) (chipSelect : UInt16) (builder : DeviceDescriptor) : DeviceDescriptor :=
  let builder := { builder with
    displayName := some s!"spi-{bus}.{chipSelect}"
    summary := some "Mock SPI device"
    address := some (.spiDevice bus chipSelect) }
  let builder := (builder.withDriverHint (some "lemnos.spi.generic")).withLabel "bus" (toString bus)
    |> withNumber "bus" bus.toUInt64
    |> withNumber "chip_select" chipSelect.toUInt64
  configuredBuilderWithCapabilities builder spiConfiguredCapabilities

def new (bus : UInt32) (chipSelect : UInt16) : Option MockSpiDeviceState :=
  (describedDevice (idText bus chipSelect) .spiDevice (describe bus chipSelect)).map fun descriptor =>
    { descriptor
      configuration := { mode := .mode0, maxFrequencyHz := some 1000000, bitsPerWord := some 8, bitOrder := .msbFirst }
      transferResponses := ∅
      lastWrite := [] }

def withDisplayName (device : MockSpiDeviceState) (displayName : String) : MockSpiDeviceState :=
  { device with descriptor := { device.descriptor with displayName := some displayName } }

def withConfiguration (device : MockSpiDeviceState) (configuration : SpiConfiguration) : Option MockSpiDeviceState := do
  let _ ← (MockSpiSession.validateConfiguration device.descriptor.id configuration).toOption
  pure { device with configuration }

def withTransferResponse (device : MockSpiDeviceState) (write read : List UInt8) : MockSpiDeviceState :=
  { device with transferResponses := device.transferResponses.insert write read }

end MockSpiDevice

namespace MockUartPort

def idText (port : String) : String := s!"mock.uart.{port}"

def describe (port : String) (builder : DeviceDescriptor) : DeviceDescriptor :=
  let builder := { builder with
    displayName := some port
    summary := some "Mock UART port"
    address := some (.uartPort port) }
  let builder := (builder.withDriverHint (some "lemnos.uart.generic")).withLabel "port" port
    |> withText "port" port
  configuredBuilderWithCapabilities builder uartSessionCapabilities

def new (port : String) : Option MockUartPortState :=
  (describedDevice (idText port) .uartPort (describe port)).map fun descriptor =>
    { descriptor
      configuration :=
        { baudRate := 115200, dataBits := .eight, parity := .none, stopBits := .one, flowControl := .none }
      rxBuffer := []
      txBuffer := [] }

def withDisplayName (port : MockUartPortState) (displayName : String) : MockUartPortState :=
  { port with descriptor := { port.descriptor with displayName := some displayName } }

def withConfiguration (port : MockUartPortState) (configuration : UartConfiguration) : Option MockUartPortState := do
  let _ ← (MockUartSession.validateConfiguration port.descriptor.id configuration).toOption
  pure { port with configuration }

def withRxBytes (port : MockUartPortState) (bytes : List UInt8) : MockUartPortState :=
  { port with rxBuffer := port.rxBuffer ++ bytes }

end MockUartPort

namespace MockUsbDevice

def withControlResponse (device : MockUsbDevice) (transfer : UsbControlTransfer) (response : List UInt8) :
    MockUsbDevice :=
  let key := MockUsbControlKey.of transfer
  { device with
    controlResponses := (key, response) :: device.controlResponses.filter fun entry => entry.1 ≠ key }

def withBulkInResponse (device : MockUsbDevice) (endpoint : UInt8) (bytes : List UInt8) : MockUsbDevice :=
  let responses := device.bulkInResponses[endpoint]?.getD []
  { device with bulkInResponses := device.bulkInResponses.insert endpoint (responses ++ [bytes]) }

def withInterruptInResponse (device : MockUsbDevice) (endpoint : UInt8) (bytes : List UInt8) : MockUsbDevice :=
  let responses := device.interruptInResponses[endpoint]?.getD []
  { device with interruptInResponses := device.interruptInResponses.insert endpoint (responses ++ [bytes]) }

end MockUsbDevice

end Lemnos.Mock
