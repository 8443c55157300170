import Lemnos.Core.Descriptor

namespace Lemnos.Core

inductive GpioLevel where
  | low
  | high
  deriving DecidableEq

inductive GpioDirection where
  | input
  | output
  deriving DecidableEq

inductive GpioBias where
  | disabled
  | pullUp
  | pullDown
  deriving DecidableEq

inductive GpioDrive where
  | pushPull
  | openDrain
  | openSource
  deriving DecidableEq

inductive GpioEdge where
  | rising
  | falling
  | both
  deriving DecidableEq

structure GpioLineConfiguration where
  direction : GpioDirection
  activeLow : Bool
  bias : Option GpioBias
  drive : Option GpioDrive
  edge : Option GpioEdge
  debounceUs : Option UInt32
  initialLevel : Option GpioLevel
  deriving DecidableEq

inductive GpioRequest where
  | read
  | write (level : GpioLevel)
  | configure (configuration : GpioLineConfiguration)
  | getConfiguration
  deriving DecidableEq

def GpioRequest.name : GpioRequest → String
  | read => "gpio.read"
  | write _ => "gpio.write"
  | configure _ => "gpio.configure"
  | getConfiguration => "gpio.get_configuration"

inductive GpioResponse where
  | level (level : GpioLevel)
  | configuration (configuration : GpioLineConfiguration)
  | applied
  deriving DecidableEq

inductive PwmPolarity where
  | normal
  | inversed
  deriving DecidableEq

structure PwmConfiguration where
  periodNs : UInt64
  dutyCycleNs : UInt64
  enabled : Bool
  polarity : PwmPolarity
  deriving DecidableEq

inductive PwmRequest where
  | enable (enabled : Bool)
  | configure (configuration : PwmConfiguration)
  | setPeriod (periodNs : UInt64)
  | setDutyCycle (dutyCycleNs : UInt64)
  | getConfiguration
  deriving DecidableEq

def PwmRequest.name : PwmRequest → String
  | enable _ => "pwm.enable"
  | configure _ => "pwm.configure"
  | setPeriod _ => "pwm.set_period"
  | setDutyCycle _ => "pwm.set_duty_cycle"
  | getConfiguration => "pwm.get_configuration"

inductive PwmResponse where
  | configuration (configuration : PwmConfiguration)
  | applied
  deriving DecidableEq

inductive I2cOperation where
  | read (length : UInt32)
  | write (bytes : List UInt8)
  deriving DecidableEq

inductive I2cRequest where
  | read (length : UInt32)
  | write (bytes : List UInt8)
  | writeRead (write : List UInt8) (readLength : UInt32)
  | transaction (operations : List I2cOperation)
  deriving DecidableEq

def I2cRequest.name : I2cRequest → String
  | read _ => "i2c.read"
  | write _ => "i2c.write"
  | writeRead .. => "i2c.write_read"
  | transaction _ => "i2c.transaction"

inductive I2cTransactionResult where
  | read (bytes : List UInt8)
  | write (bytesWritten : UInt32)
  deriving DecidableEq

inductive I2cResponse where
  | bytes (bytes : List UInt8)
  | transaction (results : List I2cTransactionResult)
  | applied
  deriving DecidableEq

inductive SpiMode where
  | mode0
  | mode1
  | mode2
  | mode3
  deriving DecidableEq

inductive SpiBitOrder where
  | msbFirst
  | lsbFirst
  deriving DecidableEq

structure SpiConfiguration where
  mode : SpiMode
  maxFrequencyHz : Option UInt32
  bitsPerWord : Option UInt8
  bitOrder : SpiBitOrder
  deriving DecidableEq

inductive SpiRequest where
  | transfer (write : List UInt8)
  | write (bytes : List UInt8)
  | configure (configuration : SpiConfiguration)
  | getConfiguration
  deriving DecidableEq

def SpiRequest.name : SpiRequest → String
  | transfer _ => "spi.transfer"
  | write _ => "spi.write"
  | configure _ => "spi.configure"
  | getConfiguration => "spi.get_configuration"

inductive SpiResponse where
  | bytes (bytes : List UInt8)
  | configuration (configuration : SpiConfiguration)
  | applied
  deriving DecidableEq

inductive UartParity where
  | none
  | even
  | odd
  deriving DecidableEq

inductive UartStopBits where
  | one
  | two
  deriving DecidableEq

inductive UartDataBits where
  | five
  | six
  | seven
  | eight
  deriving DecidableEq

inductive UartFlowControl where
  | none
  | software
  | hardware
  deriving DecidableEq

structure UartConfiguration where
  baudRate : UInt32
  dataBits : UartDataBits
  parity : UartParity
  stopBits : UartStopBits
  flowControl : UartFlowControl
  deriving DecidableEq

inductive UartRequest where
  | read (maxBytes : UInt32)
  | write (bytes : List UInt8)
  | configure (configuration : UartConfiguration)
  | flush
  | getConfiguration
  deriving DecidableEq

def UartRequest.name : UartRequest → String
  | read _ => "uart.read"
  | write _ => "uart.write"
  | configure _ => "uart.configure"
  | flush => "uart.flush"
  | getConfiguration => "uart.get_configuration"

inductive UartResponse where
  | bytes (bytes : List UInt8)
  | configuration (configuration : UartConfiguration)
  | applied
  deriving DecidableEq

inductive UsbDirection where
  | input
  | output
  deriving DecidableEq

inductive UsbRequestType where
  | standard
  | class_
  | vendor
  | reserved
  deriving DecidableEq

inductive UsbRecipient where
  | device
  | interface
  | endpoint
  | other
  deriving DecidableEq

structure UsbControlSetup where
  direction : UsbDirection
  requestType : UsbRequestType
  recipient : UsbRecipient
  request : UInt8
  value : UInt16
  index : UInt16
  deriving DecidableEq

structure UsbControlTransfer where
  setup : UsbControlSetup
  data : List UInt8
  timeoutMs : Option UInt32
  deriving DecidableEq

structure UsbInterruptTransfer where
  endpoint : UInt8
  bytes : List UInt8
  timeoutMs : Option UInt32
  deriving DecidableEq

inductive UsbRequest where
  | control (transfer : UsbControlTransfer)
  | bulkRead (endpoint : UInt8) (length : UInt32) (timeoutMs : Option UInt32)
  | bulkWrite (endpoint : UInt8) (bytes : List UInt8) (timeoutMs : Option UInt32)
  | interruptRead (endpoint : UInt8) (length : UInt32) (timeoutMs : Option UInt32)
  | interruptWrite (transfer : UsbInterruptTransfer)
  | claimInterface (interfaceNumber : UInt8) (alternateSetting : Option UInt8)
  | releaseInterface (interfaceNumber : UInt8)
  deriving DecidableEq

def UsbRequest.name : UsbRequest → String
  | control _ => "usb.control_transfer"
  | bulkRead .. => "usb.bulk_read"
  | bulkWrite .. => "usb.bulk_write"
  | interruptRead .. => "usb.interrupt_read"
  | interruptWrite _ => "usb.interrupt_write"
  | claimInterface .. => "usb.claim_interface"
  | releaseInterface _ => "usb.release_interface"

inductive UsbResponse where
  | bytes (bytes : List UInt8)
  | interfaceClaimed (interfaceNumber : UInt8) (alternateSetting : Option UInt8)
  | interfaceReleased (interfaceNumber : UInt8)
  | applied
  deriving DecidableEq

inductive StandardRequest where
  | gpio (request : GpioRequest)
  | pwm (request : PwmRequest)
  | i2c (request : I2cRequest)
  | spi (request : SpiRequest)
  | uart (request : UartRequest)
  | usb (request : UsbRequest)
  deriving DecidableEq

namespace StandardRequest

def interface : StandardRequest → InterfaceKind
  | gpio _ => .gpio
  | pwm _ => .pwm
  | i2c _ => .i2c
  | spi _ => .spi
  | uart _ => .uart
  | usb _ => .usb

def name : StandardRequest → String
  | gpio request => request.name
  | pwm request => request.name
  | i2c request => request.name
  | spi request => request.name
  | uart request => request.name
  | usb request => request.name

def rejection : StandardRequest → Option String
  | pwm (.configure configuration) =>
    if configuration.periodNs = 0 then some "PWM period must be greater than zero"
    else if configuration.periodNs < configuration.dutyCycleNs then
      some "PWM duty cycle must not exceed the period"
    else none
  | pwm (.setPeriod periodNs) =>
    if periodNs = 0 then some "PWM period must be greater than zero" else none
  | i2c (.read length) => if length = 0 then some "read length must be greater than zero" else none
  | i2c (.write bytes) => if bytes.isEmpty then some "write payload must not be empty" else none
  | i2c (.writeRead _ readLength) =>
    if readLength = 0 then some "read length must be greater than zero" else none
  | i2c (.transaction operations) =>
    if operations.isEmpty then some "transaction operations must not be empty" else none
  | spi (.transfer write) => if write.isEmpty then some "transfer payload must not be empty" else none
  | spi (.configure configuration) =>
    if configuration.maxFrequencyHz = some 0 then some "SPI max frequency must be greater than zero"
    else if configuration.bitsPerWord = some 0 then some "SPI bits per word must be greater than zero"
    else none
  | spi (.write bytes) => if bytes.isEmpty then some "write payload must not be empty" else none
  | uart (.read maxBytes) => if maxBytes = 0 then some "max_bytes must be greater than zero" else none
  | uart (.configure configuration) =>
    if configuration.baudRate = 0 then some "UART baud rate must be greater than zero" else none
  | uart (.write bytes) => if bytes.isEmpty then some "write payload must not be empty" else none
  | usb (.bulkRead endpoint length _) =>
    if length = 0 then some "bulk read length must be greater than zero"
    else if endpoint = 0 then some "bulk read endpoint must be greater than zero"
    else none
  | usb (.bulkWrite endpoint bytes _) =>
    if bytes.isEmpty then some "bulk write payload must not be empty"
    else if endpoint = 0 then some "bulk write endpoint must be greater than zero"
    else none
  | usb (.interruptRead endpoint length _) =>
    if length = 0 then some "interrupt read length must be greater than zero"
    else if endpoint = 0 then some "interrupt read endpoint must be greater than zero"
    else none
  | usb (.interruptWrite transfer) =>
    if transfer.bytes.isEmpty then some "interrupt write payload must not be empty"
    else if transfer.endpoint = 0 then some "interrupt write endpoint must be greater than zero"
    else none
  | usb (.control transfer) =>
    if transfer.setup.direction = .input ∧ transfer.data.isEmpty then
      some "control read buffer must not be empty"
    else none
  | _ => none

def validate (request : StandardRequest) : CoreResult Unit :=
  match request.rejection with
  | some reason => .error (.invalidRequest request.name reason)
  | none => .ok ()

end StandardRequest

inductive StandardResponse where
  | gpio (response : GpioResponse)
  | pwm (response : PwmResponse)
  | i2c (response : I2cResponse)
  | spi (response : SpiResponse)
  | uart (response : UartResponse)
  | usb (response : UsbResponse)
  deriving DecidableEq

structure CustomInteractionRequest where
  id : InteractionId
  input : Option Value
  deriving DecidableEq

structure CustomInteractionResponse where
  id : InteractionId
  output : Option Value
  deriving DecidableEq

inductive InteractionRequest where
  | standard (request : StandardRequest)
  | custom (request : CustomInteractionRequest)
  deriving DecidableEq

def InteractionRequest.validate : InteractionRequest → CoreResult Unit
  | standard request => request.validate
  | custom _ => .ok ()

inductive InteractionResponse where
  | standard (response : StandardResponse)
  | custom (response : CustomInteractionResponse)
  deriving DecidableEq

structure DeviceRequest where
  deviceId : DeviceId
  interaction : InteractionRequest
  deriving DecidableEq

namespace DeviceRequest

def validate (request : DeviceRequest) : CoreResult Unit :=
  request.interaction.validate

def validateFor (request : DeviceRequest) (device : DeviceDescriptor) : CoreResult Unit := do
  request.validate
  match request.interaction with
  | .standard standard =>
    if standard.interface ≠ device.interface then
      throw (.requestInterfaceMismatch standard.name device.interface)
  | .custom _ => pure ()

end DeviceRequest

structure DeviceResponse where
  deviceId : DeviceId
  interaction : InteractionResponse
  deriving DecidableEq

end Lemnos.Core
