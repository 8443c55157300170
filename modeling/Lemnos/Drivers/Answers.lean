import Mathlib.Algebra.GroupWithZero.Nat
import Lemnos.Core.Request

namespace Lemnos.Drivers

open Lemnos.Core

inductive OperationAnswered : I2cOperation → I2cTransactionResult → Prop where
  | read (length : UInt32) (bytes : List UInt8) : OperationAnswered (.read length) (.read bytes)
  | write (bytes : List UInt8) : OperationAnswered (.write bytes) (.write (UInt32.ofNat bytes.length))

inductive GpioAnswers : GpioRequest → GpioResponse → Prop where
  | read (level : GpioLevel) : GpioAnswers .read (.level level)
  | write (level : GpioLevel) : GpioAnswers (.write level) .applied
  | configure (asked : GpioLineConfiguration) : GpioAnswers (.configure asked) .applied
  | configuration (configuration : GpioLineConfiguration) :
    GpioAnswers .getConfiguration (.configuration configuration)

inductive PwmAnswers : PwmRequest → PwmResponse → Prop where
  | enable (enabled : Bool) : PwmAnswers (.enable enabled) .applied
  | configure (asked : PwmConfiguration) : PwmAnswers (.configure asked) .applied
  | setPeriod (periodNs : UInt64) : PwmAnswers (.setPeriod periodNs) .applied
  | setDutyCycle (dutyCycleNs : UInt64) : PwmAnswers (.setDutyCycle dutyCycleNs) .applied
  | configuration (configuration : PwmConfiguration) :
    PwmAnswers .getConfiguration (.configuration configuration)

inductive I2cAnswers : I2cRequest → I2cResponse → Prop where
  | read (length : UInt32) (bytes : List UInt8) : I2cAnswers (.read length) (.bytes bytes)
  | write (bytes : List UInt8) : I2cAnswers (.write bytes) .applied
  | writeRead (write : List UInt8) (readLength : UInt32) (bytes : List UInt8) :
    I2cAnswers (.writeRead write readLength) (.bytes bytes)
  | transaction {operations : List I2cOperation} {results : List I2cTransactionResult}
    (h : List.Forall₂ OperationAnswered operations results) :
    I2cAnswers (.transaction operations) (.transaction results)

inductive SpiAnswers : SpiRequest → SpiResponse → Prop where
  | transfer (write bytes : List UInt8) : SpiAnswers (.transfer write) (.bytes bytes)
  | write (bytes : List UInt8) : SpiAnswers (.write bytes) .applied
  | configure (asked : SpiConfiguration) : SpiAnswers (.configure asked) .applied
  | configuration (configuration : SpiConfiguration) :
    SpiAnswers .getConfiguration (.configuration configuration)

inductive UartAnswers : UartRequest → UartResponse → Prop where
  | read (maxBytes : UInt32) (bytes : List UInt8) : UartAnswers (.read maxBytes) (.bytes bytes)
  | write (bytes : List UInt8) : UartAnswers (.write bytes) .applied
  | configure (asked : UartConfiguration) : UartAnswers (.configure asked) .applied
  | flush : UartAnswers .flush .applied
  | configuration (configuration : UartConfiguration) :
    UartAnswers .getConfiguration (.configuration configuration)

inductive UsbAnswers : UsbRequest → UsbResponse → Prop where
  | control (transfer : UsbControlTransfer) (bytes : List UInt8) : UsbAnswers (.control transfer) (.bytes bytes)
  | bulkRead (endpoint : UInt8) (length : UInt32) (timeoutMs : Option UInt32) (bytes : List UInt8) :
    UsbAnswers (.bulkRead endpoint length timeoutMs) (.bytes bytes)
  | bulkWrite (endpoint : UInt8) (bytes : List UInt8) (timeoutMs : Option UInt32) :
    UsbAnswers (.bulkWrite endpoint bytes timeoutMs) .applied
  | interruptRead (endpoint : UInt8) (length : UInt32) (timeoutMs : Option UInt32) (bytes : List UInt8) :
    UsbAnswers (.interruptRead endpoint length timeoutMs) (.bytes bytes)
  | interruptWrite (transfer : UsbInterruptTransfer) : UsbAnswers (.interruptWrite transfer) .applied
  | claim (number : UInt8) (alternateSetting : Option UInt8) :
    UsbAnswers (.claimInterface number alternateSetting) (.interfaceClaimed number alternateSetting)
  | release (number : UInt8) : UsbAnswers (.releaseInterface number) (.interfaceReleased number)

inductive Answers : StandardRequest → StandardResponse → Prop where
  | gpio {request : GpioRequest} {response : GpioResponse} (answers : GpioAnswers request response) :
    Answers (.gpio request) (.gpio response)
  | pwm {request : PwmRequest} {response : PwmResponse} (answers : PwmAnswers request response) :
    Answers (.pwm request) (.pwm response)
  | i2c {request : I2cRequest} {response : I2cResponse} (answers : I2cAnswers request response) :
    Answers (.i2c request) (.i2c response)
  | spi {request : SpiRequest} {response : SpiResponse} (answers : SpiAnswers request response) :
    Answers (.spi request) (.spi response)
  | uart {request : UartRequest} {response : UartResponse} (answers : UartAnswers request response) :
    Answers (.uart request) (.uart response)
  | usb {request : UsbRequest} {response : UsbResponse} (answers : UsbAnswers request response) :
    Answers (.usb request) (.usb response)

def I2cTransactionResult.bytesRead : I2cTransactionResult → ℕ
  | .read bytes => bytes.length
  | .write _ => 0

def I2cOperation.bytesWritten : I2cOperation → ℕ
  | .read _ => 0
  | .write bytes => bytes.length

def bytesReadBy : StandardRequest → StandardResponse → ℕ
  | .i2c (.transaction _), .i2c (.transaction results) => (results.map I2cTransactionResult.bytesRead).sum
  | .usb (.control transfer), .usb (.bytes bytes) =>
    if transfer.setup.direction = .input then bytes.length else 0
  | _, .i2c (.bytes bytes) | _, .spi (.bytes bytes) | _, .uart (.bytes bytes) | _, .usb (.bytes bytes) =>
    bytes.length
  | _, _ => 0

def bytesWrittenBy : StandardRequest → ℕ
  | .i2c (.write bytes) | .i2c (.writeRead bytes _) => bytes.length
  | .i2c (.transaction operations) => (operations.map I2cOperation.bytesWritten).sum
  | .spi (.transfer bytes) | .spi (.write bytes) | .uart (.write bytes) | .usb (.bulkWrite _ bytes _) =>
    bytes.length
  | .usb (.interruptWrite transfer) => transfer.bytes.length
  | .usb (.control transfer) => if transfer.setup.direction = .output then transfer.data.length else 0
  | _ => 0

end Lemnos.Drivers
