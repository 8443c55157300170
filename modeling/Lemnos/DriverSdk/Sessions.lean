import Lemnos.Bus.Calls
import Lemnos.Core.Request

namespace Lemnos.Bus

open Lemnos.Core Library.Frames

def BusError.display : BusError → String
  | unsupportedInterface backend interface => s!"backend '{backend}' does not support interface '{interface}'"
  | unsupportedDevice backend deviceId => s!"backend '{backend}' does not support device '{deviceId}'"
  | accessConflict deviceId reason => s!"device '{deviceId}' access conflict: {reason}"
  | sessionUnavailable deviceId reason => s!"device '{deviceId}' session is not available: {reason}"
  | transportFailure deviceId operation reason =>
    s!"device '{deviceId}' transport failure during '{operation}': {reason}"
  | timeout deviceId operation => s!"device '{deviceId}' request '{operation}' timed out"
  | disconnected deviceId => s!"device '{deviceId}' is disconnected"
  | invalidRequest deviceId operation reason =>
    s!"device '{deviceId}' request '{operation}' is invalid: {reason}"
  | invalidConfiguration deviceId reason => s!"device '{deviceId}' configuration is invalid: {reason}"
  | permissionDenied deviceId operation reason =>
    s!"device '{deviceId}' operation '{operation}' was denied: {reason}"

section Sessions

variable (S : Type)

/-- A session keeps the descriptor that it was opened for; its calls work on what it shares with its backend. -/
structure BusSession where
  device : DeviceDescriptor
  close : Effect S BusError Unit

structure GpioSession extends BusSession S where
  readLevel : Effect S BusError GpioLevel
  writeLevel : GpioLevel → Effect S BusError Unit
  configureLine : GpioLineConfiguration → Effect S BusError Unit
  configuration : Effect S BusError GpioLineConfiguration

structure PwmSession extends BusSession S where
  setEnabled : Bool → Effect S BusError Unit
  setPeriodNs : UInt64 → Effect S BusError Unit
  setDutyCycleNs : UInt64 → Effect S BusError Unit
  configure : PwmConfiguration → Effect S BusError Unit
  configuration : Effect S BusError PwmConfiguration

structure I2cSession extends BusSession S where
  read : UInt32 → Effect S BusError (List UInt8)
  write : List UInt8 → Effect S BusError Unit
  writeRead : List UInt8 → UInt32 → Effect S BusError (List UInt8)
  transaction : List I2cOperation → Effect S BusError (List (List UInt8))

structure SpiSession extends BusSession S where
  transfer : List UInt8 → Effect S BusError (List UInt8)
  write : List UInt8 → Effect S BusError Unit
  configure : SpiConfiguration → Effect S BusError Unit
  configuration : Effect S BusError SpiConfiguration

structure UartSession extends BusSession S where
  read : UInt32 → Effect S BusError (List UInt8)
  write : List UInt8 → Effect S BusError Unit
  flush : Effect S BusError Unit
  configure : UartConfiguration → Effect S BusError Unit
  configuration : Effect S BusError UartConfiguration

structure UsbSession extends BusSession S where
  controlTransfer : UsbControlTransfer → Effect S BusError (List UInt8)
  bulkRead : UInt8 → UInt32 → Option UInt32 → Effect S BusError (List UInt8)
  bulkWrite : UInt8 → List UInt8 → Option UInt32 → Effect S BusError Unit
  interruptRead : UInt8 → UInt32 → Option UInt32 → Effect S BusError (List UInt8)
  interruptWrite : UsbInterruptTransfer → Effect S BusError Unit
  claimInterface : UInt8 → Option UInt8 → Effect S BusError Unit
  releaseInterface : UInt8 → Effect S BusError Unit

end Sessions

end Lemnos.Bus
