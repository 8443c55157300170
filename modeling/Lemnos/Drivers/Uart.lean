import Lemnos.Drivers.Answers
import Lemnos.DriverSdk.Device

namespace Lemnos.Drivers

open Lemnos.Core Bus DriverSdk Library.Frames

def dataBitsName : UartDataBits → String
  | .five => "5"
  | .six => "6"
  | .seven => "7"
  | .eight => "8"

def parityName : UartParity → String
  | .none => "none"
  | .even => "even"
  | .odd => "odd"

def stopBitsName : UartStopBits → String
  | .one => "1"
  | .two => "2"

def flowControlName : UartFlowControl → String
  | .none => "none"
  | .software => "software"
  | .hardware => "hardware"

structure UartStats where
  readOps : UInt64 := 0
  writeOps : UInt64 := 0
  flushOps : UInt64 := 0
  bytesRead : UInt64 := 0
  bytesWritten : UInt64 := 0
  lastOperation : Option OperationRecord := none

namespace UartStats

def recordRead (bytes : List UInt8) (summary : String) (stats : UartStats) : UartStats :=
  let (lastOperation, bytesRead) := recordBytesReadOperation stats.bytesRead "uart.read" summary bytes
  { stats with readOps := stats.readOps + 1, bytesRead, lastOperation }

def recordWrite (bytes : List UInt8) (summary : String) (stats : UartStats) : UartStats :=
  let (lastOperation, bytesWritten) :=
    recordBytesWrittenSliceOperation stats.bytesWritten "uart.write" summary bytes
  { stats with writeOps := stats.writeOps + 1, bytesWritten, lastOperation }

def recordFlush (summary : String) (stats : UartStats) : UartStats :=
  { stats with flushOps := stats.flushOps + 1, lastOperation := recordOperation "uart.flush" summary }

end UartStats

abbrev UartBoundDevice (S : Type) := SessionBound S UartStats

namespace UartBoundDevice

variable {S : Type} (session : UartSession S)

def withAddress (device : DeviceDescriptor) (state : DeviceStateSnapshot) : DeviceStateSnapshot :=
  match device.address with
  | some (.uartPort port) => state.withConfig "port" (.string port)
  | _ => state

theorem withAddress_books (device : DeviceDescriptor) (state : DeviceStateSnapshot) :
    (withAddress device state).telemetry = state.telemetry ∧
      (withAddress device state).lastOperation = state.lastOperation := by
  unfold withAddress
  split <;> exact ⟨rfl, rfl⟩

def describe (stats : UartStats) (configuration : UartConfiguration) : DeviceStateSnapshot :=
  let state : DeviceStateSnapshot := { deviceId := session.device.id }
  let state := state.withLifecycle .idle
  let state := state.withConfig "baud_rate" (.u64 configuration.baudRate.toUInt64)
  let state := state.withConfig "data_bits" (.string (dataBitsName configuration.dataBits))
  let state := state.withConfig "parity" (.string (parityName configuration.parity))
  let state := state.withConfig "stop_bits" (.string (stopBitsName configuration.stopBits))
  let state := state.withConfig "flow_control" (.string (flowControlName configuration.flowControl))
  let state := state.withTelemetry "read_ops" (.u64 stats.readOps)
  let state := state.withTelemetry "write_ops" (.u64 stats.writeOps)
  let state := state.withTelemetry "flush_ops" (.u64 stats.flushOps)
  let state := withByteTelemetry state stats.bytesRead stats.bytesWritten
  withAddress session.device (withLastOperation state stats.lastOperation)

def snapshotState : DriverCall S UartStats DeviceStateSnapshot := do
  let configuration ← io session.device session.configuration
  let bound ← get
  pure (describe session bound.stats configuration)

def executeUartRequest : UartRequest → DriverCall S UartStats UartResponse
  | .read maxBytes => do
    let bytes ← io session.device (session.read maxBytes)
    modifyStats (.recordRead bytes s!"read {bytes.length} bytes")
    pure (.bytes bytes)
  | .write bytes => do
    io session.device (session.write bytes)
    modifyStats (.recordWrite bytes s!"wrote {bytes.length} bytes")
    pure .applied
  | .configure configuration => do
    io session.device (session.configure configuration)
    pure .applied
  | .flush => do
    io session.device session.flush
    modifyStats (.recordFlush "flushed UART port")
    pure .applied
  | .getConfiguration => do
    let configuration ← io session.device session.configuration
    pure (.configuration configuration)

def variant : StandardVariant UartRequest UartResponse where
  interface := .uart
  wrap := .uart
  request
    | .uart request => some request
    | _ => none
  response := .uart
  wrap_request := by
    intro standard selected h
    cases standard <;> cases h
    rfl
  wrap_interface selected := rfl

def execute : InteractionRequest → DriverCall S UartStats InteractionResponse :=
  executeStandardRequest variant session.device (executeUartRequest session)

def book : UartRequest → UartResponse → UartStats → UartStats
  | .read _, .bytes bytes => .recordRead bytes s!"read {bytes.length} bytes"
  | .write bytes, _ => .recordWrite bytes s!"wrote {bytes.length} bytes"
  | .flush, _ => .recordFlush "flushed UART port"
  | _, _ => id

theorem books_executeUartRequest (request : UartRequest) :
    Books SessionBound.stats (executeUartRequest session request) (book request) := by
  cases request with
  | read maxBytes => exact books_io _ fun bytes => books_modifyStats fun stats => rfl
  | write bytes => exact books_io _ fun done => books_modifyStats fun stats => rfl
  | configure configuration => exact books_io _ fun done => books_pure fun stats => rfl
  | flush => exact books_io _ fun done => books_modifyStats fun stats => rfl
  | getConfiguration => exact books_io _ fun configuration => books_pure fun stats => rfl

theorem yields_executeUartRequest (request : UartRequest) :
    Yields (UartAnswers request) (executeUartRequest session request) := by
  cases request with
  | read maxBytes => exact .after fun bytes => .after fun done => .pure (.read maxBytes bytes)
  | write bytes => exact .after fun done => .after fun done => .pure (.write bytes)
  | configure configuration => exact .after fun done => .pure (.configure configuration)
  | flush => exact .after fun done => .after fun done => .pure .flush
  | getConfiguration => exact .after fun configuration => .pure (.configuration configuration)

end UartBoundDevice

def uartDriver : GenericSessionDriver where
  id := "lemnos.uart.generic"
  summary := "Generic UART driver bundle"
  interface := .uart
  kinds := [.uartPort]
  expected := "uart-port"
  access := .shared
  interactions := ["uart.read", "uart.write", "uart.configure", "uart.flush", "uart.get_configuration"]

def loopbackDevice : DeviceDescriptor :=
  { id := ⟨"uart.loopback", by decide⟩, interface := .uart, kind := .uartPort, address := some (.uartPort "lo") }

def loopback : UartSession (List UInt8) where
  device := loopbackDevice
  close := pure ()
  read maxBytes := do
    let bytes ← get
    set (bytes.drop maxBytes.toNat)
    pure (bytes.take maxBytes.toNat)
  write bytes := modify (· ++ bytes)
  flush := pure ()
  configure _ := pure ()
  configuration :=
    pure { baudRate := 115200, dataBits := .eight, parity := .none, stopBits := .one, flowControl := .none }

end Lemnos.Drivers
