import Lemnos.Drivers.Answers
import Lemnos.DriverSdk.Device

namespace Lemnos.Drivers

open Lemnos.Core Bus DriverSdk Library.Frames

def modeName : SpiMode → String
  | .mode0 => "mode0"
  | .mode1 => "mode1"
  | .mode2 => "mode2"
  | .mode3 => "mode3"

def bitOrderName : SpiBitOrder → String
  | .msbFirst => "msb-first"
  | .lsbFirst => "lsb-first"

structure SpiStats where
  transferOps : UInt64 := 0
  writeOps : UInt64 := 0
  bytesRead : UInt64 := 0
  bytesWritten : UInt64 := 0
  lastOperation : Option OperationRecord := none

namespace SpiStats

def recordTransfer (written read : List UInt8) (summary : String) (stats : SpiStats) : SpiStats :=
  let (lastOperation, bytesRead) := recordBytesReadOperation stats.bytesRead "spi.transfer" summary read
  { stats with
    transferOps := stats.transferOps + 1
    bytesWritten := stats.bytesWritten + UInt64.ofNat written.length
    bytesRead
    lastOperation }

def recordWrite (bytes : List UInt8) (summary : String) (stats : SpiStats) : SpiStats :=
  let (lastOperation, bytesWritten) :=
    recordBytesWrittenSliceOperation stats.bytesWritten "spi.write" summary bytes
  { stats with writeOps := stats.writeOps + 1, bytesWritten, lastOperation }

end SpiStats

abbrev SpiBoundDevice (S : Type) := SessionBound S SpiStats

namespace SpiBoundDevice

variable {S : Type} (session : SpiSession S)

def withAddress (device : DeviceDescriptor) (state : DeviceStateSnapshot) : DeviceStateSnapshot :=
  match device.address with
  | some (.spiDevice bus chipSelect) =>
    (state.withConfig "bus" (.u64 bus.toUInt64)).withConfig "chip_select" (.u64 chipSelect.toUInt64)
  | _ => state

theorem withAddress_books (device : DeviceDescriptor) (state : DeviceStateSnapshot) :
    (withAddress device state).telemetry = state.telemetry ∧
      (withAddress device state).lastOperation = state.lastOperation := by
  unfold withAddress
  split <;> exact ⟨rfl, rfl⟩

def describe (stats : SpiStats) (configuration : SpiConfiguration) : DeviceStateSnapshot :=
  let state : DeviceStateSnapshot := { deviceId := session.device.id }
  let state := state.withLifecycle .idle
  let state := state.withConfig "mode" (.string (modeName configuration.mode))
  let state := state.withConfig "bit_order" (.string (bitOrderName configuration.bitOrder))
  let state := state.withTelemetry "transfer_ops" (.u64 stats.transferOps)
  let state := state.withTelemetry "write_ops" (.u64 stats.writeOps)
  let state := withByteTelemetry state stats.bytesRead stats.bytesWritten
  let state := state.withConfigured "max_frequency_hz" configuration.maxFrequencyHz fun hz => .u64 hz.toUInt64
  let state := state.withConfigured "bits_per_word" configuration.bitsPerWord fun bits => .u64 bits.toUInt64
  withAddress session.device (withLastOperation state stats.lastOperation)

def snapshotState : DriverCall S SpiStats DeviceStateSnapshot := do
  let configuration ← io session.device session.configuration
  let bound ← get
  pure (describe session bound.stats configuration)

def executeSpiRequest : SpiRequest → DriverCall S SpiStats SpiResponse
  | .transfer write => do
    let bytes ← io session.device (session.transfer write)
    modifyStats (.recordTransfer write bytes s!"transferred {write.length} bytes")
    pure (.bytes bytes)
  | .write bytes => do
    io session.device (session.write bytes)
    modifyStats (.recordWrite bytes s!"wrote {bytes.length} bytes")
    pure .applied
  | .configure configuration => do
    io session.device (session.configure configuration)
    pure .applied
  | .getConfiguration => do
    let configuration ← io session.device session.configuration
    pure (.configuration configuration)

def variant : StandardVariant SpiRequest SpiResponse where
  interface := .spi
  wrap := .spi
  request
    | .spi request => some request
    | _ => none
  response := .spi
  wrap_request := by
    intro standard selected h
    cases standard <;> cases h
    rfl
  wrap_interface selected := rfl

def execute : InteractionRequest → DriverCall S SpiStats InteractionResponse :=
  executeStandardRequest variant session.device (executeSpiRequest session)

def book : SpiRequest → SpiResponse → SpiStats → SpiStats
  | .transfer write, .bytes bytes => .recordTransfer write bytes s!"transferred {write.length} bytes"
  | .write bytes, _ => .recordWrite bytes s!"wrote {bytes.length} bytes"
  | _, _ => id

theorem books_executeSpiRequest (request : SpiRequest) :
    Books SessionBound.stats (executeSpiRequest session request) (book request) := by
  cases request with
  | transfer write => exact books_io _ fun bytes => books_modifyStats fun stats => rfl
  | write bytes => exact books_io _ fun done => books_modifyStats fun stats => rfl
  | configure configuration => exact books_io _ fun done => books_pure fun stats => rfl
  | getConfiguration => exact books_io _ fun configuration => books_pure fun stats => rfl

theorem yields_executeSpiRequest (request : SpiRequest) :
    Yields (SpiAnswers request) (executeSpiRequest session request) := by
  cases request with
  | transfer write => exact .after fun bytes => .after fun done => .pure (.transfer write bytes)
  | write bytes => exact .after fun done => .after fun done => .pure (.write bytes)
  | configure configuration => exact .after fun done => .pure (.configure configuration)
  | getConfiguration => exact .after fun configuration => .pure (.configuration configuration)

end SpiBoundDevice

def spiDriver : GenericSessionDriver where
  id := "lemnos.spi.generic"
  summary := "Generic SPI driver bundle"
  interface := .spi
  kinds := [.spiDevice]
  expected := "spi-device"
  access := .shared
  interactions := ["spi.transfer", "spi.write", "spi.configure", "spi.get_configuration"]

end Lemnos.Drivers
