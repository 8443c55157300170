import Lemnos.Drivers.Answers
import Lemnos.DriverSdk.Device

namespace Lemnos.Drivers

open Lemnos.Core Bus DriverSdk Library.Frames

def directionName : GpioDirection → Value
  | .input => .string "input"
  | .output => .string "output"

def levelName : GpioLevel → Value
  | .low => .string "low"
  | .high => .string "high"

def biasName : GpioBias → Value
  | .disabled => .string "disabled"
  | .pullUp => .string "pull-up"
  | .pullDown => .string "pull-down"

def driveName : GpioDrive → Value
  | .pushPull => .string "push-pull"
  | .openDrain => .string "open-drain"
  | .openSource => .string "open-source"

def edgeName : GpioEdge → Value
  | .rising => .string "rising"
  | .falling => .string "falling"
  | .both => .string "both"

structure GpioStats where
  readOps : UInt64 := 0
  writeOps : UInt64 := 0
  configureOps : UInt64 := 0
  lastOperation : Option OperationRecord := none

namespace GpioStats

def recordRead (summary level : String) (stats : GpioStats) : GpioStats :=
  { stats with
    readOps := stats.readOps + 1
    lastOperation := recordOutputOperation "gpio.read" summary (.string level) }

def recordWrite (summary level : String) (stats : GpioStats) : GpioStats :=
  { stats with
    writeOps := stats.writeOps + 1
    lastOperation := recordOutputOperation "gpio.write" summary (.string level) }

def recordConfigure (summary : String) (stats : GpioStats) : GpioStats :=
  { stats with
    configureOps := stats.configureOps + 1
    lastOperation := recordOperation "gpio.configure" summary }

end GpioStats

abbrev GpioBoundDevice (S : Type) := SessionBound S GpioStats

namespace GpioBoundDevice

variable {S : Type} (session : GpioSession S)

def levelLabel : GpioLevel → String
  | .low => "low"
  | .high => "high"

def describe (stats : GpioStats) (configuration : GpioLineConfiguration) (level : GpioLevel) :
    DeviceStateSnapshot :=
  let state : DeviceStateSnapshot := { deviceId := session.device.id }
  let state := state.withLifecycle .idle
  let state := state.withConfig "direction" (directionName configuration.direction)
  let state := state.withConfig "active_low" (.bool configuration.activeLow)
  let state := state.withTelemetry "read_ops" (.u64 stats.readOps)
  let state := state.withTelemetry "write_ops" (.u64 stats.writeOps)
  let state := state.withTelemetry "configure_ops" (.u64 stats.configureOps)
  let state := state.withTelemetry "level" (levelName level)
  let state := withLastOperation state stats.lastOperation
  let state := state.withConfigured "bias" configuration.bias biasName
  let state := state.withConfigured "drive" configuration.drive driveName
  let state := state.withConfigured "edge" configuration.edge edgeName
  let state := state.withConfigured "debounce_us" configuration.debounceUs fun us => .u64 us.toUInt64
  state.withConfigured "initial_level" configuration.initialLevel levelName

def snapshotState : DriverCall S GpioStats DeviceStateSnapshot := do
  let configuration ← io session.device session.configuration
  let level ← io session.device session.readLevel
  let bound ← get
  pure (describe session bound.stats configuration level)

def executeGpioRequest : GpioRequest → DriverCall S GpioStats GpioResponse
  | .read => do
    let level ← io session.device session.readLevel
    modifyStats (.recordRead s!"read GPIO level {levelLabel level}" (levelLabel level))
    pure (.level level)
  | .write level => do
    io session.device (session.writeLevel level)
    modifyStats (.recordWrite s!"wrote GPIO level {levelLabel level}" (levelLabel level))
    pure .applied
  | .configure configuration => do
    io session.device (session.configureLine configuration)
    modifyStats (.recordConfigure "configured GPIO line")
    pure .applied
  | .getConfiguration => do
    let configuration ← io session.device session.configuration
    pure (.configuration configuration)

def variant : StandardVariant GpioRequest GpioResponse where
  interface := .gpio
  wrap := .gpio
  request
    | .gpio request => some request
    | _ => none
  response := .gpio
  wrap_request := by
    intro standard selected h
    cases standard <;> cases h
    rfl
  wrap_interface selected := rfl

def execute : InteractionRequest → DriverCall S GpioStats InteractionResponse :=
  executeStandardRequest variant session.device (executeGpioRequest session)

def book : GpioRequest → GpioResponse → GpioStats → GpioStats
  | .read, .level level => .recordRead s!"read GPIO level {levelLabel level}" (levelLabel level)
  | .write level, _ => .recordWrite s!"wrote GPIO level {levelLabel level}" (levelLabel level)
  | .configure _, _ => .recordConfigure "configured GPIO line"
  | _, _ => id

theorem books_executeGpioRequest (request : GpioRequest) :
    Books SessionBound.stats (executeGpioRequest session request) (book request) := by
  cases request with
  | read => exact books_io _ fun level => books_modifyStats fun stats => rfl
  | write level => exact books_io _ fun done => books_modifyStats fun stats => rfl
  | configure configuration => exact books_io _ fun done => books_modifyStats fun stats => rfl
  | getConfiguration => exact books_io _ fun configuration => books_pure fun stats => rfl

theorem yields_executeGpioRequest (request : GpioRequest) :
    Yields (GpioAnswers request) (executeGpioRequest session request) := by
  cases request with
  | read => exact .after fun level => .after fun done => .pure (.read level)
  | write level => exact .after fun done => .after fun done => .pure (.write level)
  | configure configuration => exact .after fun done => .after fun done => .pure (.configure configuration)
  | getConfiguration => exact .after fun configuration => .pure (.configuration configuration)

end GpioBoundDevice

def gpioDriver : GenericSessionDriver where
  id := "lemnos.gpio.generic"
  summary := "Generic GPIO driver bundle"
  interface := .gpio
  kinds := [.gpioLine]
  expected := "gpio-line device"
  access := .shared
  interactions := ["gpio.read", "gpio.write", "gpio.configure", "gpio.get_configuration"]

end Lemnos.Drivers
