import Lemnos.Drivers.Answers
import Lemnos.DriverSdk.Device

namespace Lemnos.Drivers

open Lemnos.Core Bus DriverSdk Library.Frames

def polarityName : PwmPolarity → String
  | .normal => "normal"
  | .inversed => "inversed"

structure PwmStats where
  enableOps : UInt64 := 0
  configureOps : UInt64 := 0
  setPeriodOps : UInt64 := 0
  setDutyCycleOps : UInt64 := 0
  lastOperation : Option OperationRecord := none

namespace PwmStats

def recordEnable (enabled : Bool) (summary : String) (stats : PwmStats) : PwmStats :=
  { stats with
    enableOps := stats.enableOps + 1
    lastOperation := recordOutputOperation "pwm.enable" summary (.bool enabled) }

def recordConfigure (periodNs dutyCycleNs : UInt64) (summary : String) (stats : PwmStats) : PwmStats :=
  { stats with
    configureOps := stats.configureOps + 1
    lastOperation := recordOutputOperation "pwm.configure" summary (.string s!"{periodNs}:{dutyCycleNs}") }

def recordSetPeriod (periodNs : UInt64) (summary : String) (stats : PwmStats) : PwmStats :=
  { stats with
    setPeriodOps := stats.setPeriodOps + 1
    lastOperation := recordOutputOperation "pwm.set_period" summary (.u64 periodNs) }

def recordSetDutyCycle (dutyCycleNs : UInt64) (summary : String) (stats : PwmStats) : PwmStats :=
  { stats with
    setDutyCycleOps := stats.setDutyCycleOps + 1
    lastOperation := recordOutputOperation "pwm.set_duty_cycle" summary (.u64 dutyCycleNs) }

end PwmStats

structure DutyCycleArithmetic where
  quotient : UInt64 → UInt64 → OrderedFloat
  percent : OrderedFloat → OrderedFloat

def zeroRatio : OrderedFloat := ⟨0, by decide⟩

def DutyCycleArithmetic.ratio (arithmetic : DutyCycleArithmetic) (configuration : PwmConfiguration) :
    OrderedFloat :=
  if configuration.periodNs = 0 then zeroRatio
  else arithmetic.quotient configuration.dutyCycleNs configuration.periodNs

def zeroRatios : DutyCycleArithmetic := ⟨fun _ _ => zeroRatio, id⟩

abbrev PwmBoundDevice (S : Type) := SessionBound S PwmStats

namespace PwmBoundDevice

variable {S : Type} (arithmetic : DutyCycleArithmetic) (session : PwmSession S)

def withAddress (device : DeviceDescriptor) (state : DeviceStateSnapshot) : DeviceStateSnapshot :=
  match device.address with
  | some (.pwmChannel chipName channel) =>
    (state.withConfig "chip_name" (.string chipName)).withConfig "channel" (.u64 channel.toUInt64)
  | _ => state

theorem withAddress_books (device : DeviceDescriptor) (state : DeviceStateSnapshot) :
    (withAddress device state).telemetry = state.telemetry ∧
      (withAddress device state).lastOperation = state.lastOperation := by
  unfold withAddress
  split <;> exact ⟨rfl, rfl⟩

def describe (stats : PwmStats) (configuration : PwmConfiguration) : DeviceStateSnapshot :=
  let state : DeviceStateSnapshot := { deviceId := session.device.id }
  let state := state.withLifecycle .idle
  let state := state.withConfig "period_ns" (.u64 configuration.periodNs)
  let state := state.withConfig "duty_cycle_ns" (.u64 configuration.dutyCycleNs)
  let state := state.withConfig "enabled" (.bool configuration.enabled)
  let state := state.withTelemetry "enable_ops" (.u64 stats.enableOps)
  let state := state.withTelemetry "configure_ops" (.u64 stats.configureOps)
  let state := state.withTelemetry "set_period_ops" (.u64 stats.setPeriodOps)
  let state := state.withTelemetry "set_duty_cycle_ops" (.u64 stats.setDutyCycleOps)
  let state := state.withConfig "polarity" (.string (polarityName configuration.polarity))
  let state := withLastOperation state stats.lastOperation
  let state := withAddress session.device state
  let state := state.withTelemetry "duty_cycle_ratio" (.f64 (arithmetic.ratio configuration))
  state.withTelemetry "duty_cycle_percent" (.f64 (arithmetic.percent (arithmetic.ratio configuration)))

def snapshotState : DriverCall S PwmStats DeviceStateSnapshot := do
  let configuration ← io session.device session.configuration
  let bound ← get
  pure (describe arithmetic session bound.stats configuration)

def executePwmRequest : PwmRequest → DriverCall S PwmStats PwmResponse
  | .enable enabled => do
    io session.device (session.setEnabled enabled)
    modifyStats (.recordEnable enabled s!"set PWM enabled to {enabled}")
    pure .applied
  | .configure configuration => do
    io session.device (session.configure configuration)
    modifyStats (.recordConfigure configuration.periodNs configuration.dutyCycleNs "configured PWM channel")
    pure .applied
  | .setPeriod periodNs => do
    io session.device (session.setPeriodNs periodNs)
    modifyStats (.recordSetPeriod periodNs s!"set PWM period to {periodNs} ns")
    pure .applied
  | .setDutyCycle dutyCycleNs => do
    io session.device (session.setDutyCycleNs dutyCycleNs)
    modifyStats (.recordSetDutyCycle dutyCycleNs s!"set PWM duty cycle to {dutyCycleNs} ns")
    pure .applied
  | .getConfiguration => do
    let configuration ← io session.device session.configuration
    pure (.configuration configuration)

def variant : StandardVariant PwmRequest PwmResponse where
  interface := .pwm
  wrap := .pwm
  request
    | .pwm request => some request
    | _ => none
  response := .pwm
  wrap_request := by
    intro standard selected h
    cases standard <;> cases h
    rfl
  wrap_interface selected := rfl

def execute : InteractionRequest → DriverCall S PwmStats InteractionResponse :=
  executeStandardRequest variant session.device (executePwmRequest session)

def book : PwmRequest → PwmStats → PwmStats
  | .enable enabled => .recordEnable enabled s!"set PWM enabled to {enabled}"
  | .configure configuration =>
    .recordConfigure configuration.periodNs configuration.dutyCycleNs "configured PWM channel"
  | .setPeriod periodNs => .recordSetPeriod periodNs s!"set PWM period to {periodNs} ns"
  | .setDutyCycle dutyCycleNs => .recordSetDutyCycle dutyCycleNs s!"set PWM duty cycle to {dutyCycleNs} ns"
  | .getConfiguration => id

theorem books_executePwmRequest (request : PwmRequest) :
    Books SessionBound.stats (executePwmRequest session request) fun _ => book request := by
  cases request with
  | enable enabled => exact books_io _ fun done => books_modifyStats fun stats => rfl
  | configure configuration => exact books_io _ fun done => books_modifyStats fun stats => rfl
  | setPeriod periodNs => exact books_io _ fun done => books_modifyStats fun stats => rfl
  | setDutyCycle dutyCycleNs => exact books_io _ fun done => books_modifyStats fun stats => rfl
  | getConfiguration => exact books_io _ fun configuration => books_pure fun stats => rfl

theorem yields_executePwmRequest (request : PwmRequest) :
    Yields (PwmAnswers request) (executePwmRequest session request) := by
  cases request with
  | enable enabled => exact .after fun done => .after fun done => .pure (.enable enabled)
  | configure configuration => exact .after fun done => .after fun done => .pure (.configure configuration)
  | setPeriod periodNs => exact .after fun done => .after fun done => .pure (.setPeriod periodNs)
  | setDutyCycle dutyCycleNs => exact .after fun done => .after fun done => .pure (.setDutyCycle dutyCycleNs)
  | getConfiguration => exact .after fun configuration => .pure (.configuration configuration)

end PwmBoundDevice

def pwmDriver : GenericSessionDriver where
  id := "lemnos.pwm.generic"
  summary := "Generic PWM driver bundle"
  interface := .pwm
  kinds := [.pwmChannel]
  expected := "pwm-channel device"
  access := .shared
  interactions := ["pwm.enable", "pwm.configure", "pwm.set_period", "pwm.set_duty_cycle", "pwm.get_configuration"]

end Lemnos.Drivers
