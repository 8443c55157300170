import Lemnos.Core.Request
import Lemnos.Library.Decimal
import Lemnos.Linux.GpioCdev
import Lemnos.Linux.Session
import Lemnos.Linux.Sysfs

namespace Lemnos.Linux

open Lemnos.Core Bus Library Library.Frames

namespace LinuxPaths

variable (paths : LinuxPaths)

def pwmChipRoot (chipName : String) : String := joinPath paths.pwmClassRoot chipName

def pwmChannelRoot (chipName : String) (channel : UInt32) : String :=
  joinPath (paths.pwmChipRoot chipName) s!"pwm{channel}"

def pwmExportPath (chipName : String) : String := joinPath (paths.pwmChipRoot chipName) "export"

def pwmUnexportPath (chipName : String) : String := joinPath (paths.pwmChipRoot chipName) "unexport"

end LinuxPaths

def pwmChannelAddress (device : DeviceDescriptor) : Option (String × UInt32) :=
  match device.address with
  | some (.pwmChannel chipName channel) => some (chipName, channel)
  | _ => none

abbrev Pwm (α : Type) := Effect Sysfs BusError α

def ensureChannelExported (host : SysfsHost) (paths : LinuxPaths) (transportConfig : LinuxTransportConfig)
    (chipName : String) (channel : UInt32) (channelRoot : String) (device : DeviceDescriptor) : Pwm Bool := do
  if ← host.pathExists channelRoot then return false
  let exportPath := paths.pwmExportPath chipName
  if !(← host.pathExists exportPath) then
    throw (.transportFailure device.id "open"
      s!"PWM export path '{exportPath}' is not present and channel '{channelRoot}' is not exported")
  ExceptT.adapt (fun error => transportFailure device.id "open"
    s!"failed to export PWM channel {channel} using '{exportPath}': {error}")
    (host.writeText exportPath s!"{channel}")
  if ← host.waitForPath channelRoot transportConfig.sysfsExportRetries then return true
  throw (.transportFailure device.id "open"
    s!"PWM channel {channel} did not appear at '{channelRoot}' after export")

structure LinuxSysfsPwmSession where
  device : DeviceDescriptor
  metadata : SessionMetadata
  paths : LinuxPaths
  chipName : String
  channel : UInt32
  exportedBySession : Bool

structure PwmOpened where
  sysfs : Sysfs
  session : LinuxSysfsPwmSession

inductive PwmWrite where
  | enable (enabled : Bool)
  | period (periodNs : UInt64)
  | dutyCycle (dutyCycleNs : UInt64)
  | polarity (polarity : PwmPolarity)
  deriving DecidableEq

namespace PwmWrite

def fileName : PwmWrite → String
  | enable _ => "enable"
  | period _ => "period"
  | dutyCycle _ => "duty_cycle"
  | polarity _ => "polarity"

def text : PwmWrite → String
  | enable enabled => if enabled then "1" else "0"
  | period periodNs => s!"{periodNs}"
  | dutyCycle dutyCycleNs => s!"{dutyCycleNs}"
  | polarity .normal => "normal"
  | polarity .inversed => "inversed"

end PwmWrite

namespace LinuxSysfsPwmSession

def openSession (host : SysfsHost) (paths : LinuxPaths) (transportConfig : LinuxTransportConfig)
    (device : DeviceDescriptor) (access : SessionAccess) : Pwm LinuxSysfsPwmSession := do
  let some (chipName, channel) := pwmChannelAddress device
    | throw (.unsupportedDevice backendName device.id)
  let channelRoot := paths.pwmChannelRoot chipName channel
  let exportedBySession ←
    ensureChannelExported host paths transportConfig chipName channel channelRoot device
  return { device, metadata := { access, state := .idle }, paths, chipName, channel, exportedBySession }

variable (host : SysfsHost) (session : LinuxSysfsPwmSession)

def channelRoot : String := session.paths.pwmChannelRoot session.chipName session.channel

def filePath (name : String) : String := joinPath session.channelRoot name

def transportFailure (operation reason : String) : BusError :=
  .transportFailure session.device.id operation reason

def readRequiredFile (path operation : String) : Pwm String := do
  let contents ← ExceptT.adapt (fun error => session.transportFailure operation
    s!"failed to read '{path}': {error}") (host.readTrimmed path)
  match contents with
  | some value => return value
  | none => throw (session.transportFailure operation s!"required PWM attribute '{path}' is missing")

def writeRequiredFile (path value operation : String) : Pwm Unit :=
  ExceptT.adapt (fun error => session.transportFailure operation
    s!"failed to write '{path}' with value '{value}': {error}") (host.writeText path value)

def writeAttribute (write : PwmWrite) (operation : String) : Pwm Unit :=
  session.writeRequiredFile host (session.filePath write.fileName) write.text operation

def writeEnable (enabled : Bool) (operation : String) : Pwm Unit :=
  session.writeAttribute host (.enable enabled) operation

def writePeriod (periodNs : UInt64) (operation : String) : Pwm Unit :=
  session.writeAttribute host (.period periodNs) operation

def writeDutyCycle (dutyCycleNs : UInt64) (operation : String) : Pwm Unit :=
  session.writeAttribute host (.dutyCycle dutyCycleNs) operation

def writePolarity (polarity : PwmPolarity) (operation : String) : Pwm Unit :=
  session.writeAttribute host (.polarity polarity) operation

def parseU64 (raw operation field : String) : BusResult UInt64 :=
  match Decimal.parse UInt64.size raw with
  | .ok value => .ok (UInt64.ofNat value)
  | .error error =>
    .error (session.transportFailure operation s!"failed to parse PWM {field} value '{raw}': {error}")

def parseEnabled (raw operation : String) : BusResult Bool :=
  if raw = "0" then .ok false
  else if raw = "1" then .ok true
  else .error (session.transportFailure operation s!"unexpected PWM enable value '{raw}'")

def parsePolarity (raw operation : String) : BusResult PwmPolarity :=
  if raw = "normal" then .ok .normal
  else if raw = "inversed" ∨ raw = "inverse" ∨ raw = "inverted" then .ok .inversed
  else .error (session.transportFailure operation s!"unexpected PWM polarity value '{raw}'")

def readAttribute {α : Type} (name : String) (parse : String → String → BusResult α) : Pwm α := do
  let raw ← session.readRequiredFile host (session.filePath name) "pwm.get_configuration"
  MonadExcept.ofExcept (parse raw "pwm.get_configuration")

def currentConfiguration : Pwm PwmConfiguration := do
  let periodNs ← session.readAttribute host "period" (session.parseU64 · · "period")
  let dutyCycleNs ← session.readAttribute host "duty_cycle" (session.parseU64 · · "duty_cycle")
  let enabled ← session.readAttribute host "enable" session.parseEnabled
  let polarity ← session.readAttribute host "polarity" session.parsePolarity
  return { periodNs, dutyCycleNs, enabled, polarity }

def applyTiming (current target : PwmConfiguration) (operation : String) : Pwm Unit := do
  if current.periodNs = target.periodNs ∧ current.dutyCycleNs = target.dutyCycleNs then return
  let expandPeriodFirst : Bool :=
    target.periodNs > current.periodNs || target.dutyCycleNs > current.periodNs
  if expandPeriodFirst then
    if current.periodNs ≠ target.periodNs then session.writePeriod host target.periodNs operation
    if current.dutyCycleNs ≠ target.dutyCycleNs then session.writeDutyCycle host target.dutyCycleNs operation
  else
    if current.dutyCycleNs ≠ target.dutyCycleNs then session.writeDutyCycle host target.dutyCycleNs operation
    if current.periodNs ≠ target.periodNs then session.writePeriod host target.periodNs operation

def validateConfiguration (configuration : PwmConfiguration) : BusResult Unit :=
  if configuration.periodNs = 0 then
    .error (.invalidConfiguration session.device.id "PWM period must be greater than zero")
  else if configuration.dutyCycleNs > configuration.periodNs then
    .error (.invalidConfiguration session.device.id "PWM duty cycle must not exceed the period")
  else .ok ()

def needsDisable (current target : PwmConfiguration) : Bool :=
  current.enabled &&
    (current.periodNs ≠ target.periodNs || current.dutyCycleNs ≠ target.dutyCycleNs ||
      current.polarity ≠ target.polarity || !target.enabled)

def applyConfiguration (target : PwmConfiguration) (operation : String) : Pwm Unit := do
  MonadExcept.ofExcept (session.validateConfiguration target)
  let current ← session.currentConfiguration host
  if needsDisable current target then session.writeEnable host false operation
  session.applyTiming host current target operation
  if current.polarity ≠ target.polarity then session.writePolarity host target.polarity operation
  if needsDisable current target || current.enabled ≠ target.enabled then
    session.writeEnable host target.enabled operation

def unexport : Pwm Unit := do
  let unexportPath := session.paths.pwmUnexportPath session.chipName
  if ← host.pathExists unexportPath then
    ExceptT.adapt (fun error => session.transportFailure "pwm.close"
      s!"failed to unexport channel at '{unexportPath}': {error}")
      (host.writeText unexportPath s!"{session.channel}")
  else pure ()

abbrev Call (α : Type) := Effect PwmOpened BusError α

def onSysfs {α : Type} (effect : Pwm α) : Call α :=
  effect.within PwmOpened.sysfs (fun sysfs opened => { opened with sysfs })

def setMetadata (f : SessionMetadata → SessionMetadata) (opened : PwmOpened) : PwmOpened :=
  { opened with session := { opened.session with metadata := f opened.session.metadata } }

def runCall {α : Type} (call : LinuxSysfsPwmSession → Pwm α) : Call α :=
  runCallOn setMetadata do
    let session := (← get).session
    onSysfs (call session)

def ensureOpen (operation : String) : Call Unit := do
  let session := (← get).session
  MonadExcept.ofExcept (session.metadata.ensureOpen session.device.id "PWM" operation)

def ensureWritable (operation reason : String) : Call Unit := do
  let session := (← get).session
  if session.metadata.access.canWrite then return
  throw (.permissionDenied session.device.id operation reason)

def setEnabled (enabled : Bool) : Call Unit := do
  ensureOpen "pwm.enable"
  ensureWritable "pwm.enable" "session access is read-only"
  runCall fun session => session.writeEnable host enabled "pwm.enable"

def setPeriodNs (periodNs : UInt64) : Call Unit := do
  ensureOpen "pwm.set_period"
  ensureWritable "pwm.set_period" "session access is read-only"
  runCall fun session => do
    let target ← session.currentConfiguration host
    session.applyConfiguration host { target with periodNs } "pwm.set_period"

def setDutyCycleNs (dutyCycleNs : UInt64) : Call Unit := do
  ensureOpen "pwm.set_duty_cycle"
  ensureWritable "pwm.set_duty_cycle" "session access is read-only"
  runCall fun session => do
    let target ← session.currentConfiguration host
    session.applyConfiguration host { target with dutyCycleNs } "pwm.set_duty_cycle"

def configure (configuration : PwmConfiguration) : Call Unit := do
  ensureOpen "pwm.configure"
  ensureWritable "pwm.configure" "session access does not allow configuration changes"
  runCall fun session => session.applyConfiguration host configuration "pwm.configure"

def configuration : Call PwmConfiguration := do
  ensureOpen "pwm.get_configuration"
  let session := (← get).session
  onSysfs (session.currentConfiguration host)

/-- A channel that this session exported is given back before the session counts as closed. -/
def close : Call Unit := do
  let session := (← get).session
  onSysfs (if session.exportedBySession then session.unexport host else pure ())
  modify (setMetadata .markClosed)

section Calls

variable {α : Type} (opened : PwmOpened)

theorem exec_ensureOpen (operation : String) :
    (ensureOpen operation).exec opened =
      (opened.session.metadata.ensureOpen opened.session.device.id "PWM" operation, opened) := by
  rw [ensureOpen, exec_bind_of_ok (exec_get opened), exec_ofExcept]

theorem exec_runCall (call : LinuxSysfsPwmSession → Pwm α) :
    (runCall call).exec opened =
      let done := (call (setMetadata .beginCall opened).session).exec opened.sysfs
      (done.1, setMetadata (·.finishCall done.1) { setMetadata .beginCall opened with sysfs := done.2 }) := by
  rw [runCall, exec_runCallOn, exec_bind_of_ok (exec_get _)]
  rfl

theorem exec_writing_cases (operation reason : String) (call : LinuxSysfsPwmSession → Pwm α) :
    let after := Effect.exec (do ensureOpen operation; ensureWritable operation reason; runCall call) opened
    ((opened.session.metadata.state = .closed ∨ opened.session.metadata.access.canWrite = false) ∧
      after.1.isOk = false ∧ after.2 = opened) ∨
    (opened.session.metadata.state ≠ .closed ∧ opened.session.metadata.access.canWrite = true ∧
      after = (runCall call).exec opened) := by
  rw [exec_bind, exec_ensureOpen]
  by_cases hclosed : opened.session.metadata.state = .closed
  · rw [SessionMetadata.ensureOpen, if_pos hclosed]
    exact .inl ⟨.inl hclosed, rfl, rfl⟩
  · rw [SessionMetadata.ensureOpen, if_neg hclosed, ensureWritable]
    simp only [bind_assoc]
    rw [exec_bind_of_ok (exec_get opened)]
    by_cases hwrite : opened.session.metadata.access.canWrite = true
    · simp only [hwrite, if_true]
      exact .inr ⟨hclosed, trivial, rfl⟩
    · simp only [hwrite, Bool.false_eq_true, if_false]
      exact .inl ⟨.inr trivial, rfl, rfl⟩

end Calls

end LinuxSysfsPwmSession

end Lemnos.Linux
