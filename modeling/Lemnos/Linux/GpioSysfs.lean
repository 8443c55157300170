import Lemnos.Linux.GpioCdev

namespace Lemnos.Linux

open Lemnos.Core Bus Library.Frames

def GpioHost.grantsWrite (host : GpioHost) (earlier : List GpioCall) : GpioCall → Bool
  | .write path text => host.write earlier path text = .ok ()
  | _ => false

def readTrimmed (host : GpioHost) (path : String) : Effect GpioKernel String (Option String) := do
  return trimmed (← host.readText path)

def readU32 (host : GpioHost) (path : String) : Effect GpioKernel String (Option UInt32) := do
  return (← readTrimmed host path).bind parseU32

theorem keeps_readTrimmed {γ : Type} {view : GpioKernel → γ} (h : IgnoresCalls view)
    (host : GpioHost) (path : String) : Keeps view (readTrimmed host path) :=
  (keeps_ask h _ _).bind fun contents => .pure (trimmed contents)

def waitForPath (host : GpioHost) (path : String) : ℕ → Gpio Bool
  | 0 => host.pathExists path
  | retries + 1 => do
    if ← host.pathExists path then return true
    waitForPath host path retries

/-- A read that fails gives no base, like one that finds none. -/
def resolveGlobalLine (host : GpioHost) (paths : LinuxPaths) (device : DeviceDescriptor) :
    Gpio (Option UInt32) := do
  let some (chipName, offset) := gpioLineAddress device | return none
  match ← (readU32 host (joinPath (joinPath paths.gpioClassRoot chipName) "base")).attempt with
  | .ok (some base) => return checkedAdd base offset
  | .ok none | .error _ => return none

def parseDirection (value : String) : Except String GpioDirection :=
  if value = "in" then .ok .input
  else if value = "out" ∨ value = "low" ∨ value = "high" then .ok .output
  else .error s!"unexpected GPIO direction '{value}'"

def parseActiveLow (value : String) : Except String Bool :=
  if value = "0" then .ok false
  else if value = "1" then .ok true
  else .error s!"unexpected GPIO active_low value '{value}'"

def parseEdge (value : String) : Except String (Option GpioEdge) :=
  if value = "none" then .ok none
  else if value = "rising" then .ok (some .rising)
  else if value = "falling" then .ok (some .falling)
  else if value = "both" then .ok (some .both)
  else .error s!"unexpected GPIO edge value '{value}'"

def ensureExported (host : GpioHost) (paths : LinuxPaths) (transportConfig : LinuxTransportConfig)
    (globalLine : UInt32) (lineRoot : String) (device : DeviceDescriptor) : Gpio Bool := do
  if ← host.pathExists lineRoot then return false
  let exportPath := paths.gpioExportPath
  if !(← host.pathExists exportPath) then
    throw (.sessionUnavailable device.id
      s!"GPIO line '{lineRoot}' is not exported and '{exportPath}' is unavailable")
  ExceptT.adapt (fun error => transportFailure device.id "gpio.open"
    s!"failed to export GPIO line {globalLine} via '{exportPath}': {error}")
    (host.writeText exportPath s!"{globalLine}")
  if ← waitForPath host lineRoot transportConfig.sysfsExportRetries then return true
  throw (.sessionUnavailable device.id
    s!"GPIO line {globalLine} did not appear at '{lineRoot}' after export")

section Frames

variable {γ : Type} {view : GpioKernel → γ} (h : IgnoresCalls view)
  (host : GpioHost) (paths : LinuxPaths)

include h

theorem keeps_readU32 (path : String) : Keeps view (readU32 host path) :=
  (keeps_readTrimmed h host path).bind fun _ => .pure _

theorem keeps_waitForPath (path : String) (retries : ℕ) : Keeps view (waitForPath host path retries) := by
  induction retries with
  | zero =>
    rw [waitForPath]
    exact keeps_ask h _ _
  | succ retries ih =>
    rw [waitForPath]
    apply (keeps_ask h _ _).bind
    intro found
    exact .ite (fun _ => .pure true) fun _ => ih

theorem keeps_resolveGlobalLine (device : DeviceDescriptor) :
    Keeps view (resolveGlobalLine host paths device) := by
  unfold resolveGlobalLine
  split
  · apply (keeps_readU32 h host _).attempt.bind
    intro base
    split
    · exact .pure _
    · exact .pure none
    · exact .pure none
  · exact .pure none

theorem keeps_ensureExported (transportConfig : LinuxTransportConfig) (globalLine : UInt32)
    (lineRoot : String)
    (device : DeviceDescriptor) :
    Keeps view (ensureExported host paths transportConfig globalLine lineRoot device) := by
  apply (keeps_ask h _ _).bind
  intro exported
  apply Keeps.ite (fun _ => .pure false)
  intro _
  apply (keeps_ask h _ _).bind
  intro exportable
  apply Keeps.ite (fun _ => .throw _)
  intro _
  apply ((keeps_ask h _ _).adapt _).bind
  intro _
  apply (keeps_waitForPath h host lineRoot _).bind
  intro appeared
  exact .ite (fun _ => .pure true) fun _ => .throw _

end Frames

structure LinuxSysfsGpioSession where
  device : DeviceDescriptor
  metadata : SessionMetadata
  paths : LinuxPaths
  globalLine : UInt32
  exportedBySession : Bool

namespace LinuxSysfsGpioSession

def supportsDescriptor (device : DeviceDescriptor) : Bool := (gpioLineAddress device).isSome

def canUseTransport (host : GpioHost) (paths : LinuxPaths) (device : DeviceDescriptor) : Gpio Bool := do
  return (← resolveGlobalLine host paths device).isSome

def openSession (host : GpioHost) (paths : LinuxPaths) (transportConfig : LinuxTransportConfig)
    (device : DeviceDescriptor) (access : SessionAccess) : Gpio LinuxSysfsGpioSession := do
  let some globalLine ← resolveGlobalLine host paths device
    | throw (.unsupportedDevice backendName device.id)
  let lineRoot := paths.gpioLineRoot globalLine
  let exportedBySession ← ensureExported host paths transportConfig globalLine lineRoot device
  return { device, metadata := { access, state := .idle }, paths, globalLine, exportedBySession }

abbrev Call (α : Type) := Effect (Opened LinuxSysfsGpioSession) BusError α

def filePath (session : LinuxSysfsGpioSession) (name : String) : String :=
  joinPath (session.paths.gpioLineRoot session.globalLine) name

def setMetadata (f : SessionMetadata → SessionMetadata) (opened : Opened LinuxSysfsGpioSession) :
    Opened LinuxSysfsGpioSession :=
  { opened with session := { opened.session with metadata := f opened.session.metadata } }

def runCall {α : Type} (call : Call α) : Call α := runCallWith setMetadata call

def ensureOpen (operation : String) : Call Unit := do
  let session := (← get).session
  MonadExcept.ofExcept (session.metadata.ensureOpen session.device.id "GPIO" operation)

variable (host : GpioHost) (session : LinuxSysfsGpioSession)

def transportFailure (operation reason : String) : BusError :=
  .transportFailure session.device.id operation reason

def readFile (path operation : String) : Gpio (Option String) :=
  ExceptT.adapt (fun error => session.transportFailure operation s!"failed to read '{path}': {error}")
    (readTrimmed host path)

def readRequiredFile (path operation : String) : Gpio String := do
  match ← session.readFile host path operation with
  | some value => return value
  | none => throw (session.transportFailure operation s!"required GPIO attribute '{path}' is missing")

def writeRequiredFile (path value operation : String) : Gpio Unit :=
  ExceptT.adapt (fun error => session.transportFailure operation
    s!"failed to write '{path}' with value '{value}': {error}") (host.writeText path value)

def parsed {α : Type} (result : Except String α) : Gpio α :=
  MonadExcept.ofExcept (result.mapError (session.transportFailure "gpio.get_configuration"))

def optionalAttribute {α : Type} (name : String) (parse : String → Except String α) (missing : α) : Gpio α :=
  do
  match ← session.readFile host (session.filePath name) "gpio.get_configuration" with
  | some value => session.parsed (parse value)
  | none => return missing

def currentConfiguration : Gpio GpioLineConfiguration := do
  let direction ← session.readRequiredFile host (session.filePath "direction") "gpio.get_configuration"
  let direction ← session.parsed (parseDirection direction)
  let activeLow ← session.optionalAttribute host "active_low" parseActiveLow false
  let edge ← session.optionalAttribute host "edge" parseEdge none
  return {
    direction
    activeLow
    bias := none
    drive := none
    edge
    debounceUs := none
    initialLevel := none }

def readLevel : Call GpioLevel := do
  ensureOpen "gpio.read"
  runCall do
    let session := (← get).session
    let raw ← onKernel (session.readRequiredFile host (session.filePath "value") "gpio.read")
    if raw = "0" then return .low
    else if raw = "1" then return .high
    else throw (session.transportFailure "gpio.read" s!"unexpected GPIO value '{raw}'")

def ensureWritable (operation reason : String) : Call Unit := do
  let session := (← get).session
  if session.metadata.access.canWrite then return
  throw (.permissionDenied session.device.id operation reason)

def writeLevel (level : GpioLevel) : Call Unit := do
  ensureOpen "gpio.write"
  ensureWritable "gpio.write" "session access is read-only"
  runCall do
    let session := (← get).session
    let configuration ← onKernel (session.currentConfiguration host)
    if configuration.direction ≠ .output then
      throw (.permissionDenied session.device.id "gpio.write" "line is not configured for output")
    let value := match level with
      | .low => "0"
      | .high => "1"
    onKernel (session.writeRequiredFile host (session.filePath "value") value "gpio.write")

def checkConfiguration (deviceId : DeviceId) (configuration : GpioLineConfiguration) : BusResult Unit :=
  if configuration.direction = .input ∧ configuration.initialLevel.isSome then
    .error (.invalidConfiguration deviceId "input lines cannot set an initial output level")
  else if configuration.bias.isSome then
    .error (.invalidConfiguration deviceId "linux GPIO sysfs transport does not support bias configuration")
  else if configuration.debounceUs.isSome then
    .error (.invalidConfiguration deviceId
      "linux GPIO sysfs transport does not support debounce configuration")
  else if configuration.drive = some .openDrain ∨ configuration.drive = some .openSource then
    .error (.invalidConfiguration deviceId
      "linux GPIO sysfs transport does not support open-drain/open-source drive modes")
  else if configuration.direction = .output ∧ configuration.edge.isSome then
    .error (.invalidConfiguration deviceId "edge detection is only valid for input lines")
  else .ok ()

def directionValue (configuration : GpioLineConfiguration) : String :=
  match configuration.direction, configuration.initialLevel with
  | .input, _ => "in"
  | .output, some .low => "low"
  | .output, some .high => "high"
  | .output, none => "out"

def edgeValue (edge : Option GpioEdge) : String :=
  match edge with
  | none => "none"
  | some .rising => "rising"
  | some .falling => "falling"
  | some .both => "both"

/-- An attribute that the line does not have may only be asked to be what it is without it. -/
def writeOptionalAttribute (name value : String) (needed : Bool) (missing : String) : Gpio Unit := do
  let path := session.filePath name
  if ← host.pathExists path then session.writeRequiredFile host path value "gpio.configure"
  else if needed then throw (.invalidConfiguration session.device.id missing)
  else pure ()

def applyConfiguration (configuration : GpioLineConfiguration) : Gpio Unit := do
  session.writeOptionalAttribute host "active_low" (if configuration.activeLow then "1" else "0")
    configuration.activeLow "linux GPIO sysfs transport does not expose active_low for this line"
  session.writeRequiredFile host (session.filePath "direction") (directionValue configuration) "gpio.configure"
  session.writeOptionalAttribute host "edge" (edgeValue configuration.edge) configuration.edge.isSome
    "linux GPIO sysfs transport does not expose edge configuration for this line"

def configureLine (configuration : GpioLineConfiguration) : Call Unit := do
  ensureOpen "gpio.configure"
  ensureWritable "gpio.configure" "session access does not allow configuration changes"
  let session := (← get).session
  MonadExcept.ofExcept (checkConfiguration session.device.id configuration)
  runCall do
    let session := (← get).session
    onKernel (session.applyConfiguration host configuration)

def getConfiguration : Call GpioLineConfiguration := do
  ensureOpen "gpio.get_configuration"
  let session := (← get).session
  onKernel (session.currentConfiguration host)

def unexport : Gpio Unit := do
  let unexportPath := session.paths.gpioUnexportPath
  if ← host.pathExists unexportPath then
    ExceptT.adapt (fun error => session.transportFailure "gpio.close"
      s!"failed to unexport line at '{unexportPath}': {error}")
      (host.writeText unexportPath s!"{session.globalLine}")
  else pure ()

/-- A line that this session exported is given back before the session counts as closed. -/
def close : Call Unit := do
  let session := (← get).session
  onKernel (if session.exportedBySession then session.unexport host else pure ())
  modify (setMetadata .markClosed)

section Frames

variable {γ : Type} {view : GpioKernel → γ} (h : IgnoresCalls view)

theorem keeps_ensureOpen (operation : String) :
    Keeps (fun opened => view opened.kernel) (ensureOpen operation) :=
  keeps_get.bind fun _ => .ofExcept _

theorem keeps_runCall {α : Type} {call : Call α} (hcall : Keeps (fun opened => view opened.kernel) call) :
    Keeps (fun opened => view opened.kernel) (runCall call) :=
  @keeps_runCallWith _ _ _ view setMetadata (fun _ _ => rfl) call hcall

theorem keeps_parsed {α : Type} (result : Except String α) : Keeps view (session.parsed result) := .ofExcept _

include h

theorem keeps_canUseTransport (paths : LinuxPaths) (device : DeviceDescriptor) :
    Keeps view (canUseTransport host paths device) :=
  (keeps_resolveGlobalLine h host paths device).bind fun _ => .pure _

theorem keeps_openSession (paths : LinuxPaths) (transportConfig : LinuxTransportConfig)
    (device : DeviceDescriptor) (access : SessionAccess) :
    Keeps view (openSession host paths transportConfig device access) := by
  apply (keeps_resolveGlobalLine h host paths device).bind
  intro globalLine
  cases globalLine with
  | none => exact .throw _
  | some globalLine =>
    apply (keeps_ensureExported h host paths transportConfig globalLine _ device).bind
    intro exported
    exact .pure _

theorem keeps_readFile (path operation : String) : Keeps view (session.readFile host path operation) :=
  (keeps_readTrimmed h host path).adapt _

theorem keeps_readRequiredFile (path operation : String) :
    Keeps view (session.readRequiredFile host path operation) := by
  apply (session.keeps_readFile host h path operation).bind
  intro value
  cases value with
  | none => exact .throw _
  | some value => exact .pure value

theorem keeps_optionalAttribute {α : Type} (name : String) (parse : String → Except String α) (missing : α) :
    Keeps view (session.optionalAttribute host name parse missing) := by
  apply (session.keeps_readFile host h _ _).bind
  intro contents
  cases contents with
  | none => exact .pure missing
  | some value => exact session.keeps_parsed (parse value)

theorem keeps_currentConfiguration : Keeps view (session.currentConfiguration host) := by
  apply (session.keeps_readRequiredFile host h _ _).bind
  intro direction
  apply (session.keeps_parsed _).bind
  intro direction
  apply (session.keeps_optionalAttribute host h _ _ _).bind
  intro activeLow
  apply (session.keeps_optionalAttribute host h _ _ _).bind
  intro edge
  exact .pure _

theorem keeps_readLevel : Keeps (fun opened => view opened.kernel) (readLevel host) := by
  apply (keeps_ensureOpen _).bind
  intro _
  apply keeps_runCall
  apply keeps_get.bind
  intro opened
  apply (keeps_onKernel (opened.session.keeps_readRequiredFile host h _ _)).bind
  intro raw
  exact .ite (fun _ => .pure _) fun _ => .ite (fun _ => .pure _) fun _ => .throw _

theorem keeps_getConfiguration : Keeps (fun opened => view opened.kernel) (getConfiguration host) := by
  apply (keeps_ensureOpen _).bind
  intro _
  apply keeps_get.bind
  intro opened
  exact keeps_onKernel (opened.session.keeps_currentConfiguration host h)

theorem keeps_unexport : Keeps view (session.unexport host) := by
  apply (keeps_ask h _ _).bind
  intro found
  exact .ite (fun _ => (keeps_ask h _ _).adapt _) fun _ => .pure ()

theorem keeps_close : Keeps (fun opened => view opened.kernel) (close host) := by
  apply keeps_get.bind
  intro opened
  apply (keeps_onKernel (.ite (fun _ => opened.session.keeps_unexport host h) fun _ => .pure ())).bind
  intro _
  exact .update fun _ => rfl

end Frames

end LinuxSysfsGpioSession

end Lemnos.Linux
