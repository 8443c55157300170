import Lemnos.Bus.Calls
import Lemnos.Linux.Files
import Lemnos.Linux.GpioLines

namespace Lemnos.Linux

open Lemnos.Core Bus Library.Frames

def backendName : String := "linux"

abbrev Gpio (α : Type) := Effect GpioKernel BusError α

/-- A session beside the kernel that it talks to: a call may change both, also when it fails. -/
structure Opened (σ : Type) where
  kernel : GpioKernel
  session : σ

def onKernel {σ E α : Type} (effect : Effect GpioKernel E α) : Effect (Opened σ) E α :=
  effect.within Opened.kernel (fun kernel opened => { opened with kernel })

theorem keeps_onKernel {σ E α γ : Type} {view : GpioKernel → γ} {effect : Effect GpioKernel E α}
    (h : Keeps view effect) :
    Keeps (fun opened : Opened σ => view opened.kernel) (onKernel effect : Effect (Opened σ) E α) :=
  h.within fun _ _ hview => hview

/-- A session is busy while a call is on, and afterwards idle or faulted by how it went. -/
def runCallWith {σ α : Type} (setMetadata : (SessionMetadata → SessionMetadata) → Opened σ → Opened σ)
    (call : Effect (Opened σ) BusError α) : Effect (Opened σ) BusError α := do
  modify (setMetadata .beginCall)
  let result ← call.attempt
  modify (setMetadata (·.finishCall result))
  MonadExcept.ofExcept result

theorem exec_runCallWith {σ α : Type}
    (setMetadata : (SessionMetadata → SessionMetadata) → Opened σ → Opened σ)
    (call : Effect (Opened σ) BusError α) (opened : Opened σ) :
    (runCallWith setMetadata call).exec opened =
      let after := call.exec (setMetadata .beginCall opened)
      (after.1, setMetadata (·.finishCall after.1) after.2) :=
  exec_runCallOn setMetadata call opened

theorem keeps_runCallWith {σ α γ : Type} {view : GpioKernel → γ}
    {setMetadata : (SessionMetadata → SessionMetadata) → Opened σ → Opened σ}
    (hset : ∀ f opened, (setMetadata f opened).kernel = opened.kernel)
    {call : Effect (Opened σ) BusError α} (hcall : Keeps (fun opened => view opened.kernel) call) :
    Keeps (fun opened => view opened.kernel) (runCallWith setMetadata call) := by
  intro opened
  have hafter := hcall (setMetadata .beginCall opened)
  rw [exec_runCallWith]
  simp only [hset] at hafter ⊢
  exact hafter

def gpioLineAddress (device : DeviceDescriptor) : Option (String × UInt32) :=
  match device.address with
  | some (.gpioLine chipName offset) => some (chipName, offset)
  | _ => none

def resolveChipDevnode (paths : LinuxPaths) (device : DeviceDescriptor) : Option String :=
  match descriptorDevnode device with
  | some devnode => some devnode
  | none => (gpioLineAddress device).map fun (chipName, _) => paths.gpioDevnode chipName

def transportFailure (deviceId : DeviceId) (operation reason : String) : BusError :=
  .transportFailure deviceId operation reason

def openLine (host : GpioHost) (device : DeviceDescriptor) (chipDevnode : String) (offset : UInt32)
    (operation : String) : Gpio LineId := do
  let chip ← ExceptT.adapt (fun error => transportFailure device.id operation
    s!"failed to open GPIO chip '{chipDevnode}': {error}") (host.openChip chipDevnode)
  ExceptT.adapt (fun error => transportFailure device.id operation
    s!"failed to access line offset {offset} on '{chipDevnode}': {error}") (host.chipLine ⟨chip, offset⟩)

def lineFlags (configuration : GpioLineConfiguration) : LineFlags where
  direction := configuration.direction
  activeLow := configuration.activeLow
  openDrain := configuration.drive = some .openDrain
  openSource := configuration.drive = some .openSource

def initialValue (configuration : GpioLineConfiguration) : UInt8 :=
  match configuration.initialLevel with
  | some .high => 1
  | some .low | none => 0

def requestHandle (host : GpioHost) (device : DeviceDescriptor) (line : LineId)
    (configuration : GpioLineConfiguration) (operation : String) : Gpio LineHandle :=
  ExceptT.adapt (fun error => transportFailure device.id operation
    s!"failed to request GPIO line handle: {error}")
    (host.requestLine ⟨line, lineFlags configuration, initialValue configuration⟩)

def configurationFromInfo (device : DeviceDescriptor) (info : LineFlags) :
    BusResult GpioLineConfiguration :=
  let drive := match info.direction with
    | .output =>
      if info.openDrain then some .openDrain
      else if info.openSource then some .openSource
      else some .pushPull
    | .input => none
  if info.openDrain && info.openSource then
    .error (.invalidConfiguration device.id
      "kernel reported both open-drain and open-source on one GPIO line")
  else
    .ok {
      direction := info.direction
      activeLow := info.activeLow
      bias := none
      drive
      edge := none
      debounceUs := none
      initialLevel := none }

theorem keeps_openLine {γ : Type} {view : GpioKernel → γ} (h : IgnoresCalls view)
    (host : GpioHost) (device : DeviceDescriptor) (chipDevnode : String) (offset : UInt32)
    (operation : String) : Keeps view (openLine host device chipDevnode offset operation) :=
  ((keeps_ask h _ _).adapt _).bind fun chip => (host.keeps_chipLine h ⟨chip, offset⟩).adapt _

theorem exec_openLine (host : GpioHost) (device : DeviceDescriptor) (chipDevnode : String) (offset : UInt32)
    (operation : String) (kernel : GpioKernel) :
    (openLine host device chipDevnode offset operation).exec kernel =
      match host.chip kernel.calls chipDevnode with
      | .error error =>
        (.error (transportFailure device.id operation s!"failed to open GPIO chip '{chipDevnode}': {error}"),
          kernel.called (.openChip chipDevnode))
      | .ok chip =>
        ((host.getLine (kernel.calls ++ [.openChip chipDevnode]) ⟨chip, offset⟩).map (fun _ => ⟨chip, offset⟩)
            |>.mapError fun error => transportFailure device.id operation
              s!"failed to access line offset {offset} on '{chipDevnode}': {error}",
          (kernel.called (.openChip chipDevnode)).called (.getLine ⟨chip, offset⟩)) := by
  rw [openLine, exec_bind, exec_adapt, GpioHost.openChip, exec_ask]
  cases host.chip kernel.calls chipDevnode with
  | error error => rfl
  | ok chip =>
    simp only [Except.mapError]
    rw [exec_adapt, GpioHost.chipLine, exec_bind_pure, exec_ask]
    rfl

theorem exec_requestHandle (host : GpioHost) (device : DeviceDescriptor) (line : LineId)
    (configuration : GpioLineConfiguration) (operation : String) (kernel : GpioKernel) :
    let handle : LineHandle := ⟨line, lineFlags configuration, initialValue configuration⟩
    (requestHandle host device line configuration operation).exec kernel =
      match host.request kernel.calls handle (kernel.live.contains line) with
      | .error error =>
        (.error (transportFailure device.id operation s!"failed to request GPIO line handle: {error}"),
          kernel.called (.request handle))
      | .ok () => (.ok handle, (kernel.called (.request handle)).grant handle) := by
  intro handle
  rw [requestHandle, exec_adapt, host.exec_requestLine]
  cases host.request kernel.calls handle (kernel.live.contains line) <;> rfl

theorem requested_eq_reopened {device : DeviceDescriptor} {state : LineState}
    {configuration : GpioLineConfiguration}
    (h : configurationFromInfo device state.flags = .ok configuration) (line : LineId) :
    LineHandle.requested ⟨line, lineFlags configuration, initialValue configuration⟩ state = state.reopened := by
  obtain ⟨⟨direction, activeLow, openDrain, openSource⟩, level⟩ := state
  cases direction <;> cases openDrain <;> cases openSource <;> cases h <;> rfl

def answering : GpioHost where
  chip _ _ := .ok 0
  getLine _ _ := .ok ()
  lineInfo _ _ := .ok ()
  request _ _ held := if held then .error "Device or resource busy" else .ok ()
  getValue _ _ := .ok 0
  setValue _ _ _ := .ok ()
  read _ _ := .ok none
  write _ _ _ := .ok ()
  exists_ _ _ := true
  isCharDevice _ _ := true

def relayLine : DeviceDescriptor :=
  { gpioLineDescriptor with kind := .gpioLine, address := some (.gpioLine "gpiochip0" 4) }

structure LinuxCdevGpioSession where
  device : DeviceDescriptor
  metadata : SessionMetadata
  chipDevnode : String
  offset : UInt32
  configuration : GpioLineConfiguration
  handle : LineHandle

namespace LinuxCdevGpioSession

def supportsDescriptor (device : DeviceDescriptor) : Bool := (gpioLineAddress device).isSome

def canUseTransport (host : GpioHost) (paths : LinuxPaths) (device : DeviceDescriptor) : Gpio Bool :=
  match resolveChipDevnode paths device with
  | none => return false
  | some devnode => host.charDevice devnode

def openSession (host : GpioHost) (paths : LinuxPaths) (device : DeviceDescriptor) (access : SessionAccess) :
    Gpio LinuxCdevGpioSession := do
  let some chipDevnode := resolveChipDevnode paths device
    | throw (.unsupportedDevice backendName device.id)
  let some (_, offset) := gpioLineAddress device
    | throw (.unsupportedDevice backendName device.id)
  let line ← openLine host device chipDevnode offset "gpio.open"
  let info ← ExceptT.adapt (fun error => transportFailure device.id "gpio.open"
    s!"failed to query GPIO line info via '{chipDevnode}': {error}") (host.info line)
  let configuration ← MonadExcept.ofExcept (configurationFromInfo device info)
  let handle ← requestHandle host device line configuration "gpio.open"
  return { device, metadata := { access, state := .idle }, chipDevnode, offset, configuration, handle }

/-- The system grants an open the request of this line: every query before it is answered, and the settings
that were queried can be asked for. -/
def Grants (host : GpioHost) (paths : LinuxPaths) (device : DeviceDescriptor) (kernel : GpioKernel)
    (line : LineId) : Prop :=
  ∃ chipDevnode chipName offset configuration opened,
    resolveChipDevnode paths device = some chipDevnode ∧
    gpioLineAddress device = some (chipName, offset) ∧
    (openLine host device chipDevnode offset "gpio.open").exec kernel = (.ok line, opened) ∧
    host.lineInfo opened.calls line = .ok () ∧
    configurationFromInfo device (opened.lines line).flags = .ok configuration ∧
    host.request (opened.calls ++ [.lineInfo line])
      ⟨line, lineFlags configuration, initialValue configuration⟩ (opened.live.contains line) = .ok ()

theorem grants_iff {host : GpioHost} {paths : LinuxPaths} {device : DeviceDescriptor}
    {kernel opened : GpioKernel}
    {chipDevnode chipName : String} {offset : UInt32} {line : LineId}
    (hdevnode : resolveChipDevnode paths device = some chipDevnode)
    (haddress : gpioLineAddress device = some (chipName, offset))
    (hopened : (openLine host device chipDevnode offset "gpio.open").exec kernel = (.ok line, opened))
    (other : LineId) :
    Grants host paths device kernel other ↔ other = line ∧ host.lineInfo opened.calls line = .ok () ∧
      ∃ configuration, configurationFromInfo device (opened.lines line).flags = .ok configuration ∧
        host.request (opened.calls ++ [.lineInfo line])
          ⟨line, lineFlags configuration, initialValue configuration⟩ (opened.live.contains line) = .ok () := by
  constructor
  · rintro ⟨_, _, _, configuration, _, hdevnode', haddress', hopened', hinfo, hconfiguration, hrequest⟩
    cases hdevnode.symm.trans hdevnode'
    cases haddress.symm.trans haddress'
    cases hopened.symm.trans hopened'
    exact ⟨rfl, hinfo, configuration, hconfiguration, hrequest⟩
  · rintro ⟨rfl, hinfo, configuration, hconfiguration, hrequest⟩
    exact ⟨_, _, _, configuration, opened, hdevnode, haddress, hopened, hinfo, hconfiguration, hrequest⟩

theorem openSession_cases (host : GpioHost) (paths : LinuxPaths) (device : DeviceDescriptor)
    (access : SessionAccess) (kernel : GpioKernel) :
    let after := (openSession host paths device access).exec kernel
    (∃ line session, (∀ other, Grants host paths device kernel other ↔ other = line) ∧ after.1 = .ok session ∧
      session.handle = ⟨line, lineFlags session.configuration, initialValue session.configuration⟩ ∧
      session.metadata = { access, state := .idle } ∧
      after.2.lines = Function.update kernel.lines line (kernel.lines line).reopened ∧
      after.2.live = line :: kernel.live) ∨
    ((∀ line, ¬Grants host paths device kernel line) ∧ after.1.isOk = false ∧
      after.2.lines = kernel.lines ∧ after.2.live = kernel.live) := by
  unfold openSession
  cases hdevnode : resolveChipDevnode paths device with
  | none => exact .inr ⟨by simp [Grants, hdevnode], rfl, rfl, rfl⟩
  | some chipDevnode =>
    cases haddress : gpioLineAddress device with
    | none => exact .inr ⟨by simp [Grants, haddress], rfl, rfl, rfl⟩
    | some address =>
      obtain ⟨chipName, offset⟩ := address
      have hkeepsLines : Keeps GpioKernel.lines (openLine host device chipDevnode offset "gpio.open") :=
        keeps_openLine ignoresCalls_lines host device chipDevnode offset "gpio.open"
      have hkeepsLive : Keeps GpioKernel.live (openLine host device chipDevnode offset "gpio.open") :=
        keeps_openLine ignoresCalls_live host device chipDevnode offset "gpio.open"
      have hlines := hkeepsLines kernel
      have hlive := hkeepsLive kernel
      simp only
      cases hopened : (openLine host device chipDevnode offset "gpio.open").exec kernel with
      | mk result opened =>
        rw [hopened] at hlines hlive
        simp only at hlines hlive
        cases result with
        | error error =>
          rw [exec_bind_of_error hopened]
          refine .inr ⟨?_, rfl, hlines, hlive⟩
          rintro line ⟨_, _, _, _, _, hdevnode', haddress', hopened', -⟩
          cases hdevnode.symm.trans hdevnode'
          cases haddress.symm.trans haddress'
          cases hopened.symm.trans hopened'
        | ok line =>
          rw [exec_bind_of_ok hopened, exec_bind, exec_adapt, host.exec_info]
          simp only [grants_iff hdevnode haddress hopened]
          cases hinfo : host.lineInfo opened.calls line with
          | error error => exact .inr ⟨by simp, rfl, hlines, hlive⟩
          | ok answered =>
            simp only [Except.map, Except.mapError]
            cases hconfiguration : configurationFromInfo device (opened.lines line).flags with
            | error error => exact .inr ⟨by simp, rfl, hlines, hlive⟩
            | ok configuration =>
              rw [exec_bind_of_ok (exec_ofExcept _ _), exec_bind, exec_requestHandle]
              cases hrequest : host.request (opened.calls ++ [.lineInfo line])
                ⟨line, lineFlags configuration, initialValue configuration⟩ (opened.live.contains line) with
              | error error =>
                simp only [GpioKernel.called, hrequest]
                refine .inr ⟨?_, rfl, hlines, hlive⟩
                rintro _ ⟨rfl, -, configuration', hconfiguration', hrequest'⟩
                cases hconfiguration'
                cases hrequest.symm.trans hrequest'
              | ok granted =>
                simp only [GpioKernel.called, hrequest]
                refine .inl ⟨line, _, fun other => and_iff_left ?_, rfl, rfl, rfl, ?_, ?_⟩
                · exact ⟨trivial, configuration, rfl, hrequest⟩
                · rw [← hlines, ← requested_eq_reopened hconfiguration line]
                  rfl
                · rw [← hlive]
                  rfl

abbrev Call (α : Type) := Effect (Opened LinuxCdevGpioSession) BusError α

def setMetadata (f : SessionMetadata → SessionMetadata) (opened : Opened LinuxCdevGpioSession) :
    Opened LinuxCdevGpioSession :=
  { opened with session := { opened.session with metadata := f opened.session.metadata } }

def runCall {α : Type} (call : Call α) : Call α := runCallWith setMetadata call

def ensureOpen (operation : String) : Call Unit := do
  let session := (← get).session
  MonadExcept.ofExcept (session.metadata.ensureOpen session.device.id "GPIO" operation)

theorem exec_ensureOpen (operation : String) (opened : Opened LinuxCdevGpioSession) :
    (ensureOpen operation).exec opened =
      (opened.session.metadata.ensureOpen opened.session.device.id "GPIO" operation, opened) := by
  rw [ensureOpen, exec_bind_of_ok (exec_get opened), exec_ofExcept]

def permissionDenied {α : Type} (operation reason : String) : Call α := do
  throw (.permissionDenied (← get).session.device.id operation reason)

def readLevel (host : GpioHost) : Call GpioLevel := do
  ensureOpen "gpio.read"
  runCall do
    let session := (← get).session
    let value ← ExceptT.adapt (fun error => transportFailure session.device.id "gpio.read"
      s!"GPIO cdev read failed: {error}") (onKernel (host.value session.handle))
    if value = 0 then return .low
    else if value = 1 then return .high
    else throw (transportFailure session.device.id "gpio.read" s!"unexpected GPIO cdev value '{value}'")

def writeLevel (host : GpioHost) (level : GpioLevel) : Call Unit := do
  ensureOpen "gpio.write"
  let session := (← get).session
  if !session.metadata.access.canWrite then
    permissionDenied "gpio.write" "session access is read-only"
  else if session.configuration.direction ≠ .output then
    permissionDenied "gpio.write" "line is not configured for output"
  else
    runCall do
      let value := match level with
        | .low => 0
        | .high => 1
      ExceptT.adapt (fun error => transportFailure session.device.id "gpio.write"
        s!"GPIO cdev write failed: {error}") (onKernel (host.setLineValue session.handle value))

def checkConfiguration (deviceId : DeviceId) (configuration : GpioLineConfiguration) : BusResult Unit :=
  if configuration.direction = .input ∧ configuration.initialLevel.isSome then
    .error (.invalidConfiguration deviceId "input lines cannot set an initial output level")
  else if configuration.bias.isSome then
    .error (.invalidConfiguration deviceId
      "linux GPIO cdev transport does not yet support bias configuration")
  else if configuration.debounceUs.isSome then
    .error (.invalidConfiguration deviceId
      "linux GPIO cdev transport does not yet support debounce configuration")
  else if configuration.edge.isSome then
    .error (.invalidConfiguration deviceId
      "linux GPIO cdev transport does not yet support edge configuration")
  else .ok ()

/-- The new handle is requested while the session still has the old one. -/
def replaceHandle (handle : LineHandle) (configuration : GpioLineConfiguration)
    (opened : Opened LinuxCdevGpioSession) : Opened LinuxCdevGpioSession where
  kernel := opened.kernel.drop opened.session.handle
  session := { opened.session with handle, configuration }

def configureLine (host : GpioHost) (configuration : GpioLineConfiguration) : Call Unit := do
  ensureOpen "gpio.configure"
  let session := (← get).session
  if !session.metadata.access.canWrite then
    permissionDenied "gpio.configure" "session access does not allow configuration changes"
  else
    MonadExcept.ofExcept (checkConfiguration session.device.id configuration)
    runCall do
      let session := (← get).session
      let line ← onKernel (openLine host session.device session.chipDevnode session.offset "gpio.configure")
      let handle ← onKernel (requestHandle host session.device line configuration "gpio.configure")
      modify (replaceHandle handle configuration)

def getConfiguration : Call GpioLineConfiguration := do
  ensureOpen "gpio.get_configuration"
  return (← get).session.configuration

/-- The handle stays with the session. -/
def close : Call Unit := modify (setMetadata .markClosed)

section Frames

variable {γ : Type} {view : GpioKernel → γ} (h : IgnoresCalls view)

theorem keeps_ensureOpen (operation : String) :
    Keeps (fun opened => view opened.kernel) (ensureOpen operation) :=
  keeps_get.bind fun _ => .ofExcept _

theorem keeps_runCall {α : Type} {call : Call α} (hcall : Keeps (fun opened => view opened.kernel) call) :
    Keeps (fun opened => view opened.kernel) (runCall call) :=
  @keeps_runCallWith _ _ _ view setMetadata (fun _ _ => rfl) call hcall

theorem keeps_getConfiguration : Keeps (fun opened => view opened.kernel) getConfiguration :=
  (keeps_ensureOpen _).bind fun _ => keeps_get.bind fun _ => .pure _

theorem keeps_close : Keeps (fun opened => view opened.kernel) close := .update fun _ => rfl

include h

theorem keeps_canUseTransport (host : GpioHost) (paths : LinuxPaths) (device : DeviceDescriptor) :
    Keeps view (canUseTransport host paths device) := by
  unfold canUseTransport
  split
  · exact .pure false
  · exact keeps_ask h _ _

theorem keeps_readLevel (host : GpioHost) : Keeps (fun opened => view opened.kernel) (readLevel host) := by
  apply (keeps_ensureOpen _).bind
  intro _
  apply keeps_runCall
  apply keeps_get.bind
  intro opened
  apply ((keeps_onKernel (keeps_ask h _ _)).adapt _).bind
  intro value
  exact .ite (fun _ => .pure _) fun _ => .ite (fun _ => .pure _) fun _ => .throw _

end Frames

end LinuxCdevGpioSession

end Lemnos.Linux
