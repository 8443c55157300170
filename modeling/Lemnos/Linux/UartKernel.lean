import Lemnos.Library.Settings
import Lemnos.Linux.GpioCdev
import Lemnos.Linux.Sessions

namespace Lemnos.Linux

open Lemnos.Core Bus Library.Frames Library.Settings

/-! The serial port as the system offers it. -/

inductive DataBits where
  | five
  | six
  | seven
  | eight
  deriving DecidableEq

inductive Parity where
  | none
  | odd
  | even
  deriving DecidableEq

inductive StopBits where
  | one
  | two
  deriving DecidableEq

inductive FlowControl where
  | none
  | software
  | hardware
  deriving DecidableEq

structure SerialSettings where
  baudRate : UInt32
  dataBits : DataBits
  parity : Parity
  stopBits : StopBits
  flowControl : FlowControl
  deriving DecidableEq

inductive SerialSetting where
  | baudRate (baudRate : UInt32)
  | dataBits (dataBits : DataBits)
  | parity (parity : Parity)
  | stopBits (stopBits : StopBits)
  | flowControl (flowControl : FlowControl)
  | timeout (timeoutMs : UInt64)
  deriving DecidableEq

inductive SerialQuery where
  | baudRate
  | dataBits
  | parity
  | stopBits
  | flowControl
  deriving DecidableEq

inductive SerialCall where
  | set (setting : SerialSetting)
  | get (query : SerialQuery)
  | read (length : ℕ)
  | writeAll (bytes : List UInt8)
  | flush
  deriving DecidableEq

inductive SerialErrorKind where
  | noDevice
  | invalidInput
  | permissionDenied
  | notFound
  | wouldBlock
  | timedOut
  | other
  deriving DecidableEq

structure SerialError where
  kind : SerialErrorKind
  message : String

/-- What the system answers to a call on a port after the calls made before, and what a setter that it grants
makes of the settings. -/
structure SerialHost where
  openNative : String → UInt32 → UInt64 → Except SerialError SerialSettings
  grants : List SerialCall → SerialCall → Except String Unit
  applied : SerialSettings → SerialSetting → SerialSettings
  read : List SerialCall → ℕ → Except SerialError (List UInt8)

structure TTYPort where
  settings : SerialSettings
  calls : List SerialCall := []

namespace SerialHost

variable (host : SerialHost)

def call (call : SerialCall) : Effect TTYPort String Unit := do
  let port ← MonadState.get
  modify fun port => { port with calls := port.calls ++ [call] }
  MonadExcept.ofExcept (host.grants port.calls call)

def set (setting : SerialSetting) : Effect TTYPort String Unit := do
  host.call (.set setting)
  modify fun port => { port with settings := host.applied port.settings setting }

def get {α : Type} (query : SerialQuery) (value : SerialSettings → α) : Effect TTYPort String α := do
  host.call (.get query)
  return value (← MonadState.get).settings

def baudRate : Effect TTYPort String UInt32 := host.get .baudRate SerialSettings.baudRate

def dataBits : Effect TTYPort String DataBits := host.get .dataBits SerialSettings.dataBits

def parity : Effect TTYPort String Parity := host.get .parity SerialSettings.parity

def stopBits : Effect TTYPort String StopBits := host.get .stopBits SerialSettings.stopBits

def flowControl : Effect TTYPort String FlowControl := host.get .flowControl SerialSettings.flowControl

def readPort (length : ℕ) : Effect TTYPort SerialError (List UInt8) := do
  let port ← MonadState.get
  modify fun port => { port with calls := port.calls ++ [.read length] }
  MonadExcept.ofExcept (host.read port.calls length)

end SerialHost

def toSerialDataBits : UartDataBits → DataBits
  | .five => .five
  | .six => .six
  | .seven => .seven
  | .eight => .eight

def fromSerialDataBits : DataBits → UartDataBits
  | .five => .five
  | .six => .six
  | .seven => .seven
  | .eight => .eight

def toSerialParity : UartParity → Parity
  | .none => .none
  | .even => .even
  | .odd => .odd

def fromSerialParity : Parity → UartParity
  | .none => .none
  | .even => .even
  | .odd => .odd

def toSerialStopBits : UartStopBits → StopBits
  | .one => .one
  | .two => .two

def fromSerialStopBits : StopBits → UartStopBits
  | .one => .one
  | .two => .two

def toSerialFlowControl : UartFlowControl → FlowControl
  | .none => .none
  | .software => .software
  | .hardware => .hardware

def fromSerialFlowControl : FlowControl → UartFlowControl
  | .none => .none
  | .software => .software
  | .hardware => .hardware

def fromSerial (settings : SerialSettings) : UartConfiguration where
  baudRate := settings.baudRate
  dataBits := fromSerialDataBits settings.dataBits
  parity := fromSerialParity settings.parity
  stopBits := fromSerialStopBits settings.stopBits
  flowControl := fromSerialFlowControl settings.flowControl

structure UartTransportConfig where
  uartDefaultBaudRate : UInt32
  uartTimeoutMs : UInt64

structure LinuxKernelUartTransport where
  deviceId : DeviceId
  port : TTYPort
  configuration : UartConfiguration
  defaultTimeout : UInt64

namespace LinuxKernelUartTransport

def classifyOpenError (deviceId : DeviceId) (devnode : String) (error : SerialError) : BusError :=
  match error.kind with
  | .noDevice | .notFound => .sessionUnavailable deviceId
    s!"Linux UART device '{devnode}' is not currently available: {error.message}"
  | .invalidInput => .invalidConfiguration deviceId s!"invalid Linux UART target '{devnode}': {error.message}"
  | .permissionDenied => .permissionDenied deviceId "open"
    s!"failed to open Linux UART device '{devnode}': {error.message}"
  | .wouldBlock => .accessConflict deviceId s!"Linux UART device '{devnode}' is already in use"
  | .timedOut | .other => .transportFailure deviceId "open"
    s!"failed to open Linux UART device '{devnode}': {error.message}"

def validateConfiguration (deviceId : DeviceId) (configuration : UartConfiguration) : BusResult Unit :=
  if configuration.baudRate = 0 then
    .error (.invalidConfiguration deviceId "UART baud rate must be greater than zero")
  else .ok ()

variable (host : SerialHost)

def readSetting {α : Type} (deviceId : DeviceId) (name : String) (reading : Effect TTYPort String α) :
    Effect TTYPort BusError α :=
  ExceptT.adapt (fun error => transportFailure deviceId "uart.get_configuration"
    s!"failed to read UART {name}: {error}") reading

def readPortConfiguration (deviceId : DeviceId) : Effect TTYPort BusError UartConfiguration := do
  let baudRate ← readSetting deviceId "baud rate" host.baudRate
  let dataBits ← readSetting deviceId "data bits" host.dataBits
  let parity ← readSetting deviceId "parity" host.parity
  let stopBits ← readSetting deviceId "stop bits" host.stopBits
  let flowControl ← readSetting deviceId "flow control" host.flowControl
  return {
    baudRate
    dataBits := fromSerialDataBits dataBits
    parity := fromSerialParity parity
    stopBits := fromSerialStopBits stopBits
    flowControl := fromSerialFlowControl flowControl }

def makeSetting (deviceId : DeviceId) (name : String) (setting : SerialSetting) : Effect TTYPort BusError Unit :=
  ExceptT.adapt (fun error => transportFailure deviceId "uart.configure" s!"failed to set UART {name}: {error}")
    (host.set setting)

def makeSettings (deviceId : DeviceId) (defaultTimeout : UInt64) (configuration : UartConfiguration) :
    Effect TTYPort BusError Unit := do
  makeSetting host deviceId "baud rate" (.baudRate configuration.baudRate)
  makeSetting host deviceId "data bits" (.dataBits (toSerialDataBits configuration.dataBits))
  makeSetting host deviceId "parity" (.parity (toSerialParity configuration.parity))
  makeSetting host deviceId "stop bits" (.stopBits (toSerialStopBits configuration.stopBits))
  makeSetting host deviceId "flow control" (.flowControl (toSerialFlowControl configuration.flowControl))
  makeSetting host deviceId "timeout" (.timeout defaultTimeout)

def openError (deviceId : DeviceId) : BusError → BusError
  | .transportFailure _ _ reason => .transportFailure deviceId "open" reason
  | other => other

def new (deviceId : DeviceId) (devnode : String) (transportConfig : UartTransportConfig) :
    BusResult LinuxKernelUartTransport := do
  let settings ← (host.openNative devnode transportConfig.uartDefaultBaudRate
    transportConfig.uartTimeoutMs).mapError (classifyOpenError deviceId devnode)
  let (result, port) := (readPortConfiguration host deviceId).exec { settings }
  let configuration ← result.mapError (openError deviceId)
  return { deviceId, port, configuration, defaultTimeout := transportConfig.uartTimeoutMs }

def onPort {α : Type} (effect : Effect TTYPort BusError α) : Effect LinuxKernelUartTransport BusError α :=
  effect.within port (fun port transport => { transport with port })

def readInto (length : ℕ) : Effect LinuxKernelUartTransport BusError (List UInt8) := do
  let transport ← get
  if length = 0 then
    throw (.invalidRequest transport.deviceId "uart.read" "max_bytes must be greater than zero")
  match ← onPort (host.readPort length).attempt with
  | .ok bytes => return bytes
  | .error error =>
    if error.kind = .timedOut ∨ error.kind = .wouldBlock then return []
    throw (transportFailure transport.deviceId "uart.read" s!"Linux UART read failed: {error.message}")

def read (maxBytes : UInt32) : Effect LinuxKernelUartTransport BusError (List UInt8) := do
  let transport ← get
  if maxBytes = 0 then
    throw (.invalidRequest transport.deviceId "uart.read" "max_bytes must be greater than zero")
  readInto host maxBytes.toNat

def write (bytes : List UInt8) : Effect LinuxKernelUartTransport BusError Unit := do
  let transport ← get
  if bytes.isEmpty then
    throw (.invalidRequest transport.deviceId "uart.write" "write payload must not be empty")
  onPort (ExceptT.adapt (fun error => transportFailure transport.deviceId "uart.write"
    s!"Linux UART write failed: {error}") (host.call (.writeAll bytes)))

def flush : Effect LinuxKernelUartTransport BusError Unit := do
  let transport ← get
  onPort (ExceptT.adapt (fun error => transportFailure transport.deviceId "uart.flush"
    s!"Linux UART flush failed: {error}") (host.call .flush))

/-- What is reported of the port is refreshed only when all of it has been set and read again. -/
def configure (configuration : UartConfiguration) : Effect LinuxKernelUartTransport BusError Unit := do
  let transport ← get
  MonadExcept.ofExcept (validateConfiguration transport.deviceId configuration)
  let updatedConfiguration ← onPort do
    makeSettings host transport.deviceId transport.defaultTimeout configuration
    readPortConfiguration host transport.deviceId
  modify fun transport => { transport with configuration := updatedConfiguration }

def transport : UartTransport LinuxKernelUartTransport
  | .readInto length => readInto host length
  | .read maxBytes => read host maxBytes
  | .write bytes => write host bytes
  | .flush => flush host
  | .configure configuration => configure host configuration
  | .configuration => do return (← get).configuration

def serialDevice : Device TTYPort SerialCall SerialSettings where
  calls := TTYPort.calls
  settings := TTYPort.settings
  grants earlier call := host.grants earlier call = .ok ()
  apply settings call := match call with
    | .set setting => host.applied settings setting
    | _ => settings

def settingCalls (defaultTimeout : UInt64) (configuration : UartConfiguration) : List SerialCall :=
  [.set (.baudRate configuration.baudRate), .set (.dataBits (toSerialDataBits configuration.dataBits)),
    .set (.parity (toSerialParity configuration.parity)),
    .set (.stopBits (toSerialStopBits configuration.stopBits)),
    .set (.flowControl (toSerialFlowControl configuration.flowControl)), .set (.timeout defaultTimeout)]

def queryCalls : List SerialCall :=
  [.get .baudRate, .get .dataBits, .get .parity, .get .stopBits, .get .flowControl]

variable {host}

theorem exec_call (call : SerialCall) (port : TTYPort) : (host.call call).exec port =
    (host.grants port.calls call, { port with calls := port.calls ++ [call] }) := by
  rw [SerialHost.call, exec_bind_of_ok (exec_get port), exec_bind_of_ok (exec_modify _ port), exec_ofExcept]

theorem performs_call {α : Type} {call : SerialCall} {next : Effect TTYPort String α} {value : SerialSettings → α}
    (hnext : ∀ port, (next.exec port).1 = .ok (value (next.exec port).2.settings) ∧
      (next.exec port).2.settings = (serialDevice host).apply port.settings call ∧
        (next.exec port).2.calls = port.calls) :
    (serialDevice host).Performs [call] value (host.call call >>= fun _ => next) := by
  apply Device.Performs.call
  · intro port hgrants
    rw [exec_call]
    exact of_decide_eq_true hgrants
  · intro port hrefuses
    rw [exec_call]
    cases hanswer : host.grants port.calls call with
    | ok _ => exact absurd hanswer (of_decide_eq_false hrefuses)
    | error error => exact ⟨error, rfl⟩
  · intro port
    rw [exec_call]
    exact ⟨rfl, rfl⟩
  · exact hnext

theorem performs_set (setting : SerialSetting) :
    (serialDevice host).Performs [.set setting] (fun _ => ()) (host.set setting) :=
  performs_call fun _ => ⟨rfl, rfl, rfl⟩

theorem performs_get {α : Type} (query : SerialQuery) (value : SerialSettings → α) :
    (serialDevice host).Performs [.get query] value (host.get query value) :=
  performs_call fun _ => ⟨rfl, rfl, rfl⟩

theorem performs_makeSettings (deviceId : DeviceId) (defaultTimeout : UInt64)
    (configuration : UartConfiguration) :
    (serialDevice host).Performs (settingCalls defaultTimeout configuration) (fun _ => ())
      (makeSettings host deviceId defaultTimeout configuration) := by
  have hset : ∀ name setting, (serialDevice host).Performs [.set setting] (fun _ => ())
      (makeSetting host deviceId name setting) := fun _ setting => (performs_set setting).adapt _
  exact (hset _ _).step ((hset _ _).step ((hset _ _).step ((hset _ _).step ((hset _ _).step (hset _ _)))))

theorem performs_readPortConfiguration (deviceId : DeviceId) :
    (serialDevice host).Performs queryCalls fromSerial (readPortConfiguration host deviceId) := by
  have hget : ∀ {α : Type} name query (value : SerialSettings → α),
      (serialDevice host).Performs [.get query] value (readSetting deviceId name (host.get query value)) :=
    fun _ query value => (performs_get query value).adapt _
  have hflowControl := fun baudRate dataBits parity stopBits =>
    (hget "flow control" .flowControl SerialSettings.flowControl).map fun flowControl =>
      UartConfiguration.mk baudRate
      (fromSerialDataBits dataBits) (fromSerialParity parity) (fromSerialStopBits stopBits)
      (fromSerialFlowControl flowControl)
  have hstopBits := fun baudRate dataBits parity =>
    (hget "stop bits" .stopBits SerialSettings.stopBits).bind (hflowControl baudRate dataBits parity) fun _ => rfl
  have hparity := fun baudRate dataBits =>
    (hget "parity" .parity SerialSettings.parity).bind (hstopBits baudRate dataBits) fun _ => rfl
  have hdataBits := fun baudRate =>
    (hget "data bits" .dataBits SerialSettings.dataBits).bind (hparity baudRate) fun _ => rfl
  exact (hget "baud rate" .baudRate SerialSettings.baudRate).bind hdataBits fun _ => rfl

def Matches (transport : LinuxKernelUartTransport) : Prop :=
  transport.configuration = fromSerial transport.port.settings

def configureCalls (transport : LinuxKernelUartTransport) (configuration : UartConfiguration) : List SerialCall :=
  settingCalls transport.defaultTimeout configuration ++ queryCalls

def RefusedInTime (host : SerialHost) (configuration : UartConfiguration) (transport : LinuxKernelUartTransport) :
    Prop :=
  validateConfiguration transport.deviceId configuration = .ok () →
    ¬(serialDevice host).Accepts (transport.configureCalls configuration) transport.port →
      fromSerial ((serialDevice host).after (transport.configureCalls configuration) transport.port) =
        fromSerial transport.port.settings

theorem performs_configure (transport : LinuxKernelUartTransport) (configuration : UartConfiguration) :
    (serialDevice host).Performs (transport.configureCalls configuration) fromSerial (do
      makeSettings host transport.deviceId transport.defaultTimeout configuration
      readPortConfiguration host transport.deviceId) :=
  (performs_makeSettings _ _ _).step (performs_readPortConfiguration _)

theorem configure_matches_iff {transport : LinuxKernelUartTransport} (configuration : UartConfiguration)
    (h : transport.Matches) :
    ((configure host configuration).exec transport).2.Matches ↔ RefusedInTime host configuration transport := by
  rw [configure, exec_bind_of_ok (exec_get transport), exec_bind, exec_ofExcept, RefusedInTime]
  cases validateConfiguration transport.deviceId configuration with
  | error error => exact iff_of_true h nofun
  | ok _ =>
    rw [imp_iff_right rfl]
    refine Iff.trans ?_ ((performs_configure transport configuration).remembered_iff h)
    simp only
    rw [exec_bind, onPort, exec_within]
    cases ((do
      makeSettings host transport.deviceId transport.defaultTimeout configuration
      readPortConfiguration host transport.deviceId).exec transport.port).1 with
    | ok updated => exact Iff.rfl
    | error error => exact Iff.rfl

theorem new_matches {deviceId : DeviceId} {devnode : String} {transportConfig : UartTransportConfig}
    {transport : LinuxKernelUartTransport} (h : new host deviceId devnode transportConfig = .ok transport) :
    transport.Matches := by
  rw [new] at h
  cases hopened : host.openNative devnode transportConfig.uartDefaultBaudRate transportConfig.uartTimeoutMs with
  | error error =>
    rw [hopened] at h
    cases h
  | ok settings =>
    rw [hopened] at h
    rcases hexec : (readPortConfiguration host deviceId).exec { settings } with ⟨error | configuration, port⟩
    · simp only [Except.mapError, bind, Except.bind, hexec] at h
      cases h
    · have hread := (performs_readPortConfiguration deviceId).value_of_ok hexec
      simp only [Except.mapError, bind, Except.bind, hexec] at h
      cases h
      exact hread

end LinuxKernelUartTransport

end Lemnos.Linux
