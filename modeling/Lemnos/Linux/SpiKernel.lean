import Lemnos.Library.Settings
import Lemnos.Linux.I2c
import Lemnos.Linux.Sessions

namespace Lemnos.Linux

open Lemnos.Core Bus Library.Frames Library.Settings

/-! The SPI device as the system offers it. -/

structure SpidevSettings where
  mode : UInt8
  bitsPerWord : UInt8
  maxSpeedHz : UInt32
  lsbFirst : UInt8
  deriving DecidableEq

inductive SpidevSetting where
  | mode (flags : UInt32)
  | bitsPerWord (bitsPerWord : UInt8)
  | maxSpeedHz (maxSpeedHz : UInt32)
  | lsbFirst (lsbFirst : Bool)
  deriving DecidableEq

inductive SpidevQuery where
  | mode
  | bitsPerWord
  | maxSpeedHz
  | lsbFirst
  deriving DecidableEq

inductive SpidevCall where
  | set (setting : SpidevSetting)
  | get (query : SpidevQuery)
  | transfer (write : List UInt8)
  | writeAll (bytes : List UInt8)
  deriving DecidableEq

structure SpidevError where
  kind : IoErrorKind
  rawOsError : Option Int
  message : String

structure SpidevOptions where
  bitsPerWord : Option UInt8 := none
  maxSpeedHz : Option UInt32 := none
  lsbFirst : Option Bool := none
  mode : Option UInt32 := none
  deriving DecidableEq

/-- What the system answers to a call on a device after the calls made before, in which order the options are
set one by one, and what a setter that is granted makes of the settings. -/
structure SpiHost where
  openDevice : String → Except SpidevError SpidevSettings
  order : SpidevOptions → List SpidevSetting
  grants : List SpidevCall → SpidevCall → Except String Unit
  applied : SpidevSettings → SpidevSetting → SpidevSettings
  received : List SpidevCall → ℕ → UInt8

structure Spidev where
  settings : SpidevSettings
  calls : List SpidevCall := []

namespace SpiHost

variable (host : SpiHost)

def call (call : SpidevCall) : Effect Spidev String Unit := do
  let spi ← MonadState.get
  modify fun spi => { spi with calls := spi.calls ++ [call] }
  MonadExcept.ofExcept (host.grants spi.calls call)

def set (setting : SpidevSetting) : Effect Spidev String Unit := do
  host.call (.set setting)
  modify fun spi => { spi with settings := host.applied spi.settings setting }

def setAll : List SpidevSetting → Effect Spidev String Unit
  | [] => return
  | setting :: settings => do
    host.set setting
    setAll settings

def configure (options : SpidevOptions) : Effect Spidev String Unit := host.setAll (host.order options)

def get {α : Type} (query : SpidevQuery) (value : SpidevSettings → α) : Effect Spidev String α := do
  host.call (.get query)
  return value (← MonadState.get).settings

def getMode : Effect Spidev String UInt8 := host.get .mode SpidevSettings.mode

def getBitsPerWord : Effect Spidev String UInt8 := host.get .bitsPerWord SpidevSettings.bitsPerWord

def getMaxSpeedHz : Effect Spidev String UInt32 := host.get .maxSpeedHz SpidevSettings.maxSpeedHz

def getLsbFirst : Effect Spidev String UInt8 := host.get .lsbFirst SpidevSettings.lsbFirst

def transfer (write : List UInt8) : Effect Spidev String (List UInt8) := do
  let spi ← MonadState.get
  host.call (.transfer write)
  return (List.range write.length).map (host.received spi.calls)

end SpiHost

def modeToFlags : SpiMode → UInt32
  | .mode0 => 0
  | .mode1 => 1
  | .mode2 => 2
  | .mode3 => 3

def modeFromBits (bits : UInt8) : SpiMode :=
  if bits &&& 3 = 0 then .mode0
  else if bits &&& 3 = 1 then .mode1
  else if bits &&& 3 = 2 then .mode2
  else .mode3

def toSpidevOptions (configuration : SpiConfiguration) : SpidevOptions where
  bitsPerWord := configuration.bitsPerWord
  maxSpeedHz := configuration.maxFrequencyHz
  lsbFirst := some (configuration.bitOrder = .lsbFirst)
  mode := some (modeToFlags configuration.mode)

def fromSpidev (settings : SpidevSettings) : SpiConfiguration where
  mode := modeFromBits settings.mode
  maxFrequencyHz := if settings.maxSpeedHz = 0 then none else some settings.maxSpeedHz
  bitsPerWord := some (if settings.bitsPerWord = 0 then 8 else settings.bitsPerWord)
  bitOrder := if settings.lsbFirst = 0 then .msbFirst else .lsbFirst

structure LinuxKernelSpiTransport where
  deviceId : DeviceId
  spi : Spidev
  configuration : SpiConfiguration

namespace LinuxKernelSpiTransport

def classifyOpenError (deviceId : DeviceId) (devnode : String) (error : SpidevError) : BusError :=
  if error.kind = .permissionDenied ∨ error.rawOsError = some 1 ∨ error.rawOsError = some 13 then
    .permissionDenied deviceId "open" s!"failed to open Linux SPI device '{devnode}': {error.message}"
  else if error.rawOsError = some 16 then
    .accessConflict deviceId s!"Linux SPI device '{devnode}' is already in use"
  else if error.kind = .notFound ∨ error.rawOsError = some 2 ∨ error.rawOsError = some 6 ∨
      error.rawOsError = some 19 then
    .sessionUnavailable deviceId s!"Linux SPI device '{devnode}' is not currently available: {error.message}"
  else transportFailure deviceId "open" s!"failed to open Linux SPI device '{devnode}': {error.message}"

def validateConfiguration (deviceId : DeviceId) (configuration : SpiConfiguration) : BusResult Unit :=
  if configuration.maxFrequencyHz = some 0 then
    .error (.invalidConfiguration deviceId "SPI max frequency must be greater than zero")
  else if configuration.bitsPerWord = some 0 then
    .error (.invalidConfiguration deviceId "SPI bits per word must be greater than zero")
  else .ok ()

variable (host : SpiHost)

def readSetting {α : Type} (deviceId : DeviceId) (name : String) (reading : Effect Spidev String α) :
    Effect Spidev BusError α :=
  ExceptT.adapt (fun error => transportFailure deviceId "spi.get_configuration"
    s!"failed to read Linux SPI {name}: {error}") reading

def readKernelConfiguration (deviceId : DeviceId) : Effect Spidev BusError SpiConfiguration := do
  let modeBits ← readSetting deviceId "mode" host.getMode
  let bitsPerWord ← readSetting deviceId "bits per word" host.getBitsPerWord
  let maxSpeedHz ← readSetting deviceId "max speed" host.getMaxSpeedHz
  let lsbFirst ← readSetting deviceId "bit order" host.getLsbFirst
  return {
    mode := modeFromBits modeBits
    maxFrequencyHz := if maxSpeedHz = 0 then none else some maxSpeedHz
    bitsPerWord := some (if bitsPerWord = 0 then 8 else bitsPerWord)
    bitOrder := if lsbFirst = 0 then .msbFirst else .lsbFirst }

def openError (deviceId : DeviceId) : BusError → BusError
  | .transportFailure _ _ reason => .transportFailure deviceId "open" reason
  | other => other

def new (deviceId : DeviceId) (devnode : String) : BusResult LinuxKernelSpiTransport := do
  let settings ← (host.openDevice devnode).mapError (classifyOpenError deviceId devnode)
  let (result, spi) := (readKernelConfiguration host deviceId).exec { settings }
  let configuration ← result.mapError (openError deviceId)
  return { deviceId, spi, configuration }

def onSpi {α : Type} (effect : Effect Spidev BusError α) : Effect LinuxKernelSpiTransport BusError α :=
  effect.within spi (fun spi transport => { transport with spi })

def transfer (write : List UInt8) : Effect LinuxKernelSpiTransport BusError (List UInt8) := do
  let transport ← get
  if write.isEmpty then
    throw (.invalidRequest transport.deviceId "spi.transfer" "transfer payload must not be empty")
  onSpi (ExceptT.adapt (fun error => transportFailure transport.deviceId "spi.transfer"
    s!"Linux SPI transfer failed: {error}") (host.transfer write))

def write (bytes : List UInt8) : Effect LinuxKernelSpiTransport BusError Unit := do
  let transport ← get
  if bytes.isEmpty then
    throw (.invalidRequest transport.deviceId "spi.write" "write payload must not be empty")
  onSpi (ExceptT.adapt (fun error => transportFailure transport.deviceId "spi.write"
    s!"Linux SPI write failed: {error}") (host.call (.writeAll bytes)))

def makeSettings (deviceId : DeviceId) (configuration : SpiConfiguration) : Effect Spidev BusError Unit :=
  ExceptT.adapt (fun error => transportFailure deviceId "spi.configure" s!"Linux SPI configure failed: {error}")
    (host.configure (toSpidevOptions configuration))

/-- What is reported of the device is refreshed only when all of it has been set and read again. -/
def configure (configuration : SpiConfiguration) : Effect LinuxKernelSpiTransport BusError Unit := do
  let transport ← get
  MonadExcept.ofExcept (validateConfiguration transport.deviceId configuration)
  let configuration ← onSpi do
    makeSettings host transport.deviceId configuration
    readKernelConfiguration host transport.deviceId
  modify fun transport => { transport with configuration }

def transport : SpiTransport LinuxKernelSpiTransport
  | .transfer bytes => transfer host bytes
  | .write bytes => write host bytes
  | .configure configuration => configure host configuration
  | .configuration => do return (← get).configuration

def spiDevice : Device Spidev SpidevCall SpidevSettings where
  calls := Spidev.calls
  settings := Spidev.settings
  grants earlier call := host.grants earlier call = .ok ()
  apply settings call := match call with
    | .set setting => host.applied settings setting
    | _ => settings

def settingCalls (configuration : SpiConfiguration) : List SpidevCall :=
  (host.order (toSpidevOptions configuration)).map .set

def queryCalls : List SpidevCall := [.get .mode, .get .bitsPerWord, .get .maxSpeedHz, .get .lsbFirst]

variable {host}

theorem exec_call (call : SpidevCall) (spi : Spidev) : (host.call call).exec spi =
    (host.grants spi.calls call, { spi with calls := spi.calls ++ [call] }) := by
  rw [SpiHost.call, exec_bind_of_ok (exec_get spi), exec_bind_of_ok (exec_modify _ spi), exec_ofExcept]

theorem performs_call {α : Type} {call : SpidevCall} {next : Effect Spidev String α} {value : SpidevSettings → α}
    (hnext : ∀ spi, (next.exec spi).1 = .ok (value (next.exec spi).2.settings) ∧
      (next.exec spi).2.settings = (spiDevice host).apply spi.settings call ∧
        (next.exec spi).2.calls = spi.calls) :
    (spiDevice host).Performs [call] value (host.call call >>= fun _ => next) := by
  apply Device.Performs.call
  · intro spi hgrants
    rw [exec_call]
    exact of_decide_eq_true hgrants
  · intro spi hrefuses
    rw [exec_call]
    cases hanswer : host.grants spi.calls call with
    | ok _ => exact absurd hanswer (of_decide_eq_false hrefuses)
    | error error => exact ⟨error, rfl⟩
  · intro spi
    rw [exec_call]
    exact ⟨rfl, rfl⟩
  · exact hnext

theorem performs_set (setting : SpidevSetting) :
    (spiDevice host).Performs [.set setting] (fun _ => ()) (host.set setting) :=
  performs_call fun _ => ⟨rfl, rfl, rfl⟩

theorem performs_get {α : Type} (query : SpidevQuery) (value : SpidevSettings → α) :
    (spiDevice host).Performs [.get query] value (host.get query value) :=
  performs_call fun _ => ⟨rfl, rfl, rfl⟩

theorem performs_setAll (settings : List SpidevSetting) :
    (spiDevice host).Performs (settings.map .set) (fun _ => ()) (host.setAll settings) := by
  induction settings with
  | nil => exact .pure ()
  | cons setting settings ih => exact (performs_set setting).step ih

theorem performs_makeSettings (deviceId : DeviceId) (configuration : SpiConfiguration) :
    (spiDevice host).Performs (settingCalls host configuration) (fun _ => ())
      (makeSettings host deviceId configuration) :=
  (performs_setAll _).adapt _

theorem performs_readKernelConfiguration (deviceId : DeviceId) :
    (spiDevice host).Performs queryCalls fromSpidev (readKernelConfiguration host deviceId) := by
  have hget : ∀ {α : Type} name query (value : SpidevSettings → α),
      (spiDevice host).Performs [.get query] value (readSetting deviceId name (host.get query value)) :=
    fun _ query value => (performs_get query value).adapt _
  have hlsbFirst := fun modeBits (bitsPerWord : UInt8) (maxSpeedHz : UInt32) =>
    (hget "bit order" .lsbFirst SpidevSettings.lsbFirst).map fun lsbFirst => SpiConfiguration.mk
      (modeFromBits modeBits) (if maxSpeedHz = 0 then none else some maxSpeedHz)
      (some (if bitsPerWord = 0 then 8 else bitsPerWord)) (if lsbFirst = 0 then .msbFirst else .lsbFirst)
  have hmaxSpeedHz := fun modeBits bitsPerWord =>
    (hget "max speed" .maxSpeedHz SpidevSettings.maxSpeedHz).bind (hlsbFirst modeBits bitsPerWord) fun _ => rfl
  have hbitsPerWord := fun modeBits =>
    (hget "bits per word" .bitsPerWord SpidevSettings.bitsPerWord).bind (hmaxSpeedHz modeBits) fun _ => rfl
  exact (hget "mode" .mode SpidevSettings.mode).bind hbitsPerWord fun _ => rfl

def Matches (transport : LinuxKernelSpiTransport) : Prop :=
  transport.configuration = fromSpidev transport.spi.settings

def configureCalls (host : SpiHost) (configuration : SpiConfiguration) : List SpidevCall :=
  settingCalls host configuration ++ queryCalls

def RefusedInTime (host : SpiHost) (configuration : SpiConfiguration)
    (transport : LinuxKernelSpiTransport) : Prop :=
  validateConfiguration transport.deviceId configuration = .ok () →
    ¬(spiDevice host).Accepts (configureCalls host configuration) transport.spi →
      fromSpidev ((spiDevice host).after (configureCalls host configuration) transport.spi) =
        fromSpidev transport.spi.settings

theorem performs_configure (deviceId : DeviceId) (configuration : SpiConfiguration) :
    (spiDevice host).Performs (configureCalls host configuration) fromSpidev (do
      makeSettings host deviceId configuration
      readKernelConfiguration host deviceId) :=
  (performs_makeSettings _ _).step (performs_readKernelConfiguration _)

theorem configure_matches_iff {transport : LinuxKernelSpiTransport} (configuration : SpiConfiguration)
    (h : transport.Matches) :
    ((configure host configuration).exec transport).2.Matches ↔ RefusedInTime host configuration transport := by
  rw [configure, exec_bind_of_ok (exec_get transport), exec_bind, exec_ofExcept, RefusedInTime]
  cases validateConfiguration transport.deviceId configuration with
  | error error => exact iff_of_true h nofun
  | ok _ =>
    rw [imp_iff_right rfl]
    refine Iff.trans ?_ ((performs_configure transport.deviceId configuration).remembered_iff h)
    simp only
    rw [exec_bind, onSpi, exec_within]
    cases ((do
      makeSettings host transport.deviceId configuration
      readKernelConfiguration host transport.deviceId).exec transport.spi).1 with
    | ok updated => exact Iff.rfl
    | error error => exact Iff.rfl

theorem new_matches {deviceId : DeviceId} {devnode : String} {transport : LinuxKernelSpiTransport}
    (h : new host deviceId devnode = .ok transport) : transport.Matches := by
  rw [new] at h
  cases hopened : host.openDevice devnode with
  | error error =>
    rw [hopened] at h
    cases h
  | ok settings =>
    rw [hopened] at h
    rcases hexec : (readKernelConfiguration host deviceId).exec { settings } with ⟨error | configuration, spi⟩
    · simp only [Except.mapError, bind, Except.bind, hexec] at h
      cases h
    · have hread := (performs_readKernelConfiguration deviceId).value_of_ok hexec
      simp only [Except.mapError, bind, Except.bind, hexec] at h
      cases h
      exact hread

end LinuxKernelSpiTransport

end Lemnos.Linux
