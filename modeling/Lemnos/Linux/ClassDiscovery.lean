import Lemnos.Linux.Reports

namespace Lemnos.Linux

open Lemnos.Core Discovery

/-- The file system also says what is a directory. -/
structure ClassHost extends DiscoveryHost where
  isDir : String → Bool

/-- An entry may turn out to be nothing that the probe is after. -/
def recordIfAny (discovery : ProbeDiscovery) : Except String (Option DeviceDescriptor) → ProbeDiscovery
  | .ok device => device.elim discovery fun device => record discovery (.ok device)
  | .error note => record discovery (.error note)

namespace UartDiscoveryProbe

variable (host : DiscoveryHost) (paths : LinuxPaths)

structure PortData where
  portName : String
  ttyPath : String
  devnode : Option String
  devMajorMinor : Option String
  modalias : Option String
  driver : Option String

def loadPortData (portName ttyPath : String) (devnode : Option String) : Except String PortData := do
  let devMajorMinor ←
    readOf "Linux UART dev tuple" s!"'{portName}'" ttyPath (host.readTrimmed (joinPath ttyPath "dev"))
  let modalias ← readOf "Linux UART modalias" s!"'{portName}'" ttyPath
    (host.readTrimmed (joinPath (joinPath ttyPath "device") "modalias"))
  let driver ← readOf "Linux UART driver link" s!"'{portName}'" ttyPath
    (host.readLinkName (joinPath (joinPath ttyPath "device") "driver"))
  return { portName, ttyPath, devnode, devMajorMinor, modalias, driver }

def portIdText (portName : String) : String := s!"linux.uart.port.{portName}"

def describePort (data : PortData) (builder : DeviceDescriptor) : DeviceDescriptor :=
  let builder := { builder with
    displayName := some data.portName
    summary := some "Linux UART port"
    address := some (.uartPort data.portName) }
  let builder := ((builder.withDriverHint (some "lemnos.uart.generic")).withLabel "backend" "linux").withLabel
    "port" data.portName
    |> withText "port" data.portName
    |> withText "sysfs_path" data.ttyPath
  configuredBuilderWithCapabilities builder uartSessionCapabilities
    |> whenRead data.devMajorMinor (withText "dev")
    |> whenRead data.modalias withModalias
    |> whenRead data.driver withDriver
    |> withOrDegraded data.devnode withDevnode

/-- A port without a device node and without a device is none. -/
def buildPortDescriptor (portName ttyPath : String) : Except String (Option DeviceDescriptor) := do
  let devnode := host.existingPathString (paths.ttyDevnode portName)
  if devnode = none ∧ host.pathExists (joinPath ttyPath "device") = false then return none
  let data ← loadPortData host portName ttyPath devnode
  let descriptor ← buildDescriptor (portIdText portName) .uartPort s!"UART descriptor for '{portName}'"
    s!"UART descriptor for '{portName}'" (describePort data)
  return some descriptor

def visit (discovery : ProbeDiscovery) (ttyPath portName : String) : DiscoveryResult ProbeDiscovery :=
  .ok (recordIfAny discovery (buildPortDescriptor host paths portName ttyPath))

def discover : DiscoveryResult ProbeDiscovery :=
  let ttyRoot := paths.ttyClassRoot
  if !host.pathExists ttyRoot then .ok { notes := [s!"TTY sysfs root '{ttyRoot}' is not present"] }
  else discoverEntries "linux-uart" ttyRoot "enumerate TTY devices" (host.readDirSorted ttyRoot) (visit host paths) {}

end UartDiscoveryProbe

/-- What is the same of all devices of a class of the kernel that drivers control through its files. -/
def classDevice (displayName summary scheme name subsystem nameLabel nameProperty path : String)
    (interface : InterfaceKind) (capabilities : List (CapabilityId × CapabilityAccess))
    (builder : DeviceDescriptor) : DeviceDescriptor :=
  let builder := { builder with
    displayName := some displayName
    summary := some summary
    address := some (.custom interface scheme name)
    controlSurface := some (.linuxClass path) }
  let builder := ((builder.withLabel "backend" "linux").withLabel "subsystem" subsystem).withLabel nameLabel name
    |> withText "linux.subsystem" subsystem
    |> withText "linux.class_path" path
    |> withText nameProperty name
  configuredBuilderWithCapabilities builder capabilities

namespace LedDiscoveryProbe

variable (host : ClassHost) (paths : LinuxPaths)

def bracketed : List Char → Option (List Char)
  | '[' :: rest => if rest.getLast? = some ']' then some rest.dropLast else none
  | _ => none

/-- The triggers that a LED can have, and the one in brackets that it has. -/
def parseTriggerState (value : Option String) : Option String × List String :=
  let tokens := (((value.getD "").toList.splitOnP isWhitespace).filter (· ≠ []))
  ((tokens.filterMap bracketed).getLast?.map String.ofList,
    tokens.map fun token => String.ofList ((bracketed token).getD token))

structure LedData where
  ledName : String
  path : String
  brightness : Option UInt32
  maxBrightness : Option UInt32
  triggerText : Option String
  driver : Option String
  deviceName : Option String

def loadLedData (path ledName : String) : Except String LedData := do
  let brightness ← readOf "Linux LED brightness" s!"'{ledName}'" path (host.readU32 (joinPath path "brightness"))
  let maxBrightness ←
    readOf "Linux LED max brightness" s!"'{ledName}'" path (host.readU32 (joinPath path "max_brightness"))
  let triggerText ← readOf "Linux LED triggers" s!"'{ledName}'" path (host.readTrimmed (joinPath path "trigger"))
  let driver ← readOf "Linux LED driver" s!"'{ledName}'" path
    (host.readLinkName (joinPath (joinPath path "device") "driver"))
  let deviceName ← readOf "Linux LED device link" s!"'{ledName}'" path (host.readLinkName (joinPath path "device"))
  return { ledName, path, brightness, maxBrightness, triggerText, driver, deviceName }

def ledCapabilities : List (CapabilityId × CapabilityAccess) :=
  [(⟨"led.get_brightness", by decide⟩, .READ), (⟨"led.set_brightness", by decide⟩, .WRITE),
    (⟨"led.get_trigger", by decide⟩, .READ), (⟨"led.set_trigger", by decide⟩, .CONFIGURE)]

def ledIdText (ledName : String) : String := s!"linux.gpio.led.{ledName}"

def withTriggers (triggers : List String) (builder : DeviceDescriptor) : DeviceDescriptor :=
  if triggers = [] then builder
  else builder.withProperty "led.available_triggers" (.list (triggers.map .string))

def describeLed (data : LedData) (builder : DeviceDescriptor) : DeviceDescriptor :=
  let (activeTrigger, availableTriggers) := parseTriggerState data.triggerText
  classDevice data.ledName "Linux LED class device" "linux-led-class" data.ledName "leds" "led_name" "led.name" data.path
      .gpio ledCapabilities builder
    |> withOrDegraded data.brightness (fun brightness => withNumber "led.brightness" brightness.toUInt64)
    |> withOrDegraded data.maxBrightness (fun brightness => withNumber "led.max_brightness" brightness.toUInt64)
    |> whenRead activeTrigger (withText "led.active_trigger")
    |> withTriggers availableTriggers
    |> whenRead data.deviceName (withText "linux.device")
    |> whenRead data.driver withLinuxDriver

def buildLedDescriptor (path ledName : String) : Except String DeviceDescriptor := do
  let data ← loadLedData host path ledName
  buildDescriptor (ledIdText ledName) (.unspecified .gpio) s!"Linux LED descriptor '{ledName}'"
    s!"Linux LED descriptor '{ledName}'" (describeLed data)

def visit (discovery : ProbeDiscovery) (path ledName : String) : DiscoveryResult ProbeDiscovery :=
  .ok (if host.isDir path = false then discovery else record discovery (buildLedDescriptor host path ledName))

def discover : DiscoveryResult ProbeDiscovery :=
  let ledsRoot := paths.ledClassRoot
  if !host.pathExists ledsRoot then .ok { notes := [s!"Linux LED sysfs root '{ledsRoot}' is not present"] }
  else discoverEntries "linux-leds" ledsRoot "enumerate Linux LED devices" (host.readDirSorted ledsRoot) (visit host) {}

end LedDiscoveryProbe

namespace HwmonDiscoveryProbe

variable (host : ClassHost) (paths : LinuxPaths)

structure HwmonData where
  hwmonName : String
  path : String
  name : Option String
  pwm : Option UInt32
  pwmMode : Option UInt32
  rpm : Option UInt32
  driver : Option String
  deviceName : Option String

def loadHwmonData (path hwmonName : String) : Except String HwmonData := do
  let name ← readOf "Linux hwmon name" s!"'{hwmonName}'" path (host.readTrimmed (joinPath path "name"))
  let pwm ← readOf "Linux hwmon pwm1" s!"'{hwmonName}'" path (host.readU32 (joinPath path "pwm1"))
  let pwmMode ← readOf "Linux hwmon pwm1_enable" s!"'{hwmonName}'" path (host.readU32 (joinPath path "pwm1_enable"))
  let rpm ← readOf "Linux hwmon fan1_input" s!"'{hwmonName}'" path (host.readU32 (joinPath path "fan1_input"))
  let driver ← readOf "Linux hwmon driver" s!"'{hwmonName}'" path
    (host.readLinkName (joinPath (joinPath path "device") "driver"))
  let deviceName ←
    readOf "Linux hwmon device link" s!"'{hwmonName}'" path (host.readLinkName (joinPath path "device"))
  return { hwmonName, path, name, pwm, pwmMode, rpm, driver, deviceName }

def fanCapabilities : List (CapabilityId × CapabilityAccess) :=
  [(⟨"fan.get_state", by decide⟩, .READ), (⟨"fan.set_pwm", by decide⟩, .CONFIGURE),
    (⟨"fan.get_pwm_mode", by decide⟩, .READ), (⟨"fan.set_pwm_mode", by decide⟩, .CONFIGURE)]

def fanIdText (hwmonName : String) : String := s!"linux.pwm.hwmon-fan.{hwmonName}"

def describeHwmon (data : HwmonData) (builder : DeviceDescriptor) : DeviceDescriptor :=
  classDevice (data.name.getD data.hwmonName) "Linux hwmon fan control device" "linux-hwmon-fan" data.hwmonName "hwmon"
      "hwmon_name" "fan.hwmon_name" data.path .pwm fanCapabilities builder
    |> whenRead data.name (withText "hwmon.name")
    |> withOrDegraded data.pwm (fun pwm => withNumber "fan.pwm" pwm.toUInt64)
    |> withOrDegraded data.pwmMode (fun pwmMode => withNumber "fan.pwm_mode" pwmMode.toUInt64)
    |> whenRead data.rpm (fun rpm => withNumber "fan.rpm" rpm.toUInt64)
    |> whenRead data.deviceName (withText "linux.device")
    |> whenRead data.driver withLinuxDriver

/-- Only what controls a fan is reported. -/
def buildHwmonDescriptor (path hwmonName : String) : Except String (Option DeviceDescriptor) := do
  if host.pathExists (joinPath path "pwm1") = false then return none
  let data ← loadHwmonData host path hwmonName
  let descriptor ← buildDescriptor (fanIdText hwmonName) (.unspecified .pwm)
    s!"Linux hwmon fan descriptor '{hwmonName}'" s!"Linux hwmon fan descriptor '{hwmonName}'" (describeHwmon data)
  return some descriptor

def visit (discovery : ProbeDiscovery) (path hwmonName : String) : DiscoveryResult ProbeDiscovery :=
  .ok (if host.isDir path = false then discovery
    else recordIfAny discovery (buildHwmonDescriptor host path hwmonName))

def discover : DiscoveryResult ProbeDiscovery :=
  let hwmonRoot := paths.hwmonClassRoot
  if !host.pathExists hwmonRoot then .ok { notes := [s!"Linux hwmon sysfs root '{hwmonRoot}' is not present"] }
  else discoverEntries "linux-hwmon" hwmonRoot "enumerate Linux hwmon devices" (host.readDirSorted hwmonRoot) (visit host)
    {}

end HwmonDiscoveryProbe

end Lemnos.Linux
