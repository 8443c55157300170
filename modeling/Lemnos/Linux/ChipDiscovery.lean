import Lemnos.Linux.Reports

namespace Lemnos.Linux

open Lemnos.Core Discovery

variable (host : DiscoveryHost) (paths : LinuxPaths)

namespace GpioDiscoveryProbe

structure GpioChipData where
  chipName : String
  chipPath : String
  devnode : Option String
  label : Option String
  base : Option UInt32
  lineCount : UInt32

def loadChipData (probe chipPath chipName : String) : DiscoveryResult GpioChipData := do
  let label ← (host.readTrimmed (joinPath chipPath "label")).mapError (probeFailed probe chipPath "read GPIO label")
  let base ← (host.readU32 (joinPath chipPath "base")).mapError (probeFailed probe chipPath "read GPIO base")
  let lineCount ←
    (host.readU32 (joinPath chipPath "ngpio")).mapError (probeFailed probe chipPath "read GPIO line count")
  return {
    chipName, chipPath, label, base
    devnode := host.existingPathString (paths.gpioDevnode chipName)
    lineCount := lineCount.getD 0 }

def chipIdText (chipName : String) : String := s!"linux.gpio.chip.{chipName}"

def lineIdText (chipName : String) (offset : UInt32) : String := s!"linux.gpio.line.{chipName}.{offset}"

def describeChip (data : GpioChipData) (builder : DeviceDescriptor) : DeviceDescriptor :=
  let builder := { builder with
    displayName := some (data.label.getD data.chipName)
    summary := some "Linux GPIO controller"
    address := some (.gpioChip data.chipName data.base) }
  (builder.withLabel "backend" "linux").withLabel "chip_name" data.chipName
    |> withText "sysfs_path" data.chipPath
    |> withNumber "line_count" data.lineCount.toUInt64
    |> whenRead data.label (fun label builder => withText "label" label (builder.withLabel "label" label))
    |> whenRead data.base (fun base => withNumber "base" base.toUInt64)
    |> withOrDegraded data.devnode withDevnode

def buildChipDescriptor (data : GpioChipData) : Except String DeviceDescriptor :=
  buildDescriptor (chipIdText data.chipName) .gpioChip s!"GPIO chip descriptor '{data.chipName}'"
    s!"GPIO chip descriptor '{data.chipName}'" (describeChip data)

def describeLine (data : GpioChipData) (chipId : DeviceId) (offset : UInt32) (builder : DeviceDescriptor) :
    DeviceDescriptor :=
  let builder := { builder with
    displayName := some s!"{data.chipName}:{offset}"
    summary := some "Linux GPIO line"
    address := some (.gpioLine data.chipName offset) }
  let builder := ((builder.withDriverHint (some "lemnos.gpio.generic")).withLabel "backend" "linux").withLabel
    "chip_name" data.chipName
    |> withText "chip_name" data.chipName
    |> withNumber "offset" offset.toUInt64
    |> withText "sysfs_path" data.chipPath
  configuredBuilderWithCapabilities (builder.withLink (.new chipId .parent)) gpioSessionCapabilities
    |> whenRead (data.base.bind fun base => checkedAdd base offset)
      (fun line => withNumber "global_line" line.toUInt64)
    |> withOrDegraded data.devnode withDevnode

def buildLineDescriptor (data : GpioChipData) (chipId : DeviceId) (offset : UInt32) :
    Except String DeviceDescriptor :=
  buildDescriptor (lineIdText data.chipName offset) .gpioLine s!"GPIO line descriptor '{data.chipName}:{offset}'"
    s!"GPIO line descriptor '{data.chipName}:{offset}'" (describeLine data chipId offset)

def visit (discovery : ProbeDiscovery) (chipPath chipName : String) : DiscoveryResult ProbeDiscovery :=
  if !chipName.startsWith "gpiochip" then .ok discovery
  else do
    let data ← loadChipData host paths "linux-gpio" chipPath chipName
    return recordChip (buildChipDescriptor data) (buildLineDescriptor data) data.lineCount discovery

def discover : DiscoveryResult ProbeDiscovery :=
  let gpioRoot := paths.gpioClassRoot
  if !host.pathExists gpioRoot then .ok { notes := [s!"GPIO sysfs root '{gpioRoot}' is not present"] }
  else discoverEntries "linux-gpio" gpioRoot "enumerate GPIO chips" (host.readDirSorted gpioRoot) (visit host paths) {}

end GpioDiscoveryProbe

namespace PwmDiscoveryProbe

structure PwmChipData where
  chipName : String
  chipIndex : Option UInt32
  chipPath : String
  channelCount : UInt32

def loadChipData (probe chipPath chipName : String) : DiscoveryResult PwmChipData := do
  let channelCount ←
    (host.readU32 (joinPath chipPath "npwm")).mapError (probeFailed probe chipPath "read PWM channel count")
  return { chipName, chipPath, chipIndex := parsePrefixedU32 chipName "pwmchip", channelCount := channelCount.getD 0 }

def chipIdText (chipName : String) : String := s!"linux.pwm.chip.{chipName}"

def channelIdText (chipName : String) (channel : UInt32) : String := s!"linux.pwm.channel.{chipName}.{channel}"

def describeChip (data : PwmChipData) (builder : DeviceDescriptor) : DeviceDescriptor :=
  let builder := { builder with
    displayName := some data.chipName
    summary := some "Linux PWM controller"
    address := some (.pwmChip data.chipName) }
  (builder.withLabel "backend" "linux").withLabel "chip_name" data.chipName
    |> withText "chip_name" data.chipName
    |> withText "sysfs_path" data.chipPath
    |> withNumber "channel_count" data.channelCount.toUInt64
    |> whenRead data.chipIndex (fun chipIndex => withNumber "chip_index" chipIndex.toUInt64)

def buildChipDescriptor (data : PwmChipData) : Except String DeviceDescriptor :=
  buildDescriptor (chipIdText data.chipName) .pwmChip s!"PWM chip descriptor '{data.chipName}'"
    s!"PWM chip descriptor '{data.chipName}'" (describeChip data)

def describeChannel (data : PwmChipData) (chipId : DeviceId) (channel : UInt32) (builder : DeviceDescriptor) :
    DeviceDescriptor :=
  let builder := { builder with
    displayName := some s!"{data.chipName}:{channel}"
    summary := some "Linux PWM channel"
    address := some (.pwmChannel data.chipName channel) }
  let builder := ((builder.withDriverHint (some "lemnos.pwm.generic")).withLabel "backend" "linux").withLabel
    "chip_name" data.chipName
    |> withText "chip_name" data.chipName
    |> withNumber "channel" channel.toUInt64
    |> withText "sysfs_path" data.chipPath
    |> withFlag "exported" (host.pathExists (joinPath data.chipPath s!"pwm{channel}"))
  configuredBuilderWithCapabilities (builder.withLink (.new chipId .parent)) pwmSessionCapabilities
    |> whenRead data.chipIndex (fun chipIndex => withNumber "chip_index" chipIndex.toUInt64)

def buildChannelDescriptor (data : PwmChipData) (chipId : DeviceId) (channel : UInt32) :
    Except String DeviceDescriptor :=
  buildDescriptor (channelIdText data.chipName channel) .pwmChannel
    s!"PWM channel descriptor '{data.chipName}:{channel}'" s!"PWM channel descriptor '{data.chipName}:{channel}'"
    (describeChannel host data chipId channel)

def visit (discovery : ProbeDiscovery) (chipPath chipName : String) : DiscoveryResult ProbeDiscovery :=
  if !chipName.startsWith "pwmchip" then .ok discovery
  else do
    let data ← loadChipData host "linux-pwm" chipPath chipName
    return recordChip (buildChipDescriptor data) (buildChannelDescriptor host data) data.channelCount discovery

def discover : DiscoveryResult ProbeDiscovery :=
  let pwmRoot := paths.pwmClassRoot
  if !host.pathExists pwmRoot then .ok { notes := [s!"PWM sysfs root '{pwmRoot}' is not present"] }
  else discoverEntries "linux-pwm" pwmRoot "enumerate PWM chips" (host.readDirSorted pwmRoot) (visit host) {}

end PwmDiscoveryProbe

end Lemnos.Linux
