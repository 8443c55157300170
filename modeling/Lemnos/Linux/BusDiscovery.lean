import Lemnos.Linux.Reports

namespace Lemnos.Linux

open Lemnos.Core Discovery Library Library.OrderedMap

structure BusDiscovery where
  discovery : ProbeDiscovery := {}
  busIds : BTreeMap UInt32 DeviceId := ∅

namespace BusDiscovery

def emitBus (state : BusDiscovery) (bus : UInt32) (descriptor : DeviceDescriptor) : BusDiscovery where
  discovery := record state.discovery (.ok descriptor)
  busIds := state.busIds.insert bus descriptor.id

def record (state : BusDiscovery) (result : Except String DeviceDescriptor) : BusDiscovery :=
  { state with discovery := Linux.record state.discovery result }

def discoverBus (bus : UInt32) (built : Except String DeviceDescriptor) (state : BusDiscovery) : BusDiscovery :=
  match built with
  | .ok descriptor => state.emitBus bus descriptor
  | .error note => state.record (.error note)

/-- A device of a bus that has not been described yet brings its bus along. -/
def discoverDevice (bus : UInt32) (buildBus : Except String DeviceDescriptor)
    (buildDevice : DeviceId → Except String DeviceDescriptor) (state : BusDiscovery) : BusDiscovery :=
  match state.busIds[bus]? with
  | some busId => state.record (buildDevice busId)
  | none =>
    match buildBus with
    | .ok descriptor => (state.emitBus bus descriptor).record (buildDevice descriptor.id)
    | .error note => state.record (.error note)

end BusDiscovery

def LinuxPaths.i2cDevnode (paths : LinuxPaths) (bus : UInt32) : String := joinPath paths.devRoot s!"i2c-{bus}"

variable (host : DiscoveryHost) (paths : LinuxPaths)

namespace SpiDiscoveryProbe

def parseSpiDeviceName (value : String) : Option (UInt32 × UInt16) := do
  let suffix ← value.toList.dropPrefix? "spi".toList
  let (bus, chipSelect) ← Separated.splitOnce '.' suffix
  return (← parseU32 (String.ofList bus), ← parseU16 chipSelect)

def busIdText (bus : UInt32) : String := s!"linux.spi.bus.{bus}"

def deviceIdText (bus : UInt32) (chipSelect : UInt16) : String := s!"linux.spi.bus{bus}.cs{chipSelect}"

def describeBus (bus : UInt32) (builder : DeviceDescriptor) : DeviceDescriptor :=
  let builder := { builder with
    displayName := some s!"spi-{bus}"
    summary := some "Linux SPI bus"
    address := some (.spiBus bus) }
  withNumber "bus" bus.toUInt64 ((builder.withLabel "backend" "linux").withLabel "bus" (toString bus))

def buildBusDescriptor (bus : UInt32) : Except String DeviceDescriptor :=
  buildDescriptor (busIdText bus) .spiBus s!"SPI bus descriptor for bus {bus}" s!"SPI bus descriptor for bus {bus}"
    (describeBus bus)

structure SpiDeviceData where
  bus : UInt32
  chipSelect : UInt16
  kernelName : String
  devicePath : String
  modalias : Option String
  driver : Option String
  devnode : Option String

def loadDeviceData (bus : UInt32) (chipSelect : UInt16) (kernelName devicePath : String) :
    Except String SpiDeviceData := do
  let modalias ←
    readOf "Linux SPI modalias" s!"'{kernelName}'" devicePath (host.readTrimmed (joinPath devicePath "modalias"))
  let driver ←
    readOf "Linux SPI driver link" s!"'{kernelName}'" devicePath (host.readLinkName (joinPath devicePath "driver"))
  return {
    bus, chipSelect, kernelName, devicePath, modalias, driver
    devnode := host.existingPathString (paths.spiDevnode bus chipSelect) }

def describeDevice (busId : DeviceId) (data : SpiDeviceData) (builder : DeviceDescriptor) : DeviceDescriptor :=
  let builder := { builder with
    displayName := some s!"spi-{data.bus}.{data.chipSelect}"
    summary := some "Linux SPI device"
    address := some (.spiDevice data.bus data.chipSelect) }
  let builder := ((builder.withDriverHint (some "lemnos.spi.generic")).withLabel "backend" "linux").withLabel
    "bus" (toString data.bus)
    |> withNumber "bus" data.bus.toUInt64
    |> withNumber "chip_select" data.chipSelect.toUInt64
    |> withText "kernel_name" data.kernelName
    |> withText "sysfs_path" data.devicePath
  configuredBuilderWithCapabilities (builder.withLink (.new busId .parent)) spiConfiguredCapabilities
    |> whenRead data.modalias withModalias
    |> whenRead data.driver withDriver
    |> withOrDegraded data.devnode withDevnode

def buildDeviceDescriptor (bus : UInt32) (chipSelect : UInt16) (kernelName devicePath : String) (busId : DeviceId) :
    Except String DeviceDescriptor := do
  let data ← loadDeviceData host paths bus chipSelect kernelName devicePath
  buildDescriptor (deviceIdText bus chipSelect) .spiDevice
    s!"SPI device descriptor for bus {bus} chip-select {chipSelect}" s!"SPI device descriptor '{kernelName}'"
    (describeDevice busId data)

def visit (state : BusDiscovery) (devicePath deviceName : String) : DiscoveryResult BusDiscovery :=
  .ok ((parseSpiDeviceName deviceName).elim state fun (bus, chipSelect) =>
    state.discoverDevice bus (buildBusDescriptor bus)
      (buildDeviceDescriptor host paths bus chipSelect deviceName devicePath))

def discover : DiscoveryResult ProbeDiscovery :=
  let devicesRoot := paths.spiDevicesRoot
  if !host.pathExists devicesRoot then .ok { notes := [s!"SPI sysfs root '{devicesRoot}' is not present"] }
  else do
    let state ← discoverEntries "linux-spi" devicesRoot "enumerate SPI devices" (host.readDirSorted devicesRoot)
      (visit host paths) {}
    return state.discovery

end SpiDiscoveryProbe

namespace I2cDiscoveryProbe

def parseI2cDeviceName (value : String) : Option (UInt32 × UInt16) := do
  let (bus, address) ← Separated.splitOnce '-' value.toList
  return (← parseU32 (String.ofList bus), UInt16.ofNat (← parseHex UInt16.size (String.ofList address)))

def busIdText (bus : UInt32) : String := s!"linux.i2c.bus.{bus}"

def addressText (address : UInt16) : String := "0x" ++ DeviceAddress.hex 4 address.toNat

def deviceIdText (bus : UInt32) (address : UInt16) : String := s!"linux.i2c.bus{bus}." ++ addressText address

structure I2cBusData where
  bus : UInt32
  classPath : Option String
  adapterName : Option String
  devnode : Option String

def loadBusData (bus : UInt32) (classPath : Option String) : Except String I2cBusData := do
  let adapterName ← match classPath with
    | some path => readOf "Linux I2C bus name" s!"bus {bus}" (joinPath path "name") (host.readTrimmed (joinPath path "name"))
    | none => pure none
  return { bus, classPath, adapterName, devnode := host.existingPathString (paths.i2cDevnode bus) }

def describeBus (data : I2cBusData) (builder : DeviceDescriptor) : DeviceDescriptor :=
  let builder := { builder with
    displayName := some s!"i2c-{data.bus}"
    summary := some "Linux I2C bus"
    address := some (.i2cBus data.bus) }
  (builder.withLabel "backend" "linux").withLabel "bus" (toString data.bus)
    |> withNumber "bus" data.bus.toUInt64
    |> whenRead data.adapterName (fun name builder => withText "adapter_name" name (builder.withLabel "adapter_name" name))
    |> whenRead data.classPath (withText "sysfs_path")
    |> withOrDegraded data.devnode withDevnode

def buildBusDescriptor (bus : UInt32) (classPath : Option String) : Except String DeviceDescriptor := do
  let data ← loadBusData host paths bus classPath
  buildDescriptor (busIdText bus) .i2cBus s!"I2C bus descriptor for bus {bus}" s!"I2C bus descriptor for bus {bus}"
    (describeBus data)

structure I2cDeviceData where
  bus : UInt32
  address : UInt16
  kernelName : String
  devicePath : String
  deviceName : Option String
  modalias : Option String
  driver : Option String
  devnode : Option String

def loadDeviceData (bus : UInt32) (address : UInt16) (kernelName devicePath : String) :
    Except String I2cDeviceData := do
  let deviceName ←
    readOf "Linux I2C device name" s!"'{kernelName}'" devicePath (host.readTrimmed (joinPath devicePath "name"))
  let modalias ←
    readOf "Linux I2C modalias" s!"'{kernelName}'" devicePath (host.readTrimmed (joinPath devicePath "modalias"))
  let driver ←
    readOf "Linux I2C driver link" s!"'{kernelName}'" devicePath (host.readLinkName (joinPath devicePath "driver"))
  return {
    bus, address, kernelName, devicePath, deviceName, modalias, driver
    devnode := host.existingPathString (paths.i2cDevnode bus) }

def describeDevice (busId : DeviceId) (data : I2cDeviceData) (builder : DeviceDescriptor) : DeviceDescriptor :=
  let builder := { builder with
    displayName := some (s!"i2c-{data.bus}-" ++ addressText data.address)
    summary := some "Linux I2C device"
    address := some (.i2cDevice data.bus data.address) }
  let builder := ((builder.withDriverHint (some "lemnos.i2c.generic")).withLabel "backend" "linux").withLabel
    "bus" (toString data.bus)
    |> withNumber "bus" data.bus.toUInt64
    |> withNumber "address" data.address.toUInt64
    |> withText "kernel_name" data.kernelName
    |> withText "sysfs_path" data.devicePath
  configuredBuilderWithCapabilities (builder.withLink (.new busId .parent)) i2cConfiguredCapabilities
    |> whenRead data.deviceName (fun name builder => withText "device_name" name (builder.withLabel "device_name" name))
    |> whenRead data.modalias withModalias
    |> whenRead data.driver withDriver
    |> withOrDegraded data.devnode withDevnode

def buildDeviceDescriptor (bus : UInt32) (address : UInt16) (kernelName devicePath : String) (busId : DeviceId) :
    Except String DeviceDescriptor := do
  let data ← loadDeviceData host paths bus address kernelName devicePath
  buildDescriptor (deviceIdText bus address) .i2cDevice
    (s!"I2C device descriptor for bus {bus} address " ++ addressText address) s!"I2C device descriptor '{kernelName}'"
    (describeDevice busId data)

def visitBus (state : BusDiscovery) (busPath busName : String) : DiscoveryResult BusDiscovery :=
  .ok ((parsePrefixedU32 busName "i2c-").elim state fun bus =>
    state.discoverBus bus (buildBusDescriptor host paths bus (some busPath)))

def visitDevice (state : BusDiscovery) (devicePath deviceName : String) : DiscoveryResult BusDiscovery :=
  .ok ((parseI2cDeviceName deviceName).elim state fun (bus, address) =>
    state.discoverDevice bus (buildBusDescriptor host paths bus none)
      (buildDeviceDescriptor host paths bus address deviceName devicePath))

def discover : DiscoveryResult ProbeDiscovery :=
  let classRoot := paths.i2cClassRoot
  let devicesRoot := paths.i2cDevicesRoot
  if !host.pathExists classRoot && !host.pathExists devicesRoot then
    .ok { notes := [s!"I2C sysfs roots '{classRoot}' and '{devicesRoot}' are not present"] }
  else do
    let state ← discoverEntries "linux-i2c" classRoot "enumerate I2C buses" (host.readDirSorted classRoot)
      (visitBus host paths) {}
    let state ← discoverEntries "linux-i2c" devicesRoot "enumerate I2C bus devices" (host.readDirSorted devicesRoot)
      (visitDevice host paths) state
    return state.discovery

end I2cDiscoveryProbe

end Lemnos.Linux
