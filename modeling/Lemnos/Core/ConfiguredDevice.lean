import Lemnos.Core.Configured

namespace Lemnos.Core

open Library.OrderedMap

class ConfiguredDeviceModel (T : Type) where
  configuredInterfaces : List InterfaceKind
  configuredDescriptors : T → CoreResult (List DeviceDescriptor)

inductive EndpointInterface where
  | i2c
  | spi
  deriving DecidableEq

/-- What the attributes of a type that derives `ConfiguredDevice` say. -/
structure ConfiguredDeviceSpec where
  interface : InterfaceKind
  kind : Option DeviceKind := none
  id : String
  summary : String
  driver : Option String := none
  hasBusField : Bool := false
  endpointFields : List (EndpointInterface × String) := []
  signalFields : List String := []

structure ConfiguredDevice (spec : ConfiguredDeviceSpec) where
  bus : UInt32 := 0
  endpoint : String → UInt16 := fun _ => 0
  signal : String → Option ConfiguredGpioSignal := fun _ => none
  displayName : Option String := none
  labels : List (String × String) := []
  properties : List (String × Value) := []

def ConfiguredDeviceSpec.configuredInterfaces (spec : ConfiguredDeviceSpec) : List InterfaceKind :=
  if !spec.signalFields.isEmpty ∧ spec.interface ≠ .gpio then [spec.interface, .gpio]
  else [spec.interface]

namespace ConfiguredDevice

variable {spec : ConfiguredDeviceSpec}

def configuredDeviceId (config : ConfiguredDevice spec) : String :=
  let id := if spec.hasBusField then spec.id ++ s!".bus{config.bus}" else spec.id
  spec.endpointFields.foldl
    (fun id (_, name) => id ++ s!".{name}0x" ++ DeviceAddress.hex 2 (config.endpoint name).toNat) id

def configuredI2cEndpoints (config : ConfiguredDevice spec) : List ConfiguredI2cEndpoint :=
  (spec.endpointFields.filter (fun (interface, _) => interface = .i2c)).map
    (fun (_, name) => ⟨name, config.bus, config.endpoint name⟩)

def configuredGpioSignals (config : ConfiguredDevice spec) : List ConfiguredGpioSignalBinding :=
  spec.signalFields.filterMap (fun name => (config.signal name).map (fun signal => ⟨name, signal⟩))

def endpointLink (ownerId : DeviceId) (endpoint : ConfiguredI2cEndpoint) : CoreResult DeviceLink := do
  let target ← Identifier.new "device id" (endpoint.descriptorIdForOwner ownerId)
  pure (((((DeviceLink.new target .channel).withAttribute "name" (.string endpoint.name)).withAttribute
    "interface" (.string "i2c")).withAttribute "bus" (.u64 endpoint.bus.toUInt64)).withAttribute
      "address" (.u64 endpoint.address.toUInt64))

def signalLink (ownerId : DeviceId) (binding : ConfiguredGpioSignalBinding) : CoreResult DeviceLink := do
  let target ← binding.linkTargetId ownerId
  let link := (((((DeviceLink.new target .dependency).withAttribute "name" (.string binding.name)).withAttribute
    "interface" (.string "gpio")).withAttribute "required" (.bool binding.signal.required)).withAttribute
      "active_low" (.bool binding.signal.activeLow))
  pure (binding.signal.edge.elim link (fun edge => link.withAttribute "edge" (.string (gpioEdgeName edge))))

def configuredDeviceDescriptor (config : ConfiguredDevice spec) : CoreResult DeviceDescriptor := do
  let owner ← DeviceDescriptor.builder config.configuredDeviceId spec.interface
  let owner := owner.withKind (spec.kind.getD (.unspecified spec.interface))
  let owner := { owner with summary := some spec.summary }
  let owner := (owner.withProperty "configured_device" (.bool true)).withProperty "configured_interface"
    (.string spec.interface.asStr)
  let owner := if spec.hasBusField then owner.withProperty "configured_bus" (.u64 config.bus.toUInt64) else owner
  let owner := config.displayName.elim owner (fun displayName => { owner with displayName := some displayName })
  let owner := owner.withDriverHint spec.driver
  let owner := config.labels.foldl (fun owner (key, label) => owner.withLabel key label) owner
  let owner := config.properties.foldl (fun owner (key, value) => owner.withProperty key value) owner
  let ownerId ← Identifier.new "device id" config.configuredDeviceId
  let channels ← config.configuredI2cEndpoints.mapM (endpointLink ownerId)
  let dependencies ← config.configuredGpioSignals.mapM (signalLink ownerId)
  ((channels ++ dependencies).foldl DeviceDescriptor.withLink owner).build

def endpointDescriptor (config : ConfiguredDevice spec) (owner : DeviceDescriptor) :
    EndpointInterface × String → CoreResult DeviceDescriptor
  | (.i2c, name) =>
    ConfiguredI2cEndpoint.descriptorForOwner ⟨name, config.bus, config.endpoint name⟩ owner spec.driver
  | (.spi, name) =>
    ConfiguredSpiEndpoint.descriptorForOwner ⟨name, config.bus, config.endpoint name⟩ owner spec.driver

def configuredChildDescriptors (config : ConfiguredDevice spec) : CoreResult (List DeviceDescriptor) := do
  let owner ← config.configuredDeviceDescriptor
  let endpoints ← spec.endpointFields.mapM (config.endpointDescriptor owner)
  let signals ← config.configuredGpioSignals.mapM (fun binding => binding.descriptorForOwner owner)
  pure (endpoints ++ signals.filterMap id)

def configuredDescriptors (config : ConfiguredDevice spec) : CoreResult (List DeviceDescriptor) := do
  let owner ← config.configuredDeviceDescriptor
  let children ← config.configuredChildDescriptors
  pure (owner :: children)

instance : ConfiguredDeviceModel (ConfiguredDevice spec) where
  configuredInterfaces := spec.configuredInterfaces
  configuredDescriptors := configuredDescriptors

end ConfiguredDevice

end Lemnos.Core
