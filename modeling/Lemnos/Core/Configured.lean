import Lemnos.Core.Descriptor
import Lemnos.Core.Request

namespace Lemnos.Core

open Library.OrderedMap

def insertValue (key : String) (value : Value) : ValueMap → ValueMap
  | [] => [(key, value)]
  | (k, v) :: values =>
    match compare key k with
    | .lt => (key, value) :: (k, v) :: values
    | .eq => (key, value) :: values
    | .gt => (k, v) :: insertValue key value values

theorem mem_keys_insertValue (key : String) (value : Value) (values : ValueMap) (k : String) :
    k ∈ (insertValue key value values).map Prod.fst ↔ k = key ∨ k ∈ values.map Prod.fst := by
  induction values with
  | nil => simp [insertValue]
  | cons entry values ih =>
    obtain ⟨k', value'⟩ := entry
    rw [insertValue]
    cases hcompare : compare key k' with
    | lt => simp
    | eq =>
      have hkey := Std.LawfulEqOrd.eq_of_compare hcompare
      simp [hkey]
    | gt =>
      simp only [List.map_cons, List.mem_cons, ih]
      exact or_left_comm

namespace CapabilityAccess

def READ : CapabilityAccess := ⟨true, false, false, false⟩
def WRITE : CapabilityAccess := ⟨false, true, false, false⟩
def READ_WRITE : CapabilityAccess := ⟨true, true, false, false⟩
def CONFIGURE : CapabilityAccess := ⟨false, false, true, false⟩
def FULL : CapabilityAccess := ⟨true, true, true, true⟩

end CapabilityAccess

namespace DeviceLink

def new (target : DeviceId) (relation : DeviceRelation) : DeviceLink := ⟨target, relation, []⟩

def withAttribute (link : DeviceLink) (key : String) (value : Value) : DeviceLink :=
  { link with attributes := insertValue key value link.attributes }

end DeviceLink

namespace DeviceDescriptor

def builder (id : String) (interface : InterfaceKind) : CoreResult DeviceDescriptor := do
  let id ← Identifier.new "device id" id
  pure { id, interface }

def builderForKind (id : String) (kind : DeviceKind) : CoreResult DeviceDescriptor := do
  let descriptor ← builder id kind.interface
  pure { descriptor with kind }

def withKind (descriptor : DeviceDescriptor) (kind : DeviceKind) : DeviceDescriptor :=
  { descriptor with interface := kind.interface, kind }

def withLabel (descriptor : DeviceDescriptor) (key value : String) : DeviceDescriptor :=
  { descriptor with labels := descriptor.labels.insert key value }

def withProperty (descriptor : DeviceDescriptor) (key : String) (value : Value) : DeviceDescriptor :=
  { descriptor with properties := insertValue key value descriptor.properties }

def withLink (descriptor : DeviceDescriptor) (link : DeviceLink) : DeviceDescriptor :=
  { descriptor with links := descriptor.links ++ [link] }

def withDriverHint (descriptor : DeviceDescriptor) (driverHint : Option String) : DeviceDescriptor :=
  match driverHint with
  | some driverHint =>
    { descriptor with matchHints := { descriptor.matchHints with driverHint := some driverHint } }
  | none => descriptor

def build (descriptor : DeviceDescriptor) : CoreResult DeviceDescriptor := do
  descriptor.validate
  pure descriptor

theorem of_build_eq_ok {builder descriptor : DeviceDescriptor} (h : builder.build = .ok descriptor) :
    descriptor = builder ∧ builder.validate = .ok () := by
  rw [build] at h
  cases hvalid : builder.validate with
  | error error =>
    rw [hvalid] at h
    cases h
  | ok done =>
    rw [hvalid] at h
    cases h
    exact ⟨rfl, rfl⟩

end DeviceDescriptor

def i2cConfiguredCapabilities : List (CapabilityId × CapabilityAccess) :=
  [(⟨"i2c.read", by decide⟩, .READ), (⟨"i2c.write", by decide⟩, .WRITE),
    (⟨"i2c.write_read", by decide⟩, .READ_WRITE), (⟨"i2c.transaction", by decide⟩, .FULL)]

def spiConfiguredCapabilities : List (CapabilityId × CapabilityAccess) :=
  [(⟨"spi.transfer", by decide⟩, .READ_WRITE), (⟨"spi.write", by decide⟩, .WRITE),
    (⟨"spi.configure", by decide⟩, .CONFIGURE), (⟨"spi.get_configuration", by decide⟩, .READ)]

def gpioSignalCapabilities : List (CapabilityId × CapabilityAccess) :=
  [(⟨"gpio.read", by decide⟩, .READ), (⟨"gpio.get_configuration", by decide⟩, .READ),
    (⟨"gpio.configure", by decide⟩, .CONFIGURE)]

def configuredChildBuilder (owner : DeviceDescriptor) (id : String) (kind : DeviceKind)
    (summary name labelKey interfaceAttr : String) : CoreResult DeviceDescriptor := do
  let descriptor ← DeviceDescriptor.builderForKind id kind
  pure ((({ descriptor with summary := some summary }.withLabel "configured_owner" owner.id.asStr).withLabel
    labelKey name).withLink (((DeviceLink.new owner.id .parent).withAttribute "name" (.string name)).withAttribute
      "interface" (.string interfaceAttr)))

def configuredBuilderWithOwnerName (descriptor owner : DeviceDescriptor) (name : String) : DeviceDescriptor :=
  match owner.displayName with
  | some ownerName => { descriptor with displayName := some s!"{ownerName} {name}" }
  | none => descriptor

def configuredBuilderWithCapabilities (descriptor : DeviceDescriptor)
    (capabilities : List (CapabilityId × CapabilityAccess)) : DeviceDescriptor :=
  { descriptor with
    capabilities := descriptor.capabilities ++
      capabilities.map (fun (id, access) => ⟨id, none, access, []⟩) }

structure ConfiguredI2cEndpoint where
  name : String
  bus : UInt32
  address : UInt16
  deriving DecidableEq

namespace ConfiguredI2cEndpoint

def descriptorIdForOwner (endpoint : ConfiguredI2cEndpoint) (ownerId : DeviceId) : String :=
  s!"{ownerId.asStr}.endpoint.{endpoint.name}"

def descriptorForOwner (endpoint : ConfiguredI2cEndpoint) (owner : DeviceDescriptor)
    (driverHint : Option String) : CoreResult DeviceDescriptor := do
  let child ← configuredChildBuilder owner (endpoint.descriptorIdForOwner owner.id) .i2cDevice
    s!"Configured I2C endpoint '{endpoint.name}'" endpoint.name "endpoint" "i2c"
  let child := { child with address := some (.i2cDevice endpoint.bus endpoint.address) }
  let child := (child.withProperty "bus" (.u64 endpoint.bus.toUInt64)).withProperty "address"
    (.u64 endpoint.address.toUInt64)
  let child := configuredBuilderWithCapabilities child i2cConfiguredCapabilities
  ((configuredBuilderWithOwnerName child owner endpoint.name).withDriverHint driverHint).build

end ConfiguredI2cEndpoint

structure ConfiguredSpiEndpoint where
  name : String
  bus : UInt32
  chipSelect : UInt16
  deriving DecidableEq

namespace ConfiguredSpiEndpoint

def descriptorIdForOwner (endpoint : ConfiguredSpiEndpoint) (ownerId : DeviceId) : String :=
  s!"{ownerId.asStr}.endpoint.{endpoint.name}"

def descriptorForOwner (endpoint : ConfiguredSpiEndpoint) (owner : DeviceDescriptor)
    (driverHint : Option String) : CoreResult DeviceDescriptor := do
  let child ← configuredChildBuilder owner (endpoint.descriptorIdForOwner owner.id) .spiDevice
    s!"Configured SPI endpoint '{endpoint.name}'" endpoint.name "endpoint" "spi"
  let child := { child with address := some (.spiDevice endpoint.bus endpoint.chipSelect) }
  let child := (child.withProperty "bus" (.u64 endpoint.bus.toUInt64)).withProperty "chip_select"
    (.u64 endpoint.chipSelect.toUInt64)
  let child := configuredBuilderWithCapabilities child spiConfiguredCapabilities
  ((configuredBuilderWithOwnerName child owner endpoint.name).withDriverHint driverHint).build

end ConfiguredSpiEndpoint

inductive ConfiguredGpioSignalTarget where
  | device (id : DeviceId)
  | globalLine (globalLine : UInt32)
  | chipLine (chipName : String) (offset : UInt32) (globalLine : Option UInt32) (devnode : Option String)
  deriving DecidableEq

structure ConfiguredGpioSignal where
  target : ConfiguredGpioSignalTarget
  edge : Option GpioEdge := none
  activeLow : Bool := false
  required : Bool := false
  deriving DecidableEq

structure ConfiguredGpioSignalBinding where
  name : String
  signal : ConfiguredGpioSignal
  deriving DecidableEq

def gpioEdgeName : GpioEdge → String
  | .rising => "rising"
  | .falling => "falling"
  | .both => "both"

namespace ConfiguredGpioSignalBinding

def descriptorIdForOwner (binding : ConfiguredGpioSignalBinding) (ownerId : DeviceId) : String :=
  s!"{ownerId.asStr}.signal.{binding.name}"

def linkTargetId (binding : ConfiguredGpioSignalBinding) (ownerId : DeviceId) : CoreResult DeviceId :=
  match binding.signal.target with
  | .device id => .ok id
  | .globalLine _ | .chipLine .. => Identifier.new "device id" (binding.descriptorIdForOwner ownerId)

def targetProperties (target : ConfiguredGpioSignalTarget) (child : DeviceDescriptor) : DeviceDescriptor :=
  match target with
  | .device _ => child
  | .globalLine globalLine => child.withProperty "global_line" (.u64 globalLine.toUInt64)
  | .chipLine chipName offset globalLine devnode =>
    let child := { child with address := some (.gpioLine chipName offset) }
    let child := child.withProperty "offset" (.u64 offset.toUInt64)
    let child := globalLine.elim child (fun line => child.withProperty "global_line" (.u64 line.toUInt64))
    devnode.elim child (fun devnode => child.withProperty "devnode" (.string devnode))

def descriptorForOwner (binding : ConfiguredGpioSignalBinding) (owner : DeviceDescriptor) :
    CoreResult (Option DeviceDescriptor) :=
  match binding.signal.target with
  | .device _ => .ok none
  | target => do
    let child ← configuredChildBuilder owner (binding.descriptorIdForOwner owner.id) .gpioLine
      s!"Configured GPIO signal '{binding.name}'" binding.name "signal" "gpio"
    let child := (child.withProperty "required" (.bool binding.signal.required)).withProperty "active_low"
      (.bool binding.signal.activeLow)
    let child := configuredBuilderWithCapabilities child gpioSignalCapabilities
    let child := configuredBuilderWithOwnerName child owner binding.name
    let child := binding.signal.edge.elim child (fun edge => child.withProperty "edge" (.string (gpioEdgeName edge)))
    let child ← (targetProperties target child).build
    pure (some child)

end ConfiguredGpioSignalBinding

end Lemnos.Core
