import Mathlib.Algebra.GroupWithZero.Nat
import Lemnos.Core.State

namespace Lemnos

open Lemnos.Core Library.OrderedMap

/-- The sizes the compiler gives to the types whose size enters an estimate. -/
structure Layout where
  deviceEvent : ℕ
  stateEvent : ℕ
  deviceDescriptor : ℕ
  capabilityDescriptor : ℕ
  deviceLink : ℕ
  string : ℕ
  deviceIssue : ℕ
  value : ℕ

def wordLayout : Layout := ⟨8, 8, 8, 8, 8, 8, 8, 8⟩

namespace Layout

variable (layout : Layout)

def optionBytes {α : Type} (itemBytes : α → ℕ) (value : Option α) : ℕ :=
  value.elim 0 itemBytes

def vecBytes {α : Type} (size : ℕ) (itemBytes : α → ℕ) (values : List α) : ℕ :=
  values.length * size + (values.map itemBytes).sum

mutual

def valueBytes : Value → ℕ
  | .null | .bool _ | .i64 _ | .u64 _ | .f64 _ => 0
  | .string value => value.utf8ByteSize
  | .bytes value => value.length
  | .list values => values.length * layout.value + valueListBytes values
  | .map values => valueMapBytes values

def valueListBytes : List Value → ℕ
  | [] => 0
  | value :: values => valueBytes value + valueListBytes values

def valueMapBytes : ValueMap → ℕ
  | [] => 0
  | (key, value) :: values => key.utf8ByteSize + valueBytes value + valueMapBytes values

end

def stringMapBytes (values : BTreeMap String String) : ℕ :=
  (values.toList.map (fun (key, value) => key.utf8ByteSize + value.utf8ByteSize)).sum

def stringIdBytes (id : DeviceId) : ℕ := id.asStr.utf8ByteSize

def interfaceBytes (interface : InterfaceKind) : ℕ := interface.asStr.utf8ByteSize

def addressBytes : DeviceAddress → ℕ
  | .gpioChip chipName _ | .gpioLine chipName _ | .pwmChip chipName | .pwmChannel chipName _ =>
    chipName.utf8ByteSize
  | .i2cBus _ | .i2cDevice _ _ | .spiBus _ | .spiDevice _ _ | .usbBus _ => 0
  | .uartPort port => port.utf8ByteSize
  | .uartDevice port unit => port.utf8ByteSize + optionBytes String.utf8ByteSize unit
  | .usbDevice _ ports _ _ | .usbInterface _ ports _ _ _ => ports.length
  | .custom interface scheme value => interfaceBytes interface + scheme.utf8ByteSize + value.utf8ByteSize

def relationBytes : DeviceRelation → ℕ
  | .parent => "parent".utf8ByteSize
  | .controller => "controller".utf8ByteSize
  | .bus => "bus".utf8ByteSize
  | .transport => "transport".utf8ByteSize
  | .interface => "interface".utf8ByteSize
  | .channel => "channel".utf8ByteSize
  | .dependency => "dependency".utf8ByteSize
  | .peer => "peer".utf8ByteSize
  | .consumer => "consumer".utf8ByteSize
  | .provider => "provider".utf8ByteSize
  | .custom value => value.utf8ByteSize

def capabilityBytes (capability : CapabilityDescriptor) : ℕ :=
  capability.id.asStr.utf8ByteSize + optionBytes String.utf8ByteSize capability.summary
    + layout.valueMapBytes capability.properties

def linkBytes (link : DeviceLink) : ℕ :=
  stringIdBytes link.target + relationBytes link.relation + layout.valueMapBytes link.attributes

def matchHintsBytes (hints : MatchHints) : ℕ :=
  optionBytes String.utf8ByteSize hints.driverHint + optionBytes String.utf8ByteSize hints.modalias
    + vecBytes layout.string String.utf8ByteSize hints.compatible
    + optionBytes String.utf8ByteSize hints.vendor + optionBytes String.utf8ByteSize hints.model
    + optionBytes String.utf8ByteSize hints.revision + optionBytes String.utf8ByteSize hints.serialNumber
    + stringMapBytes hints.hardwareIds

def descriptorBytes (descriptor : DeviceDescriptor) : ℕ :=
  stringIdBytes descriptor.id
    + optionBytes (fun localId => localId.asStr.utf8ByteSize) descriptor.localId
    + optionBytes String.utf8ByteSize descriptor.displayName
    + optionBytes String.utf8ByteSize descriptor.summary
    + optionBytes addressBytes descriptor.address
    + stringMapBytes descriptor.labels
    + layout.valueMapBytes descriptor.properties
    + vecBytes layout.capabilityDescriptor layout.capabilityBytes descriptor.capabilities
    + vecBytes layout.deviceLink layout.linkBytes descriptor.links
    + layout.matchHintsBytes descriptor.matchHints

def issueBytes (issue : DeviceIssue) : ℕ :=
  issue.code.asStr.utf8ByteSize + issue.message.utf8ByteSize + layout.valueMapBytes issue.attributes

def operationRecordBytes (record : OperationRecord) : ℕ :=
  record.interaction.utf8ByteSize + optionBytes String.utf8ByteSize record.summary
    + optionBytes layout.valueBytes record.output

def stateSnapshotBytes (snapshot : DeviceStateSnapshot) : ℕ :=
  stringIdBytes snapshot.deviceId + vecBytes layout.deviceIssue layout.issueBytes snapshot.issues
    + layout.valueMapBytes snapshot.realizedConfig + layout.valueMapBytes snapshot.telemetry
    + optionBytes layout.operationRecordBytes snapshot.lastOperation

def inventoryEventBytes : InventoryEvent → ℕ
  | .added descriptor => layout.deviceDescriptor + layout.descriptorBytes descriptor
  | .changed previous current =>
    layout.deviceDescriptor + layout.descriptorBytes previous
      + layout.deviceDescriptor + layout.descriptorBytes current
  | .removed deviceId => stringIdBytes deviceId

def stateEventBytes : StateEvent → ℕ
  | .snapshot snapshot => layout.stateSnapshotBytes snapshot
  | .healthChanged deviceId _ _ _ | .lifecycleChanged deviceId _ _ _ => stringIdBytes deviceId
  | .issuesChanged deviceId issues _ =>
    stringIdBytes deviceId + vecBytes layout.deviceIssue layout.issueBytes issues

def estimatedRetainedEventBytes : LemnosEvent → ℕ
  | .inventory event => layout.deviceEvent + layout.inventoryEventBytes event
  | .state event => layout.stateEvent + layout.stateEventBytes event

end Layout

end Lemnos
