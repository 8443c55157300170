import Mathlib.Algebra.GroupWithZero.Nat
import Lemnos.Core.State

/-! How long the strings and the byte vectors are that an event owns, together. -/

namespace Lemnos.Core

open Library.OrderedMap

def totalOf {α : Type} (size : α → ℕ) (values : List α) : ℕ := (values.map size).sum

def presentOf {α : Type} (size : α → ℕ) (value : Option α) : ℕ := value.elim 0 size

def textPayload (values : BTreeMap String String) : ℕ :=
  totalOf (fun entry => entry.1.utf8ByteSize + entry.2.utf8ByteSize) values.toList

mutual

def Value.payload : Value → ℕ
  | .null | .bool _ | .i64 _ | .u64 _ | .f64 _ => 0
  | .string value => value.utf8ByteSize
  | .bytes value => value.length
  | .list values => listPayload values
  | .map values => mapPayload values

def listPayload : List Value → ℕ
  | [] => 0
  | value :: values => value.payload + listPayload values

def mapPayload : ValueMap → ℕ
  | [] => 0
  | (key, value) :: values => key.utf8ByteSize + value.payload + mapPayload values

end

def DeviceAddress.payload : DeviceAddress → ℕ
  | .gpioChip chipName _ | .gpioLine chipName _ | .pwmChip chipName | .pwmChannel chipName _ =>
    chipName.utf8ByteSize
  | .i2cBus _ | .i2cDevice _ _ | .spiBus _ | .spiDevice _ _ | .usbBus _ => 0
  | .uartPort port => port.utf8ByteSize
  | .uartDevice port unit => port.utf8ByteSize + presentOf String.utf8ByteSize unit
  | .usbDevice _ ports _ _ | .usbInterface _ ports _ _ _ => ports.length
  | .custom _ scheme value => scheme.utf8ByteSize + value.utf8ByteSize

def DeviceRelation.payload : DeviceRelation → ℕ
  | .custom name => name.utf8ByteSize
  | _ => 0

def DeviceControlSurface.payload : DeviceControlSurface → ℕ
  | .linuxClass root => root.utf8ByteSize

def CapabilityDescriptor.payload (capability : CapabilityDescriptor) : ℕ :=
  capability.id.asStr.utf8ByteSize + presentOf String.utf8ByteSize capability.summary +
    mapPayload capability.properties

def DeviceLink.payload (link : DeviceLink) : ℕ :=
  link.target.asStr.utf8ByteSize + link.relation.payload + mapPayload link.attributes

def MatchHints.payload (hints : MatchHints) : ℕ :=
  presentOf String.utf8ByteSize hints.driverHint + presentOf String.utf8ByteSize hints.modalias +
    totalOf String.utf8ByteSize hints.compatible +
    presentOf String.utf8ByteSize hints.vendor + presentOf String.utf8ByteSize hints.model +
    presentOf String.utf8ByteSize hints.revision + presentOf String.utf8ByteSize hints.serialNumber +
    textPayload hints.hardwareIds

def DeviceDescriptor.surfacePayload (descriptor : DeviceDescriptor) : ℕ :=
  presentOf DeviceControlSurface.payload descriptor.controlSurface

def DeviceDescriptor.payload (descriptor : DeviceDescriptor) : ℕ :=
  descriptor.id.asStr.utf8ByteSize +
    presentOf (fun localId => localId.asStr.utf8ByteSize) descriptor.localId +
    presentOf String.utf8ByteSize descriptor.displayName +
    presentOf String.utf8ByteSize descriptor.summary +
    presentOf DeviceAddress.payload descriptor.address +
    textPayload descriptor.labels +
    mapPayload descriptor.properties +
    descriptor.surfacePayload +
    totalOf CapabilityDescriptor.payload descriptor.capabilities +
    totalOf DeviceLink.payload descriptor.links +
    descriptor.matchHints.payload

def DeviceIssue.payload (issue : DeviceIssue) : ℕ :=
  issue.code.asStr.utf8ByteSize + issue.message.utf8ByteSize + mapPayload issue.attributes

def OperationRecord.payload (record : OperationRecord) : ℕ :=
  record.interaction.utf8ByteSize + presentOf String.utf8ByteSize record.summary +
    presentOf Value.payload record.output

def DeviceStateSnapshot.payload (snapshot : DeviceStateSnapshot) : ℕ :=
  snapshot.deviceId.asStr.utf8ByteSize + totalOf DeviceIssue.payload snapshot.issues +
    mapPayload snapshot.realizedConfig + mapPayload snapshot.telemetry +
    presentOf OperationRecord.payload snapshot.lastOperation

def LemnosEvent.payload : LemnosEvent → ℕ
  | .inventory (.added descriptor) => descriptor.payload
  | .inventory (.changed previous current) => previous.payload + current.payload
  | .inventory (.removed deviceId) => deviceId.asStr.utf8ByteSize
  | .state (.snapshot snapshot) => snapshot.payload
  | .state (.healthChanged deviceId _ _ _) | .state (.lifecycleChanged deviceId _ _ _) =>
    deviceId.asStr.utf8ByteSize
  | .state (.issuesChanged deviceId issues _) =>
    deviceId.asStr.utf8ByteSize + totalOf DeviceIssue.payload issues

def LemnosEvent.surfacePayload : LemnosEvent → ℕ
  | .inventory (.added descriptor) => descriptor.surfacePayload
  | .inventory (.changed previous current) => previous.surfacePayload + current.surfacePayload
  | .inventory (.removed _) | .state _ => 0

end Lemnos.Core
