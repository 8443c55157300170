import Lemnos.Core.Descriptor

namespace Lemnos.Core

inductive IssueSeverity where
  | info
  | warning
  | error
  | critical
  deriving DecidableEq

inductive IssueCategory where
  | discovery
  | inventory
  | binding
  | transport
  | capability
  | configuration
  | conflict
  | permissions
  | timeout
  | protocol
  | validation
  | hotplug
  | other
  deriving DecidableEq

structure DeviceIssue where
  code : IssueCode
  category : IssueCategory
  severity : IssueSeverity
  message : String
  firstSeenAt : Option TimestampMs := none
  lastSeenAt : Option TimestampMs := none
  attributes : ValueMap := []
  deriving DecidableEq

inductive Availability where
  | present
  | missing
  | unknown
  deriving DecidableEq

inductive DeviceLifecycleState where
  | discovered
  | binding
  | bound
  | idle
  | active
  | busy
  | suspended
  | unbinding
  | removed
  | faulted
  deriving DecidableEq

inductive OperationStatus where
  | succeeded
  | rejected
  | failed
  | timedOut
  deriving DecidableEq

structure OperationRecord where
  interaction : String
  status : OperationStatus
  observedAt : Option TimestampMs := none
  summary : Option String := none
  output : Option Value := none
  deriving DecidableEq

structure DeviceStateSnapshot where
  deviceId : DeviceId
  lifecycle : DeviceLifecycleState := .discovered
  health : DeviceHealth := .healthy
  availability : Availability := .present
  observedAt : Option TimestampMs := none
  updatedAt : Option TimestampMs := none
  issues : List DeviceIssue := []
  realizedConfig : ValueMap := []
  telemetry : ValueMap := []
  lastOperation : Option OperationRecord := none
  deriving DecidableEq

inductive InventoryEvent where
  | added (device : DeviceDescriptor)
  | changed (previous current : DeviceDescriptor)
  | removed (deviceId : DeviceId)
  deriving DecidableEq

inductive StateEvent where
  | snapshot (state : DeviceStateSnapshot)
  | healthChanged (deviceId : DeviceId) (previous current : DeviceHealth)
      (observedAt : Option TimestampMs)
  | lifecycleChanged (deviceId : DeviceId) (previous current : DeviceLifecycleState)
      (observedAt : Option TimestampMs)
  | issuesChanged (deviceId : DeviceId) (issues : List DeviceIssue) (observedAt : Option TimestampMs)
  deriving DecidableEq

inductive LemnosEvent where
  | inventory (event : InventoryEvent)
  | state (event : StateEvent)
  deriving DecidableEq

end Lemnos.Core
