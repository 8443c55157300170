import Lemnos.Discovery.Inventory
import Lemnos.Registry.Drivers

namespace Lemnos

open Lemnos.Core Discovery Registry

inductive RuntimeWatchRefreshMode where
  | strictScoped
  | fallbackToFull
  | full
  deriving DecidableEq

structure RuntimeConfig where
  autoBindOnRequest : Bool := true
  autoRebindOnRefresh : Bool := true
  cacheStateOnBind : Bool := true
  cacheStateOnRequest : Bool := true
  maxRetainedEvents : ℕ := 1024
  maxRetainedEventBytes : Option ℕ := none
  watchRefreshMode : RuntimeWatchRefreshMode := .strictScoped
  deriving DecidableEq

/-- Errors of driver calls. Texts of bus and host errors are carried as they render. -/
inductive DriverError where
  | missingBackend (driverId : String) (interface : InterfaceKind)
  | bindRejected (driverId : String) (deviceId : DeviceId) (reason : String)
  | bindFailed (driverId : String) (deviceId : DeviceId) (reason : String)
  | invalidRequest (driverId : String) (deviceId : DeviceId) (source : CoreError)
  | transport (driverId : String) (deviceId : DeviceId) (source : String)
  | hostIo (driverId : String) (deviceId : DeviceId) (action source : String)
  | invariantViolation (driverId : String) (deviceId : DeviceId) (reason : String)
  | unsupportedAction (driverId : String) (deviceId : DeviceId) (action : String)
  | notImplemented (driverId action : String)
  deriving DecidableEq

namespace DriverError

def driverId : DriverError → String
  | missingBackend driverId _ | bindRejected driverId _ _ | bindFailed driverId _ _
  | invalidRequest driverId _ _ | transport driverId _ _ | hostIo driverId _ _ _
  | invariantViolation driverId _ _ | unsupportedAction driverId _ _ | notImplemented driverId _ => driverId

def display : DriverError → String
  | missingBackend driverId interface =>
    s!"driver '{driverId}' requires a backend for interface '{interface}'"
  | bindRejected driverId deviceId reason => s!"driver '{driverId}' rejected device '{deviceId}': {reason}"
  | bindFailed driverId deviceId reason =>
    s!"driver '{driverId}' failed to bind device '{deviceId}': {reason}"
  | invalidRequest driverId deviceId source =>
    s!"driver '{driverId}' received an invalid request for device '{deviceId}': {source}"
  | transport driverId deviceId source =>
    s!"driver '{driverId}' transport failure for device '{deviceId}': {source}"
  | hostIo driverId deviceId action source =>
    s!"driver '{driverId}' host I/O failure for device '{deviceId}' while {action}: {source}"
  | invariantViolation driverId deviceId reason =>
    s!"driver '{driverId}' reached an invalid internal state for device '{deviceId}': {reason}"
  | unsupportedAction driverId deviceId action =>
    s!"driver '{driverId}' does not support action '{action}' on device '{deviceId}'"
  | notImplemented driverId action => s!"driver '{driverId}' does not implement '{action}'"

end DriverError

inductive RuntimeError where
  | notRunning
  | unknownDevice (deviceId : DeviceId)
  | deviceNotBound (deviceId : DeviceId)
  | invalidRequest (deviceId : DeviceId) (source : CoreError)
  | driver (deviceId : DeviceId) (source : DriverError)
  | discovery (source : DiscoveryError)
  | registry (source : RegistryError)
  deriving DecidableEq

abbrev RuntimeResult := Except RuntimeError

def RuntimeError.display : RuntimeError → String
  | notRunning => "runtime is not running"
  | unknownDevice deviceId => s!"device '{deviceId}' is not present in runtime inventory"
  | deviceNotBound deviceId => s!"device '{deviceId}' is not currently bound"
  | invalidRequest deviceId source => s!"request for device '{deviceId}' is invalid: {source}"
  | driver deviceId source => s!"driver operation failed for device '{deviceId}': " ++ source.display
  | discovery source => source.display
  | registry source => source.display

inductive RuntimeFailureOperation where
  | bind
  | rebind
  | request
  | refreshState
  deriving DecidableEq

inductive RuntimeFailureCategory where
  | runtime
  | unknownDevice
  | invalidRequest
  | registry
  | driver
  deriving DecidableEq

structure RuntimeFailureRecord where
  deviceId : DeviceId
  operation : RuntimeFailureOperation
  category : RuntimeFailureCategory
  driverId : Option String
  message : String
  occurrenceCount : ℕ
  firstOccurredAt : Option TimestampMs
  lastOccurredAt : Option TimestampMs
  deriving DecidableEq

namespace RuntimeFailureRecord

def new (deviceId : DeviceId) (operation : RuntimeFailureOperation) (category : RuntimeFailureCategory)
    (driverId : Option String) (message : String) (occurredAt : Option TimestampMs) :
    RuntimeFailureRecord :=
  ⟨deviceId, operation, category, driverId, message, 1, occurredAt, occurredAt⟩

def recordRepeat (failure : RuntimeFailureRecord) (operation : RuntimeFailureOperation)
    (category : RuntimeFailureCategory) (driverId : Option String) (message : String)
    (occurredAt : Option TimestampMs) : RuntimeFailureRecord :=
  { failure with
    operation, category, driverId, message
    occurrenceCount := failure.occurrenceCount + 1
    firstOccurredAt := failure.firstOccurredAt.or occurredAt
    lastOccurredAt := occurredAt }

end RuntimeFailureRecord

def classifyFailure : RuntimeError → RuntimeFailureCategory
  | .notRunning | .deviceNotBound _ => .runtime
  | .unknownDevice _ => .unknownDevice
  | .invalidRequest _ _ => .invalidRequest
  | .discovery _ | .registry _ => .registry
  | .driver _ _ => .driver

def driverIdFromError : RuntimeError → Option String
  | .driver _ source => some source.driverId
  | _ => none

end Lemnos
