import Lemnos.Core.Descriptor

namespace Lemnos.Bus

open Lemnos.Core

inductive BusError where
  | unsupportedInterface (backend : String) (interface : InterfaceKind)
  | unsupportedDevice (backend : String) (deviceId : DeviceId)
  | accessConflict (deviceId : DeviceId) (reason : String)
  | sessionUnavailable (deviceId : DeviceId) (reason : String)
  | transportFailure (deviceId : DeviceId) (operation reason : String)
  | timeout (deviceId : DeviceId) (operation : String)
  | disconnected (deviceId : DeviceId)
  | invalidRequest (deviceId : DeviceId) (operation reason : String)
  | invalidConfiguration (deviceId : DeviceId) (reason : String)
  | permissionDenied (deviceId : DeviceId) (operation reason : String)
  deriving DecidableEq

abbrev BusResult := Except BusError

inductive SessionAccess where
  | sharedReadOnly
  | shared
  | exclusive
  | exclusiveController
  deriving DecidableEq

def SessionAccess.canWrite (access : SessionAccess) : Bool := access ≠ .sharedReadOnly

inductive SessionState where
  | open
  | idle
  | busy
  | stale
  | faulted
  | closed
  deriving DecidableEq

structure SessionMetadata where
  access : SessionAccess
  state : SessionState := .open
  deriving DecidableEq

namespace SessionMetadata

def beginCall (metadata : SessionMetadata) : SessionMetadata := { metadata with state := .busy }

def finishCall {α : Type} (metadata : SessionMetadata) (result : BusResult α) : SessionMetadata :=
  { metadata with state := if result.isOk then .idle else .faulted }

def markClosed (metadata : SessionMetadata) : SessionMetadata := { metadata with state := .closed }

def ensureOpen (metadata : SessionMetadata) (deviceId : DeviceId) (interface operation : String) :
    BusResult Unit :=
  if metadata.state = .closed then
    .error (.sessionUnavailable deviceId s!"cannot perform '{operation}' on a closed {interface} session")
  else .ok ()

end SessionMetadata

end Lemnos.Bus
