import Lemnos.Runtime.Operations

namespace Lemnos

open Lemnos.Core Discovery Registry Library.OrderedMap

namespace Runtime

def validateRequestForDeviceDescriptor (request : DeviceRequest) (device : DeviceDescriptor) :
    RuntimeResult Unit :=
  match request.validateFor device with
  | .ok () => .ok ()
  | .error source => .error (.invalidRequest request.deviceId source)

def validatedRequestDevice (runtime : Runtime) (request : DeviceRequest) : RuntimeResult DeviceDescriptor :=
  if !runtime.running then .error .notRunning
  else
    match runtime.inventory.get request.deviceId with
    | none => .error (.unknownDevice request.deviceId)
    | some device =>
      match validateRequestForDeviceDescriptor request device with
      | .error error => .error error
      | .ok () => .ok device

theorem validatedRequestDevice_ok {runtime : Runtime} {request : DeviceRequest} {device : DeviceDescriptor}
    (h : runtime.validatedRequestDevice request = .ok device) :
    runtime.running = true ∧ runtime.inventory.get request.deviceId = some device := by
  unfold validatedRequestDevice at h
  split at h
  · cases h
  · rename_i hr
    refine ⟨by simpa using hr, ?_⟩
    split at h
    · cases h
    · rename_i found hget
      split at h
      · cases h
      · cases h
        exact hget

end Runtime

namespace System

def prepareRequestBinding (host : Host) (sys : System) (request : DeviceRequest) :
    RuntimeResult Unit × System :=
  match sys.runtime.validatedRequestDevice request with
  | .error error => (.error error, sys)
  | .ok device =>
    if request.deviceId ∈ sys.runtime.bindings then (.ok (), sys)
    else if !sys.runtime.config.autoBindOnRequest then (.error (.deviceNotBound request.deviceId), sys)
    else sys.bindDiscoveredDevice host device

def executeBound (host : Host) (sys : System) (request : DeviceRequest) (bound : BoundDevice)
    (cacheStateOnRequest : Bool) :
    RuntimeResult (InteractionResponse × Option DeviceStateSnapshot) × System :=
  match sys.callExecute host bound request.interaction with
  | (.error source, sys) => (.error (.driver request.deviceId source), sys)
  | (.ok interaction, sys) =>
    if cacheStateOnRequest then
      match sys.reportState host request.deviceId bound with
      | (.error error, sys) => (.error error, sys)
      | (.ok state, sys) => (.ok (interaction, state), sys)
    else (.ok (interaction, none), sys)

def requestInner (host : Host) (sys : System) (request : DeviceRequest) :
    RuntimeResult DeviceResponse × System :=
  match sys.prepareRequestBinding host request with
  | (.error error, sys) => (.error error, sys)
  | (.ok (), sys) =>
    match sys.runtime.bindings[request.deviceId]? with
    | none => (.error (.deviceNotBound request.deviceId), sys)
    | some bound =>
      match sys.executeBound host request bound sys.runtime.config.cacheStateOnRequest with
      | (.error error, sys) => (.error error, sys)
      | (.ok (interaction, cachedState), sys) =>
        (.ok ⟨request.deviceId, interaction⟩,
          sys.setRuntime (sys.runtime.cacheReported host.layout cachedState))

def request (host : Host) (sys : System) (request : DeviceRequest) : RuntimeResult DeviceResponse × System :=
  let wasBound := sys.runtime.isBound request.deviceId
  let (result, sys) := sys.requestInner host request
  let sys := sys.completeOperation host request.deviceId .request result
  if wasBound then (result, sys) else (result, sys.markDesired request.deviceId result)

end System

end Lemnos
