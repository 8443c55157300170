import Lemnos.DriverSdk.Records
import Lemnos.DriverSdk.Sessions
import Lemnos.Library.Books
import Lemnos.Registry.Manifest
import Lemnos.Runtime.Records

namespace Lemnos.DriverSdk

open Lemnos.Core Bus Registry Library.Frames

def transportError (driverId : String) (deviceId : DeviceId) (source : BusError) : DriverError :=
  .transport driverId deviceId source.display

structure SessionBound (S T : Type) where
  driverId : String
  session : S
  stats : T

abbrev DriverCall (S T α : Type) := Effect (SessionBound S T) DriverError α

section Calls

variable {S T α : Type}

def onSession (call : Effect S BusError α) : Effect (SessionBound S T) BusError α :=
  call.within SessionBound.session fun session bound => { bound with session }

def io (device : DeviceDescriptor) (call : Effect S BusError α) : DriverCall S T α := do
  let bound ← get
  ExceptT.adapt (transportError bound.driverId device.id) (onSession call)

def closeSession (session : BusSession S) : DriverCall S T Unit := io session.device session.close

def modifyStats (f : T → T) : DriverCall S T Unit := modify fun bound => { bound with stats := f bound.stats }

end Calls

def interactionName : InteractionRequest → String
  | .standard request => request.name
  | .custom request => request.id.asStr

def validateRequestForDevice (driverId : String) (device : DeviceDescriptor) (request : InteractionRequest) :
    Except DriverError Unit :=
  request.validate.mapError (.invalidRequest driverId device.id)

def unsupportedActionError (driverId : String) (device : DeviceDescriptor) (request : InteractionRequest) :
    DriverError :=
  .unsupportedAction driverId device.id (interactionName request)

def refusal (driverId : String) (device : DeviceDescriptor) (request : InteractionRequest) : DriverError :=
  match request.validate with
  | .error source => .invalidRequest driverId device.id source
  | .ok _ => unsupportedActionError driverId device request

structure StandardVariant (R P : Type) where
  interface : InterfaceKind
  wrap : R → StandardRequest
  request : StandardRequest → Option R
  response : P → StandardResponse
  wrap_request : ∀ {standard selected}, request standard = some selected → standard = wrap selected
  wrap_interface : ∀ selected, (wrap selected).interface = interface

theorem StandardVariant.request_eq_none {R P : Type} (variant : StandardVariant R P) {standard : StandardRequest}
    (h : standard.interface ≠ variant.interface) : variant.request standard = none := by
  by_contra hsome
  obtain ⟨selected, hselected⟩ := Option.ne_none_iff_exists'.mp hsome
  apply h
  rw [variant.wrap_request hselected, variant.wrap_interface]

def executeStandardRequest {S T R P : Type} (variant : StandardVariant R P) (device : DeviceDescriptor)
    (body : R → DriverCall S T P) (request : InteractionRequest) : DriverCall S T InteractionResponse := do
  let bound ← get
  MonadExcept.ofExcept (validateRequestForDevice bound.driverId device request)
  match request with
  | .standard standard =>
    match variant.request standard with
    | some selected => body selected >>= fun answer => pure (.standard (variant.response answer))
    | none => throw (unsupportedActionError bound.driverId device request)
  | .custom _ => throw (unsupportedActionError bound.driverId device request)

section Binding

variable {W : Type}

def bindRejectedExpected (driverId : String) (device : DeviceDescriptor) (expected : String) : DriverError :=
  .bindRejected driverId device.id s!"expected {expected}, found {device.kind}"

def ensureDeviceKinds (driverId : String) (device : DeviceDescriptor) (expectedKinds : List DeviceKind)
    (expectedLabel : String) : Except DriverError Unit :=
  if expectedKinds.contains device.kind then .ok ()
  else .error (bindRejectedExpected driverId device expectedLabel)

def bindWithSession {S B : Type} (driverId : String) (openSession : Effect W DriverError S)
    (buildBound : String → S → B) : Effect W DriverError B := do
  let session ← openSession
  pure (buildBound driverId session)

def bindSessionForKinds {S B : Type} (driverId : String) (device : DeviceDescriptor)
    (expectedKinds : List DeviceKind) (expectedLabel : String) (openSession : Effect W DriverError S)
    (buildBound : String → S → B) : Effect W DriverError B := do
  MonadExcept.ofExcept (ensureDeviceKinds driverId device expectedKinds expectedLabel)
  bindWithSession driverId openSession buildBound

structure DriverBindContext (W : Type) (Opened : InterfaceKind → Type) where
  backend : (interface : InterfaceKind) →
    Option (DeviceDescriptor → SessionAccess → Effect W BusError (Opened interface)) := fun _ => none

def DriverBindContext.openSession {Opened : InterfaceKind → Type} (context : DriverBindContext W Opened)
    (interface : InterfaceKind) (driverId : String) (device : DeviceDescriptor) (access : SessionAccess) :
    Effect W DriverError (Opened interface) :=
  match context.backend interface with
  | none => throw (.missingBackend driverId interface)
  | some backend => ExceptT.adapt (transportError driverId device.id) (backend device access)

end Binding

def genericDriverManifest (id summary : String) (interface : InterfaceKind) (kinds : List DeviceKind) :
    DriverManifest :=
  { id, summary, interfaces := [interface], priority := .generic, kinds }

def genericDriverManifestWithStandardInteractions (id summary : String) (interface : InterfaceKind)
    (kinds : List DeviceKind) (interactions : List String) : DriverManifest :=
  { genericDriverManifest id summary interface kinds with
    standardInteractions := interactions.map fun id => { id, kind := .standard } }

structure GenericSessionDriver where
  id : String
  summary : String
  interface : InterfaceKind
  kinds : List DeviceKind
  expected : String
  access : SessionAccess
  interactions : List String

namespace GenericSessionDriver

variable (driver : GenericSessionDriver)

def manifest : DriverManifest :=
  genericDriverManifestWithStandardInteractions driver.id driver.summary driver.interface driver.kinds
    driver.interactions

def bind {W T : Type} {Opened : InterfaceKind → Type} (initial : T) (device : DeviceDescriptor)
    (context : DriverBindContext W Opened) :
    Effect W DriverError (SessionBound (Opened driver.interface) T) :=
  bindSessionForKinds driver.id device driver.kinds driver.expected
    (context.openSession driver.interface driver.id device driver.access)
    fun driverId session => { driverId, session, stats := initial }

end GenericSessionDriver

section Binding

variable {W T : Type} {Opened : InterfaceKind → Type} (driver : GenericSessionDriver) (initial : T)
  (device : DeviceDescriptor) (context : DriverBindContext W Opened)

def bindOutcome (world : W) : Except DriverError (SessionBound (Opened driver.interface) T) × W :=
  match context.backend driver.interface with
  | none => (.error (.missingBackend driver.id driver.interface), world)
  | some backend =>
    let opened := (backend device driver.access).exec world
    ((opened.1.mapError (transportError driver.id device.id)).map fun session =>
      { driverId := driver.id, session, stats := initial }, opened.2)

theorem exec_bind_accepted (h : device.kind ∈ driver.kinds) (world : W) :
    (driver.bind initial device context).exec world = bindOutcome driver initial device context world := by
  have hkinds : driver.kinds.contains device.kind = true := List.contains_iff_mem.mpr h
  rw [GenericSessionDriver.bind, bindSessionForKinds, ensureDeviceKinds, if_pos hkinds]
  refine (exec_bind_of_ok (exec_ofExcept _ world)).trans ?_
  rw [bindWithSession, exec_bind_pure, DriverBindContext.openSession, bindOutcome]
  cases context.backend driver.interface with
  | none => rfl
  | some backend => simp only [exec_adapt]

theorem exec_bind_rejected (h : device.kind ∉ driver.kinds) (world : W) :
    (driver.bind initial device context).exec world =
      (.error (bindRejectedExpected driver.id device driver.expected), world) := by
  have hkinds : ¬ driver.kinds.contains device.kind = true := fun hmem => h (List.contains_iff_mem.mp hmem)
  rw [GenericSessionDriver.bind, bindSessionForKinds, ensureDeviceKinds, if_neg hkinds]
  exact exec_bind_of_error (exec_ofExcept _ world)

end Binding

section Specs

variable {S T R P α γ : Type} {device : DeviceDescriptor}

theorem exec_io (call : Effect S BusError α) (bound : SessionBound S T) :
    (io device call : DriverCall S T α).exec bound =
      ((call.exec bound.session).1.mapError (transportError bound.driverId device.id),
        { bound with session := (call.exec bound.session).2 }) := by
  rw [io, exec_bind_of_ok (exec_get bound), exec_adapt, onSession, exec_within]

theorem keepsStats_io (call : Effect S BusError α) :
    Keeps SessionBound.stats (io device call : DriverCall S T α) := by
  intro bound
  rw [exec_io]

def onWorld (view : S → γ) (bound : SessionBound S T) : γ := view bound.session

theorem settles_io {view : S → γ} {call : Effect S BusError α} {relation : γ → α → γ → Prop}
    (h : Settles view call relation) : Settles (onWorld view) (io device call : DriverCall S T α) relation where
  ok bound a bound' hexec := by
    rw [exec_io] at hexec
    obtain ⟨hresult, rfl⟩ := Prod.mk.inj hexec
    cases hcall : (call.exec bound.session).1 with
    | error error =>
      rw [hcall] at hresult
      cases hresult
    | ok b =>
      rw [hcall] at hresult
      cases hresult
      exact h.ok bound.session a _ (Prod.ext hcall rfl)
  error bound error bound' hexec := by
    rw [exec_io] at hexec
    obtain ⟨hresult, rfl⟩ := Prod.mk.inj hexec
    cases hcall : (call.exec bound.session).1 with
    | error source => exact h.error bound.session source _ (Prod.ext hcall rfl)
    | ok b =>
      rw [hcall] at hresult
      cases hresult

theorem settles_noted {view : S → γ} {call : Effect S BusError α} {note : α → T → T} {answer : α → P}
    {relation : γ → P → γ → Prop} (h : Settles view call fun v a v' => relation v (answer a) v') :
    Settles (onWorld view) (io device call >>= fun a => modifyStats (note a) >>= fun _ => pure (answer a) :
      DriverCall S T P) relation :=
  (settles_io h).answer (fun _ _ bound _ => ⟨{ bound with stats := _ }, rfl, rfl⟩) fun _ _ _ hsettled => hsettled

theorem settles_unnoted {view : S → γ} {call : Effect S BusError α} {answer : α → P}
    {relation : γ → P → γ → Prop} (h : Settles view call fun v a v' => relation v (answer a) v') :
    Settles (onWorld view) (io device call >>= fun a => pure (answer a) : DriverCall S T P) relation :=
  (settles_io h).map fun _ _ _ hsettled => hsettled

theorem books_io (call : Effect S BusError α) {next : α → DriverCall S T P} {entry : P → T → T}
    (hnext : ∀ a, Books SessionBound.stats (next a) entry) :
    Books SessionBound.stats (io device call >>= next) entry := .after (keepsStats_io call) hnext

theorem books_modifyStats {f : T → T} {answer : P} {entry : P → T → T}
    (h : ∀ stats, f stats = entry answer stats) :
    Books SessionBound.stats (modifyStats f >>= fun _ => pure answer : DriverCall S T P) entry :=
  .update_pure fun bound => h bound.stats

theorem books_pure {answer : P} {entry : P → T → T} (h : ∀ stats, stats = entry answer stats) :
    Books SessionBound.stats (pure answer : DriverCall S T P) entry := .pure h

variable {variant : StandardVariant R P} {body : R → DriverCall S T P} {bound : SessionBound S T}

theorem exec_validated {request : InteractionRequest} (h : request.validate = .ok ())
    (next : Unit → DriverCall S T α) :
    (MonadExcept.ofExcept (validateRequestForDevice bound.driverId device request) >>= next).exec bound =
      (next ()).exec bound := by
  apply exec_bind_of_ok
  rw [exec_ofExcept, validateRequestForDevice, h]
  rfl

theorem exec_executeStandardRequest_served {standard : StandardRequest} {selected : R}
    (h : standard.validate = .ok ()) (hselected : variant.request standard = some selected) :
    (executeStandardRequest variant device body (.standard standard)).exec bound =
      (((body selected).exec bound).1.map fun answer => .standard (variant.response answer),
        ((body selected).exec bound).2) := by
  have hvalid : (InteractionRequest.standard standard).validate = .ok () := h
  rw [executeStandardRequest, exec_bind_of_ok (exec_get bound), exec_validated hvalid]
  simp only [hselected]
  exact exec_bind_pure (body selected) _ bound

theorem exec_executeStandardRequest_refused {request : InteractionRequest}
    (h : ∀ standard, request = .standard standard → standard.validate = .ok () → variant.request standard = none) :
    (executeStandardRequest variant device body request).exec bound =
      (.error (refusal bound.driverId device request), bound) := by
  rw [executeStandardRequest, exec_bind_of_ok (exec_get bound), refusal]
  cases hvalid : request.validate with
  | error source =>
    apply exec_bind_of_error
    rw [exec_ofExcept, validateRequestForDevice, hvalid]
    rfl
  | ok done =>
    rw [exec_validated hvalid]
    cases request with
    | standard standard =>
      simp only [h standard rfl hvalid]
      rfl
    | custom request => rfl

theorem executeStandardRequest_cases (request : InteractionRequest) :
    (∃ selected, request = .standard (variant.wrap selected) ∧ (variant.wrap selected).validate = .ok () ∧
      variant.request (variant.wrap selected) = some selected) ∨
      (executeStandardRequest variant device body request).exec bound =
        (.error (refusal bound.driverId device request), bound) := by
  by_cases h : ∀ standard, request = .standard standard → standard.validate = .ok () →
      variant.request standard = none
  · exact .inr (exec_executeStandardRequest_refused h)
  · obtain ⟨standard, hstandard⟩ := not_forall.mp h
    simp only [not_forall] at hstandard
    obtain ⟨rfl, hvalid, hselected⟩ := hstandard
    obtain ⟨selected, hselected⟩ := Option.ne_none_iff_exists'.mp hselected
    obtain rfl := variant.wrap_request hselected
    exact .inl ⟨selected, rfl, hvalid, hselected⟩

theorem settles_executeStandardRequest {view : SessionBound S T → γ} {request : InteractionRequest}
    {relation : γ → InteractionResponse → γ → Prop}
    (h : ∀ selected, request = .standard (variant.wrap selected) →
      Settles view (body selected) fun v answer v' => relation v (.standard (variant.response answer)) v') :
    Settles view (executeStandardRequest variant device body request) relation where
  ok bound response bound' hexec := by
    rcases @executeStandardRequest_cases S T R P device variant body bound request with
      ⟨selected, rfl, hvalid, hselected⟩ | hrefused
    · rw [exec_executeStandardRequest_served hvalid hselected] at hexec
      cases hbody : (body selected).exec bound with
      | mk result after =>
        rw [hbody] at hexec
        cases result with
        | error error => cases hexec
        | ok answer =>
          cases hexec
          exact (h selected rfl).ok bound answer after hbody
    · rw [hrefused] at hexec
      cases hexec
  error bound error bound' hexec := by
    rcases @executeStandardRequest_cases S T R P device variant body bound request with
      ⟨selected, rfl, hvalid, hselected⟩ | hrefused
    · rw [exec_executeStandardRequest_served hvalid hselected] at hexec
      cases hbody : (body selected).exec bound with
      | mk result after =>
        rw [hbody] at hexec
        cases result with
        | error failure =>
          cases hexec
          exact (h selected rfl).error bound error after hbody
        | ok answer => cases hexec
    · rw [hrefused] at hexec
      cases hexec
      rfl

theorem books_executeStandardRequest {entry : InteractionRequest → InteractionResponse → T → T}
    (h : ∀ selected, Books SessionBound.stats (body selected) fun answer =>
      entry (.standard (variant.wrap selected)) (.standard (variant.response answer)))
    (request : InteractionRequest) :
    Books SessionBound.stats (executeStandardRequest variant device body request) (entry request) := by
  apply settles_executeStandardRequest
  rintro selected rfl
  exact h selected

theorem yields_executeStandardRequest {p : InteractionRequest → InteractionResponse → Prop}
    (h : ∀ selected, (variant.wrap selected).validate = .ok () → Yields (fun answer =>
      p (.standard (variant.wrap selected)) (.standard (variant.response answer))) (body selected))
    (request : InteractionRequest) : Yields (p request) (executeStandardRequest variant device body request) := by
  intro bound response bound' hexec
  rcases @executeStandardRequest_cases S T R P device variant body bound request with
    ⟨selected, rfl, hvalid, hselected⟩ | hrefused
  · rw [exec_executeStandardRequest_served hvalid hselected] at hexec
    cases hbody : (body selected).exec bound with
    | mk result after =>
      rw [hbody] at hexec
      cases result with
      | error error => cases hexec
      | ok answer =>
        cases hexec
        exact h selected hvalid bound answer after hbody
  · rw [hrefused] at hexec
    cases hexec

end Specs

end Lemnos.DriverSdk
