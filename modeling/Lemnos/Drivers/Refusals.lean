import Lemnos.Drivers.Generic

namespace Lemnos.Drivers

open Lemnos.Core Bus DriverSdk Library.Frames

variable {S : Type}

/-- The error is one of the session, or says that the session gave a transaction another number of results. -/
inductive Below : (interface : InterfaceKind) → Session S interface → StandardRequest → DriverError → Prop where
  | transport {interface : InterfaceKind} {session : Session S interface} {request : StandardRequest}
    (driverId : String) (deviceId : DeviceId) (source : BusError) :
    Below interface session request (transportError driverId deviceId source)
  | mismatch {session : I2cSession S} {operations : List I2cOperation} {world : S} {results : List (List UInt8)}
    (driverId : String) (answered : ((session.transaction operations).exec world).1 = .ok results)
    (number : results.length ≠ operations.length) :
    Below .i2c session (.i2c (.transaction operations))
      (I2cBoundDevice.mismatch session driverId results.length operations.length)

section Below

variable {interface : InterfaceKind} {own : Session S interface} {request : StandardRequest}

theorem Below.ne_unsupportedActionError {error : DriverError} (h : Below interface own request error)
    (driverId : String) (device : DeviceDescriptor) (interaction : InteractionRequest) :
    error ≠ unsupportedActionError driverId device interaction := by
  cases h with
  | transport driverId deviceId source => exact fun heq => by cases heq
  | mismatch driverId answered number => exact fun heq => by cases heq

theorem below_io {T α : Type} {device : DeviceDescriptor} (call : Effect S BusError α) :
    Raises (Below interface own request) (io device call : DriverCall S T α) := by
  intro bound error after hexec
  rw [exec_io] at hexec
  cases hcall : (call.exec bound.session).1 with
  | ok a =>
    rw [hcall] at hexec
    cases hexec
  | error source =>
    rw [hcall] at hexec
    cases hexec
    exact .transport _ _ source

theorem below_noted {T α P : Type} {device : DeviceDescriptor} (call : Effect S BusError α) (note : α → T → T)
    (answer : α → P) :
    Raises (Below interface own request) (io device call >>= fun a => modifyStats (note a) >>= fun _ =>
      pure (answer a) : DriverCall S T P) :=
  .bind (below_io call) fun _ => .bind (.update _) fun _ => .pure _

theorem below_plain {T α P : Type} {device : DeviceDescriptor} (call : Effect S BusError α) (answer : α → P) :
    Raises (Below interface own request) (io device call >>= fun a => pure (answer a) : DriverCall S T P) :=
  .bind (below_io call) fun _ => .pure _

end Below

theorem gpio_below (session : GpioSession S) (request : GpioRequest) :
    Raises (Below .gpio session (.gpio request)) (GpioBoundDevice.executeGpioRequest session request) := by
  cases request with
  | getConfiguration => exact below_plain _ _
  | _ => exact below_noted _ _ _

theorem pwm_below (session : PwmSession S) (request : PwmRequest) :
    Raises (Below .pwm session (.pwm request)) (PwmBoundDevice.executePwmRequest session request) := by
  cases request with
  | getConfiguration => exact below_plain _ _
  | _ => exact below_noted _ _ _

theorem answered_of_io {T α : Type} {device : DeviceDescriptor} {call : Effect S BusError α} {a : α}
    {bound after : SessionBound S T} (h : (io device call : DriverCall S T α).exec bound = (.ok a, after)) :
    (call.exec bound.session).1 = .ok a := by
  rw [exec_io] at h
  cases hcall : (call.exec bound.session).1 with
  | error source =>
    rw [hcall] at h
    cases h
  | ok b =>
    rw [hcall] at h
    cases h
    rfl

theorem i2c_below (session : I2cSession S) (request : I2cRequest) :
    Raises (Below .i2c session (.i2c request)) (I2cBoundDevice.executeI2cRequest session request) := by
  cases request with
  | transaction operations =>
    refine .bind_ok (below_io _) fun rawResults before after hanswer => .bind .get fun bound => ?_
    by_cases hlength : rawResults.length = operations.length
    · simp only [ne_eq, hlength, not_true_eq_false, if_false]
      exact .bind (.update _) fun _ => .pure _
    · simp only [ne_eq, hlength, not_false_eq_true, if_true]
      exact .throw_bind (.mismatch _ (answered_of_io hanswer) hlength) _
  | _ => exact below_noted _ _ _

theorem spi_below (session : SpiSession S) (request : SpiRequest) :
    Raises (Below .spi session (.spi request)) (SpiBoundDevice.executeSpiRequest session request) := by
  cases request with
  | configure configuration => exact below_plain _ _
  | getConfiguration => exact below_plain _ _
  | _ => exact below_noted _ _ _

theorem uart_below (session : UartSession S) (request : UartRequest) :
    Raises (Below .uart session (.uart request)) (UartBoundDevice.executeUartRequest session request) := by
  cases request with
  | configure configuration => exact below_plain _ _
  | getConfiguration => exact below_plain _ _
  | _ => exact below_noted _ _ _

theorem usb_below (session : UsbSession S) (request : UsbRequest) :
    Raises (Below .usb session (.usb request)) (UsbBoundDevice.executeUsbRequest session request) := by
  cases request <;> exact below_noted _ _ _

section Served

variable {T R P : Type} {variant : StandardVariant R P} {device : DeviceDescriptor} {body : R → DriverCall S T P}
  {p : DriverError → Prop}

theorem raises_served {selected : R} (hvalid : (variant.wrap selected).validate = .ok ())
    (hselected : variant.request (variant.wrap selected) = some selected) (h : Raises p (body selected)) :
    Raises p (executeStandardRequest variant device body (.standard (variant.wrap selected))) := by
  intro bound error after hexec
  rw [exec_executeStandardRequest_served hvalid hselected] at hexec
  cases hbody : (body selected).exec bound with
  | mk result bound' =>
    rw [hbody] at hexec
    cases result with
    | ok answer => cases hexec
    | error failure =>
      cases hexec
      exact h bound _ _ hbody

end Served

def Taken (interface : InterfaceKind) (request : InteractionRequest) : Prop :=
  ∃ standard, request = .standard standard ∧ standard.validate = .ok () ∧ standard.interface = interface

theorem below_execute {interface : InterfaceKind} (session : Session S interface) {standard : StandardRequest}
    (hvalid : standard.validate = .ok ()) (hinterface : standard.interface = interface) :
    Raises (Below interface session standard) (execute interface session (.standard standard)) := by
  subst hinterface
  cases standard with
  | gpio request =>
    exact @raises_served S _ _ _ GpioBoundDevice.variant _ _ _ request hvalid rfl (gpio_below session request)
  | pwm request =>
    exact @raises_served S _ _ _ PwmBoundDevice.variant _ _ _ request hvalid rfl (pwm_below session request)
  | i2c request =>
    exact @raises_served S _ _ _ I2cBoundDevice.variant _ _ _ request hvalid rfl (i2c_below session request)
  | spi request =>
    exact @raises_served S _ _ _ SpiBoundDevice.variant _ _ _ request hvalid rfl (spi_below session request)
  | uart request =>
    exact @raises_served S _ _ _ UartBoundDevice.variant _ _ _ request hvalid rfl (uart_below session request)
  | usb request =>
    exact @raises_served S _ _ _ UsbBoundDevice.variant _ _ _ request hvalid rfl (usb_below session request)

theorem exec_execute_refused {interface : InterfaceKind} (session : Session S interface)
    {request : InteractionRequest} (h : ¬ Taken interface request) (bound : SessionBound S (Stats interface)) :
    (execute interface session request).exec bound =
      (.error (refusal bound.driverId (Session.bus interface session).device request), bound) := by
  have hother : ∀ standard, request = .standard standard → standard.validate = .ok () →
      standard.interface ≠ interface := fun standard hrequest hvalid hinterface =>
    h ⟨standard, hrequest, hvalid, hinterface⟩
  cases interface <;>
    exact exec_executeStandardRequest_refused fun standard hrequest hvalid =>
      StandardVariant.request_eq_none _ (hother standard hrequest hvalid)

end Lemnos.Drivers
