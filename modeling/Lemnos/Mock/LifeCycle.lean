import Lemnos.Library.Runs
import Lemnos.Mock.Sessions

namespace Lemnos.Mock

open Lemnos.Core Bus Library.Frames Library.OrderedMap Library.Runs

inductive MockSessionKind where
  | gpio
  | pwm
  | i2c
  | i2cController (bus : UInt32)
  | spi
  | uart
  | usb (ownerId : DeviceId)

namespace MockSessionKind

def Call : MockSessionKind → Type
  | gpio => GpioRequest
  | pwm => PwmRequest
  | i2c => I2cRequest
  | i2cController _ => UInt16 × I2cRequest
  | spi => SpiRequest
  | uart => UartRequest
  | usb _ => UsbRequest

def method : (kind : MockSessionKind) → kind.Call → (α : Type) × MockMethod α
  | gpio, .read => ⟨_, MockGpioSession.readLevel⟩
  | gpio, .write level => ⟨_, MockGpioSession.writeLevel level⟩
  | gpio, .configure configuration => ⟨_, MockGpioSession.configureLine configuration⟩
  | gpio, .getConfiguration => ⟨_, MockGpioSession.configuration⟩
  | pwm, .enable enabled => ⟨_, MockPwmSession.setEnabled enabled⟩
  | pwm, .configure configuration => ⟨_, MockPwmSession.configure configuration⟩
  | pwm, .setPeriod periodNs => ⟨_, MockPwmSession.setPeriodNs periodNs⟩
  | pwm, .setDutyCycle dutyCycleNs => ⟨_, MockPwmSession.setDutyCycleNs dutyCycleNs⟩
  | pwm, .getConfiguration => ⟨_, MockPwmSession.configuration⟩
  | i2c, .read length => ⟨_, MockI2cSession.read length⟩
  | i2c, .write bytes => ⟨_, MockI2cSession.write bytes⟩
  | i2c, .writeRead write readLength => ⟨_, MockI2cSession.writeRead write readLength⟩
  | i2c, .transaction operations => ⟨_, MockI2cSession.transaction operations⟩
  | i2cController bus, (address, .read length) => ⟨_, MockI2cControllerSession.read bus address length⟩
  | i2cController bus, (address, .write bytes) => ⟨_, MockI2cControllerSession.write bus address bytes⟩
  | i2cController bus, (address, .writeRead write readLength) =>
    ⟨_, MockI2cControllerSession.writeRead bus address write readLength⟩
  | i2cController bus, (address, .transaction operations) =>
    ⟨_, MockI2cControllerSession.transaction bus address operations⟩
  | spi, .transfer write => ⟨_, MockSpiSession.transfer write⟩
  | spi, .write bytes => ⟨_, MockSpiSession.write bytes⟩
  | spi, .configure configuration => ⟨_, MockSpiSession.configure configuration⟩
  | spi, .getConfiguration => ⟨_, MockSpiSession.configuration⟩
  | uart, .read maxBytes => ⟨_, MockUartSession.read maxBytes⟩
  | uart, .write bytes => ⟨_, MockUartSession.write bytes⟩
  | uart, .configure configuration => ⟨_, MockUartSession.configure configuration⟩
  | uart, .flush => ⟨_, MockUartSession.flush⟩
  | uart, .getConfiguration => ⟨_, MockUartSession.configuration⟩
  | usb ownerId, .control transfer => ⟨_, MockUsbSession.controlTransfer ownerId transfer⟩
  | usb ownerId, .bulkRead endpoint length _ => ⟨_, MockUsbSession.bulkRead ownerId endpoint length⟩
  | usb ownerId, .bulkWrite endpoint bytes _ => ⟨_, MockUsbSession.bulkWrite ownerId endpoint bytes⟩
  | usb ownerId, .interruptRead endpoint length _ => ⟨_, MockUsbSession.interruptRead ownerId endpoint length⟩
  | usb ownerId, .interruptWrite transfer => ⟨_, MockUsbSession.interruptWrite ownerId transfer⟩
  | usb ownerId, .claimInterface interfaceNumber alternateSetting =>
    ⟨_, MockUsbSession.claimInterface ownerId interfaceNumber alternateSetting⟩
  | usb ownerId, .releaseInterface interfaceNumber =>
    ⟨_, MockUsbSession.releaseInterface ownerId interfaceNumber⟩

end MockSessionKind

/-- The method is turned down before it reaches the hardware: by its checks, or, where it only observes,
because the device is gone and no error is injected for it. -/
def MockMethod.TurnedDown {α : Type} (opened : MockOpened) : MockMethod α → Prop
  | .run check _ _ => ∃ error, check opened.device opened.metadata.access = .error error
  | .observe operation table _ => opened.hardware.faults.next opened.device operation = none ∧
    (table.entries opened.hardware)[opened.device]? = none

def MockMethod.Fails {α : Type} (opened : MockOpened) (method : MockMethod α) : Prop :=
  (∃ error, (method.call.exec opened).1 = .error error) ∧
    (method.call.exec opened).2.hardware = opened.hardware

section Methods

variable {α : Type} {opened : MockOpened}

theorem exec_runCall (call : HardwareCall α) (opened : MockOpened) :
    (MockOpened.runCall call).exec opened =
      let done := call.exec opened.hardware
      (done.1, { opened with
        hardware := done.2
        metadata := opened.metadata.beginCall.finishCall done.1 }) := by
  rw [MockOpened.runCall, exec_runCallOn]
  rfl

theorem finishCall_state_ne_closed (metadata : SessionMetadata) (result : BusResult α) :
    (metadata.beginCall.finishCall result).state ≠ .closed := by
  rw [SessionMetadata.finishCall]
  cases result.isOk with
  | true => exact SessionState.noConfusion
  | false => exact SessionState.noConfusion

theorem exec_run_of_error {check : DeviceId → SessionAccess → BusResult Unit} {operation : String}
    {body : DeviceId → HardwareCall α} {error : BusError}
    (h : check opened.device opened.metadata.access = .error error) :
    (MockMethod.run check operation body).call.exec opened = (.error error, opened) := by
  rw [MockMethod.call, exec_bind_of_ok (exec_get opened)]
  apply exec_bind_of_error
  rw [exec_ofExcept, h]

theorem exec_run_of_ok {check : DeviceId → SessionAccess → BusResult Unit} {operation : String}
    {body : DeviceId → HardwareCall α} (h : check opened.device opened.metadata.access = .ok ()) :
    ((MockMethod.run check operation body).call.exec opened).2.metadata.state ≠ .closed := by
  have hcheck : (MonadExcept.ofExcept (check opened.device opened.metadata.access) :
      SessionCall Unit).exec opened = (.ok (), opened) := by
    rw [exec_ofExcept, h]
  rw [MockMethod.call, exec_bind_of_ok (exec_get opened), exec_bind_of_ok hcheck, exec_runCall]
  exact finishCall_state_ne_closed _ _

theorem exec_takeInjectedError_of_none {deviceId : DeviceId} {operation : String}
    {hardware : MockHardwareState} (h : hardware.faults.next deviceId operation = none) :
    (takeInjectedError deviceId operation).exec hardware = (.ok (), hardware) := by
  rw [takeInjectedError, exec_bind_of_ok (exec_get hardware), MockFaultRegistry.take_of_none h]
  rfl

theorem exec_takeInjectedError_of_some {deviceId : DeviceId} {operation : String}
    {hardware : MockHardwareState} {queue : FaultQueue}
    (h : hardware.faults.next deviceId operation = some queue) :
    (takeInjectedError deviceId operation).exec hardware =
      (.error queue.front, { hardware with faults := (hardware.faults.take deviceId operation).2 }) := by
  have htake : hardware.faults.take deviceId operation =
      (some queue.front, (hardware.faults.take deviceId operation).2) := by
    apply Prod.ext
    · rw [MockFaultRegistry.take_fst, h]
      rfl
    · rfl
  rw [takeInjectedError, exec_bind_of_ok (exec_get hardware), htake]
  rfl

theorem exec_stateOf {σ : Type} (table : Table σ) (key : DeviceId) (missing : BusError)
    (hardware : MockHardwareState) : (table.stateOf key missing).exec hardware =
      (match (table.entries hardware)[key]? with
        | some state => .ok state
        | none => .error missing, hardware) := by
  rw [Table.stateOf, exec_bind_of_ok (exec_get hardware)]
  cases (table.entries hardware)[key]? with
  | none => rfl
  | some state => rfl

theorem exec_observe {σ : Type} (operation : String) (table : Table σ) (read : σ → α) (opened : MockOpened) :
    (MockMethod.observe operation table read).call.exec opened =
      match opened.hardware.faults.next opened.device operation with
      | some queue => (.error queue.front, { opened with
          hardware := { opened.hardware with
            faults := (opened.hardware.faults.take opened.device operation).2 } })
      | none => (match (table.entries opened.hardware)[opened.device]? with
        | some state => .ok (read state)
        | none => .error (.disconnected opened.device), opened) := by
  rw [MockMethod.call, exec_bind_of_ok (exec_get opened), MockOpened.onHardware, exec_within]
  cases hnext : opened.hardware.faults.next opened.device operation with
  | some queue => rw [exec_bind_of_error (exec_takeInjectedError_of_some hnext)]
  | none =>
    rw [exec_bind_of_ok (exec_takeInjectedError_of_none hnext), exec_bind_pure, exec_stateOf]
    cases (table.entries opened.hardware)[opened.device]? with
    | none => rfl
    | some state => rfl

theorem MockMethod.TurnedDown.fails {method : MockMethod α} (h : method.TurnedDown opened) :
    method.call.exec opened = ((method.call.exec opened).1, opened) ∧ method.Fails opened := by
  cases method with
  | run check operation body =>
    obtain ⟨error, herror⟩ := h
    rw [Fails, exec_run_of_error herror]
    exact ⟨rfl, ⟨error, rfl⟩, rfl⟩
  | observe operation table read =>
    rw [Fails, exec_observe, h.1, h.2]
    exact ⟨rfl, ⟨_, rfl⟩, rfl⟩

theorem MockMethod.turnedDown_of_fails {method : MockMethod α} (hfails : method.Fails opened)
    (hclosed : (method.call.exec opened).2.metadata.state = .closed) : method.TurnedDown opened := by
  cases method with
  | run check operation body =>
    cases hcheck : check opened.device opened.metadata.access with
    | error error => exact ⟨error, hcheck⟩
    | ok accepted => exact absurd hclosed (exec_run_of_ok hcheck)
  | observe operation table read =>
    obtain ⟨⟨error, herror⟩, hsame⟩ := hfails
    rw [exec_observe] at herror hsame
    cases hnext : opened.hardware.faults.next opened.device operation with
    | some queue =>
      rw [hnext] at hsame
      have hfaults := congrArg MockHardwareState.faults hsame
      exact absurd hfaults (MockFaultRegistry.take_ne hnext)
    | none =>
      rw [hnext] at herror
      refine ⟨hnext, ?_⟩
      cases hstate : (table.entries opened.hardware)[opened.device]? with
      | none => rfl
      | some state =>
        rw [hstate] at herror
        cases herror

end Methods

inductive MockOp (kind : MockSessionKind) where
  | call (request : kind.Call)
  | close
  | others (hardware : MockHardwareState)

namespace MockOp

variable {kind : MockSessionKind}

def step : MockOp kind → MockOpened → Option MockOpened
  | call request, opened => some ((kind.method request).2.call.exec opened).2
  | close, opened => some (MockOpened.close.exec opened).2
  | others hardware, opened => some { opened with hardware }

def Fails (op : MockOp kind) (opened : MockOpened) : Prop :=
  match op with
  | call request => (kind.method request).2.Fails opened
  | close | others _ => True

def TurnedDown (op : MockOp kind) (opened : MockOpened) : Prop :=
  match op with
  | call request => (kind.method request).2.TurnedDown opened
  | close | others _ => True

theorem step_total (op : MockOp kind) (opened : MockOpened) : ∃ opened', op.step opened = some opened' := by
  cases op with
  | call request => exact ⟨_, rfl⟩
  | close => exact ⟨_, rfl⟩
  | others hardware => exact ⟨_, rfl⟩

theorem step_closed (op : MockOp kind) (opened opened' : MockOpened)
    (hclosed : opened.metadata.state = .closed)
    (hdown : op.TurnedDown opened) (hstep : op.step opened = some opened') :
    opened'.metadata.state = .closed := by
  cases op with
  | call request =>
    cases hstep
    rw [hdown.fails.1]
    exact hclosed
  | close =>
    cases hstep
    rfl
  | others hardware =>
    cases hstep
    exact hclosed

theorem fails_of_turnedDown (op : MockOp kind) (opened : MockOpened) (hdown : op.TurnedDown opened) :
    op.Fails opened := by
  cases op with
  | call request => exact hdown.fails.2
  | close => trivial
  | others hardware => trivial

theorem turnedDown_of_fails (op : MockOp kind) (opened opened' : MockOpened)
    (hstep : op.step opened = some opened') (hfails : op.Fails opened)
    (hclosed : opened'.metadata.state = .closed) : op.TurnedDown opened := by
  cases op with
  | call request =>
    cases hstep
    exact MockMethod.turnedDown_of_fails hfails hclosed
  | close => trivial
  | others hardware => trivial

/-- Closing always succeeds. Afterwards the session stays closed and every call fails without a trace exactly
as long as every call is turned down before it reaches the hardware: no call checks that the session is open. -/
theorem closed_mock_session_iff (kind : MockSessionKind) (opened : MockOpened) (ops : List (MockOp kind)) :
    (MockOpened.close.exec opened).1 = .ok () ∧
    ((∀ before after reached, ops = before ++ after →
        run step before (MockOpened.close.exec opened).2 = some reached →
        reached.metadata.state = .closed ∧ ∀ op rest, after = op :: rest → op.Fails reached) ↔
      Along step TurnedDown ops (MockOpened.close.exec opened).2) := by
  obtain ⟨last, hrun⟩ := run_total step_total ops (MockOpened.close.exec opened).2
  refine ⟨rfl, good_iff_along (fun _ hclosed => hclosed) step_closed ?_ ?_ rfl hrun⟩
  · exact fun op s _ hdown => fails_of_turnedDown op s hdown
  · exact fun op s s' _ hstep hfails hclosed => turnedDown_of_fails op s s' hstep hfails hclosed

end MockOp

def sensor : DeviceId := ⟨"mock.i2c.bus1.0x40", by decide⟩

def sensorHardware : MockHardwareState :=
  { i2cDevices := (∅ : BTreeMap DeviceId MockI2cDeviceState).insert sensor
      { descriptor := { id := sensor, interface := .i2c, address := some (.i2cDevice 1 0x40) }
        memory := [0, 0]
        pointer := 0 } }

def sensorSession : MockOpened := ⟨sensorHardware, sensor, { access := .exclusive, state := .idle }⟩

def closedSensorSession : MockOpened := (MockOpened.close.exec sensorSession).2

theorem closed_sensor_session_writes :
    let done := (MockI2cSession.write [0x01, 0xff]).call.exec closedSensorSession
    closedSensorSession.metadata.state = .closed ∧
    done.1 = .ok () ∧
    (closedSensorSession.hardware.i2cDevices[sensor]?.map MockI2cDeviceState.memory) = some [0, 0] ∧
    (done.2.hardware.i2cDevices[sensor]?.map MockI2cDeviceState.memory) = some [0, 0xff] ∧
    done.2.metadata.state = .idle := by
  refine ⟨rfl, rfl, rfl, rfl, rfl⟩

end Lemnos.Mock
