import Lemnos.Drivers.Settled
import Lemnos.Mock.Machines

/-! The generic drivers on the sessions of the mock hardware. -/

namespace Lemnos.Mock

open Lemnos.Core Bus DriverSdk Drivers Library.Frames Library.OrderedMap

abbrev Device : InterfaceKind → Type
  | .gpio => MockGpioLineState
  | .pwm => MockPwmChannelState
  | .i2c => MockI2cDeviceState
  | .spi => MockSpiDeviceState
  | .uart => MockUartPortState
  | .usb => MockUsbDeviceState

def deviceTable : (interface : InterfaceKind) → Table (Device interface)
  | .gpio => gpioLines
  | .pwm => pwmChannels
  | .i2c => i2cDevices
  | .spi => spiDevices
  | .uart => uartPorts
  | .usb => usbDevices

theorem deviceTable_lawful (interface : InterfaceKind) : (deviceTable interface).Lawful := by
  cases interface <;> exact ⟨fun _ _ => rfl, fun _ _ => rfl⟩

def answer : (interface : InterfaceKind) → StandardRequest → Device interface →
    Option (StandardResponse × Device interface)
  | .gpio, .gpio request, line => (MockGpioLineState.answer request line).map (Prod.map .gpio id)
  | .pwm, .pwm request, channel => (MockPwmChannelState.answer request channel).map (Prod.map .pwm id)
  | .i2c, .i2c request, device => (MockI2cDeviceState.answer request device).map (Prod.map .i2c id)
  | .spi, .spi request, device => (MockSpiDeviceState.answer request device).map (Prod.map .spi id)
  | .uart, .uart request, port => (MockUartPortState.answer request port).map (Prod.map .uart id)
  | .usb, .usb request, device => (MockUsbDeviceState.answer request device).map (Prod.map .usb id)
  | _, _, _ => none

theorem given_of_map {σ P : Type} {response : StandardResponse} {wrap : P → StandardResponse}
    {given : Option (P × σ)} {state : σ} (h : given.map (Prod.map wrap id) = some (response, state)) :
    ∃ answer, wrap answer = response ∧ given = some (answer, state) := by
  obtain ⟨⟨answer, left⟩, hgiven, heq⟩ := Option.map_eq_some_iff.mp h
  cases heq
  exact ⟨answer, rfl, hgiven⟩

theorem answer_ind {p : (interface : InterfaceKind) → Device interface → Device interface → Prop}
    (gpio : ∀ {request line response line'},
      MockGpioLineState.answer request line = some (response, line') → p .gpio line line')
    (pwm : ∀ {request channel response channel'},
      MockPwmChannelState.answer request channel = some (response, channel') → p .pwm channel channel')
    (i2c : ∀ {request device response device'},
      MockI2cDeviceState.answer request device = some (response, device') → p .i2c device device')
    (spi : ∀ {request device response device'},
      MockSpiDeviceState.answer request device = some (response, device') → p .spi device device')
    (uart : ∀ {request port response port'},
      MockUartPortState.answer request port = some (response, port') → p .uart port port')
    (usb : ∀ {request device response device'},
      MockUsbDeviceState.answer request device = some (response, device') → p .usb device device')
    {interface : InterfaceKind} {request : StandardRequest} {device device' : Device interface}
    {response : StandardResponse} (h : answer interface request device = some (response, device')) :
    p interface device device' := by
  unfold answer at h
  split at h
  · obtain ⟨given, -, hgiven⟩ := given_of_map h
    exact gpio hgiven
  · obtain ⟨given, -, hgiven⟩ := given_of_map h
    exact pwm hgiven
  · obtain ⟨given, -, hgiven⟩ := given_of_map h
    exact i2c hgiven
  · obtain ⟨given, -, hgiven⟩ := given_of_map h
    exact spi hgiven
  · obtain ⟨given, -, hgiven⟩ := given_of_map h
    exact uart hgiven
  · obtain ⟨given, -, hgiven⟩ := given_of_map h
    exact usb hgiven
  · cases h

def mockGpioSession (device : DeviceDescriptor) : GpioSession MockOpened where
  device
  close := MockOpened.close
  readLevel := MockGpioSession.readLevel.call
  writeLevel level := (MockGpioSession.writeLevel level).call
  configureLine configuration := (MockGpioSession.configureLine configuration).call
  configuration := MockGpioSession.configuration.call

def mockPwmSession (device : DeviceDescriptor) : PwmSession MockOpened where
  device
  close := MockOpened.close
  setEnabled enabled := (MockPwmSession.setEnabled enabled).call
  setPeriodNs periodNs := (MockPwmSession.setPeriodNs periodNs).call
  setDutyCycleNs dutyCycleNs := (MockPwmSession.setDutyCycleNs dutyCycleNs).call
  configure configuration := (MockPwmSession.configure configuration).call
  configuration := MockPwmSession.configuration.call

def mockI2cSession (device : DeviceDescriptor) : I2cSession MockOpened where
  device
  close := MockOpened.close
  read length := (MockI2cSession.read length).call
  write bytes := (MockI2cSession.write bytes).call
  writeRead write readLength := (MockI2cSession.writeRead write readLength).call
  transaction operations := (MockI2cSession.transaction operations).call

def mockSpiSession (device : DeviceDescriptor) : SpiSession MockOpened where
  device
  close := MockOpened.close
  transfer write := (MockSpiSession.transfer write).call
  write bytes := (MockSpiSession.write bytes).call
  configure configuration := (MockSpiSession.configure configuration).call
  configuration := MockSpiSession.configuration.call

def mockUartSession (device : DeviceDescriptor) : UartSession MockOpened where
  device
  close := MockOpened.close
  read maxBytes := (MockUartSession.read maxBytes).call
  write bytes := (MockUartSession.write bytes).call
  flush := MockUartSession.flush.call
  configure configuration := (MockUartSession.configure configuration).call
  configuration := MockUartSession.configuration.call

/-- A USB session calls the device that owns the descriptor it was opened for. -/
def mockUsbSession (device : DeviceDescriptor) (ownerId : DeviceId) : UsbSession MockOpened where
  device
  close := MockOpened.close
  controlTransfer transfer := (MockUsbSession.controlTransfer ownerId transfer).call
  bulkRead endpoint length _ := (MockUsbSession.bulkRead ownerId endpoint length).call
  bulkWrite endpoint bytes _ := (MockUsbSession.bulkWrite ownerId endpoint bytes).call
  interruptRead endpoint length _ := (MockUsbSession.interruptRead ownerId endpoint length).call
  interruptWrite transfer := (MockUsbSession.interruptWrite ownerId transfer).call
  claimInterface number alternateSetting := (MockUsbSession.claimInterface ownerId number alternateSetting).call
  releaseInterface number := (MockUsbSession.releaseInterface ownerId number).call

def mockSession (device : DeviceDescriptor) (ownerId : DeviceId) :
    (interface : InterfaceKind) → Session MockOpened interface
  | .gpio => mockGpioSession device
  | .pwm => mockPwmSession device
  | .i2c => mockI2cSession device
  | .spi => mockSpiSession device
  | .uart => mockUartSession device
  | .usb => mockUsbSession device ownerId

abbrev Responds {σ : Type} (own : DeviceId → Prop) (answer : StandardRequest → σ → Option (StandardResponse × σ))
    (request : StandardRequest) : DeviceId × Option σ → StandardResponse → DeviceId × Option σ → Prop :=
  Asked own fun state response state' => answer request state = some (response, state')

section Methods

variable {σ α : Type} {table : Table σ} {key : DeviceId} {answer : StandardRequest → σ → Option (StandardResponse × σ)}
  {request : StandardRequest} {response : α → StandardResponse}

theorem settles_method (hlawful : table.Lawful) (owner : DeviceId → DeviceId) (method : MockMethod α)
    {check : DeviceId → SessionAccess → BusResult Unit} {operation : String} {update : DeviceId → Effect σ BusError α}
    (hmethod : method = .run check operation fun device =>
      table.withStateMut (owner device) (.disconnected device) (update device))
    (h : ∀ device access state, check device access = .ok () →
      (∃ error, (update device).exec state = (.error error, state)) ∨
        ∃ a state', (update device).exec state = (.ok a, state') ∧ answer request state = some (response a, state')) :
    Settles (MockOpened.at table key) method.call
      fun v a v' => Responds (owner · = key) answer request v (response a) v' := by
  have hcall : Settles (MockOpened.at table key) (MockMethod.run check operation fun device =>
      table.withStateMut (owner device) (.disconnected device) (update device)).call
      (Asked (owner · = key) fun state a state' => answer request state = some (response a, state')) := by
    apply settles_run hlawful
    intro device access hcheck
    apply settles_withStateMut hlawful
    intro state
    exact h device access state hcheck
  rw [hmethod]
  exact hcall.imp fun v a v' hasked => hasked.imp fun _ _ hanswer => hanswer

theorem settles_observed (hlawful : table.Lawful) (operation : String) (read : σ → α)
    (h : ∀ state, answer request state = some (response (read state), state)) :
    Settles (MockOpened.at table key) (MockMethod.observe operation table read).call
      fun v a v' => v' = v ∧ Responds (· = key) answer request v (response a) v' := by
  refine (settles_observe hlawful operation read).imp fun v a v' hasked => ⟨hasked.same fun _ _ h => h.1, hasked.imp ?_⟩
  rintro before after ⟨rfl, rfl⟩
  exact h after

end Methods

section Lawful

theorem gpioLines_lawful : gpioLines.Lawful := ⟨fun _ _ => rfl, fun _ _ => rfl⟩
theorem pwmChannels_lawful : pwmChannels.Lawful := ⟨fun _ _ => rfl, fun _ _ => rfl⟩
theorem i2cDevices_lawful : i2cDevices.Lawful := ⟨fun _ _ => rfl, fun _ _ => rfl⟩
theorem spiDevices_lawful : spiDevices.Lawful := ⟨fun _ _ => rfl, fun _ _ => rfl⟩
theorem uartPorts_lawful : uartPorts.Lawful := ⟨fun _ _ => rfl, fun _ _ => rfl⟩
theorem usbDevices_lawful : usbDevices.Lawful := ⟨fun _ _ => rfl, fun _ _ => rfl⟩

theorem of_rejectIf {p : Prop} [Decidable p] {error : BusError} (h : rejectIf p error = .ok ()) : ¬p := by
  intro hp
  rw [rejectIf, if_pos hp] at h
  cases h

theorem of_bind_ok {α : Type} {first : BusResult Unit} {next : Unit → BusResult α} {a : α}
    (h : (first >>= next) = .ok a) : first = .ok () ∧ next () = .ok a := by
  cases first with
  | error error => cases h
  | ok done => exact ⟨rfl, h⟩

end Lawful

section I2c

theorem exec_readFromState_readBytes (length : UInt32) (state : MockI2cDeviceState) :
    (readFromState length).exec state = (.ok (state.readBytes length).1, (state.readBytes length).2) := rfl

theorem exec_writeToState_wroteBytes (deviceId : DeviceId) (bytes : List UInt8) (state : MockI2cDeviceState) :
    (writeToState deviceId bytes).exec state =
      match state.wroteBytes bytes with
      | some written => (.ok ⟨⟩, written)
      | none => (.error (.invalidRequest deviceId "i2c.write" "write payload must not be empty"), state) := by
  cases bytes with
  | nil => rfl
  | cons offset bytes => cases bytes <;> rfl

theorem wroteBytes_isSome {bytes : List UInt8} (h : bytes ≠ []) (state : MockI2cDeviceState) :
    ∃ written, state.wroteBytes bytes = some written := by
  cases bytes with
  | nil => exact absurd rfl h
  | cons offset bytes =>
    cases bytes with
    | nil => exact ⟨_, rfl⟩
    | cons byte bytes => exact ⟨_, rfl⟩

theorem exec_writeToState_of_some {deviceId : DeviceId} {bytes : List UInt8} {state written : MockI2cDeviceState}
    (h : state.wroteBytes bytes = some written) : (writeToState deviceId bytes).exec state = (.ok ⟨⟩, written) := by
  rw [exec_writeToState_wroteBytes, h]

theorem exec_writeReadState {deviceId : DeviceId} {write : List UInt8} {state written : MockI2cDeviceState}
    (h : state.wroteBytes write = some written) (readLength : UInt32) :
    (writeReadState deviceId write readLength).exec state =
      let after := { written with pointer := (write.headD 0).toNat }
      (.ok (after.readBytes readLength).1, (after.readBytes readLength).2) := by
  cases write with
  | nil => cases h
  | cons offset bytes =>
    cases bytes with
    | nil =>
      cases h
      rfl
    | cons byte bytes =>
      cases h
      rfl

theorem exec_transactionState (deviceId : DeviceId) {operations : List I2cOperation}
    (h : .write [] ∉ operations) (state : MockI2cDeviceState) :
    ∃ results after, (transactionState deviceId operations).exec state = (.ok results, after) ∧
      state.transact operations = some (results, after) := by
  induction operations generalizing state with
  | nil => exact ⟨[], state, rfl, rfl⟩
  | cons operation operations ih =>
    have hrest := fun state => ih (fun hmem => h (List.mem_cons_of_mem _ hmem)) state
    cases operation with
    | read length =>
      obtain ⟨results, after, hexec, htransact⟩ := hrest (state.readBytes length).2
      refine ⟨(state.readBytes length).1 :: results, after, ?_, ?_⟩
      · rw [transactionState, exec_bind_of_ok (exec_readFromState_readBytes length state), exec_bind_of_ok hexec]
        rfl
      · rw [MockI2cDeviceState.transact, htransact]
        rfl
    | write bytes =>
      have hbytes : bytes ≠ [] := by
        rintro rfl
        exact h List.mem_cons_self
      obtain ⟨written, hwritten⟩ := wroteBytes_isSome hbytes state
      obtain ⟨results, after, hexec, htransact⟩ := hrest written
      refine ⟨[] :: results, after, ?_, ?_⟩
      · rw [transactionState, exec_bind_of_ok (exec_writeToState_of_some hwritten), exec_bind_of_ok hexec]
        rfl
      · rw [MockI2cDeviceState.transact, hwritten]
        simp only [Option.bind_eq_bind, Option.bind_some, htransact]
        rfl

theorem yields_transactionState (deviceId : DeviceId) (operations : List I2cOperation) :
    Yields (fun results => results.length = operations.length) (transactionState deviceId operations) := by
  induction operations with
  | nil => exact .pure rfl
  | cons operation operations ih =>
    have hrest : ∀ first : List UInt8, Yields (fun results => results.length = (operation :: operations).length)
        (transactionState deviceId operations >>= fun results => pure (first :: results)) := fun first =>
      .map fun state results state' hexec => congrArg Nat.succ (ih state results state' hexec)
    cases operation with
    | read length => exact .after fun bytes => hrest bytes
    | write bytes => exact .after fun written => hrest []

end I2c

section Sessions

variable (device : DeviceDescriptor) (key : DeviceId)

theorem settled_gpio : GpioSettled (MockOpened.at gpioLines key) (Responds (· = key) (answer .gpio))
    (mockGpioSession device) where
  readLevel := by
    have hcall : Settles (MockOpened.at gpioLines key) MockGpioSession.readLevel.call
        (Asked (· = key) fun line level line' => line' = line ∧ level = line.level) :=
      settles_run gpioLines_lawful fun device _ _ => settles_stateOf device _ _
    refine hcall.imp fun v level v' hasked => ⟨hasked.same fun _ _ h => h.1, hasked.imp ?_⟩
    rintro line line' ⟨rfl, rfl⟩
    rfl
  writeLevel level := by
    refine settles_method gpioLines_lawful id (MockGpioSession.writeLevel level) rfl ?_
    intro device access line hcheck
    by_cases h : line.configuration.direction = .output
    · right
      refine ⟨⟨⟩, { line with level }, ?_, ?_⟩
      · rw [exec_bind_of_ok (exec_get line), if_neg (not_not_intro h)]
        rfl
      · simp only [answer, MockGpioLineState.answer, if_pos h]
        rfl
    · left
      refine ⟨.permissionDenied device "gpio.write" "line is not configured for output", ?_⟩
      rw [exec_bind_of_ok (exec_get line), if_pos h]
      rfl
  configureLine configuration := by
    refine settles_method gpioLines_lawful id (MockGpioSession.configureLine configuration) rfl ?_
    intro device access line hcheck
    have h : GpioLineConfiguration.Sound configuration := of_rejectIf hcheck
    refine .inr ⟨⟨⟩, _, rfl, ?_⟩
    simp only [answer, MockGpioLineState.answer, if_pos h]
    rfl
  configuration := settles_observed gpioLines_lawful "gpio.get_configuration" MockGpioLineState.configuration
    fun _ => rfl

theorem settled_pwm : PwmSettled (MockOpened.at pwmChannels key) (Responds (· = key) (answer .pwm))
    (mockPwmSession device) where
  setEnabled enabled := by
    refine settles_method pwmChannels_lawful id (MockPwmSession.setEnabled enabled) rfl ?_
    intro device access channel hcheck
    exact .inr ⟨⟨⟩, _, rfl, rfl⟩
  setPeriodNs periodNs := by
    refine settles_method pwmChannels_lawful id (MockPwmSession.setPeriodNs periodNs) rfl ?_
    intro device access channel hcheck
    have hzero := of_rejectIf (of_bind_ok hcheck).2
    by_cases h : periodNs < channel.configuration.dutyCycleNs
    · left
      refine ⟨.invalidConfiguration device "PWM duty cycle must not exceed the period", ?_⟩
      rw [exec_bind_of_ok (exec_get channel), if_pos h]
      rfl
    · right
      refine ⟨⟨⟩, { channel with configuration := { channel.configuration with periodNs } }, ?_, ?_⟩
      · rw [exec_bind_of_ok (exec_get channel), if_neg h]
        rfl
      · simp only [answer, MockPwmChannelState.answer, if_neg (not_or.mpr ⟨hzero, h⟩)]
        rfl
  setDutyCycleNs dutyCycleNs := by
    refine settles_method pwmChannels_lawful id (MockPwmSession.setDutyCycleNs dutyCycleNs) rfl ?_
    intro device access channel hcheck
    by_cases h : channel.configuration.periodNs < dutyCycleNs
    · left
      refine ⟨.invalidConfiguration device "PWM duty cycle must not exceed the period", ?_⟩
      rw [exec_bind_of_ok (exec_get channel), if_pos h]
      rfl
    · right
      refine ⟨⟨⟩, { channel with configuration := { channel.configuration with dutyCycleNs } }, ?_, ?_⟩
      · rw [exec_bind_of_ok (exec_get channel), if_neg h]
        rfl
      · simp only [answer, MockPwmChannelState.answer, if_neg h]
        rfl
  configure configuration := by
    refine settles_method pwmChannels_lawful id (MockPwmSession.configure configuration) rfl ?_
    intro device access channel hcheck
    obtain ⟨hzero, hduty⟩ := of_bind_ok (of_bind_ok hcheck).2
    have h : PwmConfiguration.Sound configuration :=
      ⟨of_rejectIf hzero, UInt64.not_lt.mp (of_rejectIf hduty)⟩
    refine .inr ⟨⟨⟩, _, rfl, ?_⟩
    simp only [answer, MockPwmChannelState.answer, if_pos h]
    rfl
  configuration := settles_observed pwmChannels_lawful "pwm.get_configuration" MockPwmChannelState.configuration
    fun _ => rfl

theorem settled_spi : SpiSettled (MockOpened.at spiDevices key) (Responds (· = key) (answer .spi))
    (mockSpiSession device) where
  transfer write :=
    settles_method spiDevices_lawful id (MockSpiSession.transfer write) rfl fun _ _ _ _ => .inr ⟨_, _, rfl, rfl⟩
  write bytes :=
    settles_method spiDevices_lawful id (MockSpiSession.write bytes) rfl fun _ _ _ _ => .inr ⟨⟨⟩, _, rfl, rfl⟩
  configure configuration := by
    refine settles_method spiDevices_lawful id (MockSpiSession.configure configuration) rfl ?_
    intro device access state hcheck
    obtain ⟨hfrequency, hbits⟩ := of_bind_ok (of_bind_ok hcheck).2
    have h : SpiConfiguration.Sound configuration := ⟨of_rejectIf hfrequency, of_rejectIf hbits⟩
    refine .inr ⟨⟨⟩, _, rfl, ?_⟩
    simp only [answer, MockSpiDeviceState.answer, if_pos h]
    rfl
  configuration := settles_observed spiDevices_lawful "spi.get_configuration" MockSpiDeviceState.configuration
    fun _ => rfl

theorem settled_uart : UartSettled (MockOpened.at uartPorts key) (Responds (· = key) (answer .uart))
    (mockUartSession device) where
  read maxBytes :=
    settles_method uartPorts_lawful id (MockUartSession.read maxBytes) rfl fun _ _ _ _ => .inr ⟨_, _, rfl, rfl⟩
  write bytes :=
    settles_method uartPorts_lawful id (MockUartSession.write bytes) rfl fun _ _ _ _ => .inr ⟨⟨⟩, _, rfl, rfl⟩
  flush := by
    have hcall : Settles (MockOpened.at uartPorts key) MockUartSession.flush.call
        (Asked (· = key) fun port _ port' => port' = port) :=
      settles_run uartPorts_lawful fun device _ _ => .pure fun port => moves_of_same fun _ _ _ => rfl
    refine hcall.imp fun v done v' hasked => hasked.imp ?_
    rintro port port' rfl
    rfl
  configure configuration := by
    refine settles_method uartPorts_lawful id (MockUartSession.configure configuration) rfl ?_
    intro device access port hcheck
    have h : UartConfiguration.Sound configuration := of_rejectIf (of_bind_ok hcheck).2
    refine .inr ⟨⟨⟩, _, rfl, ?_⟩
    simp only [answer, MockUartPortState.answer, if_pos h]
    rfl
  configuration := settles_observed uartPorts_lawful "uart.get_configuration" MockUartPortState.configuration
    fun _ => rfl

theorem settled_i2c : I2cSettled (MockOpened.at i2cDevices key) (Responds (· = key) (answer .i2c))
    (.write [] ∉ ·) (mockI2cSession device) where
  read length := settles_method i2cDevices_lawful id (MockI2cSession.read length) rfl fun _ _ _ _ => .inr ⟨_, _, rfl, rfl⟩
  write bytes := by
    refine settles_method i2cDevices_lawful id (MockI2cSession.write bytes) rfl ?_
    intro device access state hcheck
    rw [exec_writeToState_wroteBytes]
    cases hwritten : state.wroteBytes bytes with
    | none => exact .inl ⟨_, rfl⟩
    | some written =>
      refine .inr ⟨⟨⟩, written, rfl, ?_⟩
      simp only [answer, MockI2cDeviceState.answer, hwritten]
      rfl
  writeRead write readLength := by
    refine settles_method i2cDevices_lawful id (MockI2cSession.writeRead write readLength) rfl ?_
    intro device access state hcheck
    cases hwritten : state.wroteBytes write with
    | none =>
      cases write with
      | nil => exact .inl ⟨_, rfl⟩
      | cons offset bytes =>
        obtain ⟨written, hsome⟩ := wroteBytes_isSome (List.cons_ne_nil offset bytes) state
        cases hwritten.symm.trans hsome
    | some written =>
      refine .inr ⟨_, _, exec_writeReadState hwritten readLength, ?_⟩
      simp only [answer, MockI2cDeviceState.answer, hwritten]
      rfl
  transaction operations hwhole := by
    have hcall : Settles (MockOpened.at i2cDevices key) (MockI2cSession.transaction operations).call
        (Asked (· = key) fun state results after => state.transact operations = some (results, after)) := by
      apply settles_run i2cDevices_lawful
      intro device access hcheck
      apply settles_withStateMut i2cDevices_lawful
      intro state
      obtain ⟨results, after, hexec, htransact⟩ := exec_transactionState device hwhole state
      exact .inr ⟨results, after, hexec, htransact⟩
    refine hcall.imp fun v results v' hasked => hasked.imp ?_
    intro state after htransact
    simp only [answer, MockI2cDeviceState.answer, htransact]
    rfl
  results operations := by
    change Yields _ (MockI2cSession.transaction operations).call
    apply yields_run
    intro device
    exact .after fun state => .within (yields_transactionState device operations)

theorem takeQueuedUsbRead_eq (queue : List (List UInt8)) (length : UInt32) :
    MockUsbSession.takeQueuedUsbRead queue length = (MockUsbDeviceState.packet queue length, queue.tail) := by
  cases queue with
  | nil => simp [MockUsbSession.takeQueuedUsbRead, MockUsbDeviceState.packet]
  | cons bytes queue => rfl

theorem settled_usb (ownerId : DeviceId) : UsbSettled (MockOpened.at usbDevices key)
    (Responds (fun _ => ownerId = key) (answer .usb)) (mockUsbSession device ownerId) where
  controlTransfer transfer := by
    refine settles_method usbDevices_lawful (fun _ => ownerId) (MockUsbSession.controlTransfer ownerId transfer) rfl ?_
    intro device access state hcheck
    by_cases h : transfer.setup.direction = .output
    · refine .inr ⟨(state.controlResponses.lookup (.of transfer)).getD [],
        { state with lastControlOut := some transfer }, ?_, ?_⟩
      · rw [if_pos h]
        rfl
      · simp only [answer, MockUsbDeviceState.answer, if_pos h]
        rfl
    · refine .inr ⟨(state.controlResponses.lookup (.of transfer)).getD [], state, ?_, ?_⟩
      · rw [if_neg h]
        rfl
      · simp only [answer, MockUsbDeviceState.answer, if_neg h]
        rfl
  bulkRead endpoint length timeoutMs := by
    refine settles_method usbDevices_lawful (fun _ => ownerId) (MockUsbSession.bulkRead ownerId endpoint length) rfl ?_
    intro device access state hcheck
    let queue := state.bulkInResponses[endpoint]?.getD []
    refine .inr ⟨MockUsbDeviceState.packet queue length,
      { state with bulkInResponses := state.bulkInResponses.insert endpoint queue.tail }, ?_, rfl⟩
    rw [exec_bind_of_ok (exec_get state), takeQueuedUsbRead_eq]
    rfl
  bulkWrite endpoint bytes timeoutMs :=
    settles_method usbDevices_lawful (fun _ => ownerId) (MockUsbSession.bulkWrite ownerId endpoint bytes) rfl
      fun _ _ _ _ => .inr ⟨⟨⟩, _, rfl, rfl⟩
  interruptRead endpoint length timeoutMs := by
    refine settles_method usbDevices_lawful (fun _ => ownerId) (MockUsbSession.interruptRead ownerId endpoint length)
      rfl ?_
    intro device access state hcheck
    let queue := state.interruptInResponses[endpoint]?.getD []
    refine .inr ⟨MockUsbDeviceState.packet queue length,
      { state with interruptInResponses := state.interruptInResponses.insert endpoint queue.tail }, ?_, rfl⟩
    rw [exec_bind_of_ok (exec_get state), takeQueuedUsbRead_eq]
    rfl
  interruptWrite transfer :=
    settles_method usbDevices_lawful (fun _ => ownerId) (MockUsbSession.interruptWrite ownerId transfer) rfl
      fun _ _ _ _ => .inr ⟨⟨⟩, _, rfl, rfl⟩
  claimInterface number alternateSetting := by
    refine settles_method usbDevices_lawful (fun _ => ownerId)
      (MockUsbSession.claimInterface ownerId number alternateSetting) rfl ?_
    intro device access state hcheck
    by_cases h : number ∈ state.interfaceNumbers
    · have hcontains : state.interfaceNumbers.contains number = true := Std.ExtTreeSet.contains_iff_mem.mpr h
      right
      refine ⟨⟨⟩, { state with claimedInterfaces := state.claimedInterfaces.insert number alternateSetting }, ?_, ?_⟩
      · rw [exec_bind_of_ok (exec_get state), if_neg (by simp only [hcontains, Bool.not_true, Bool.false_eq_true, not_false_eq_true])]
        rfl
      · simp only [answer, MockUsbDeviceState.answer, if_pos h]
        rfl
    · left
      have hcontains : state.interfaceNumbers.contains number = false :=
        Bool.eq_false_iff.mpr fun hcontains => h (Std.ExtTreeSet.contains_iff_mem.mp hcontains)
      refine ⟨.invalidRequest device "usb.claim_interface" s!"USB interface {number} is not present on device", ?_⟩
      rw [exec_bind_of_ok (exec_get state), if_pos (by simp only [hcontains, Bool.not_false])]
      rfl
  releaseInterface number :=
    settles_method usbDevices_lawful (fun _ => ownerId) (MockUsbSession.releaseInterface ownerId number) rfl
      fun _ _ _ _ => .inr ⟨⟨⟩, _, rfl, rfl⟩

end Sessions

end Lemnos.Mock
