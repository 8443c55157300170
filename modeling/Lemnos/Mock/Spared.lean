import Lemnos.Mock.DriverSessions

/-! The sessions of one bus leave the devices of the others alone. -/

namespace Lemnos.Mock

open Lemnos.Core Bus DriverSdk Drivers Library.Frames Library.OrderedMap

/-- Whatever is answered, nothing changes. -/
abbrev Unmoved {γ : Type} (_ : StandardRequest) (before : γ) (_ : StandardResponse) (after : γ) : Prop := after = before

section Methods

variable {σ τ α : Type} {table : Table σ} {other : Table τ} {key : DeviceId}

theorem spared_method (hlawful : table.Lawful) (hapart : table.Apart other) (owner : DeviceId → DeviceId)
    (method : MockMethod α) {check : DeviceId → SessionAccess → BusResult Unit} {operation : String}
    {update : DeviceId → Effect τ BusError α}
    (hmethod : method = .run check operation fun device =>
      other.withStateMut (owner device) (.disconnected device) (update device)) :
    Settles (MockOpened.at table key) method.call fun v _ v' => v' = v := by
  rw [hmethod]
  exact .of_keeps (keeps_run hlawful fun device => keeps_withStateMut hapart _ _ _) fun _ _ => rfl

theorem spared_observed (hlawful : table.Lawful) (operation : String) (read : τ → α) :
    Settles (MockOpened.at table key) (MockMethod.observe operation other read).call
      fun v _ v' => v' = v ∧ v' = v :=
  .of_keeps (keeps_observe hlawful other operation read) fun _ _ => ⟨rfl, rfl⟩

end Methods

section Sessions

variable {σ : Type} {table : Table σ} {key : DeviceId} (hlawful : table.Lawful) (device : DeviceDescriptor)
include hlawful

theorem spared_gpio (h : table.Apart gpioLines) :
    GpioSettled (MockOpened.at table key) Unmoved (mockGpioSession device) where
  readLevel := by
    have hkeeps : Keeps (MockOpened.at table key) MockGpioSession.readLevel.call :=
      keeps_run hlawful fun device => .bind (keeps_stateOf gpioLines _ _) fun line => .pure _
    exact .of_keeps hkeeps fun v level => ⟨rfl, rfl⟩
  writeLevel level := spared_method hlawful h id (MockGpioSession.writeLevel level) rfl
  configureLine configuration := spared_method hlawful h id (MockGpioSession.configureLine configuration) rfl
  configuration := spared_observed hlawful "gpio.get_configuration" MockGpioLineState.configuration

theorem spared_pwm (h : table.Apart pwmChannels) :
    PwmSettled (MockOpened.at table key) Unmoved (mockPwmSession device) where
  setEnabled enabled := spared_method hlawful h id (MockPwmSession.setEnabled enabled) rfl
  setPeriodNs periodNs := spared_method hlawful h id (MockPwmSession.setPeriodNs periodNs) rfl
  setDutyCycleNs dutyCycleNs := spared_method hlawful h id (MockPwmSession.setDutyCycleNs dutyCycleNs) rfl
  configure configuration := spared_method hlawful h id (MockPwmSession.configure configuration) rfl
  configuration := spared_observed hlawful "pwm.get_configuration" MockPwmChannelState.configuration

theorem spared_i2c {whole : List I2cOperation → Prop} (h : table.Apart i2cDevices) :
    I2cSettled (MockOpened.at table key) Unmoved whole (mockI2cSession device) where
  read length := spared_method hlawful h id (MockI2cSession.read length) rfl
  write bytes := spared_method hlawful h id (MockI2cSession.write bytes) rfl
  writeRead write readLength := spared_method hlawful h id (MockI2cSession.writeRead write readLength) rfl
  transaction operations _ := spared_method hlawful h id (MockI2cSession.transaction operations) rfl
  results operations := (settled_i2c device key).results operations

theorem spared_spi (h : table.Apart spiDevices) :
    SpiSettled (MockOpened.at table key) Unmoved (mockSpiSession device) where
  transfer write := spared_method hlawful h id (MockSpiSession.transfer write) rfl
  write bytes := spared_method hlawful h id (MockSpiSession.write bytes) rfl
  configure configuration := spared_method hlawful h id (MockSpiSession.configure configuration) rfl
  configuration := spared_observed hlawful "spi.get_configuration" MockSpiDeviceState.configuration

theorem spared_uart (h : table.Apart uartPorts) :
    UartSettled (MockOpened.at table key) Unmoved (mockUartSession device) where
  read maxBytes := spared_method hlawful h id (MockUartSession.read maxBytes) rfl
  write bytes := spared_method hlawful h id (MockUartSession.write bytes) rfl
  flush := by
    have hkeeps : Keeps (MockOpened.at table key) MockUartSession.flush.call :=
      keeps_run hlawful fun device => .pure _
    exact .of_keeps hkeeps fun v done => rfl
  configure configuration := spared_method hlawful h id (MockUartSession.configure configuration) rfl
  configuration := spared_observed hlawful "uart.get_configuration" MockUartPortState.configuration

theorem spared_usb (ownerId : DeviceId) (h : table.Apart usbDevices) :
    UsbSettled (MockOpened.at table key) Unmoved (mockUsbSession device ownerId) where
  controlTransfer transfer :=
    spared_method hlawful h (fun _ => ownerId) (MockUsbSession.controlTransfer ownerId transfer) rfl
  bulkRead endpoint length _ :=
    spared_method hlawful h (fun _ => ownerId) (MockUsbSession.bulkRead ownerId endpoint length) rfl
  bulkWrite endpoint bytes _ :=
    spared_method hlawful h (fun _ => ownerId) (MockUsbSession.bulkWrite ownerId endpoint bytes) rfl
  interruptRead endpoint length _ :=
    spared_method hlawful h (fun _ => ownerId) (MockUsbSession.interruptRead ownerId endpoint length) rfl
  interruptWrite transfer :=
    spared_method hlawful h (fun _ => ownerId) (MockUsbSession.interruptWrite ownerId transfer) rfl
  claimInterface number alternateSetting :=
    spared_method hlawful h (fun _ => ownerId) (MockUsbSession.claimInterface ownerId number alternateSetting) rfl
  releaseInterface number :=
    spared_method hlawful h (fun _ => ownerId) (MockUsbSession.releaseInterface ownerId number) rfl

end Sessions

end Lemnos.Mock
