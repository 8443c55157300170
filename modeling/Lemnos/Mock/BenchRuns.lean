import Lemnos.Mock.Bench

/-! What holds of the devices of a bench after any run. -/

namespace Lemnos.Mock

open Lemnos.Core Bus DriverSdk Drivers Library.Frames Library.Machines Library.OrderedMap

variable (arithmetic : DutyCycleArithmetic) {actions : List BenchAction}

def Bench.run : List BenchAction → Bench → List Served × Bench := happen (Bench.act arithmetic)

def servedAt (interface : InterfaceKind) (key : DeviceId) (served : List Served) :
    List (StandardRequest × StandardResponse) := served.filterMap (Served.at interface key)

theorem replays_run {interface : InterfaceKind} (hwhole : ∀ action ∈ actions, action.Whole interface) (bench : Bench)
    (key : DeviceId) :
    ReplaysAt (answer interface) (servedAt interface key (Bench.run arithmetic actions bench).1)
      ((deviceTable interface).at key bench.hardware)
      ((deviceTable interface).at key (Bench.run arithmetic actions bench).2.hardware) :=
  happen_replays (fun _ bench hwhole => replays_act arithmetic hwhole bench) hwhole bench

def loopbackPort : MockUartPortState where
  descriptor := loopbackDevice
  configuration := { baudRate := 115200, dataBits := .eight, parity := .none, stopBits := .one, flowControl := .none }
  rxBuffer := [7, 8]
  txBuffer := []

def loopbackBench : Bench where
  hardware := { uartPorts := (∅ : BTreeMap DeviceId MockUartPortState).insert loopbackDevice.id loopbackPort }
  bound := [⟨.uart, uartDriver.id, ⟨loopbackDevice, loopbackDevice.id, { access := .shared }⟩, Stats.initial .uart⟩]

def loopbackActions : List BenchAction :=
  [.bind .uart loopbackDevice, .perform 1 (.execute (.standard (.uart (.read 1)))),
    .fault (.queueError loopbackDevice.id "uart.read" (.timeout loopbackDevice.id "uart.read")),
    .perform 0 (.execute (.standard (.uart (.read 1)))), .perform 0 (.execute (.standard (.uart (.write [9]))))]

theorem loopback_port : loopbackBench.hardware.uartPorts[loopbackDevice.id]? = some loopbackPort :=
  BTreeMap.getElem?_insert_same _ _ _

section Uart

theorem uart_of_answer {request : StandardRequest} {port port' : MockUartPortState} {response : StandardResponse}
    (h : answer .uart request port = some (response, port')) :
    ∃ asked given, .uart asked = request ∧ .uart given = response ∧ port.answer asked = some (given, port') := by
  cases request with
  | uart asked =>
    obtain ⟨given, hresponse, hgiven⟩ := given_of_map h
    exact ⟨asked, given, rfl, hresponse, hgiven⟩
  | _ => cases h

def bytesRead : StandardRequest → StandardResponse → List UInt8
  | .uart (.read _), .uart (.bytes bytes) => bytes
  | _, _ => []

def bytesWritten : StandardRequest → StandardResponse → List UInt8
  | .uart (.write bytes), .uart .applied => bytes
  | _, _ => []

theorem answer_uart {request : UartRequest} {port port' : MockUartPortState} {response : UartResponse}
    (h : port.answer request = some (response, port')) :
    port.rxBuffer = bytesRead (.uart request) (.uart response) ++ port'.rxBuffer ∧
      port'.txBuffer = port.txBuffer ++ bytesWritten (.uart request) (.uart response) := by
  cases request with
  | read maxBytes =>
    cases h
    exact ⟨(List.take_append_drop _ _).symm, (List.append_nil _).symm⟩
  | write bytes =>
    cases h
    exact ⟨rfl, rfl⟩
  | configure configuration =>
    obtain ⟨-, heq⟩ := Option.ite_none_right_eq_some.mp h
    cases heq
    exact ⟨rfl, (List.append_nil _).symm⟩
  | flush =>
    cases h
    exact ⟨rfl, (List.append_nil _).symm⟩
  | getConfiguration =>
    cases h
    exact ⟨rfl, (List.append_nil _).symm⟩

theorem replays_uart {log : List (StandardRequest × StandardResponse)} {port port' : MockUartPortState}
    (h : Replays (answer .uart) log port port') :
    port.rxBuffer = (log.flatMap fun one => bytesRead one.1 one.2) ++ port'.rxBuffer ∧
      port'.txBuffer = port.txBuffer ++ log.flatMap fun one => bytesWritten one.1 one.2 := by
  have hstep : ∀ request port response port', answer .uart request port = some (response, port') →
      port.rxBuffer = bytesRead request response ++ port'.rxBuffer ∧
        port'.txBuffer = port.txBuffer ++ bytesWritten request response := by
    intro request port response port' hanswer
    obtain ⟨asked, given, rfl, rfl, hport⟩ := uart_of_answer hanswer
    exact answer_uart hport
  have hdrains := @Replays.drains _ _ _ (answer .uart) log _ MockUartPortState.rxBuffer bytesRead
    (fun _ _ _ _ hanswer => (hstep _ _ _ _ hanswer).1) port port' h
  have hfills := @Replays.fills _ _ _ (answer .uart) log _ MockUartPortState.txBuffer bytesWritten
    (fun _ _ _ _ hanswer => (hstep _ _ _ _ hanswer).2) port port' h
  exact ⟨hdrains, hfills⟩

end Uart

section Validity

/-- What the checks of the sessions keep up: the configuration is one that they accept, and only interfaces are
claimed that the device has. An I2C device has nothing that could be configured. -/
def Device.Valid : (interface : InterfaceKind) → Device interface → Prop
  | .gpio, line => GpioLineConfiguration.Sound line.configuration
  | .pwm, channel => PwmConfiguration.Sound channel.configuration
  | .i2c, _ => True
  | .spi, device => SpiConfiguration.Sound device.configuration
  | .uart, port => UartConfiguration.Sound port.configuration
  | .usb, device => ∀ number ∈ device.claimedInterfaces, number ∈ device.interfaceNumbers

theorem gpio_valid {request : GpioRequest} {line line' : MockGpioLineState} {response : GpioResponse}
    (hvalid : GpioLineConfiguration.Sound line.configuration) (h : line.answer request = some (response, line')) :
    GpioLineConfiguration.Sound line'.configuration := by
  cases request with
  | read =>
    cases h
    exact hvalid
  | write level =>
    obtain ⟨-, heq⟩ := Option.ite_none_right_eq_some.mp h
    cases heq
    exact hvalid
  | configure configuration =>
    obtain ⟨hsound, heq⟩ := Option.ite_none_right_eq_some.mp h
    cases heq
    exact hsound
  | getConfiguration =>
    cases h
    exact hvalid

theorem pwm_valid {request : PwmRequest} {channel channel' : MockPwmChannelState} {response : PwmResponse}
    (hvalid : PwmConfiguration.Sound channel.configuration)
    (h : channel.answer request = some (response, channel')) : PwmConfiguration.Sound channel'.configuration := by
  cases request with
  | enable enabled =>
    cases h
    exact hvalid
  | configure configuration =>
    obtain ⟨hsound, heq⟩ := Option.ite_none_right_eq_some.mp h
    cases heq
    exact hsound
  | setPeriod periodNs =>
    obtain ⟨hperiod, heq⟩ := Option.ite_none_left_eq_some.mp h
    cases heq
    obtain ⟨hzero, hduty⟩ := not_or.mp hperiod
    exact ⟨hzero, UInt64.not_lt.mp hduty⟩
  | setDutyCycle dutyCycleNs =>
    obtain ⟨hduty, heq⟩ := Option.ite_none_left_eq_some.mp h
    cases heq
    exact ⟨hvalid.1, UInt64.not_lt.mp hduty⟩
  | getConfiguration =>
    cases h
    exact hvalid

theorem spi_valid {request : SpiRequest} {device device' : MockSpiDeviceState} {response : SpiResponse}
    (hvalid : SpiConfiguration.Sound device.configuration)
    (h : device.answer request = some (response, device')) : SpiConfiguration.Sound device'.configuration := by
  cases request with
  | transfer write =>
    cases h
    exact hvalid
  | write bytes =>
    cases h
    exact hvalid
  | configure configuration =>
    obtain ⟨hsound, heq⟩ := Option.ite_none_right_eq_some.mp h
    cases heq
    exact hsound
  | getConfiguration =>
    cases h
    exact hvalid

theorem uart_valid {request : UartRequest} {port port' : MockUartPortState} {response : UartResponse}
    (hvalid : UartConfiguration.Sound port.configuration) (h : port.answer request = some (response, port')) :
    UartConfiguration.Sound port'.configuration := by
  cases request with
  | read maxBytes =>
    cases h
    exact hvalid
  | write bytes =>
    cases h
    exact hvalid
  | configure configuration =>
    obtain ⟨hsound, heq⟩ := Option.ite_none_right_eq_some.mp h
    cases heq
    exact hsound
  | flush =>
    cases h
    exact hvalid
  | getConfiguration =>
    cases h
    exact hvalid

theorem usb_valid {request : UsbRequest} {device device' : MockUsbDeviceState} {response : UsbResponse}
    (hvalid : ∀ number ∈ device.claimedInterfaces, number ∈ device.interfaceNumbers)
    (h : device.answer request = some (response, device')) :
    ∀ number ∈ device'.claimedInterfaces, number ∈ device'.interfaceNumbers := by
  cases request with
  | control transfer =>
    cases h
    split <;> exact hvalid
  | bulkRead endpoint length timeoutMs =>
    cases h
    exact hvalid
  | bulkWrite endpoint bytes timeoutMs =>
    cases h
    exact hvalid
  | interruptRead endpoint length timeoutMs =>
    cases h
    exact hvalid
  | interruptWrite transfer =>
    cases h
    exact hvalid
  | claimInterface number alternateSetting =>
    obtain ⟨hnumber, heq⟩ := Option.ite_none_right_eq_some.mp h
    cases heq
    intro claimed hclaimed
    rcases Std.ExtTreeMap.mem_insert.mp hclaimed with hsame | hbefore
    · rwa [← Std.LawfulEqCmp.eq_of_compare hsame]
    · exact hvalid claimed hbefore
  | releaseInterface number =>
    cases h
    intro claimed hclaimed
    exact hvalid claimed (Std.ExtTreeMap.mem_of_mem_erase hclaimed)

theorem valid_answer {interface : InterfaceKind} {request : StandardRequest} {device device' : Device interface}
    {response : StandardResponse} (hvalid : Device.Valid interface device)
    (h : answer interface request device = some (response, device')) : Device.Valid interface device' := by
  refine @answer_ind (fun interface device device' => Device.Valid interface device → Device.Valid interface device')
    ?_ ?_ ?_ ?_ ?_ ?_ interface request device device' response h hvalid
  · exact fun hgiven hbefore => gpio_valid hbefore hgiven
  · exact fun hgiven hbefore => pwm_valid hbefore hgiven
  · exact fun _ _ => trivial
  · exact fun hgiven hbefore => spi_valid hbefore hgiven
  · exact fun hgiven hbefore => uart_valid hbefore hgiven
  · exact fun hgiven hbefore => usb_valid hbefore hgiven

end Validity

end Lemnos.Mock
