import Lemnos.Mock.BenchRuns
import Lemnos.Mock.Stocked

/-! Devices are put in and taken out while bound devices are called. -/

namespace Lemnos.Mock

open Lemnos.Core Bus DriverSdk Drivers Library Library.Frames Library.OrderedMap Library.Runs MockHardware

section Answers

theorem gpio_descriptor {request : GpioRequest} {line line' : MockGpioLineState} {response : GpioResponse}
    (h : line.answer request = some (response, line')) : line'.descriptor = line.descriptor := by
  cases request <;> grind [MockGpioLineState.answer]

theorem pwm_descriptor {request : PwmRequest} {channel channel' : MockPwmChannelState} {response : PwmResponse}
    (h : channel.answer request = some (response, channel')) : channel'.descriptor = channel.descriptor := by
  cases request <;> grind [MockPwmChannelState.answer]

theorem wrote_descriptor {bytes : List UInt8} {device device' : MockI2cDeviceState}
    (h : device.wroteBytes bytes = some device') : device'.descriptor = device.descriptor := by
  fun_cases MockI2cDeviceState.wroteBytes bytes device <;> grind [MockI2cDeviceState.wroteBytes]

theorem transact_descriptor {operations : List I2cOperation} {device device' : MockI2cDeviceState}
    {results : List (List UInt8)} (h : device.transact operations = some (results, device')) :
    device'.descriptor = device.descriptor := by
  induction operations generalizing device results with
  | nil =>
    cases h
    rfl
  | cons operation operations ih =>
    cases operation with
    | read length =>
      obtain ⟨⟨later, left⟩, hlater, heq⟩ := Option.bind_eq_some_iff.mp h
      cases heq
      have hkept := ih hlater
      exact hkept
    | write bytes =>
      obtain ⟨written, hwritten, hlater⟩ := Option.bind_eq_some_iff.mp h
      obtain ⟨⟨later, left⟩, hlater, heq⟩ := Option.bind_eq_some_iff.mp hlater
      cases heq
      exact (ih hlater).trans (wrote_descriptor hwritten)

theorem i2c_descriptor {request : I2cRequest} {device device' : MockI2cDeviceState} {response : I2cResponse}
    (h : device.answer request = some (response, device')) : device'.descriptor = device.descriptor := by
  cases request with
  | read length =>
    cases h
    rfl
  | write bytes =>
    obtain ⟨written, hwritten, heq⟩ := Option.map_eq_some_iff.mp h
    cases heq
    exact wrote_descriptor hwritten
  | writeRead write readLength =>
    obtain ⟨written, hwritten, heq⟩ := Option.map_eq_some_iff.mp h
    cases heq
    have hkept := wrote_descriptor hwritten
    exact hkept
  | transaction operations =>
    obtain ⟨⟨results, left⟩, hresults, heq⟩ := Option.map_eq_some_iff.mp h
    cases heq
    exact transact_descriptor hresults

theorem spi_descriptor {request : SpiRequest} {device device' : MockSpiDeviceState} {response : SpiResponse}
    (h : device.answer request = some (response, device')) : device'.descriptor = device.descriptor := by
  cases request <;> grind [MockSpiDeviceState.answer]

theorem uart_descriptor {request : UartRequest} {port port' : MockUartPortState} {response : UartResponse}
    (h : port.answer request = some (response, port')) : port'.descriptor = port.descriptor := by
  cases request <;> grind [MockUartPortState.answer]

theorem usb_descriptors {request : UsbRequest} {device device' : MockUsbDeviceState} {response : UsbResponse}
    (h : device.answer request = some (response, device')) : device'.descriptors = device.descriptors := by
  cases request <;> grind [MockUsbDeviceState.answer, MockUsbDeviceState.descriptors]

theorem descriptors_answer {interface : InterfaceKind} {request : StandardRequest} {device device' : Device interface}
    {response : StandardResponse} (h : answer interface request device = some (response, device')) :
    Device.descriptors interface device' = Device.descriptors interface device := by
  refine @answer_ind (fun interface device device' =>
    Device.descriptors interface device' = Device.descriptors interface device) ?_ ?_ ?_ ?_ ?_ ?_ interface request
    device device' response h
  · exact fun hgiven => congrArg (fun descriptor => [descriptor]) (gpio_descriptor hgiven)
  · exact fun hgiven => congrArg (fun descriptor => [descriptor]) (pwm_descriptor hgiven)
  · exact fun hgiven => congrArg (fun descriptor => [descriptor]) (i2c_descriptor hgiven)
  · exact fun hgiven => congrArg (fun descriptor => [descriptor]) (spi_descriptor hgiven)
  · exact fun hgiven => congrArg (fun descriptor => [descriptor]) (uart_descriptor hgiven)
  · exact fun hgiven => usb_descriptors hgiven

end Answers

section Calls

variable {interface : InterfaceKind} {key : DeviceId}

def MockOpened.shown (interface : InterfaceKind) (key : DeviceId) (opened : MockOpened) :
    Option (List DeviceDescriptor) :=
  Mock.shown interface key opened.hardware

theorem shown_of_responds {own : DeviceId → Prop} {request : StandardRequest} {response : StandardResponse}
    {before after : DeviceId × Option (Device interface)}
    (h : Responds own (answer interface) request before response after) :
    after.2.map (Device.descriptors interface) = before.2.map (Device.descriptors interface) := by
  obtain ⟨-, hmoves⟩ := h
  by_cases hown : own before.1
  · cases hstate : before.2 with
    | none => rw [hmoves.gone hown hstate]
    | some device =>
      obtain ⟨device', hanswer, hafter⟩ := hmoves.answers hown device hstate
      rw [hafter, Option.map_some, Option.map_some, descriptors_answer hanswer]
  · rw [hmoves.other hown]

theorem shown_of_same {before after : DeviceId × Option (Device interface)} (h : after = before) :
    after.2.map (Device.descriptors interface) = before.2.map (Device.descriptors interface) := by
  rw [h]

theorem settles_shown {α : Type} {call : SessionCall α} {own : DeviceId → Prop} {request : StandardRequest}
    {response : α → StandardResponse}
    (h : Settles (MockOpened.at (deviceTable interface) key) call
      fun v a v' => Responds own (answer interface) request v (response a) v') :
    Settles (MockOpened.shown interface key) call fun v _ v' => v' = v where
  ok opened a opened' hexec := shown_of_responds (h.ok opened a opened' hexec)
  error opened error opened' hexec := shown_of_same (h.error opened error opened' hexec)

theorem keeps_transactionState (deviceId : DeviceId) (operations : List I2cOperation) :
    Keeps MockI2cDeviceState.descriptor (transactionState deviceId operations) := by
  induction operations with
  | nil => exact .pure []
  | cons operation operations ih =>
    cases operation with
    | read length =>
      have hread : Keeps MockI2cDeviceState.descriptor (readFromState length) := fun _ => rfl
      exact .bind hread fun bytes => .bind ih fun results => .pure _
    | write bytes =>
      have hwrite : Keeps MockI2cDeviceState.descriptor (writeToState deviceId bytes) := by
        intro device
        rw [writeToState.eq_def]
        split <;> rfl
      exact .bind hwrite fun done => .bind ih fun results => .pure _

theorem keepsShown_withStateMut {α : Type} {owner : DeviceId} {missing : BusError}
    {update : Effect (Device interface) BusError α} (h : Keeps (Device.descriptors interface) update) :
    Keeps (Mock.shown interface key) ((deviceTable interface).withStateMut owner missing update) := by
  intro hardware
  rw [Table.withStateMut]
  cases hstate : ((deviceTable interface).entries hardware)[owner]? with
  | none =>
    have hread : ((deviceTable interface).stateOf owner missing).exec hardware = (.error missing, hardware) := by
      rw [exec_stateOf, hstate]
    rw [exec_bind_of_error hread]
  | some state =>
    have hread : ((deviceTable interface).stateOf owner missing).exec hardware = (.ok state, hardware) := by
      rw [exec_stateOf, hstate]
    rw [exec_bind_of_ok hread, exec_within, shown_store_own, BTreeMap.getElem?_insert_eq]
    by_cases hkey : key = owner
    · rw [if_pos hkey, Option.map_some, h state, Mock.shown, Table.at, hkey, hstate, Option.map_some]
    · rw [if_neg hkey]
      rfl

theorem keepsShown_run {α : Type} {check : DeviceId → SessionAccess → BusResult Unit} {operation : String}
    {body : DeviceId → HardwareCall α} (h : ∀ device, Keeps (Mock.shown interface key) (body device)) :
    Keeps (MockOpened.shown interface key) (MockMethod.run check operation body).call := by
  have hfault : ∀ device, Keeps (Mock.shown interface key) (takeInjectedError device operation) :=
    fun device hardware => congrArg (Option.map (Device.descriptors interface))
      (keeps_takeInjectedError (deviceTable_lawful interface) device operation hardware)
  intro opened
  cases hcheck : check opened.device opened.metadata.access with
  | error error => rw [exec_run_of_error hcheck]
  | ok accepted =>
    rw [exec_run hcheck]
    exact Keeps.bind (hfault opened.device) (fun _ => h opened.device) opened.hardware

theorem kept_i2c (session : MockSession) (key : DeviceId) :
    I2cSettled (MockOpened.shown .i2c key) (fun _ v _ v' => v' = v) (fun _ => True) (mockI2cSession session.device) where
  read length := settles_shown ((settled_i2c session.device key).read length)
  write bytes := settles_shown ((settled_i2c session.device key).write bytes)
  writeRead write readLength := settles_shown ((settled_i2c session.device key).writeRead write readLength)
  transaction operations _ := by
    have hupdate : ∀ device, Keeps (Device.descriptors .i2c) (transactionState device operations) := by
      intro device state
      exact congrArg (fun descriptor => [descriptor]) (keeps_transactionState device operations state)
    have hkeeps : Keeps (MockOpened.shown .i2c key) (MockI2cSession.transaction operations).call :=
      keepsShown_run fun device => keepsShown_withStateMut (hupdate device)
    exact .of_keeps hkeeps fun _ _ => rfl
  results := (settled_i2c session.device key).results

theorem shown_perform (arithmetic : DutyCycleArithmetic) (bound : BoundMock) (call : BoundCall)
    (hardware : MockHardwareState) (interface : InterfaceKind) (key : DeviceId) :
    Mock.shown interface key ((bound.perform arithmetic call).exec (bound.onto hardware)).2.session.hardware =
      Mock.shown interface key hardware := by
  obtain ⟨own, driverId, session, stats⟩ := bound
  by_cases hother : own = interface
  · subst hother
    by_cases hi2c : own = .i2c
    · subst hi2c
      have hkeeps := @keepsWorld_perform _ _ _ _ .i2c _ arithmetic (kept_i2c session key)
        (keeps_close (fun _ => rfl) session .i2c) call fun _ _ => trivial
      exact hkeeps (BoundMock.onto hardware ⟨.i2c, driverId, session, stats⟩)
    · have hsettles := settles_perform arithmetic (settled_own session own key) (keeps_close (fun _ => rfl) session own)
        (fun _ _ his => absurd his hi2c : call.Whole (Whole own))
      let opened := BoundMock.onto hardware ⟨own, driverId, session, stats⟩
      let done := (BoundMock.perform arithmetic call ⟨own, driverId, session, stats⟩).exec opened
      cases hdone : done.1 with
      | error error =>
        have hsame := hsettles.error opened error done.2 (Prod.ext hdone rfl)
        exact shown_of_same hsame
      | ok given =>
        have hperformed := hsettles.ok opened given done.2 (Prod.ext hdone rfl)
        rw [Performed] at hperformed
        cases hserved : Drivers.served call given with
        | none =>
          rw [hserved] at hperformed
          exact shown_of_same hperformed
        | some one =>
          rw [hserved] at hperformed
          exact shown_of_responds hperformed
  · have hapart : (deviceTable interface).Apart (deviceTable own) := deviceTable_apart hother
    have hkeeps := keeps_perform_other arithmetic (deviceTable_lawful interface) ⟨own, driverId, session, stats⟩ hapart
      call key hardware
    exact congrArg (Option.map (Device.descriptors interface)) hkeeps

theorem descriptorOwners_lawful : descriptorOwners.Lawful := ⟨fun _ _ => rfl, fun _ _ => rfl⟩

theorem descriptorOwners_apart (interface : InterfaceKind) : descriptorOwners.Apart (deviceTable interface) := by
  intro entries hardware
  cases interface <;> rfl

theorem shown_act (arithmetic : DutyCycleArithmetic) (action : BenchAction) (bench : Bench) (interface : InterfaceKind)
    (key : DeviceId) : Mock.shown interface key (Bench.act arithmetic action bench).2.hardware =
      Mock.shown interface key bench.hardware := by
  cases action with
  | bind opening device =>
    exact congrArg (Option.map (Device.descriptors interface))
      (keeps_bind (deviceTable_lawful interface) opening device bench)
  | perform index call =>
    rw [Bench.act, Bench.perform]
    cases bench.bound[index]? with
    | none => rfl
    | some bound => exact shown_perform arithmetic bound call bench.hardware interface key
  | fault call => exact shown_faults key _

theorem shown_run (arithmetic : DutyCycleArithmetic) (actions : List BenchAction) (bench : Bench)
    (interface : InterfaceKind) (key : DeviceId) :
    Mock.shown interface key (Bench.run arithmetic actions bench).2.hardware =
      Mock.shown interface key bench.hardware := by
  induction actions generalizing bench with
  | nil => rfl
  | cons action actions ih => exact (ih (Bench.act arithmetic action bench).2).trans (shown_act arithmetic action bench _ _)

theorem device_stays_valid (arithmetic : DutyCycleArithmetic) (actions : List BenchAction) (bench : Bench)
    (interface : InterfaceKind) (key : DeviceId) {device : Device interface}
    (h : (deviceTable interface).at key bench.hardware = some device) (hvalid : Device.Valid interface device) :
    ∃ device', (deviceTable interface).at key (Bench.run arithmetic actions bench).2.hardware = some device' ∧
      Device.Valid interface device' := by
  by_cases hi2c : interface = .i2c
  · subst hi2c
    have hshown := shown_run arithmetic actions bench .i2c key
    rw [Mock.shown, Mock.shown, h, Option.map_some] at hshown
    obtain ⟨device', hdevice', -⟩ := Option.map_eq_some_iff.mp hshown
    exact ⟨device', hdevice', trivial⟩
  · have hwhole : ∀ action ∈ actions, action.Whole interface := fun action _ => action.whole_of_ne hi2c
    obtain ⟨device', hdevice', hreplays⟩ := (replays_run arithmetic hwhole bench key).present device h
    exact ⟨device', hdevice', hreplays.invariant (fun _ _ _ _ hbefore hanswer => valid_answer hbefore hanswer) hvalid⟩

theorem loopback_stays_valid : ∃ port' : MockUartPortState,
    uartPorts.at loopbackDevice.id (Bench.run zeroRatios loopbackActions loopbackBench).2.hardware = some port' ∧
      UartConfiguration.Sound port'.configuration :=
  device_stays_valid zeroRatios loopbackActions loopbackBench .uart loopbackDevice.id loopback_port
    (by decide : UartConfiguration.Sound loopbackPort.configuration)

theorem owners_act (arithmetic : DutyCycleArithmetic) (action : BenchAction) (bench : Bench) (id : DeviceId) :
    (Bench.act arithmetic action bench).2.hardware.usbDescriptorOwners[id]? =
      bench.hardware.usbDescriptorOwners[id]? := by
  cases action with
  | bind opening device => exact keeps_bind descriptorOwners_lawful opening device bench
  | perform index call =>
    rw [Bench.act, Bench.perform]
    cases bench.bound[index]? with
    | none => rfl
    | some bound =>
      exact keeps_perform_other arithmetic descriptorOwners_lawful bound (descriptorOwners_apart _) call id
        bench.hardware
  | fault call => rfl

theorem Inventoried.act {bench : Bench} (h : Inventoried bench.hardware) (arithmetic : DutyCycleArithmetic)
    (action : BenchAction) : Inventoried (Bench.act arithmetic action bench).2.hardware := by
  refine h.shrink ?_ ?_
  · intro interface key descriptors hlisted
    rwa [shown_act] at hlisted
  · exact fun _ _ _ descriptor _ => owners_act arithmetic action bench descriptor.id

end Calls

inductive TestStep where
  | inventory (call : InventoryCall)
  | act (action : BenchAction)

namespace TestStep

variable (arithmetic : DutyCycleArithmetic)

def exec : TestStep → Bench → Option Bench
  | inventory call, bench => (call.exec bench.hardware).map fun hardware => { bench with hardware }
  | act action, bench => some (Bench.act arithmetic action bench).2

def Built : TestStep → Prop
  | inventory call => call.Built
  | act _ => True

theorem exec_total (step : TestStep) (bench : Bench) : ∃ bench', step.exec arithmetic bench = some bench' := by
  cases step with
  | inventory call =>
    obtain ⟨hardware, hexec⟩ := call.exec_total bench.hardware
    exact ⟨{ bench with hardware }, by rw [exec, hexec]; rfl⟩
  | act action => exact ⟨_, rfl⟩

theorem exec_inventoried {step : TestStep} {bench bench' : Bench} (h : Inventoried bench.hardware) (hbuilt : step.Built)
    (hexec : step.exec arithmetic bench = some bench') : Inventoried bench'.hardware := by
  cases step with
  | inventory call =>
    obtain ⟨hardware, hcall, rfl⟩ := Option.map_eq_some_iff.mp hexec
    exact h.exec hbuilt hcall
  | act action =>
    cases hexec
    exact h.act arithmetic action

end TestStep

structure Test where
  builder : MockHardwareBuilder
  steps : List TestStep

namespace Test

variable (arithmetic : DutyCycleArithmetic)

def run (test : Test) : Option Bench := do
  let hardware ← test.builder.build
  Runs.run (TestStep.exec arithmetic) test.steps { hardware, bound := [] }

structure Built (test : Test) : Prop where
  builder : test.builder.Built
  steps : ∀ step ∈ test.steps, step.Built

theorem run_inventoried {test : Test} (h : test.Built) :
    ∃ bench, test.run arithmetic = some bench ∧ Inventoried bench.hardware := by
  obtain ⟨hardware, hbuild, hinventoried⟩ := h.builder.inventoried
  obtain ⟨bench, hrun⟩ := run_total (TestStep.exec_total arithmetic) test.steps { hardware, bound := [] }
  refine ⟨bench, ?_, ?_⟩
  · rw [run, hbuild]
    exact hrun
  · exact run_invariant_along (fun step bench bench' hinv hstep hexec =>
      TestStep.exec_inventoried arithmetic hinv hstep hexec) hinventoried (along_of_mem h.steps _) hrun

end Test

def lineAndPort : Test where
  builder := { gpioLines := (MockGpioLine.new "gpiochip0" 17).toList }
  steps := (MockUartPort.new "ttyS0").toList.map fun port => .inventory (.attachUartPort port)

theorem lineAndPort_built : lineAndPort.Built := by
  refine ⟨⟨?_, ?_, ?_, ?_, ?_, ?_⟩, ?_⟩
  · intro line hline
    have hnew : line ∈ (MockGpioLine.new "gpiochip0" 17).toList := hline
    exact .new (Option.mem_toList.mp hnew)
  · exact fun channel hchannel => absurd hchannel List.not_mem_nil
  · exact fun device hdevice => absurd hdevice List.not_mem_nil
  · exact fun device hdevice => absurd hdevice List.not_mem_nil
  · exact fun port hport => absurd hport List.not_mem_nil
  · exact fun device hdevice => absurd hdevice List.not_mem_nil
  · intro step hstep
    obtain ⟨port, hport, rfl⟩ := List.mem_map.mp hstep
    exact .new (Option.mem_toList.mp hport)

end Lemnos.Mock
