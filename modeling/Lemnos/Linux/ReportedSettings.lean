import Lemnos.Library.Runs
import Lemnos.Linux.SpiKernel
import Lemnos.Linux.UartKernel

namespace Lemnos.Linux

open Lemnos.Core Bus Library.Frames Library.Runs TransportSession

namespace TransportSession

variable {τ C : Type} {R : C → Type} (T : Transport τ C R)

theorem exec_grantedCall (interface operation reason : String) (call : C) (session : TransportSession τ) :
    (grantedCall T interface operation reason call).exec session =
      if session.metadata.access.canWrite then (readingCall T interface operation call).exec session
      else (.error (.permissionDenied session.device.id operation reason), session) := by
  rw [grantedCall, exec_bind, exec_ensureWritable]
  by_cases hwrite : session.metadata.access.canWrite = true
  · rw [if_pos hwrite, if_pos hwrite]
  · rw [if_neg hwrite, if_neg hwrite]

theorem exec_queryCall (interface operation : String) (call : C) (session : TransportSession τ) :
    (queryCall T interface operation call).exec session =
      if session.metadata.state = .closed then
        (.error (.sessionUnavailable session.device.id
          s!"cannot perform '{operation}' on a closed {interface} session"), session)
      else (((T call).exec session.transport).1,
        { session with transport := ((T call).exec session.transport).2 }) := by
  rw [queryCall, exec_bind, exec_ensureOpen, SessionMetadata.ensureOpen]
  by_cases hclosed : session.metadata.state = .closed
  · rw [if_pos hclosed, if_pos hclosed]
  · rw [if_neg hclosed, if_neg hclosed]
    rfl

theorem grantedCall_keeps_iff {P : τ → Prop} {G : Prop} {interface operation reason : String} {call : C}
    {session : TransportSession τ} (hopen : session.IsOpen) (hkept : P session.transport)
    (hcall : P ((T call).exec session.transport).2 ↔ G) :
    let session' := ((grantedCall T interface operation reason call).exec session).2
    session'.IsOpen ∧ P session'.transport ↔ (session.metadata.access.canWrite = true → G) := by
  simp only
  rw [exec_grantedCall]
  by_cases hwrite : session.metadata.access.canWrite = true
  · rw [if_pos hwrite, exec_readingCall, if_neg hopen, exec_runCall, imp_iff_right hwrite, ← hcall]
    refine and_iff_right ?_
    intro hclosed
    simp only [SessionMetadata.finishCall] at hclosed
    split at hclosed <;> cases hclosed
  · rw [if_neg hwrite]
    exact iff_of_true ⟨hopen, hkept⟩ fun h => absurd h hwrite

end TransportSession

namespace LinuxUartSession

open LinuxKernelUartTransport

def uartPortName (device : DeviceDescriptor) : Option String :=
  match device.address with
  | some (.uartPort port) => some port
  | _ => none

def supportsDescriptor (device : DeviceDescriptor) : Bool :=
  device.interface = .uart && device.kind = .uartPort && (uartPortName device).isSome

variable (host : SerialHost)

def openSession (paths : LinuxPaths) (transportConfig : UartTransportConfig) (device : DeviceDescriptor)
    (access : SessionAccess) : BusResult (TransportSession LinuxKernelUartTransport) := do
  if !supportsDescriptor device then throw (.unsupportedDevice backendName device.id)
  let some portName := uartPortName device | throw (.unsupportedDevice backendName device.id)
  let devnode := (descriptorDevnode device).getD (paths.ttyDevnode portName)
  let transport ← new host device.id devnode transportConfig
  return { device, metadata := { access, state := .idle }, transport }

def step (configured : UartConfiguration) (session : TransportSession LinuxKernelUartTransport) :
    Option (TransportSession LinuxKernelUartTransport) :=
  some ((configure (transport host) configured).exec session).2

def ReportsPort (session : TransportSession LinuxKernelUartTransport) : Prop :=
  ((configuration (transport host)).exec session).1 = .ok (fromSerial session.transport.port.settings)

def RefusedInTime (configured : UartConfiguration) (session : TransportSession LinuxKernelUartTransport) : Prop :=
  session.metadata.access.canWrite = true →
    LinuxKernelUartTransport.RefusedInTime host configured session.transport

variable {host}

theorem reportsPort_iff {session : TransportSession LinuxKernelUartTransport} :
    ReportsPort host session ↔ session.IsOpen ∧ session.transport.Matches := by
  rw [ReportsPort, configuration, exec_queryCall]
  by_cases hclosed : session.metadata.state = .closed
  · rw [if_pos hclosed]
    exact iff_of_false nofun fun h => h.1 hclosed
  · rw [if_neg hclosed]
    exact ⟨fun h => ⟨hclosed, Except.ok.inj h⟩, fun h => congrArg Except.ok h.2⟩

theorem openSession_reports {paths : LinuxPaths} {transportConfig : UartTransportConfig}
    {device : DeviceDescriptor}
    {access : SessionAccess} {session : TransportSession LinuxKernelUartTransport}
    (h : openSession host paths transportConfig device access = .ok session) :
    ReportsPort host session := by
  rw [openSession] at h
  by_cases hsupports : supportsDescriptor device = true
  · simp only [hsupports] at h
    cases hport : uartPortName device with
    | none =>
      simp only [hport] at h
      cases h
    | some portName =>
      simp only [hport] at h
      cases hnew : new host device.id ((descriptorDevnode device).getD (paths.ttyDevnode portName))
          transportConfig with
      | error error =>
        rw [hnew] at h
        cases h
      | ok transport =>
        rw [hnew] at h
        cases h
        exact reportsPort_iff.mpr ⟨nofun, new_matches hnew⟩
  · simp only [hsupports] at h
    cases h

theorem step_reports_iff {configured : UartConfiguration}
    {session session' : TransportSession LinuxKernelUartTransport} (h : ReportsPort host session)
    (hstep : step host configured session = some session') :
    ReportsPort host session' ↔ RefusedInTime host configured session := by
  obtain ⟨hopen, hmatches⟩ := reportsPort_iff.mp h
  cases hstep
  rw [reportsPort_iff]
  exact grantedCall_keeps_iff (transport host) hopen hmatches (configure_matches_iff configured hmatches)

theorem run_reports_iff {session : TransportSession LinuxKernelUartTransport} (h : ReportsPort host session)
    (configurations : List UartConfiguration) :
    (∀ before after reached, configurations = before ++ after →
      run (step host) before session = some reached → ReportsPort host reached) ↔
      Along (step host) (RefusedInTime host) configurations session := by
  obtain ⟨last, hrun⟩ := @run_total _ _ (step host) (fun _ _ => ⟨_, rfl⟩) configurations session
  exact always_iff_along (fun _ _ _ hs ha => step_reports_iff hs ha) h hrun

end LinuxUartSession

namespace LinuxSpiSession

open LinuxKernelSpiTransport

def spiBusChipSelect (device : DeviceDescriptor) : Option (UInt32 × UInt16) :=
  match device.address with
  | some (.spiDevice bus chipSelect) => some (bus, chipSelect)
  | _ => none

def supportsDescriptor (device : DeviceDescriptor) : Bool :=
  device.interface = .spi && device.kind = .spiDevice && (spiBusChipSelect device).isSome

variable (host : SpiHost)

def openSession (paths : LinuxPaths) (device : DeviceDescriptor) (access : SessionAccess) :
    BusResult (TransportSession LinuxKernelSpiTransport) := do
  if !supportsDescriptor device then throw (.unsupportedDevice backendName device.id)
  let some (bus, chipSelect) := spiBusChipSelect device | throw (.unsupportedDevice backendName device.id)
  let devnode := (descriptorDevnode device).getD (paths.spiDevnode bus chipSelect)
  let transport ← new host device.id devnode
  return { device, metadata := { access, state := .idle }, transport }

def step (configured : SpiConfiguration) (session : TransportSession LinuxKernelSpiTransport) :
    Option (TransportSession LinuxKernelSpiTransport) :=
  some ((configure (transport host) configured).exec session).2

def ReportsDevice (session : TransportSession LinuxKernelSpiTransport) : Prop :=
  ((configuration (transport host)).exec session).1 = .ok (fromSpidev session.transport.spi.settings)

def RefusedInTime (configured : SpiConfiguration) (session : TransportSession LinuxKernelSpiTransport) : Prop :=
  session.metadata.access.canWrite = true →
    LinuxKernelSpiTransport.RefusedInTime host configured session.transport

variable {host}

theorem reportsDevice_iff {session : TransportSession LinuxKernelSpiTransport} :
    ReportsDevice host session ↔ session.IsOpen ∧ session.transport.Matches := by
  rw [ReportsDevice, configuration, exec_queryCall]
  by_cases hclosed : session.metadata.state = .closed
  · rw [if_pos hclosed]
    exact iff_of_false nofun fun h => h.1 hclosed
  · rw [if_neg hclosed]
    exact ⟨fun h => ⟨hclosed, Except.ok.inj h⟩, fun h => congrArg Except.ok h.2⟩

theorem openSession_reports {paths : LinuxPaths} {device : DeviceDescriptor} {access : SessionAccess}
    {session : TransportSession LinuxKernelSpiTransport}
    (h : openSession host paths device access = .ok session) : ReportsDevice host session := by
  rw [openSession] at h
  by_cases hsupports : supportsDescriptor device = true
  · simp only [hsupports] at h
    rcases haddress : spiBusChipSelect device with _ | ⟨bus, chipSelect⟩
    · simp only [haddress] at h
      cases h
    · simp only [haddress] at h
      cases hnew : new host device.id ((descriptorDevnode device).getD (paths.spiDevnode bus chipSelect)) with
      | error error =>
        rw [hnew] at h
        cases h
      | ok transport =>
        rw [hnew] at h
        cases h
        exact reportsDevice_iff.mpr ⟨nofun, new_matches hnew⟩
  · simp only [hsupports] at h
    cases h

theorem step_reports_iff {configured : SpiConfiguration}
    {session session' : TransportSession LinuxKernelSpiTransport} (h : ReportsDevice host session)
    (hstep : step host configured session = some session') :
    ReportsDevice host session' ↔ RefusedInTime host configured session := by
  obtain ⟨hopen, hmatches⟩ := reportsDevice_iff.mp h
  cases hstep
  rw [reportsDevice_iff]
  exact grantedCall_keeps_iff (transport host) hopen hmatches (configure_matches_iff configured hmatches)

theorem run_reports_iff {session : TransportSession LinuxKernelSpiTransport} (h : ReportsDevice host session)
    (configurations : List SpiConfiguration) :
    (∀ before after reached, configurations = before ++ after →
      run (step host) before session = some reached → ReportsDevice host reached) ↔
      Along (step host) (RefusedInTime host) configurations session := by
  obtain ⟨last, hrun⟩ := @run_total _ _ (step host) (fun _ _ => ⟨_, rfl⟩) configurations session
  exact always_iff_along (fun _ _ _ hs ha => step_reports_iff hs ha) h hrun

end LinuxSpiSession

/-- Along every run of configuration calls on a session that was opened, what is reported are the settings of the
port or of the device exactly if, whenever one of the calls to the system is refused, those that were granted
before it have left the settings as they were. -/
theorem configured_runs_report_iff (serial : SerialHost) (spi : SpiHost) (paths : LinuxPaths)
    (transportConfig : UartTransportConfig) (device : DeviceDescriptor) (access : SessionAccess) :
    (∀ session, LinuxUartSession.openSession serial paths transportConfig device access = .ok session →
      ∀ configurations, (∀ before after reached, configurations = before ++ after →
        run (LinuxUartSession.step serial) before session = some reached →
          LinuxUartSession.ReportsPort serial reached) ↔
        Along (LinuxUartSession.step serial) (LinuxUartSession.RefusedInTime serial) configurations session) ∧
    (∀ session, LinuxSpiSession.openSession spi paths device access = .ok session →
      ∀ configurations, (∀ before after reached, configurations = before ++ after →
        run (LinuxSpiSession.step spi) before session = some reached →
          LinuxSpiSession.ReportsDevice spi reached) ↔
        Along (LinuxSpiSession.step spi) (LinuxSpiSession.RefusedInTime spi) configurations session) := by
  constructor
  · intro session h configurations
    exact LinuxUartSession.run_reports_iff (LinuxUartSession.openSession_reports h) configurations
  · intro session h configurations
    exact LinuxSpiSession.run_reports_iff (LinuxSpiSession.openSession_reports h) configurations

def serialSettings : SerialSettings → SerialSetting → SerialSettings
  | settings, .baudRate baudRate => { settings with baudRate }
  | settings, .dataBits dataBits => { settings with dataBits }
  | settings, .parity parity => { settings with parity }
  | settings, .stopBits stopBits => { settings with stopBits }
  | settings, .flowControl flowControl => { settings with flowControl }
  | settings, .timeout _ => settings

def eightBitsOnly : SerialHost where
  openNative _ baudRate _ := .ok ⟨baudRate, .eight, .none, .one, .none⟩
  grants _ call := match call with
    | .set (.dataBits dataBits) => if dataBits = .eight then .ok () else .error "Invalid argument (os error 22)"
    | _ => .ok ()
  applied := serialSettings
  read _ _ := .error ⟨.timedOut, "Operation timed out"⟩

def serialPort : DeviceDescriptor where
  id := ⟨"linux.uart.port.ttyS0", by decide⟩
  interface := .uart
  kind := .uartPort
  address := some (.uartPort "ttyS0")

def spidevSettings : SpidevSettings → SpidevSetting → SpidevSettings
  | settings, .mode flags => { settings with mode := flags.toUInt8 }
  | settings, .bitsPerWord bitsPerWord => { settings with bitsPerWord }
  | settings, .maxSpeedHz maxSpeedHz => { settings with maxSpeedHz }
  | settings, .lsbFirst lsbFirst => { settings with lsbFirst := lsbFirst.toUInt8 }

def highestBitFirst : SpiHost where
  openDevice _ := .ok ⟨0, 0, 500000, 0⟩
  order options := (options.bitsPerWord.map .bitsPerWord).toList ++ (options.maxSpeedHz.map .maxSpeedHz).toList ++
    (options.lsbFirst.map .lsbFirst).toList ++ (options.mode.map .mode).toList
  grants _ call := if call = .set (.lsbFirst true) then .error "Invalid argument (os error 22)" else .ok ()
  applied := spidevSettings
  received _ _ := 0

def spiSlave : DeviceDescriptor where
  id := ⟨"linux.spi.bus0.cs1", by decide⟩
  interface := .spi
  kind := .spiDevice
  address := some (.spiDevice 0 1)

theorem configured_runs_report_iff_granted :
    (∃ session, LinuxUartSession.openSession eightBitsOnly {} ⟨9600, 1000⟩ serialPort .exclusive = .ok session ∧
      ∀ before after reached,
        [⟨9600, .seven, .even, .one, .none⟩, ⟨19200, .eight, .odd, .two, .none⟩] = before ++ after →
        run (LinuxUartSession.step eightBitsOnly) before session = some reached →
          LinuxUartSession.ReportsPort eightBitsOnly reached) ∧
    (∃ session, LinuxSpiSession.openSession highestBitFirst {} spiSlave .exclusive = .ok session ∧
      ∀ before after reached,
        [⟨.mode0, some 500000, none, .lsbFirst⟩, ⟨.mode3, some 1000000, none, .msbFirst⟩] = before ++ after →
        run (LinuxSpiSession.step highestBitFirst) before session = some reached →
          LinuxSpiSession.ReportsDevice highestBitFirst reached) := by
  have huart := (configured_runs_report_iff eightBitsOnly highestBitFirst {} ⟨9600, 1000⟩ serialPort .exclusive).1
  have hspi := (configured_runs_report_iff eightBitsOnly highestBitFirst {} ⟨9600, 1000⟩ spiSlave .exclusive).2
  refine ⟨⟨_, rfl, ?_⟩, ⟨_, rfl, ?_⟩⟩
  · refine (huart _ rfl _).mpr ?_
    refine ⟨fun _ _ _ => rfl, ?_⟩
    rintro session hfirst
    cases hfirst
    exact ⟨fun _ _ hrefused => absurd rfl hrefused, fun _ _ => trivial⟩
  · refine (hspi _ rfl _).mpr ?_
    refine ⟨fun _ _ _ => rfl, ?_⟩
    rintro session hfirst
    cases hfirst
    exact ⟨fun _ _ hrefused => absurd rfl hrefused, fun _ _ => trivial⟩

def fastSevenBits : UartConfiguration := ⟨19200, .seven, .even, .one, .none⟩

theorem refused_setting_leaves_other_reported :
    ∃ session reached,
      LinuxUartSession.openSession eightBitsOnly {} ⟨9600, 1000⟩ serialPort .exclusive = .ok session ∧
      run (LinuxUartSession.step eightBitsOnly) [fastSevenBits] session = some reached ∧
      ((LinuxUartSession.configuration (LinuxKernelUartTransport.transport eightBitsOnly)).exec reached).1 =
        .ok ⟨9600, .eight, .none, .one, .none⟩ ∧
      fromSerial reached.transport.port.settings = ⟨19200, .eight, .none, .one, .none⟩ ∧
      ¬LinuxUartSession.ReportsPort eightBitsOnly reached := by
  refine ⟨_, _, rfl, rfl, rfl, rfl, ?_⟩
  intro h
  cases h

end Lemnos.Linux
