import Lemnos.Linux.GpioLifeCycle
import Lemnos.Linux.PwmUpdates
import Lemnos.Linux.TransportLifeCycle

namespace Lemnos.Linux

open Lemnos.Core Bus Library.Frames Library.Runs

def FileCall.isOperation : FileCall → Bool
  | .exists _ => false
  | .read _ | .write .. => true

def Sysfs.operations (sysfs : Sysfs) : List FileCall := sysfs.calls.filter FileCall.isOperation

def PwmOpened.operations (opened : PwmOpened) : List FileCall := opened.sysfs.operations

def PwmOpened.others (files : String → Option String) (opened : PwmOpened) : PwmOpened :=
  { opened with sysfs := { opened.sysfs with files } }

theorem SysfsHost.Queries.logs {host : SysfsHost} {E α : Type} {effect : Effect Sysfs E α}
    {queries : List FileCall} {value : (String → Option String) → Option α}
    (h : host.Queries effect queries value) :
    Logs Sysfs.operations (fun call => ¬call.IsWrite) effect := by
  intro sysfs
  obtain ⟨result, made, hexec, hreads, -⟩ := h sysfs
  refine ⟨made.filter FileCall.isOperation, ?_, ?_⟩
  · rw [hexec]
    exact List.filter_append _ _
  · intro call hcall
    exact hreads call (List.mem_filter.mp hcall).1

namespace LinuxSysfsPwmSession

abbrev metadataOf (opened : PwmOpened) : SessionMetadata := opened.session.metadata

theorem exec_ensureWritable (operation reason : String) (opened : PwmOpened) :
    (ensureWritable operation reason).exec opened =
      (if opened.session.metadata.access.canWrite then .ok () else
        .error (.permissionDenied opened.session.device.id operation reason), opened) := by
  rw [ensureWritable, exec_bind_of_ok (exec_get opened)]
  by_cases hwrite : opened.session.metadata.access.canWrite = true
  · simp only [hwrite, if_true]
    rfl
  · simp only [hwrite]
    rfl

theorem ensuresOpen (operation : String) : EnsuresOpen metadataOf (ensureOpen operation) :=
  .of_exec fun opened => exec_ensureOpen opened operation

theorem ensuresWritable (operation reason : String) :
  EnsuresWritable metadataOf (ensureWritable operation reason) :=
  .of_exec (exec_ensureWritable operation reason)

theorem keepsAccess_onSysfs {α : Type} (effect : Pwm α) :
    Keeps (fun opened => (metadataOf opened).access) (onSysfs effect) := fun _ => rfl

theorem guarded_writing {α : Type} (operation reason : String) (call : LinuxSysfsPwmSession → Pwm α) :
    Guarded metadataOf PwmOpened.operations FileCall.IsWrite (do
      ensureOpen operation
      ensureWritable operation reason
      runCall call) := by
  apply Guarded.writing (ensuresOpen operation) (ensuresWritable operation reason)
  refine @keepsAccess_runCallOn _ _ metadataOf setMetadata (fun _ _ => rfl) _ ?_
  apply keeps_get.bind
  intro opened
  exact keepsAccess_onSysfs _

variable (host : SysfsHost)

theorem guarded_configuration : Guarded metadataOf PwmOpened.operations FileCall.IsWrite
    (configuration host) := by
  apply Guarded.reading (ensuresOpen _)
  · exact keeps_get.bind fun _ => keepsAccess_onSysfs _
  · apply Logs.get_bind
    intro opened
    exact (opened.session.queries_currentConfiguration host).logs.within (fun _ => rfl) fun _ _ => rfl

def method : PwmRequest → (α : Type) × Call α
  | .enable enabled => ⟨_, setEnabled host enabled⟩
  | .configure target => ⟨_, configure host target⟩
  | .setPeriod periodNs => ⟨_, setPeriodNs host periodNs⟩
  | .setDutyCycle dutyCycleNs => ⟨_, setDutyCycleNs host dutyCycleNs⟩
  | .getConfiguration => ⟨_, configuration host⟩

def ActsOnClose (opened : PwmOpened) : Prop :=
  opened.session.exportedBySession = true ∧
    host.exists_ opened.sysfs.calls (opened.session.paths.pwmUnexportPath opened.session.chipName) = true

def GivesBack (opened : PwmOpened) (call : FileCall) : Prop :=
  opened.session.exportedBySession = true ∧
    call = .write (opened.session.paths.pwmUnexportPath opened.session.chipName) s!"{opened.session.channel}"

theorem exec_unexport (session : LinuxSysfsPwmSession) (sysfs : Sysfs) :
    (session.unexport host).exec sysfs =
      let path := session.paths.pwmUnexportPath session.chipName
      let looked := sysfs.called (.exists path)
      if host.exists_ sysfs.calls path = true then
        match host.write looked.calls path s!"{session.channel}" with
        | .error error => (.error (session.transportFailure "pwm.close"
            s!"failed to unexport channel at '{path}': {error}"),
              looked.called (.write path s!"{session.channel}"))
        | .ok () => (.ok (), looked.apply (.write path s!"{session.channel}"))
      else (.ok (), looked) := by
  rw [unexport, exec_bind_of_ok (host.exec_pathExists _ sysfs)]
  by_cases hthere : host.exists_ sysfs.calls (session.paths.pwmUnexportPath session.chipName) = true
  · simp only [hthere, if_true]
    rw [exec_adapt, host.exec_writeText]
    cases host.write (sysfs.called (.exists (session.paths.pwmUnexportPath session.chipName))).calls
      (session.paths.pwmUnexportPath session.chipName) (toString session.channel) <;> rfl
  · simp only [hthere]
    rfl

def giveBack : Call Unit := do
  let session := (← get).session
  onSysfs (if session.exportedBySession then session.unexport host else pure ())

theorem close_eq : close host = giveBack host >>= fun _ => modify (setMetadata .markClosed) := by
  rw [giveBack, bind_assoc]
  rfl

theorem operations_giveBack_of_acts {opened : PwmOpened} (hacts : ActsOnClose host opened) :
    ((giveBack host).exec opened).2.operations = opened.operations ++
      [.write (opened.session.paths.pwmUnexportPath opened.session.chipName) s!"{opened.session.channel}"] := by
  obtain ⟨hexported, hthere⟩ := hacts
  rw [giveBack, exec_bind_of_ok (exec_get opened), onSysfs, exec_within, if_pos hexported, exec_unexport]
  simp only [if_pos hthere, PwmOpened.operations, Sysfs.operations]
  split <;> simp [FileCall.isOperation]

theorem operations_giveBack_of_not {opened : PwmOpened} (hacts : ¬ActsOnClose host opened) :
    ((giveBack host).exec opened).2.operations = opened.operations := by
  rw [giveBack, exec_bind_of_ok (exec_get opened), onSysfs, exec_within]
  by_cases hexported : opened.session.exportedBySession = true
  · have hthere : ¬host.exists_ opened.sysfs.calls
        (opened.session.paths.pwmUnexportPath opened.session.chipName) = true :=
      fun hthere => hacts ⟨hexported, hthere⟩
    rw [if_pos hexported, exec_unexport]
    simp [hthere, PwmOpened.operations, Sysfs.operations, FileCall.isOperation]
  · rw [if_neg hexported]
    rfl

theorem closing_close :
    Closing metadataOf PwmOpened.operations FileCall.IsWrite (ActsOnClose host) GivesBack (close host) := by
  rw [close_eq]
  apply Closing.of_giveBack
  · exact fun _ _ => rfl
  · exact fun _ _ => rfl
  · exact fun _ => rfl
  · exact fun opened hacts => operations_giveBack_of_not host hacts
  · exact fun opened hacts => ⟨_, operations_giveBack_of_acts host hacts, fun _ => ⟨hacts.1, rfl⟩⟩

def system : SessionSystem where
  State := PwmOpened
  Operation := FileCall
  Request := PwmRequest
  World := String → Option String
  metadata := metadataOf
  log := PwmOpened.operations
  method := method host
  close := close host
  others := PwmOpened.others
  Outbound := FileCall.IsWrite
  ActsOnClose := ActsOnClose host
  GivesBack := GivesBack

theorem disciplined_system : (system host).Disciplined where
  guarded request := by
    cases request with
    | enable enabled => exact guarded_writing _ _ _
    | configure target => exact guarded_writing _ _ _
    | setPeriod periodNs => exact guarded_writing _ _ _
    | setDutyCycle dutyCycleNs => exact guarded_writing _ _ _
    | getConfiguration => exact guarded_configuration host
  closing := closing_close host
  others_metadata _ _ := rfl
  others_log _ _ := rfl

end LinuxSysfsPwmSession

/-- The kinds of sessions with what they work on: a transport, or a system around them, that may do anything. -/
inductive LinuxSessionKind : Type 1 where
  | i2c {τ : Type} (T : I2cTransport τ)
  | i2cController {τ : Type} (T : I2cControllerTransport τ)
  | spi {τ : Type} (T : SpiTransport τ)
  | uart {τ : Type} (T : UartTransport τ)
  | usb {τ : Type} (T : UsbTransport τ)
  | gpioSysfs (host : GpioHost)
  | gpioCdev (host : GpioHost)
  | pwm (host : SysfsHost)

namespace LinuxSessionKind

open SessionSystem

def system : LinuxSessionKind → SessionSystem
  | @i2c τ T =>
    TransportSession.system τ (LinuxI2cSession.method (recorded T)) TransportSession.close
      I2cTransportCall.Outbound False
  | @i2cController τ T =>
    TransportSession.system τ
      (fun call : UInt16 × I2cTransportCall => LinuxI2cControllerSession.method (recorded T) call.1 call.2)
      TransportSession.close (fun call => call.2.Outbound) False
  | @spi τ T =>
    TransportSession.system τ (LinuxSpiSession.method (recorded T)) TransportSession.close
      SpiTransportCall.Outbound False
  | @uart τ T =>
    TransportSession.system τ (LinuxUartSession.method (recorded T)) TransportSession.close
      UartTransportCall.Outbound False
  | @usb τ T =>
    TransportSession.system τ (UsbTransportSession.method (recorded T)) (UsbTransportSession.close (recorded T))
      UsbTransportCall.Outbound True
  | gpioSysfs host => LinuxSysfsGpioSession.system host
  | gpioCdev host => LinuxCdevGpioSession.system host
  | pwm host => LinuxSysfsPwmSession.system host

theorem disciplined (kind : LinuxSessionKind) : kind.system.Disciplined := by
  cases kind with
  | i2c T => exact TransportSession.disciplined_system (LinuxI2cSession.guarded_method T)
  | i2cController T =>
    exact TransportSession.disciplined_system fun call => LinuxI2cControllerSession.guarded_method T call.1 call.2
  | spi T => exact TransportSession.disciplined_system (LinuxSpiSession.guarded_method T)
  | uart T => exact TransportSession.disciplined_system (LinuxUartSession.guarded_method T)
  | usb T => exact UsbTransportSession.disciplined T
  | gpioSysfs host => exact LinuxSysfsGpioSession.disciplined_system host
  | gpioCdev host => exact LinuxCdevGpioSession.disciplined_system host
  | pwm host => exact LinuxSysfsPwmSession.disciplined_system host

theorem life_cycle_iff (kind : LinuxSessionKind) (s : kind.system.State) (ops : List (Op kind.system)) :
    (((kind.system.close.exec s).1 = .ok () →
        ∀ before after reached, ops = before ++ after →
          run Op.step before (kind.system.close.exec s).2 = some reached →
          Op.IsClosed reached ∧ ∀ op rest, after = op :: rest → op.Silent reached) ∧
      ((kind.system.metadata s).access = .sharedReadOnly →
        ∀ before op after reached, ops = before ++ op :: after → run Op.step before s = some reached →
          op.Inbound reached)) ↔
      ((kind.system.close.exec s).1 = .ok () →
        Along Op.step Op.NotRepeated ops (kind.system.close.exec s).2) := by
  have hdisciplined := kind.disciplined
  constructor
  · rintro ⟨hclosed, -⟩ hok
    exact (Op.closed_run_iff hdisciplined s ops hok).mp (hclosed hok)
  · intro halong
    refine ⟨fun hok => (Op.closed_run_iff hdisciplined s ops hok).mpr (halong hok), ?_⟩
    intro hreadOnly before op after reached _ hrun
    exact Op.readOnly_run hdisciplined s hreadOnly hrun op

end LinuxSessionKind

def exportingHost : GpioHost :=
  { answering with
    read := fun _ path => .ok (if path = "/sys/class/gpio/gpiochip0/base" then some "19" else none)
    exists_ := fun calls path =>
      path ≠ "/sys/class/gpio/gpio23" || calls.contains (.write "/sys/class/gpio/export" "23") }

def relayKernel : GpioKernel := { lines := fun _ => ⟨{ direction := .output }, .low⟩ }

def relaySession : LinuxSysfsGpioSession where
  device := relayLine
  metadata := { access := .exclusive, state := .idle }
  paths := {}
  globalLine := 23
  exportedBySession := true

def relayOpened : Opened LinuxSysfsGpioSession where
  kernel := ((LinuxSysfsGpioSession.openSession exportingHost {} ⟨0⟩ relayLine .exclusive).exec relayKernel).2
  session := relaySession

def relayClosed : Opened LinuxSysfsGpioSession :=
  ((LinuxSysfsGpioSession.close exportingHost).exec relayOpened).2

theorem second_close_unexports_again :
    ((LinuxSysfsGpioSession.openSession exportingHost {} ⟨0⟩ relayLine .exclusive).exec relayKernel).1 =
      .ok relayOpened.session ∧
    ((LinuxSysfsGpioSession.close exportingHost).exec relayOpened).1 = .ok () ∧
    relayClosed.session.metadata.state = .closed ∧
    relayClosed.operations = relayOpened.operations ++ [.write "/sys/class/gpio/unexport" "23"] ∧
    ((LinuxSysfsGpioSession.close exportingHost).exec relayClosed).2.operations =
      relayClosed.operations ++ [.write "/sys/class/gpio/unexport" "23"] ∧
    ¬@SessionSystem.Op.Silent (LinuxSessionKind.gpioSysfs exportingHost).system .close relayClosed := by
  have hagain : ((LinuxSysfsGpioSession.close exportingHost).exec relayClosed).2.operations =
      relayClosed.operations ++ [.write "/sys/class/gpio/unexport" "23"] := by decide +kernel
  refine ⟨rfl, by decide +kernel, by decide +kernel, by decide +kernel, hagain, ?_⟩
  intro hsilent
  change ((LinuxSysfsGpioSession.close exportingHost).exec relayClosed).2.operations =
    relayClosed.operations at hsilent
  have hgrown := congrArg List.length (hagain.symm.trans hsilent)
  rw [List.length_append, List.length_singleton] at hgrown
  omega

end Lemnos.Linux
