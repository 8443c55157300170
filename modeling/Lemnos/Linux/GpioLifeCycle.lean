import Lemnos.Bus.LifeCycle
import Lemnos.Linux.GpioSysfs

namespace Lemnos.Linux

open Lemnos.Core Bus Library.Frames

def GpioCall.isOperation : GpioCall → Bool
  | .exists _ | .fileType _ => false
  | _ => true

def GpioCall.Outbound : GpioCall → Prop
  | .request _ | .setValue .. | .write .. => True
  | _ => False

def GpioKernel.operations (kernel : GpioKernel) : List GpioCall := kernel.calls.filter GpioCall.isOperation

theorem GpioKernel.operations_called (call : GpioCall) (kernel : GpioKernel) :
    (kernel.called call).operations = kernel.operations ++ [call].filter GpioCall.isOperation :=
  List.filter_append _ _

def Opened.operations {σ : Type} (opened : Opened σ) : List GpioCall := opened.kernel.operations

structure GpioSurroundings where
  lines : LineId → LineState
  live : List LineId

def Opened.others {σ : Type} (world : GpioSurroundings) (opened : Opened σ) : Opened σ :=
  { opened with kernel := { opened.kernel with lines := world.lines, live := world.live } }

section Logs

variable {p : GpioCall → Prop}

theorem logs_ask {E α : Type} {call : GpioCall} (h : call.isOperation = true → p call)
    (answer : List GpioCall → Except E α) : Logs GpioKernel.operations p (ask call answer) := by
  intro kernel
  refine ⟨[call].filter GpioCall.isOperation, ?_, ?_⟩
  · rw [exec_ask]
    exact kernel.operations_called call
  · intro made hmade
    obtain ⟨hmem, hoperation⟩ := List.mem_filter.mp hmade
    rw [List.mem_singleton.mp hmem] at hoperation ⊢
    exact h hoperation

theorem logs_onKernel {σ E α : Type} {effect : Effect GpioKernel E α}
    (h : Logs GpioKernel.operations p effect) :
    Logs Opened.operations p (onKernel effect : Effect (Opened σ) E α) :=
  h.within (fun _ => rfl) fun _ _ => rfl

end Logs

namespace LinuxCdevGpioSession

abbrev metadataOf (opened : Opened LinuxCdevGpioSession) : SessionMetadata := opened.session.metadata

theorem ensuresOpen (operation : String) : EnsuresOpen metadataOf (ensureOpen operation) :=
  .of_exec (exec_ensureOpen operation)

theorem keepsAccess_permissionDenied {α : Type} (operation reason : String) :
    Keeps (fun opened => (metadataOf opened).access) (permissionDenied operation reason : Call α) :=
  keeps_get.bind fun _ => .throw _

theorem keepsAccess_onKernel {E α : Type} (effect : Effect GpioKernel E α) :
    Keeps (fun opened => (metadataOf opened).access) (onKernel effect) := fun _ => rfl

theorem keepsAccess_runCall {α : Type} {call : Call α}
    (h : Keeps (fun opened => (metadataOf opened).access) call) :
    Keeps (fun opened => (metadataOf opened).access) (runCall call) :=
  @keepsAccess_runCallOn _ _ metadataOf setMetadata (fun _ _ => rfl) _ h

theorem refuses_unless_writable {α : Type} (operation reason : String)
    (rest : Opened LinuxCdevGpioSession → Call α) :
    Refuses (fun opened => (metadataOf opened).access = .sharedReadOnly) (do
      let opened ← get
      if !opened.session.metadata.access.canWrite then permissionDenied operation reason
      else rest opened) := by
  intro opened hreadOnly
  have hwrite : opened.session.metadata.access.canWrite = false :=
    SessionAccess.canWrite_eq_false_iff.mpr hreadOnly
  rw [exec_bind_of_ok (exec_get opened)]
  simp only [hwrite, Bool.not_false, if_true]
  exact ⟨_, rfl⟩

variable (host : GpioHost)

theorem guarded_readLevel : Guarded metadataOf Opened.operations GpioCall.Outbound (readLevel host) := by
  apply Guarded.reading (ensuresOpen _)
  · apply keepsAccess_runCall
    apply keeps_get.bind
    intro opened
    apply ((keepsAccess_onKernel _).adapt _).bind
    intro value
    exact .ite (fun _ => .pure _) fun _ => .ite (fun _ => .pure _) fun _ => .throw _
  · refine @logs_runCallOn _ _ _ _ setMetadata (fun _ _ => rfl) _ _ ?_
    apply Logs.get_bind
    intro opened
    apply ((logs_onKernel (logs_ask (fun _ => not_false) _)).adapt _).bind
    intro value
    exact .ite (fun _ => .pure _) fun _ => .ite (fun _ => .pure _) fun _ => .throw _

theorem guarded_writeLevel (level : GpioLevel) :
    Guarded metadataOf Opened.operations GpioCall.Outbound (writeLevel host level) := by
  apply Guarded.refused (ensuresOpen _)
  · apply keeps_get.bind
    intro opened
    apply Keeps.ite (fun _ => keepsAccess_permissionDenied _ _)
    intro _
    apply Keeps.ite (fun _ => keepsAccess_permissionDenied _ _)
    intro _
    apply keepsAccess_runCall
    exact (keepsAccess_onKernel _).adapt _
  · exact refuses_unless_writable _ _ _

theorem guarded_configureLine (configuration : GpioLineConfiguration) :
    Guarded metadataOf Opened.operations GpioCall.Outbound (configureLine host configuration) := by
  apply Guarded.refused (ensuresOpen _)
  · apply keeps_get.bind
    intro opened
    apply Keeps.ite (fun _ => keepsAccess_permissionDenied _ _)
    intro _
    apply (Keeps.ofExcept _).bind
    intro _
    apply keepsAccess_runCall
    apply keeps_get.bind
    intro opened
    apply (keepsAccess_onKernel _).bind
    intro line
    apply (keepsAccess_onKernel _).bind
    intro handle
    exact .update fun _ => rfl
  · exact refuses_unless_writable _ _ _

theorem guarded_getConfiguration :
    Guarded metadataOf Opened.operations GpioCall.Outbound getConfiguration := by
  apply Guarded.reading (ensuresOpen _)
  · exact keeps_get.bind fun _ => .pure _
  · exact Logs.get_bind fun _ => .pure _

def method : GpioRequest → (α : Type) × Call α
  | .read => ⟨_, readLevel host⟩
  | .write level => ⟨_, writeLevel host level⟩
  | .configure configuration => ⟨_, configureLine host configuration⟩
  | .getConfiguration => ⟨_, getConfiguration⟩

def system : SessionSystem where
  State := Opened LinuxCdevGpioSession
  Operation := GpioCall
  Request := GpioRequest
  World := GpioSurroundings
  metadata := metadataOf
  log := Opened.operations
  method := method host
  close := close
  others := Opened.others
  Outbound := GpioCall.Outbound
  ActsOnClose _ := False
  GivesBack _ _ := False

theorem closing_close {GivesBack : Opened LinuxCdevGpioSession → GpioCall → Prop} :
    Closing metadataOf Opened.operations GpioCall.Outbound (fun _ => False) GivesBack close where
  closed _ _ := rfl
  failed _ hfailed := absurd rfl hfailed
  silent _ _ := rfl
  acts _ hacts := hacts.elim

theorem disciplined_system : (system host).Disciplined where
  guarded request := by
    cases request with
    | read => exact guarded_readLevel host
    | write level => exact guarded_writeLevel host level
    | configure configuration => exact guarded_configureLine host configuration
    | getConfiguration => exact guarded_getConfiguration
  closing := closing_close
  others_metadata _ _ := rfl
  others_log _ _ := rfl

end LinuxCdevGpioSession

namespace LinuxSysfsGpioSession

abbrev metadataOf (opened : Opened LinuxSysfsGpioSession) : SessionMetadata := opened.session.metadata

theorem exec_ensureOpen (operation : String) (opened : Opened LinuxSysfsGpioSession) :
    (ensureOpen operation).exec opened =
      (opened.session.metadata.ensureOpen opened.session.device.id "GPIO" operation, opened) := by
  rw [ensureOpen, exec_bind_of_ok (exec_get opened), exec_ofExcept]

theorem exec_ensureWritable (operation reason : String) (opened : Opened LinuxSysfsGpioSession) :
    (ensureWritable operation reason).exec opened =
      (if opened.session.metadata.access.canWrite then .ok () else
        .error (.permissionDenied opened.session.device.id operation reason), opened) := by
  rw [ensureWritable, exec_bind_of_ok (exec_get opened)]
  by_cases hwrite : opened.session.metadata.access.canWrite = true
  · simp only [hwrite, if_true]
    rfl
  · simp only [hwrite]
    rfl

theorem ensuresOpen (operation : String) : EnsuresOpen metadataOf (ensureOpen operation) :=
  .of_exec (exec_ensureOpen operation)

theorem ensuresWritable (operation reason : String) :
  EnsuresWritable metadataOf (ensureWritable operation reason) :=
  .of_exec (exec_ensureWritable operation reason)

theorem keepsAccess_onKernel {E α : Type} (effect : Effect GpioKernel E α) :
    Keeps (fun opened => (metadataOf opened).access) (onKernel effect) := fun _ => rfl

theorem keepsAccess_runCall {α : Type} {call : Call α}
    (h : Keeps (fun opened => (metadataOf opened).access) call) :
    Keeps (fun opened => (metadataOf opened).access) (runCall call) :=
  @keepsAccess_runCallOn _ _ metadataOf setMetadata (fun _ _ => rfl) _ h

section Reading

variable (host : GpioHost) (session : LinuxSysfsGpioSession) {p : GpioCall → Prop} (h : ∀ path, p (.read path))

include h

theorem logs_readFile (path operation : String) :
    Logs GpioKernel.operations p (session.readFile host path operation) :=
  ((logs_ask (fun _ => h path) _).bind fun _ => .pure _).adapt _

theorem logs_readRequiredFile (path operation : String) :
    Logs GpioKernel.operations p (session.readRequiredFile host path operation) := by
  apply (logs_readFile host session h path operation).bind
  intro contents
  cases contents with
  | none => exact .throw _
  | some value => exact .pure value

theorem logs_optionalAttribute {α : Type} (name : String) (parse : String → Except String α) (missing : α) :
    Logs GpioKernel.operations p (session.optionalAttribute host name parse missing) := by
  apply (logs_readFile host session h _ _).bind
  intro contents
  cases contents with
  | none => exact .pure missing
  | some value => exact .ofExcept _

theorem logs_currentConfiguration : Logs GpioKernel.operations p (session.currentConfiguration host) := by
  apply (logs_readRequiredFile host session h _ _).bind
  intro direction
  apply (Logs.ofExcept _).bind
  intro direction
  apply (logs_optionalAttribute host session h _ _ _).bind
  intro activeLow
  apply (logs_optionalAttribute host session h _ _ _).bind
  intro edge
  exact .pure _

end Reading

variable (host : GpioHost)

theorem guarded_readLevel : Guarded metadataOf Opened.operations GpioCall.Outbound (readLevel host) := by
  apply Guarded.reading (ensuresOpen _)
  · apply keepsAccess_runCall
    apply keeps_get.bind
    intro opened
    apply (keepsAccess_onKernel _).bind
    intro raw
    exact .ite (fun _ => .pure _) fun _ => .ite (fun _ => .pure _) fun _ => .throw _
  · refine @logs_runCallOn _ _ _ _ setMetadata (fun _ _ => rfl) _ _ ?_
    apply Logs.get_bind
    intro opened
    apply (logs_onKernel (logs_readRequiredFile host opened.session (fun _ => not_false) _ _)).bind
    intro raw
    exact .ite (fun _ => .pure _) fun _ => .ite (fun _ => .pure _) fun _ => .throw _

theorem guarded_writeLevel (level : GpioLevel) :
    Guarded metadataOf Opened.operations GpioCall.Outbound (writeLevel host level) := by
  apply Guarded.writing (ensuresOpen _) (ensuresWritable _ _)
  apply keepsAccess_runCall
  apply keeps_get.bind
  intro opened
  apply (keepsAccess_onKernel _).bind
  intro configuration
  exact .ite (fun _ => (Keeps.throw _).bind fun _ => keepsAccess_onKernel _) fun _ => keepsAccess_onKernel _

theorem guarded_configureLine (configuration : GpioLineConfiguration) :
    Guarded metadataOf Opened.operations GpioCall.Outbound (configureLine host configuration) := by
  apply Guarded.writing (ensuresOpen _) (ensuresWritable _ _)
  apply keeps_get.bind
  intro opened
  apply (Keeps.ofExcept _).bind
  intro _
  apply keepsAccess_runCall
  apply keeps_get.bind
  intro opened
  exact keepsAccess_onKernel _

theorem guarded_getConfiguration :
    Guarded metadataOf Opened.operations GpioCall.Outbound (getConfiguration host) := by
  apply Guarded.reading (ensuresOpen _)
  · exact keeps_get.bind fun _ => keepsAccess_onKernel _
  · apply Logs.get_bind
    intro opened
    exact logs_onKernel (logs_currentConfiguration host opened.session fun _ => not_false)

def method : GpioRequest → (α : Type) × Call α
  | .read => ⟨_, readLevel host⟩
  | .write level => ⟨_, writeLevel host level⟩
  | .configure configuration => ⟨_, configureLine host configuration⟩
  | .getConfiguration => ⟨_, getConfiguration host⟩

def ActsOnClose (opened : Opened LinuxSysfsGpioSession) : Prop :=
  opened.session.exportedBySession = true ∧
    host.exists_ opened.kernel.calls opened.session.paths.gpioUnexportPath = true

def GivesBack (opened : Opened LinuxSysfsGpioSession) (call : GpioCall) : Prop :=
  opened.session.exportedBySession = true ∧
    call = .write opened.session.paths.gpioUnexportPath s!"{opened.session.globalLine}"

theorem exec_unexport (session : LinuxSysfsGpioSession) (kernel : GpioKernel) :
    (session.unexport host).exec kernel =
      let path := session.paths.gpioUnexportPath
      let looked := kernel.called (.exists path)
      if host.exists_ kernel.calls path = true then
        ((host.write looked.calls path s!"{session.globalLine}").mapError fun error =>
            session.transportFailure "gpio.close" s!"failed to unexport line at '{path}': {error}",
          looked.called (.write path s!"{session.globalLine}"))
      else (.ok (), looked) := by
  rw [unexport, GpioHost.pathExists, exec_bind, exec_ask]
  by_cases hthere : host.exists_ kernel.calls session.paths.gpioUnexportPath = true
  · simp only [hthere, if_true]
    rw [exec_adapt, GpioHost.writeText, exec_ask]
  · simp only [hthere]
    rfl

def giveBack : Call Unit := do
  let session := (← get).session
  onKernel (if session.exportedBySession then session.unexport host else pure ())

theorem close_eq : close host = giveBack host >>= fun _ => modify (setMetadata .markClosed) := by
  rw [giveBack, bind_assoc]
  rfl

theorem operations_giveBack_of_acts {opened : Opened LinuxSysfsGpioSession}
    (hacts : ActsOnClose host opened) :
    ((giveBack host).exec opened).2.operations = opened.operations ++
      [.write opened.session.paths.gpioUnexportPath s!"{opened.session.globalLine}"] := by
  obtain ⟨hexported, hthere⟩ := hacts
  rw [giveBack, exec_bind_of_ok (exec_get opened), onKernel, exec_within, if_pos hexported, exec_unexport]
  simp only [if_pos hthere, Opened.operations]
  rw [GpioKernel.operations_called, GpioKernel.operations_called, List.append_assoc]
  rfl

theorem operations_giveBack_of_not {opened : Opened LinuxSysfsGpioSession}
    (hacts : ¬ActsOnClose host opened) :
    ((giveBack host).exec opened).2.operations = opened.operations := by
  rw [giveBack, exec_bind_of_ok (exec_get opened), onKernel, exec_within]
  by_cases hexported : opened.session.exportedBySession = true
  · have hthere : ¬host.exists_ opened.kernel.calls opened.session.paths.gpioUnexportPath = true :=
      fun hthere => hacts ⟨hexported, hthere⟩
    rw [if_pos hexported, exec_unexport]
    simp only [if_neg hthere, Opened.operations]
    rw [GpioKernel.operations_called]
    exact List.append_nil _
  · rw [if_neg hexported]
    rfl

theorem closing_close :
    Closing metadataOf Opened.operations GpioCall.Outbound (ActsOnClose host) GivesBack (close host) := by
  rw [close_eq]
  apply Closing.of_giveBack
  · exact fun _ _ => rfl
  · exact fun _ _ => rfl
  · exact fun _ => rfl
  · exact fun opened hacts => operations_giveBack_of_not host hacts
  · exact fun opened hacts => ⟨_, operations_giveBack_of_acts host hacts, fun _ => ⟨hacts.1, rfl⟩⟩

def system : SessionSystem where
  State := Opened LinuxSysfsGpioSession
  Operation := GpioCall
  Request := GpioRequest
  World := GpioSurroundings
  metadata := metadataOf
  log := Opened.operations
  method := method host
  close := close host
  others := Opened.others
  Outbound := GpioCall.Outbound
  ActsOnClose := ActsOnClose host
  GivesBack := GivesBack

theorem disciplined_system : (system host).Disciplined where
  guarded request := by
    cases request with
    | read => exact guarded_readLevel host
    | write level => exact guarded_writeLevel host level
    | configure configuration => exact guarded_configureLine host configuration
    | getConfiguration => exact guarded_getConfiguration host
  closing := closing_close host
  others_metadata _ _ := rfl
  others_log _ _ := rfl

end LinuxSysfsGpioSession

end Lemnos.Linux
