import Lemnos.Library.Runs
import Lemnos.Linux.GpioCdev

namespace Lemnos.Linux

open Lemnos.Core Bus Library.Frames Library.Runs

inductive CdevGpioCall where
  | configureLine (configuration : GpioLineConfiguration)
  | readLevel
  | writeLevel (level : GpioLevel)
  | close
  deriving DecidableEq

namespace LinuxCdevGpioSession

variable (host : GpioHost)

def exec (call : CdevGpioCall) : Call Unit :=
  match call with
  | .configureLine configuration => configureLine host configuration
  | .readLevel => do let _ ← readLevel host
  | .writeLevel level => writeLevel host level
  | .close => close

def step (call : CdevGpioCall) (opened : Opened LinuxCdevGpioSession) :
    Option (Opened LinuxCdevGpioSession) :=
  some ((exec host call).exec opened).2

def IsOpen (opened : Opened LinuxCdevGpioSession) : Prop := opened.session.metadata.state ≠ .closed

def Holds (opened : Opened LinuxCdevGpioSession) : Prop :=
  opened.session.handle.line ∈ opened.kernel.live

def Supported (configuration : GpioLineConfiguration) : Prop :=
  (configuration.direction = .input → configuration.initialLevel = none) ∧ configuration.bias = none ∧
    configuration.debounceUs = none ∧ configuration.edge = none

def ReportsHeldSettings (opened : Opened LinuxCdevGpioSession) : Prop :=
  ∀ configuration, (getConfiguration.exec opened).1 = .ok configuration →
    opened.session.handle.flags = lineFlags configuration ∧
    opened.session.handle.initial = initialValue configuration

def FindsFreeLine (opened : Opened LinuxCdevGpioSession) : Prop :=
  ∃ chip, host.chip opened.kernel.calls opened.session.chipDevnode = .ok chip ∧
    host.getLine (opened.kernel.calls ++ [.openChip opened.session.chipDevnode])
      ⟨chip, opened.session.offset⟩ = .ok () ∧
    ⟨chip, opened.session.offset⟩ ∉ opened.kernel.live

def Honoured (call : CdevGpioCall) (opened : Opened LinuxCdevGpioSession) : Prop :=
  match call with
  | .configureLine configuration => IsOpen opened → Supported configuration →
      ((configureLine host configuration).exec opened).1 = .ok ()
  | .readLevel | .writeLevel _ | .close => True

def KeepsHolding (call : CdevGpioCall) (opened : Opened LinuxCdevGpioSession) : Prop :=
  match call with
  | .configureLine configuration => IsOpen opened → Supported configuration → FindsFreeLine host opened
  | .readLevel | .writeLevel _ => True
  | .close => False

structure SameHolding (before after : Opened LinuxCdevGpioSession) : Prop where
  live : after.kernel.live = before.kernel.live
  handle : after.session.handle = before.session.handle
  configuration : after.session.configuration = before.session.configuration
  access : after.session.metadata.access = before.session.metadata.access
  isOpen : IsOpen before → IsOpen after

structure Settled (opened : Opened LinuxCdevGpioSession) : Prop where
  isOpen : IsOpen opened
  canWrite : opened.session.metadata.access.canWrite = true
  holds : Holds opened
  settings : opened.session.handle.flags = lineFlags opened.session.configuration ∧
    opened.session.handle.initial = initialValue opened.session.configuration

theorem exec_ensureOpen_of_isOpen {opened : Opened LinuxCdevGpioSession} (h : IsOpen opened) (operation : String) :
    (ensureOpen operation).exec opened = (.ok (), opened) := by
  rw [exec_ensureOpen, SessionMetadata.ensureOpen, if_neg h]

theorem checkConfiguration_eq_ok {configuration : GpioLineConfiguration} (deviceId : DeviceId) :
    checkConfiguration deviceId configuration = .ok () ↔ Supported configuration := by
  unfold checkConfiguration Supported
  obtain ⟨direction, activeLow, bias, drive, edge, debounceUs, initialLevel⟩ := configuration
  cases direction <;> cases bias <;> cases debounceUs <;> cases edge <;> cases initialLevel <;> simp

theorem SameHolding.refl (opened : Opened LinuxCdevGpioSession) : SameHolding opened opened :=
  ⟨rfl, rfl, rfl, rfl, id⟩

theorem Settled.of_same {before after : Opened LinuxCdevGpioSession} (h : Settled before)
    (hsame : SameHolding before after) : Settled after where
  isOpen := hsame.isOpen h.isOpen
  canWrite := by rw [hsame.access, h.canWrite]
  holds := by
    have hheld := h.holds
    unfold Holds at hheld ⊢
    rwa [hsame.handle, hsame.live]
  settings := by
    rw [hsame.handle, hsame.configuration]
    exact h.settings

section Calls

variable {host} {opened : Opened LinuxCdevGpioSession}

theorem setMetadata_finishCall_isOpen {α : Type} (result : BusResult α) :
    IsOpen (setMetadata (·.finishCall result) opened) := by
  unfold IsOpen setMetadata SessionMetadata.finishCall
  cases result.isOk <;> simp

def seen (opened : Opened LinuxCdevGpioSession) : List LineId × LinuxCdevGpioSession :=
  (opened.kernel.live, opened.session)

theorem keeps_seen {E α : Type} {effect : Effect GpioKernel E α} (h : Keeps GpioKernel.live effect) :
    Keeps seen (onKernel effect) := by
  unfold onKernel
  apply h.within
  intro kernel opened hlive
  rw [seen, hlive, seen]

theorem sameHolding_runCall {α : Type} {call : Call α} (h : Keeps seen call)
    (opened : Opened LinuxCdevGpioSession) :
    SameHolding opened ((runCall call).exec opened).2 := by
  rw [runCall, exec_runCallWith]
  obtain ⟨hlive, hsession⟩ := Prod.mk.inj (h (setMetadata .beginCall opened))
  have hhandle := congrArg handle hsession
  have hconfiguration := congrArg configuration hsession
  have haccess := congrArg (·.metadata.access) hsession
  exact ⟨hlive, hhandle, hconfiguration, haccess, fun _ => setMetadata_finishCall_isOpen _⟩

theorem sameHolding_permissionDenied (operation reason : String) :
    SameHolding opened ((permissionDenied operation reason : Call Unit).exec opened).2 := .refl opened

theorem sameHolding_readLevel (h : IsOpen opened) : SameHolding opened ((readLevel host).exec opened).2 := by
  rw [readLevel, exec_bind_of_ok (exec_ensureOpen_of_isOpen h _)]
  apply sameHolding_runCall
  apply keeps_get.bind
  intro opened
  apply Keeps.bind
  · apply Keeps.adapt
    exact keeps_seen (keeps_ask ignoresCalls_live _ _)
  · intro value
    exact .ite (fun _ => .pure _) fun _ => .ite (fun _ => .pure _) fun _ => .throw _

theorem sameHolding_writeLevel (h : IsOpen opened) (level : GpioLevel) :
    SameHolding opened ((writeLevel host level).exec opened).2 := by
  unfold writeLevel
  rw [exec_bind_of_ok (exec_ensureOpen_of_isOpen h _), exec_bind_of_ok (exec_get opened)]
  simp only
  split
  · exact sameHolding_permissionDenied _ _
  · split
    · exact sameHolding_permissionDenied _ _
    · apply sameHolding_runCall
      apply Keeps.adapt
      exact keeps_seen (host.keeps_setLineValue ignoresCalls_live (fun _ _ _ => rfl) _ _)

def requestAgain (host : GpioHost) (configuration : GpioLineConfiguration) : Call Unit := do
  let session := (← get).session
  let line ← onKernel (openLine host session.device session.chipDevnode session.offset "gpio.configure")
  let handle ← onKernel (requestHandle host session.device line configuration "gpio.configure")
  modify (replaceHandle handle configuration)

theorem configureLine_of_unsupported (h : Settled opened) {configuration : GpioLineConfiguration}
    (hunsupported : ¬Supported configuration) : ((configureLine host configuration).exec opened).2 = opened := by
  unfold configureLine
  rw [exec_bind_of_ok (exec_ensureOpen_of_isOpen h.isOpen _), exec_bind_of_ok (exec_get opened)]
  simp only [h.canWrite, Bool.not_true, Bool.false_eq_true, if_false]
  cases hcheck : checkConfiguration opened.session.device.id configuration with
  | error error => rfl
  | ok checked => exact (hunsupported ((checkConfiguration_eq_ok _).mp hcheck)).elim

theorem configureLine_of_supported (h : Settled opened) {configuration : GpioLineConfiguration}
    (hsupported : Supported configuration) :
    (configureLine host configuration).exec opened = (runCall (requestAgain host configuration)).exec opened := by
  unfold configureLine
  rw [exec_bind_of_ok (exec_ensureOpen_of_isOpen h.isOpen _), exec_bind_of_ok (exec_get opened)]
  simp only [h.canWrite, Bool.not_true, Bool.false_eq_true, if_false]
  rw [(checkConfiguration_eq_ok _).mpr hsupported]
  rfl

theorem requestAgain_cases (hexclusive : ∀ calls handle held, (host.request calls handle held).isOk = !held)
    (configuration : GpioLineConfiguration) (opened : Opened LinuxCdevGpioSession) :
    let after := (requestAgain host configuration).exec opened
    (FindsFreeLine host opened ∧ after.1 = .ok () ∧ ∃ line, line ∉ opened.kernel.live ∧
      after.2.kernel.live = (line :: opened.kernel.live).erase opened.session.handle.line ∧
      after.2.session = { opened.session with
        handle := ⟨line, lineFlags configuration, initialValue configuration⟩, configuration }) ∨
    (¬FindsFreeLine host opened ∧ after.1.isOk = false ∧ after.2.kernel.live = opened.kernel.live ∧
      after.2.session = opened.session) := by
  unfold requestAgain FindsFreeLine
  rw [exec_bind_of_ok (exec_get opened), exec_bind, onKernel, exec_within, exec_openLine]
  cases hchip : host.chip opened.kernel.calls opened.session.chipDevnode with
  | error error => exact .inr ⟨by simp, rfl, rfl, rfl⟩
  | ok chip =>
    simp only
    cases hline : host.getLine (opened.kernel.calls ++ [.openChip opened.session.chipDevnode])
      ⟨chip, opened.session.offset⟩ with
    | error error => exact .inr ⟨by simp [hline], rfl, rfl, rfl⟩
    | ok found =>
      simp only [Except.map, Except.mapError]
      rw [exec_bind, onKernel, exec_within, exec_requestHandle]
      simp only [GpioKernel.called]
      generalize hcalls : opened.kernel.calls ++ [GpioCall.openChip opened.session.chipDevnode] ++
        [GpioCall.getLine ⟨chip, opened.session.offset⟩] = calls
      have hgranted := hexclusive calls
        ⟨⟨chip, opened.session.offset⟩, lineFlags configuration, initialValue configuration⟩
        (opened.kernel.live.contains ⟨chip, opened.session.offset⟩)
      by_cases hlive : ⟨chip, opened.session.offset⟩ ∈ opened.kernel.live
      · rw [List.contains_iff_mem.mpr hlive] at hgranted ⊢
        cases hrequest : host.request calls
          ⟨⟨chip, opened.session.offset⟩, lineFlags configuration, initialValue configuration⟩ true with
        | ok granted =>
          rw [hrequest] at hgranted
          cases hgranted
        | error error => exact .inr ⟨by simp [hlive], rfl, rfl, rfl⟩
      · rw [Bool.eq_false_iff.mpr (fun hcontains => hlive (List.contains_iff_mem.mp hcontains))] at hgranted ⊢
        cases hrequest : host.request calls
          ⟨⟨chip, opened.session.offset⟩, lineFlags configuration, initialValue configuration⟩ false with
        | error error =>
          rw [hrequest] at hgranted
          cases hgranted
        | ok granted => exact .inl ⟨⟨chip, rfl, hline, hlive⟩, rfl, _, hlive, rfl, rfl⟩

end Calls

section Runs

variable {host} {opened : Opened LinuxCdevGpioSession}

/-- A supported configuration is applied exactly when the line that it asks for is free. The line of the session
itself never is: its handle is still there. -/
theorem configureLine_cases (hexclusive : ∀ calls handle held, (host.request calls handle held).isOk = !held)
    (h : Settled opened) {configuration : GpioLineConfiguration} (hsupported : Supported configuration) :
    let after := (configureLine host configuration).exec opened
    (FindsFreeLine host opened ∧ after.1 = .ok () ∧ Settled after.2) ∨
    (¬FindsFreeLine host opened ∧ after.1.isOk = false ∧ SameHolding opened after.2) := by
  rw [configureLine_of_supported h hsupported, runCall, exec_runCallWith]
  have hcases := requestAgain_cases hexclusive configuration (setMetadata .beginCall opened)
  generalize (requestAgain host configuration).exec (setMetadata .beginCall opened) = after at hcases
  obtain ⟨result, kernel, session⟩ := after
  rcases hcases with ⟨hfree, hresult, line, hline, hlive, hsession⟩ | ⟨hheld, hresult, hlive, hsession⟩
  · have hne : line ≠ opened.session.handle.line := by
      rintro rfl
      exact hline h.holds
    refine .inl ⟨hfree, hresult, setMetadata_finishCall_isOpen _, ?_, ?_, ?_⟩
    · cases hsession
      exact h.canWrite
    · cases hsession
      have hmem : line ∈ kernel.live := by
        rw [hlive]
        exact (List.mem_erase_of_ne hne).mpr List.mem_cons_self
      exact hmem
    · cases hsession
      exact ⟨rfl, rfl⟩
  · cases hsession
    exact .inr ⟨hheld, hresult, hlive, rfl, rfl, rfl, fun _ => setMetadata_finishCall_isOpen _⟩

theorem Settled.reportsHeldSettings (h : Settled opened) : ReportsHeldSettings opened := by
  intro configuration hconfiguration
  rw [getConfiguration, exec_bind_of_ok (exec_ensureOpen_of_isOpen h.isOpen _)] at hconfiguration
  cases hconfiguration
  exact h.settings

theorem Settled.step (hexclusive : ∀ calls handle held, (host.request calls handle held).isOk = !held)
    (h : Settled opened) {call : CdevGpioCall} (hkeeps : KeepsHolding host call opened) :
    Settled ((exec host call).exec opened).2 := by
  cases call with
  | configureLine configuration =>
    by_cases hsupported : Supported configuration
    · rcases configureLine_cases hexclusive h hsupported with ⟨-, -, hafter⟩ | ⟨hheld, -⟩
      · exact hafter
      · exact (hheld (hkeeps h.isOpen hsupported)).elim
    · rw [exec, configureLine_of_unsupported h hsupported]
      exact h
  | readLevel =>
    have hsame : SameHolding opened ((exec host .readLevel).exec opened).2 := by
      rw [exec, exec_bind_pure]
      exact sameHolding_readLevel h.isOpen
    exact h.of_same hsame
  | writeLevel level => exact h.of_same (sameHolding_writeLevel h.isOpen level)
  | close => exact hkeeps.elim

theorem settled_openSession {paths : LinuxPaths} {device : DeviceDescriptor} {access : SessionAccess}
    {kernel kernel' : GpioKernel} {session : LinuxCdevGpioSession}
    (hopened : (openSession host paths device access).exec kernel = (.ok session, kernel'))
    (hwrite : access.canWrite = true) : Settled ⟨kernel', session⟩ := by
  rcases openSession_cases host paths device access kernel with
    ⟨line, session', -, hresult, hhandle, hmetadata, -, hlive⟩ | ⟨-, hresult, -⟩
  · rw [hopened] at hresult hlive
    cases hresult
    refine ⟨?_, ?_, ?_, ?_⟩
    · simp [IsOpen, hmetadata]
    · rw [hmetadata]
      exact hwrite
    · simp only at hlive
      rw [Holds, hhandle, hlive]
      exact List.mem_cons_self
    · rw [hhandle]
      exact ⟨rfl, rfl⟩
  · rw [hopened] at hresult
    cases hresult

/-- Where a request is granted exactly when no live handle has the line: in a run of calls on an opened session
the line is held exactly while the session is open, the reported configuration is that of the held request and
every supported configuration is applied, exactly if the session is never closed and every supported
configuration that it is asked for finds a free line. -/
theorem owns_line_iff (hexclusive : ∀ calls handle held, (host.request calls handle held).isOk = !held)
    {paths : LinuxPaths} {device : DeviceDescriptor} {access : SessionAccess} {kernel kernel' : GpioKernel}
    {session : LinuxCdevGpioSession}
    (hopened : (openSession host paths device access).exec kernel = (.ok session, kernel'))
    (hwrite : access.canWrite = true) (calls : List CdevGpioCall) :
    (∀ before after reached, calls = before ++ after →
      run (step host) before ⟨kernel', session⟩ = some reached →
      ((Holds reached ↔ IsOpen reached) ∧ ReportsHeldSettings reached) ∧
      ∀ call rest, after = call :: rest → Honoured host call reached) ↔
      Along (step host) (KeepsHolding host) calls ⟨kernel', session⟩ := by
  obtain ⟨last, hrun⟩ := @run_total _ _ (step host) (fun _ _ => ⟨_, rfl⟩) calls ⟨kernel', session⟩
  apply good_iff_along (p := Settled) _ _ _ _ (settled_openSession hopened hwrite) hrun
  · intro opened h
    exact ⟨iff_of_true h.holds h.isOpen, h.reportsHeldSettings⟩
  · intro call opened after h hkeeps hstep
    cases hstep
    exact h.step hexclusive hkeeps
  · intro call opened h hkeeps
    cases call with
    | configureLine configuration =>
      intro hopen hsupported
      rcases configureLine_cases hexclusive h hsupported with ⟨-, hresult, -⟩ | ⟨hheld, -⟩
      · exact hresult
      · exact (hheld (hkeeps hopen hsupported)).elim
    | readLevel => trivial
    | writeLevel level => trivial
    | close => trivial
  · intro call opened after h hstep hgood hafter
    cases hstep
    cases call with
    | configureLine configuration =>
      intro hopen hsupported
      rcases configureLine_cases hexclusive h hsupported with ⟨hfree, -⟩ | ⟨-, hresult, -⟩
      · exact hfree
      · rw [hgood hopen hsupported] at hresult
        cases hresult
    | readLevel => trivial
    | writeLevel level => trivial
    | close =>
      -- the handle outlives the close
      exact hafter.1.mp h.holds rfl

def outputsLow : GpioKernel := { lines := fun _ => ⟨{ direction := .output }, .low⟩ }

def relayHandle : LineHandle := ⟨⟨0, 4⟩, { direction := .output }, 0⟩

def relaySession : LinuxCdevGpioSession where
  device := relayLine
  metadata := { access := .exclusive, state := .idle }
  chipDevnode := LinuxPaths.gpioDevnode {} "gpiochip0"
  offset := 4
  configuration := ⟨.output, false, none, some .pushPull, none, none, none⟩
  handle := relayHandle

def relayHeld : GpioKernel :=
  { outputsLow with
    calls := [.openChip (LinuxPaths.gpioDevnode {} "gpiochip0"), .getLine ⟨0, 4⟩, .lineInfo ⟨0, 4⟩,
      .request relayHandle] }.grant relayHandle

theorem owns_line_while_only_read_and_written :
    (openSession answering {} relayLine .exclusive).exec outputsLow = (.ok relaySession, relayHeld) ∧
    ∀ before after reached, [.readLevel, .writeLevel .high, .readLevel] = before ++ after →
      run (step answering) before ⟨relayHeld, relaySession⟩ = some reached →
      ((Holds reached ↔ IsOpen reached) ∧ ReportsHeldSettings reached) ∧
      ∀ call rest, after = call :: rest → Honoured answering call reached := by
  have hexclusive : ∀ calls handle held, (answering.request calls handle held).isOk = !held := by
    intro calls handle held
    cases held <;> rfl
  have hopened : (openSession answering {} relayLine .exclusive).exec outputsLow =
      (.ok relaySession, relayHeld) := rfl
  refine ⟨hopened, (owns_line_iff hexclusive hopened rfl _).mpr ?_⟩
  exact ⟨trivial, fun _ _ => ⟨trivial, fun _ _ => ⟨trivial, fun _ _ => trivial⟩⟩⟩

theorem relay_session_blocks_its_own_line :
    (openSession answering {} relayLine .exclusive).exec outputsLow = (.ok relaySession, relayHeld) ∧
    ((configureLine answering ⟨.input, false, none, none, none, none, none⟩).exec ⟨relayHeld, relaySession⟩).1 =
      .error (.transportFailure relayLine.id "gpio.configure"
        "failed to request GPIO line handle: Device or resource busy") ∧
    (close.exec ⟨relayHeld, relaySession⟩).1 = .ok () ∧
    Holds (close.exec ⟨relayHeld, relaySession⟩).2 ∧
    ((openSession answering {} relayLine .exclusive).exec
      (close.exec ⟨relayHeld, relaySession⟩).2.kernel).1.isOk = false := by
  refine ⟨rfl, by decide, rfl, List.mem_cons_self, by decide⟩

end Runs

end LinuxCdevGpioSession

end Lemnos.Linux
