import Lemnos.Library.Runs
import Lemnos.Linux.GpioSysfs

namespace Lemnos.Linux

open Lemnos.Core Bus Library.Frames Library.Runs

structure GpioFeatures where
  gpioCdev : Bool
  gpioSysfs : Bool
  deriving DecidableEq

structure LinuxBackend where
  paths : LinuxPaths := {}
  transportConfig : LinuxTransportConfig
  deriving DecidableEq

inductive LinuxGpioSession where
  | cdev (session : LinuxCdevGpioSession)
  | sysfs (session : LinuxSysfsGpioSession)

namespace LinuxGpioSession

variable (features : GpioFeatures) (host : GpioHost)

def supportsDescriptor (device : DeviceDescriptor) : Bool :=
  device.interface = .gpio && device.kind = .gpioLine &&
    ((features.gpioCdev && LinuxCdevGpioSession.supportsDescriptor device) ||
      (features.gpioSysfs && LinuxSysfsGpioSession.supportsDescriptor device))

def canUseCdev (backend : LinuxBackend) (device : DeviceDescriptor) : Gpio Bool :=
  if features.gpioCdev then LinuxCdevGpioSession.canUseTransport host backend.paths device else return false

def canUseSysfs (backend : LinuxBackend) (device : DeviceDescriptor) : Gpio Bool :=
  if features.gpioSysfs then LinuxSysfsGpioSession.canUseTransport host backend.paths device else return false

def openSession (backend : LinuxBackend) (device : DeviceDescriptor) (access : SessionAccess) :
    Gpio LinuxGpioSession := do
  if !supportsDescriptor features device then throw (.unsupportedDevice backendName device.id)
  else if ← canUseCdev features host backend device then
    return .cdev (← LinuxCdevGpioSession.openSession host backend.paths device access)
  else if ← canUseSysfs features host backend device then
    return .sysfs (← LinuxSysfsGpioSession.openSession host backend.paths backend.transportConfig device access)
  else
    throw (.sessionUnavailable device.id "no enabled Linux GPIO transport can service this device")

def GrantsLine (backend : LinuxBackend) (device : DeviceDescriptor) (kernel : GpioKernel) (line : LineId) :
    Prop :=
  supportsDescriptor features device = true ∧
    ∃ asked, (canUseCdev features host backend device).exec kernel = (.ok true, asked) ∧
      LinuxCdevGpioSession.Grants host backend.paths device asked line

theorem keeps_canUseCdev (backend : LinuxBackend) (device : DeviceDescriptor) :
    Keeps GpioKernel.lines (canUseCdev features host backend device) := by
  apply Keeps.ite
  · intro _
    exact LinuxCdevGpioSession.keeps_canUseTransport ignoresCalls_lines host backend.paths device
  · intro _
    exact .pure false

theorem keeps_canUseSysfs (backend : LinuxBackend) (device : DeviceDescriptor) :
    Keeps GpioKernel.lines (canUseSysfs features host backend device) := by
  apply Keeps.ite
  · intro _
    exact LinuxSysfsGpioSession.keeps_canUseTransport host ignoresCalls_lines backend.paths device
  · intro _
    exact .pure false

variable {features host} in
theorem grantsLine_iff {backend : LinuxBackend} {device : DeviceDescriptor} {kernel asked : GpioKernel}
    (hsupports : supportsDescriptor features device = true)
    (hcan : (canUseCdev features host backend device).exec kernel = (.ok true, asked)) (line : LineId) :
    GrantsLine features host backend device kernel line ↔
      LinuxCdevGpioSession.Grants host backend.paths device asked line := by
  constructor
  · rintro ⟨-, _, hcan', hline⟩
    cases hcan.symm.trans hcan'
    exact hline
  · intro hline
    exact ⟨hsupports, asked, hcan, hline⟩

theorem openSession_lines (backend : LinuxBackend) (device : DeviceDescriptor) (access : SessionAccess)
    (kernel : GpioKernel) :
    let lines := ((openSession features host backend device access).exec kernel).2.lines
    ((∀ line, ¬GrantsLine features host backend device kernel line) ∧ lines = kernel.lines) ∨
    ∃ line, (∀ other, GrantsLine features host backend device kernel other ↔ other = line) ∧
      lines = Function.update kernel.lines line (kernel.lines line).reopened := by
  have hasked := keeps_canUseCdev features host backend device kernel
  unfold openSession
  by_cases hsupports : supportsDescriptor features device = true
  · rw [if_neg (by simp [hsupports])]
    cases hcan : (canUseCdev features host backend device).exec kernel with
    | mk result asked =>
      rw [hcan] at hasked
      simp only at hasked
      cases result with
      | error error =>
        rw [exec_bind_of_error hcan]
        refine .inl ⟨?_, hasked⟩
        rintro line ⟨-, _, hcan', -⟩
        cases hcan.symm.trans hcan'
      | ok can =>
        rw [exec_bind_of_ok hcan]
        cases can with
        | true =>
          simp only [grantsLine_iff hsupports hcan, if_true]
          rw [exec_bind_pure, ← hasked]
          rcases LinuxCdevGpioSession.openSession_cases host backend.paths device access asked with
            ⟨line, session, hline, -, -, -, hlines, -⟩ | ⟨hnone, -, hlines, -⟩
          · exact .inr ⟨line, hline, hlines⟩
          · exact .inl ⟨hnone, hlines⟩
        | false =>
          refine .inl ⟨?_, Eq.trans ?_ hasked⟩
          · rintro line ⟨-, _, hcan', -⟩
            cases hcan.symm.trans hcan'
          · simp only [Bool.false_eq_true, if_false]
            refine (keeps_canUseSysfs features host backend device).bind ?_ asked
            intro can
            apply Keeps.ite
            · intro _
              have hopen := LinuxSysfsGpioSession.keeps_openSession host ignoresCalls_lines backend.paths
                backend.transportConfig device access
              exact hopen.bind fun _ => .pure _
            · intro _
              exact .throw _
  · rw [if_pos (by simp [hsupports])]
    exact .inl ⟨fun line hline => hsupports hline.1, rfl⟩

abbrev Call (α : Type) := Effect (Opened LinuxGpioSession) BusError α

def dispatch {α : Type} (cdev : LinuxCdevGpioSession.Call α) (sysfs : LinuxSysfsGpioSession.Call α) :
    Call α :=
  ExceptT.mk fun opened =>
    match opened.session with
    | .cdev session =>
      let (result, after) := cdev.exec ⟨opened.kernel, session⟩
      (result, ⟨after.kernel, .cdev after.session⟩)
    | .sysfs session =>
      let (result, after) := sysfs.exec ⟨opened.kernel, session⟩
      (result, ⟨after.kernel, .sysfs after.session⟩)

def readLevel : Call GpioLevel :=
  dispatch (LinuxCdevGpioSession.readLevel host) (LinuxSysfsGpioSession.readLevel host)

def getConfiguration : Call GpioLineConfiguration :=
  dispatch LinuxCdevGpioSession.getConfiguration (LinuxSysfsGpioSession.getConfiguration host)

def close : Call Unit := dispatch LinuxCdevGpioSession.close (LinuxSysfsGpioSession.close host)

theorem keeps_dispatch {α γ : Type} {view : GpioKernel → γ} {cdev : LinuxCdevGpioSession.Call α}
    {sysfs : LinuxSysfsGpioSession.Call α} (hcdev : Keeps (fun opened => view opened.kernel) cdev)
    (hsysfs : Keeps (fun opened => view opened.kernel) sysfs) :
    Keeps (fun opened => view opened.kernel) (dispatch cdev sysfs) := by
  rintro ⟨kernel, session⟩
  cases session with
  | cdev session => exact hcdev ⟨kernel, session⟩
  | sysfs session => exact hsysfs ⟨kernel, session⟩

end LinuxGpioSession

/-- The calls that only look at a line. A session is named by its place among those that were opened. -/
inductive GpioObservation where
  | openSession (backend : LinuxBackend) (device : DeviceDescriptor) (access : SessionAccess)
  | readLevel (session : ℕ)
  | configuration (session : ℕ)
  | close (session : ℕ)
  deriving DecidableEq

structure GpioWorld where
  kernel : GpioKernel
  sessions : List LinuxGpioSession := []

namespace GpioWorld

variable (features : GpioFeatures) (host : GpioHost)

def call {α : Type} (call : LinuxGpioSession.Call α) (place : ℕ) (world : GpioWorld) : GpioWorld :=
  match world.sessions[place]? with
  | none => world
  | some session =>
    let after := (call.exec ⟨world.kernel, session⟩).2
    ⟨after.kernel, world.sessions.set place after.session⟩

def openSession (backend : LinuxBackend) (device : DeviceDescriptor) (access : SessionAccess)
    (world : GpioWorld) : GpioWorld :=
  match (LinuxGpioSession.openSession features host backend device access).exec world.kernel with
  | (.error _, kernel) => { world with kernel }
  | (.ok session, kernel) => ⟨kernel, world.sessions ++ [session]⟩

def exec (observation : GpioObservation) (world : GpioWorld) : GpioWorld :=
  match observation with
  | .openSession backend device access => world.openSession features host backend device access
  | .readLevel place => world.call (LinuxGpioSession.readLevel host) place
  | .configuration place => world.call (LinuxGpioSession.getConfiguration host) place
  | .close place => world.call (LinuxGpioSession.close host) place

def step (observation : GpioObservation) (world : GpioWorld) : Option GpioWorld :=
  some (world.exec features host observation)

/-- No open is granted a line that requesting its own queried settings would change. -/
def SparesLines (observation : GpioObservation) (world : GpioWorld) : Prop :=
  match observation with
  | .openSession backend device _ =>
    ∀ line, LinuxGpioSession.GrantsLine features host backend device world.kernel line →
      (world.kernel.lines line).Neutral
  | .readLevel _ | .configuration _ | .close _ => True

theorem call_lines {α : Type} {call : LinuxGpioSession.Call α}
    (h : Keeps (fun opened => opened.kernel.lines) call) (place : ℕ) (world : GpioWorld) :
    (world.call call place).kernel.lines = world.kernel.lines := by
  unfold GpioWorld.call
  cases world.sessions[place]? with
  | none => rfl
  | some session => exact h ⟨world.kernel, session⟩

theorem openSession_kernel (backend : LinuxBackend) (device : DeviceDescriptor) (access : SessionAccess)
    (world : GpioWorld) :
    (world.openSession features host backend device access).kernel =
      ((LinuxGpioSession.openSession features host backend device access).exec world.kernel).2 := by
  unfold openSession
  cases (LinuxGpioSession.openSession features host backend device access).exec world.kernel with
  | mk result kernel => cases result <;> rfl

theorem exec_lines (observation : GpioObservation) (world : GpioWorld) :
    let lines := (world.exec features host observation).kernel.lines
    (SparesLines features host observation world ∧ lines = world.kernel.lines) ∨
    ∃ line, (SparesLines features host observation world ↔ (world.kernel.lines line).Neutral) ∧
      lines = Function.update world.kernel.lines line (world.kernel.lines line).reopened := by
  cases observation with
  | openSession backend device access =>
    simp only [exec, openSession_kernel]
    rcases LinuxGpioSession.openSession_lines features host backend device access world.kernel with
      ⟨hnone, hsame⟩ | ⟨line, hline, hreopened⟩
    · exact .inl ⟨fun line hgranted => (hnone line hgranted).elim, hsame⟩
    · refine .inr ⟨line, ?_, hreopened⟩
      constructor
      · intro hspares
        exact hspares line ((hline line).mpr rfl)
      · intro hneutral other hother
        rw [(hline other).mp hother]
        exact hneutral
  | readLevel place =>
    exact .inl ⟨trivial, call_lines (LinuxGpioSession.keeps_dispatch
      (LinuxCdevGpioSession.keeps_readLevel ignoresCalls_lines host)
      (LinuxSysfsGpioSession.keeps_readLevel host ignoresCalls_lines)) place world⟩
  | configuration place =>
    exact .inl ⟨trivial, call_lines (LinuxGpioSession.keeps_dispatch
      LinuxCdevGpioSession.keeps_getConfiguration
      (LinuxSysfsGpioSession.keeps_getConfiguration host ignoresCalls_lines)) place world⟩
  | close place =>
    exact .inl ⟨trivial, call_lines (LinuxGpioSession.keeps_dispatch
      LinuxCdevGpioSession.keeps_close
      (LinuxSysfsGpioSession.keeps_close host ignoresCalls_lines)) place world⟩

def Disturbed (lines : LineId → LineState) (world : GpioWorld) : Prop :=
  ∃ line, ¬(lines line).Neutral ∧ world.kernel.lines line = (lines line).reopened

theorem Disturbed.exec {lines : LineId → LineState} {world : GpioWorld} (h : world.Disturbed lines)
    (observation : GpioObservation) : (world.exec features host observation).Disturbed lines := by
  obtain ⟨line, hline, hreopened⟩ := h
  refine ⟨line, hline, ?_⟩
  rcases exec_lines features host observation world with ⟨-, hsame⟩ | ⟨other, -, hother⟩
  · rw [hsame]
    exact hreopened
  · rw [hother]
    by_cases hsame : line = other
    · subst hsame
      rw [Function.update_self, hreopened]
      exact (LineState.reopened_eq_iff _).mpr (LineState.reopened_neutral _)
    · rw [Function.update_of_ne hsame]
      exact hreopened

theorem observing_keeps_lines_iff (observations : List GpioObservation) (world : GpioWorld) :
    (∀ final, run (step features host) observations world = some final →
      ∀ line, final.kernel.lines line = world.kernel.lines line) ↔
      Along (step features host) (SparesLines features host) observations world := by
  obtain ⟨last, hrun⟩ := @run_total _ _ (step features host) (fun _ _ => ⟨_, rfl⟩) observations world
  have hends : last.kernel.lines = world.kernel.lines ↔
      Along (step features host) (SparesLines features host) observations world := by
    apply ends_iff_along (p := fun world' => world'.kernel.lines = world.kernel.lines)
      (q := Disturbed world.kernel.lines) _ _ _ _ rfl hrun
    · intro observation before after hbefore hspares hstep
      cases hstep
      rcases exec_lines features host observation before with ⟨-, hsame⟩ | ⟨line, hneutral, hline⟩
      · exact hsame.trans hbefore
      · rw [(LineState.reopened_eq_iff _).mpr (hneutral.mp hspares), Function.update_eq_self] at hline
        exact hline.trans hbefore
    · intro observation before after hbefore hspares hstep
      cases hstep
      rcases exec_lines features host observation before with ⟨hspared, -⟩ | ⟨line, hneutral, hline⟩
      · exact (hspares hspared).elim
      · refine ⟨line, ?_, ?_⟩
        · rw [← hbefore]
          exact fun h => hspares (hneutral.mpr h)
        · rw [hline, hbefore, Function.update_self]
    · intro observation before after hdisturbed hstep
      cases hstep
      exact hdisturbed.exec features host observation
    · rintro after ⟨line, hline, hreopened⟩ hsame
      rw [hsame] at hreopened
      exact hline ((LineState.reopened_eq_iff _).mp hreopened.symm)
  rw [← hends]
  constructor
  · intro h
    exact funext (h last hrun)
  · intro h final hfinal line
    cases hrun.symm.trans hfinal
    rw [h]

theorem opened_output_is_driven_low :
    ∃ final, run (step ⟨true, true⟩ answering)
        [.openSession ⟨{}, ⟨3⟩⟩ relayLine .sharedReadOnly, .readLevel 0, .configuration 0, .close 0]
        { kernel := { lines := fun _ => ⟨{ direction := .output }, .high⟩ } } = some final ∧
      final.kernel.lines ⟨0, 4⟩ = ⟨{ direction := .output }, .low⟩ := by
  refine ⟨_, rfl, ?_⟩
  decide

end GpioWorld

end Lemnos.Linux
