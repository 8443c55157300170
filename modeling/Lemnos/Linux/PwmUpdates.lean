import Lemnos.Library.Runs
import Lemnos.Linux.Pwm

namespace Lemnos.Linux

open Lemnos.Core Bus Library Library.Frames Library.Runs

namespace PwmWrite

def apply (write : PwmWrite) (configuration : PwmConfiguration) : PwmConfiguration :=
  match write with
  | .enable enabled => { configuration with enabled }
  | .period periodNs => { configuration with periodNs }
  | .dutyCycle dutyCycleNs => { configuration with dutyCycleNs }
  | .polarity value => { configuration with polarity := value }

def step (write : PwmWrite) (configuration : PwmConfiguration) : Option PwmConfiguration :=
  some (write.apply configuration)

end PwmWrite

/-- What the kernel asks of a change: the duty does not exceed the period, and only a disabled channel changes its
shape. -/
def Permitted (before after : PwmConfiguration) : Prop :=
  after.dutyCycleNs ≤ after.periodNs ∧
    (before.enabled = true → after.periodNs = before.periodNs ∧ after.dutyCycleNs = before.dutyCycleNs ∧
      after.polarity = before.polarity)

def PermittedWrite (write : PwmWrite) (configuration : PwmConfiguration) : Prop :=
  Permitted configuration (write.apply configuration)

def writeWhen (condition : Bool) (write : PwmWrite) : List PwmWrite := if condition then [write] else []

def timingWrites (current target : PwmConfiguration) : List PwmWrite :=
  let period := writeWhen (current.periodNs ≠ target.periodNs) (.period target.periodNs)
  let dutyCycle := writeWhen (current.dutyCycleNs ≠ target.dutyCycleNs) (.dutyCycle target.dutyCycleNs)
  if target.periodNs > current.periodNs || target.dutyCycleNs > current.periodNs then period ++ dutyCycle
  else dutyCycle ++ period

def shapeWrites (current target : PwmConfiguration) : List PwmWrite :=
  timingWrites current target ++ writeWhen (current.polarity ≠ target.polarity) (.polarity target.polarity)

def updateWrites (current target : PwmConfiguration) : List PwmWrite :=
  let disables := LinuxSysfsPwmSession.needsDisable current target
  writeWhen disables (.enable false) ++ shapeWrites current target ++
    writeWhen (disables || current.enabled ≠ target.enabled) (.enable target.enabled)

section Plans

variable {current target configuration : PwmConfiguration}

theorem run_writeWhen {condition : Bool} {write : PwmWrite}
    (h : condition = false → write.apply configuration = configuration) :
    run PwmWrite.step (writeWhen condition write) configuration = some (write.apply configuration) := by
  cases condition with
  | true => rfl
  | false =>
    rw [h rfl]
    rfl

theorem along_writeWhen {condition : Bool} {write : PwmWrite}
    (h : condition = true → PermittedWrite write configuration) :
    Along PwmWrite.step PermittedWrite (writeWhen condition write) configuration := by
  cases condition with
  | true => exact ⟨h rfl, fun _ _ => trivial⟩
  | false => trivial

theorem run_periodWrite (h : configuration.periodNs = current.periodNs) :
    run PwmWrite.step (writeWhen (current.periodNs ≠ target.periodNs) (.period target.periodNs)) configuration =
      some { configuration with periodNs := target.periodNs } := by
  apply run_writeWhen
  intro hsame
  have htarget : configuration.periodNs = target.periodNs := h.trans (by simpa using hsame)
  rw [PwmWrite.apply, ← htarget]

theorem run_dutyWrite (h : configuration.dutyCycleNs = current.dutyCycleNs) :
    run PwmWrite.step (writeWhen (current.dutyCycleNs ≠ target.dutyCycleNs) (.dutyCycle target.dutyCycleNs))
      configuration = some { configuration with dutyCycleNs := target.dutyCycleNs } := by
  apply run_writeWhen
  intro hsame
  have htarget : configuration.dutyCycleNs = target.dutyCycleNs := h.trans (by simpa using hsame)
  rw [PwmWrite.apply, ← htarget]

theorem run_timingWrites (hperiod : configuration.periodNs = current.periodNs)
    (hduty : configuration.dutyCycleNs = current.dutyCycleNs) :
    run PwmWrite.step (timingWrites current target) configuration =
      some { configuration with periodNs := target.periodNs, dutyCycleNs := target.dutyCycleNs } := by
  unfold timingWrites
  split
  · rw [run_append (run_periodWrite hperiod)]
    exact run_dutyWrite hduty
  · rw [run_append (run_dutyWrite hduty)]
    exact run_periodWrite hperiod

/-- A longer period comes before the duty, and a shorter one after it. -/
theorem along_timingWrites (hperiod : configuration.periodNs = current.periodNs)
    (hduty : configuration.dutyCycleNs = current.dutyCycleNs)
    (hcurrent : current.dutyCycleNs ≤ current.periodNs) (htarget : target.dutyCycleNs ≤ target.periodNs)
    (hoff : current.periodNs ≠ target.periodNs ∨ current.dutyCycleNs ≠ target.dutyCycleNs →
      configuration.enabled = false) :
    Along PwmWrite.step PermittedWrite (timingWrites current target) configuration := by
  have hpermitted {write : PwmWrite} {before : PwmConfiguration} (hoff : before.enabled = false)
      (hfits : (write.apply before).dutyCycleNs ≤ (write.apply before).periodNs) :
      PermittedWrite write before := by
    refine ⟨hfits, fun henabled => ?_⟩
    rw [hoff] at henabled
    cases henabled
  unfold timingWrites
  split
  · rename_i hexpand
    have hlonger : current.periodNs ≤ target.periodNs := by
      simp only [Bool.or_eq_true, decide_eq_true_eq] at hexpand
      rcases hexpand with hperiod | hduty
      · exact UInt64.le_of_lt hperiod
      · exact UInt64.le_of_lt (UInt64.lt_of_lt_of_le hduty htarget)
    refine Along.append (along_writeWhen ?_) (run_periodWrite hperiod) (along_writeWhen ?_)
    · intro hchanged
      apply hpermitted (hoff (.inl (of_decide_eq_true hchanged)))
      change configuration.dutyCycleNs ≤ target.periodNs
      rw [hduty]
      exact UInt64.le_trans hcurrent hlonger
    · intro hchanged
      exact hpermitted (hoff (.inr (of_decide_eq_true hchanged))) htarget
  · rename_i hshrink
    have hfits : target.dutyCycleNs ≤ current.periodNs := by
      simp only [Bool.or_eq_true, decide_eq_true_eq, not_or] at hshrink
      exact UInt64.not_lt.mp hshrink.2
    refine Along.append (along_writeWhen ?_) (run_dutyWrite hduty) (along_writeWhen ?_)
    · intro hchanged
      apply hpermitted (hoff (.inr (of_decide_eq_true hchanged)))
      change target.dutyCycleNs ≤ configuration.periodNs
      rw [hperiod]
      exact hfits
    · intro hchanged
      exact hpermitted (hoff (.inl (of_decide_eq_true hchanged))) htarget

theorem run_shapeWrites (hperiod : configuration.periodNs = current.periodNs)
    (hduty : configuration.dutyCycleNs = current.dutyCycleNs)
    (hpolarity : configuration.polarity = current.polarity) :
    run PwmWrite.step (shapeWrites current target) configuration =
      some { target with enabled := configuration.enabled } := by
  rw [shapeWrites, run_append (run_timingWrites hperiod hduty)]
  apply run_writeWhen
  intro hsame
  have htarget : configuration.polarity = target.polarity := hpolarity.trans (by simpa using hsame)
  rw [PwmWrite.apply, ← htarget]

theorem along_shapeWrites (hperiod : configuration.periodNs = current.periodNs)
    (hduty : configuration.dutyCycleNs = current.dutyCycleNs)
    (hcurrent : current.dutyCycleNs ≤ current.periodNs) (htarget : target.dutyCycleNs ≤ target.periodNs)
    (hoff : current.periodNs ≠ target.periodNs ∨ current.dutyCycleNs ≠ target.dutyCycleNs ∨
      current.polarity ≠ target.polarity → configuration.enabled = false) :
    Along PwmWrite.step PermittedWrite (shapeWrites current target) configuration := by
  refine Along.append (along_timingWrites hperiod hduty hcurrent htarget ?_) (run_timingWrites hperiod hduty)
    (along_writeWhen ?_)
  · rintro (hchanged | hchanged)
    · exact hoff (.inl hchanged)
    · exact hoff (.inr (.inl hchanged))
  · intro hchanged
    have hdisabled := hoff (.inr (.inr (of_decide_eq_true hchanged)))
    exact ⟨htarget, fun henabled => by rw [hdisabled] at henabled; cases henabled⟩

def disabled (current target : PwmConfiguration) : PwmConfiguration :=
  { current with enabled := current.enabled && !LinuxSysfsPwmSession.needsDisable current target }

theorem run_disable (current target : PwmConfiguration) :
    run PwmWrite.step (writeWhen (LinuxSysfsPwmSession.needsDisable current target) (.enable false)) current =
      some (disabled current target) := by
  unfold disabled
  cases LinuxSysfsPwmSession.needsDisable current target with
  | true => simp [writeWhen, run, PwmWrite.step, PwmWrite.apply]
  | false => simp [writeWhen, run]

theorem disabled_of_changed
    (h : current.periodNs ≠ target.periodNs ∨ current.dutyCycleNs ≠ target.dutyCycleNs ∨
    current.polarity ≠ target.polarity) : (disabled current target).enabled = false := by
  rcases h with h | h | h <;> simp [disabled, LinuxSysfsPwmSession.needsDisable, h]

theorem enabled_of_unwritten
    (h : (LinuxSysfsPwmSession.needsDisable current target || decide (current.enabled ≠ target.enabled)) = false) :
    (disabled current target).enabled = target.enabled := by
  simp only [Bool.or_eq_false_iff, decide_eq_false_iff_not, not_not] at h
  simp [disabled, h.1, h.2]

theorem run_shape_of_disabled (current target : PwmConfiguration) :
    run PwmWrite.step (shapeWrites current target) (disabled current target) =
      some { target with enabled := (disabled current target).enabled } :=
  run_shapeWrites rfl rfl rfl

theorem run_updateWrites (current target : PwmConfiguration) :
    run PwmWrite.step (updateWrites current target) current = some target := by
  unfold updateWrites
  rw [List.append_assoc, run_append (run_disable current target),
    run_append (run_shape_of_disabled current target)]
  apply run_writeWhen
  intro hunwritten
  rw [PwmWrite.apply, enabled_of_unwritten hunwritten]

theorem along_updateWrites (hcurrent : current.dutyCycleNs ≤ current.periodNs)
    (htarget : target.dutyCycleNs ≤ target.periodNs) :
    Along PwmWrite.step PermittedWrite (updateWrites current target) current := by
  unfold updateWrites
  rw [List.append_assoc]
  have hdisable : Along PwmWrite.step PermittedWrite
      (writeWhen (LinuxSysfsPwmSession.needsDisable current target) (.enable false)) current :=
    along_writeWhen fun _ => ⟨hcurrent, fun _ => ⟨rfl, rfl, rfl⟩⟩
  have henable : Along PwmWrite.step PermittedWrite
      (writeWhen (LinuxSysfsPwmSession.needsDisable current target || current.enabled ≠ target.enabled)
        (.enable target.enabled)) { target with enabled := (disabled current target).enabled } :=
    along_writeWhen fun _ => ⟨htarget, fun _ => ⟨rfl, rfl, rfl⟩⟩
  have hshape : Along PwmWrite.step PermittedWrite (shapeWrites current target) (disabled current target) :=
    along_shapeWrites rfl rfl hcurrent htarget disabled_of_changed
  exact hdisable.append (run_disable current target) (hshape.append (run_shape_of_disabled current target) henable)

end Plans

namespace PwmWrite

def call (session : LinuxSysfsPwmSession) (write : PwmWrite) : FileCall :=
  .write (session.filePath write.fileName) write.text

theorem trimmed_text (write : PwmWrite) : trimmed (some write.text) = some write.text := by
  have hnumber (n : UInt64) : trimmed (some n.toNat.repr) = some n.toNat.repr := by
    apply trimmed_of_digits Nat.repr_ne_empty
    intro c hc
    rw [Nat.toList_repr] at hc
    exact Nat.isDigit_of_mem_toDigits (by decide) (by decide) hc
  cases write with
  | enable enabled => cases enabled <;> decide
  | period periodNs => exact hnumber periodNs
  | dutyCycle dutyCycleNs => exact hnumber dutyCycleNs
  | polarity value => cases value <;> decide

end PwmWrite

namespace LinuxSysfsPwmSession

variable (session : LinuxSysfsPwmSession)

section Attributes

variable {files : String → Option String}

def shownAttribute {α : Type} (files : String → Option String) (name : String)
    (parse : String → String → BusResult α) : Option α :=
  (trimmed (files (session.filePath name))).bind fun raw => (parse raw "pwm.get_configuration").toOption

def channelState (files : String → Option String) : Option PwmConfiguration := do
  let periodNs ← session.shownAttribute files "period" (session.parseU64 · · "period")
  let dutyCycleNs ← session.shownAttribute files "duty_cycle" (session.parseU64 · · "duty_cycle")
  let enabled ← session.shownAttribute files "enable" session.parseEnabled
  let polarity ← session.shownAttribute files "polarity" session.parsePolarity
  return { periodNs, dutyCycleNs, enabled, polarity }

theorem channelState_eq_some {configuration : PwmConfiguration} :
    session.channelState files = some configuration ↔
      session.shownAttribute files "period" (session.parseU64 · · "period") = some configuration.periodNs ∧
      session.shownAttribute files "duty_cycle" (session.parseU64 · · "duty_cycle") =
        some configuration.dutyCycleNs ∧
      session.shownAttribute files "enable" session.parseEnabled = some configuration.enabled ∧
      session.shownAttribute files "polarity" session.parsePolarity = some configuration.polarity := by
  simp only [channelState, Option.bind_eq_bind, Option.bind_eq_some_iff, Option.pure_def, Option.some.injEq]
  constructor
  · rintro ⟨_, hperiod, _, hduty, _, henabled, _, hpolarity, rfl⟩
    exact ⟨hperiod, hduty, henabled, hpolarity⟩
  · rintro ⟨hperiod, hduty, henabled, hpolarity⟩
    exact ⟨_, hperiod, _, hduty, _, henabled, _, hpolarity, rfl⟩

theorem parseU64_text (n : UInt64) (operation field : String) :
    session.parseU64 n.toNat.repr operation field = .ok n := by
  rw [parseU64, Decimal.parse_repr n.toNat_lt_size]
  simp

theorem shownAttribute_written {α : Type} (write : PwmWrite) (parse : String → String → BusResult α) :
    session.shownAttribute ((write.call session).applied files) write.fileName parse =
      (parse write.text "pwm.get_configuration").toOption := by
  rw [shownAttribute, PwmWrite.call, FileCall.applied, Function.update_self, write.trimmed_text]
  rfl

theorem shownAttribute_unwritten {α : Type} {name : String} (write : PwmWrite)
    (parse : String → String → BusResult α)
    (hname : name.toList.head? ≠ some '/') (hother : name ≠ write.fileName) :
    session.shownAttribute ((write.call session).applied files) name parse =
      session.shownAttribute files name parse := by
  have hfile : write.fileName.toList.head? ≠ some '/' := by cases write <;> simp [PwmWrite.fileName]
  have hpath : session.filePath name ≠ session.filePath write.fileName := fun hsame =>
    hother (joinPath_inj hname hfile hsame)
  rw [shownAttribute, PwmWrite.call, FileCall.applied, Function.update_of_ne hpath, shownAttribute]

theorem channelState_written {configuration : PwmConfiguration} (write : PwmWrite)
    (h : session.channelState files = some configuration) :
    session.channelState ((write.call session).applied files) = some (write.apply configuration) := by
  rw [channelState_eq_some] at h ⊢
  obtain ⟨hperiod, hduty, henabled, hpolarity⟩ := h
  have hkept {α : Type} {name : String} {parse : String → String → BusResult α} {a : α}
      (h : session.shownAttribute files name parse = some a) (hname : name.toList.head? ≠ some '/')
      (hother : name ≠ write.fileName) :
      session.shownAttribute ((write.call session).applied files) name parse = some a :=
    (session.shownAttribute_unwritten write parse hname hother).trans h
  have hperiod' := hkept hperiod (by decide)
  have hduty' := hkept hduty (by decide)
  have henabled' := hkept henabled (by decide)
  have hpolarity' := hkept hpolarity (by decide)
  cases write with
  | enable enabled =>
    refine ⟨hperiod' (by simp [PwmWrite.fileName]), hduty' (by simp [PwmWrite.fileName]),
      ?_, hpolarity' (by simp [PwmWrite.fileName])⟩
    refine (session.shownAttribute_written (.enable enabled) _).trans ?_
    cases enabled <;> rfl
  | period periodNs =>
    refine ⟨?_, hduty' (by simp [PwmWrite.fileName]),
      henabled' (by simp [PwmWrite.fileName]), hpolarity' (by simp [PwmWrite.fileName])⟩
    refine (session.shownAttribute_written (.period periodNs) _).trans ?_
    exact congrArg Except.toOption (session.parseU64_text periodNs _ _)
  | dutyCycle dutyCycleNs =>
    refine ⟨hperiod' (by simp [PwmWrite.fileName]), ?_,
      henabled' (by simp [PwmWrite.fileName]), hpolarity' (by simp [PwmWrite.fileName])⟩
    refine (session.shownAttribute_written (.dutyCycle dutyCycleNs) _).trans ?_
    exact congrArg Except.toOption (session.parseU64_text dutyCycleNs _ _)
  | polarity value =>
    refine ⟨hperiod' (by simp [PwmWrite.fileName]), hduty' (by simp [PwmWrite.fileName]),
      henabled' (by simp [PwmWrite.fileName]), ?_⟩
    refine (session.shownAttribute_written (.polarity value) _).trans ?_
    cases value <;> rfl

end Attributes

section Performing

variable (host : SysfsHost)

def perform (operation : String) : List PwmWrite → Pwm Unit
  | [] => pure ()
  | write :: rest => do
    session.writeAttribute host write operation
    perform operation rest

theorem perform_append (operation : String) (writes rest : List PwmWrite) :
    session.perform host operation (writes ++ rest) =
      (do session.perform host operation writes; session.perform host operation rest) := by
  induction writes with
  | nil => simp [perform]
  | cons write writes ih => simp [perform, ih]

theorem perform_writeWhen (operation : String) (condition : Bool) (write : PwmWrite) :
    session.perform host operation (writeWhen condition write) =
      if condition then session.writeAttribute host write operation else pure () := by
  cases condition <;> simp [writeWhen, perform]

theorem applyTiming_eq (current target : PwmConfiguration) (operation : String) :
    session.applyTiming host current target operation =
      session.perform host operation (timingWrites current target) := by
  unfold applyTiming timingWrites
  by_cases hexpand : (target.periodNs > current.periodNs || target.dutyCycleNs > current.periodNs) = true
  · by_cases hperiod : current.periodNs = target.periodNs <;>
      by_cases hduty : current.dutyCycleNs = target.dutyCycleNs <;>
      simp [hexpand, hperiod, hduty, writeWhen, perform, writePeriod, writeDutyCycle]
  · by_cases hperiod : current.periodNs = target.periodNs <;>
      by_cases hduty : current.dutyCycleNs = target.dutyCycleNs <;>
      simp [hexpand, hperiod, hduty, writeWhen, perform, writePeriod, writeDutyCycle]

theorem exec_applyConfiguration_of_current {current target : PwmConfiguration} {sysfs asked : Sysfs}
    (operation : String) (hvalid : session.validateConfiguration target = .ok ())
    (hcurrent : (session.currentConfiguration host).exec sysfs = (.ok current, asked)) :
    (session.applyConfiguration host target operation).exec sysfs =
      (session.perform host operation (updateWrites current target)).exec asked := by
  unfold applyConfiguration
  rw [hvalid, exec_bind_of_ok (exec_ofExcept _ _), exec_bind_of_ok hcurrent]
  congr 1
  unfold updateWrites shapeWrites
  simp only [perform_append, perform_writeWhen, applyTiming_eq, writeEnable, writePolarity, decide_eq_true_eq]
  by_cases hpolarity : current.polarity = target.polarity <;>
    cases needsDisable current target <;>
    by_cases henabled : current.enabled = target.enabled <;>
    simp [hpolarity, henabled]

theorem exec_writeAttribute (write : PwmWrite) (operation : String) (sysfs : Sysfs) :
    (session.writeAttribute host write operation).exec sysfs =
      match host.write sysfs.calls (session.filePath write.fileName) write.text with
      | .error error =>
        (.error (session.transportFailure operation
            s!"failed to write '{session.filePath write.fileName}' with value '{write.text}': {error}"),
          sysfs.called (write.call session))
      | .ok () => (.ok (), sysfs.apply (write.call session)) := by
  rw [writeAttribute, writeRequiredFile, exec_adapt, host.exec_writeText]
  cases host.write sysfs.calls (session.filePath write.fileName) write.text <;> rfl

theorem exec_readRequiredFile (path operation : String) (sysfs : Sysfs) :
    ∃ result, (session.readRequiredFile host path operation).exec sysfs = (result, sysfs.called (.read path)) ∧
      ∀ raw, result = .ok raw ↔ host.read sysfs.calls path = .ok () ∧ trimmed (sysfs.files path) = some raw := by
  rw [readRequiredFile, exec_bind, exec_adapt, host.exec_readTrimmed]
  cases host.read sysfs.calls path with
  | error error => exact ⟨_, rfl, fun raw => by simp⟩
  | ok answered =>
    simp only [Except.map, Except.mapError]
    cases trimmed (sysfs.files path) with
    | none => exact ⟨.error _, rfl, fun raw => by simp⟩
    | some value => exact ⟨.ok value, rfl, fun raw => by simp⟩

theorem queries_readAttribute {α : Type} (name : String) (parse : String → String → BusResult α) :
    host.Queries (session.readAttribute host name parse) [.read (session.filePath name)]
      (session.shownAttribute · name parse) := by
  intro sysfs
  obtain ⟨contents, hexec, hcontents⟩ :=
    session.exec_readRequiredFile host (session.filePath name) "pwm.get_configuration" sysfs
  unfold readAttribute shownAttribute
  simp only [SysfsHost.Grants, SysfsHost.answer, and_true, Option.bind_eq_some_iff]
  cases contents with
  | error error =>
    refine ⟨.error error, _, exec_bind_of_error hexec, by simp [FileCall.IsWrite], fun _ => rfl, fun a => ?_⟩
    simp only [reduceCtorEq, false_iff]
    rintro ⟨hanswered, raw, hraw, -⟩
    cases (hcontents raw).mpr ⟨hanswered, hraw⟩
  | ok raw =>
    obtain ⟨hanswered, hraw⟩ := (hcontents raw).mp rfl
    refine ⟨parse raw "pwm.get_configuration", _, ?_, by simp [FileCall.IsWrite], fun _ => rfl, fun a => ?_⟩
    · rw [exec_bind_of_ok hexec, exec_ofExcept]
      rfl
    · rw [hraw]
      cases hparse : parse raw "pwm.get_configuration" <;> simp [hanswered, hparse, Except.toOption]

def queries : List FileCall :=
  ["period", "duty_cycle", "enable", "polarity"].map fun name => .read (session.filePath name)

theorem queries_currentConfiguration :
    host.Queries (session.currentConfiguration host) session.queries session.channelState := by
  apply (session.queries_readAttribute host _ _).bind
  intro periodNs
  apply (session.queries_readAttribute host _ _).bind
  intro dutyCycleNs
  apply (session.queries_readAttribute host _ _).bind
  intro enabled
  exact (session.queries_readAttribute host _ _).bind fun polarity => .pure _

end Performing

section Refinement

variable {files : String → Option String} {configuration : PwmConfiguration}

/-- A write finds a channel that it may change as it does. -/
def KeepsConstraints (call : FileCall) (files : String → Option String) : Prop :=
  call.IsWrite → ∃ before after, session.channelState files = some before ∧
    session.channelState (call.applied files) = some after ∧ Permitted before after

theorem along_keepsConstraints_of_reads {calls : List FileCall} (h : ∀ call ∈ calls, ¬call.IsWrite)
    (files : String → Option String) : Along FileCall.step session.KeepsConstraints calls files := by
  induction calls generalizing files with
  | nil => trivial
  | cons call calls ih =>
    refine ⟨fun hwrite => absurd hwrite (h call List.mem_cons_self), fun files' _ => ?_⟩
    exact ih (fun later hlater => h later (List.mem_cons_of_mem _ hlater)) files'

theorem run_calls {writes : List PwmWrite} {reached : PwmConfiguration}
    (hshown : session.channelState files = some configuration)
    (hrun : run PwmWrite.step writes configuration = some reached) :
    ∃ files', run FileCall.step (writes.map (·.call session)) files = some files' ∧
      session.channelState files' = some reached := by
  induction writes generalizing files configuration with
  | nil =>
    cases hrun
    exact ⟨files, rfl, hshown⟩
  | cons write writes ih =>
    obtain ⟨next, hstep, hrest⟩ := run_cons hrun
    cases hstep
    exact ih (session.channelState_written write hshown) hrest

theorem along_calls {writes : List PwmWrite} (hshown : session.channelState files = some configuration)
    (halong : Along PwmWrite.step PermittedWrite writes configuration) :
    Along FileCall.step session.KeepsConstraints (writes.map (·.call session)) files := by
  induction writes generalizing files configuration with
  | nil => trivial
  | cons write writes ih =>
    have hwritten := session.channelState_written write hshown
    refine ⟨fun _ => ⟨configuration, write.apply configuration, hshown, hwritten, halong.1⟩,
      fun files' hstep => ?_⟩
    cases hstep
    exact ih hwritten (halong.2 _ rfl)

variable {host : SysfsHost}

theorem exec_perform_of_granted {writes : List PwmWrite} (operation : String) {sysfs : Sysfs}
    (h : host.Grants sysfs.calls (writes.map (·.call session))) :
    ∃ files, (session.perform host operation writes).exec sysfs =
        (.ok (), ⟨files, sysfs.calls ++ writes.map (·.call session)⟩) ∧
      run FileCall.step (writes.map (·.call session)) sysfs.files = some files := by
  induction writes generalizing sysfs with
  | nil => exact ⟨sysfs.files, by simp [perform]; rfl, rfl⟩
  | cons write writes ih =>
    have hgranted : host.write sysfs.calls (session.filePath write.fileName) write.text = .ok () := h.1
    obtain ⟨files, hexec, hrun⟩ := @ih (sysfs.apply (write.call session)) h.2
    refine ⟨files, ?_, hrun⟩
    have hfirst := session.exec_writeAttribute host write operation sysfs
    rw [hgranted] at hfirst
    rw [perform, exec_bind_of_ok hfirst, hexec, Sysfs.apply_calls, List.append_assoc]
    rfl

theorem grants_calls (hwrites : ∀ calls path text, host.write calls path text = .ok ())
    (writes : List PwmWrite)
    (made : List FileCall) : host.Grants made (writes.map (·.call session)) := by
  induction writes generalizing made with
  | nil => trivial
  | cons write writes ih => exact ⟨hwrites _ _ _, ih _⟩

theorem grants_queries (hreads : ∀ calls path, host.read calls path = .ok ()) (made : List FileCall) :
    host.Grants made session.queries := by
  simp [queries, SysfsHost.Grants, SysfsHost.answer, hreads]

theorem validateConfiguration_eq_ok (target : PwmConfiguration) :
    session.validateConfiguration target = .ok () ↔
      target.periodNs ≠ 0 ∧ target.dutyCycleNs ≤ target.periodNs := by
  unfold validateConfiguration
  by_cases hperiod : target.periodNs = 0
  · simp [hperiod]
  · rw [if_neg hperiod]
    by_cases hduty : target.dutyCycleNs > target.periodNs
    · simp [hduty]
    · rw [if_neg hduty]
      exact iff_of_true rfl ⟨hperiod, UInt64.not_lt.mp hduty⟩

end Refinement

theorem applyConfiguration_keeps_constraints {host : SysfsHost} {sysfs : Sysfs}
    {current target : PwmConfiguration}
    (operation : String) (hcurrent : session.channelState sysfs.files = some current)
    (hfits : current.dutyCycleNs ≤ current.periodNs) (hvalid : session.validateConfiguration target = .ok ())
    (hwrites : ∀ calls path text, host.write calls path text = .ok ()) :
    let after := (session.applyConfiguration host target operation).exec sysfs
    ∃ made, after.2.calls = sysfs.calls ++ made ∧ run FileCall.step made sysfs.files = some after.2.files ∧
      Along FileCall.step session.KeepsConstraints made sysfs.files ∧
      (after.1 = .ok () → session.channelState after.2.files = some target) ∧
      ((∀ calls path, host.read calls path = .ok ()) → after.1 = .ok ()) := by
  obtain ⟨result, made, hexec, hreads, hasked, hresult⟩ := session.queries_currentConfiguration host sysfs
  cases result with
  | error error =>
    have hafter : (session.applyConfiguration host target operation).exec sysfs =
        (.error error, { sysfs with calls := sysfs.calls ++ made }) := by
      unfold applyConfiguration
      rw [hvalid, exec_bind_of_ok (exec_ofExcept _ _), exec_bind_of_error hexec]
    rw [hafter]
    refine ⟨made, rfl, FileCall.run_of_not_isWrite hreads _, session.along_keepsConstraints_of_reads hreads _,
      (fun hok => nomatch hok), fun hanswered => ?_⟩
    cases (hresult current).mpr ⟨session.grants_queries hanswered _, hcurrent⟩
  | ok read =>
    obtain ⟨hgranted, hshown⟩ := (hresult read).mp rfl
    obtain rfl : made = session.queries := hasked rfl
    obtain rfl : read = current := Option.some.inj (hshown.symm.trans hcurrent)
    obtain ⟨-, htarget⟩ := (session.validateConfiguration_eq_ok target).mp hvalid
    rw [session.exec_applyConfiguration_of_current host operation hvalid hexec]
    obtain ⟨files, hafter, hrun⟩ := @exec_perform_of_granted session host (updateWrites read target) operation
      { sysfs with calls := sysfs.calls ++ session.queries } (session.grants_calls hwrites _ _)
    obtain ⟨files', hrun', hreached⟩ := session.run_calls hshown (run_updateWrites read target)
    obtain rfl : files = files' := Option.some.inj (hrun.symm.trans hrun')
    rw [hafter]
    have hqueried : run FileCall.step session.queries sysfs.files = some sysfs.files :=
      FileCall.run_of_not_isWrite hreads _
    refine ⟨session.queries ++ (updateWrites read target).map (·.call session), by simp, ?_, ?_,
      fun _ => hreached,
      fun _ => rfl⟩
    · rw [run_append hqueried, hrun']
    · apply (session.along_keepsConstraints_of_reads hreads _).append hqueried
      exact session.along_calls hshown (along_updateWrites hfits htarget)

end LinuxSysfsPwmSession

def fanChannel : LinuxSysfsPwmSession where
  device := { gpioLineDescriptor with
    interface := .pwm, kind := .pwmChannel, address := some (.pwmChannel "pwmchip0" 1) }
  metadata := { access := .exclusive, state := .idle }
  paths := {}
  chipName := "pwmchip0"
  channel := 1
  exportedBySession := true

def fanFiles (path : String) : Option String :=
  ([("/sys/class/pwm/pwmchip0/pwm1/period", "40000\n"), ("/sys/class/pwm/pwmchip0/pwm1/duty_cycle", "10000\n"),
    ("/sys/class/pwm/pwmchip0/pwm1/enable", "1\n"), ("/sys/class/pwm/pwmchip0/pwm1/polarity", "normal\n")] :
    List (String × String)).lookup path

def spinning : PwmConfiguration := ⟨40000, 10000, true, .normal⟩

def granting : SysfsHost where
  read _ _ := .ok ()
  write _ _ _ := .ok ()
  exists_ _ _ := true

theorem fan_is_slowed_within_constraints :
    let after := (fanChannel.applyConfiguration granting ⟨20000, 20000, true, .inversed⟩ "pwm.configure").exec
      { files := fanFiles }
    ∃ made, after.2.calls = [] ++ made ∧ run FileCall.step made fanFiles = some after.2.files ∧
      Along FileCall.step fanChannel.KeepsConstraints made fanFiles ∧
      (after.1 = .ok () → fanChannel.channelState after.2.files = some ⟨20000, 20000, true, .inversed⟩) ∧
      ((∀ calls path, granting.read calls path = .ok ()) → after.1 = .ok ()) := by
  have hshown : fanChannel.channelState fanFiles = some spinning := by decide +kernel
  exact @LinuxSysfsPwmSession.applyConfiguration_keeps_constraints fanChannel granting { files := fanFiles } spinning
    ⟨20000, 20000, true, .inversed⟩ "pwm.configure" hshown (by decide) (by decide) (fun _ _ _ => rfl)

end Lemnos.Linux
