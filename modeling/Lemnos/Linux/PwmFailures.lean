import Lemnos.Linux.PwmUpdates

namespace Lemnos.Linux

open Lemnos.Core Bus Library.Frames Library.Runs

inductive PwmUpdate where
  | setPeriodNs (periodNs : UInt64)
  | setDutyCycleNs (dutyCycleNs : UInt64)
  | configure (configuration : PwmConfiguration)
  deriving DecidableEq

namespace PwmUpdate

variable (host : SysfsHost) (session : LinuxSysfsPwmSession)

def exec (update : PwmUpdate) : LinuxSysfsPwmSession.Call Unit :=
  match update with
  | .setPeriodNs periodNs => LinuxSysfsPwmSession.setPeriodNs host periodNs
  | .setDutyCycleNs dutyCycleNs => LinuxSysfsPwmSession.setDutyCycleNs host dutyCycleNs
  | .configure configuration => LinuxSysfsPwmSession.configure host configuration

def target (update : PwmUpdate) (current : PwmConfiguration) : PwmConfiguration :=
  match update with
  | .setPeriodNs periodNs => { current with periodNs }
  | .setDutyCycleNs dutyCycleNs => { current with dutyCycleNs }
  | .configure configuration => configuration

def queries (update : PwmUpdate) : List FileCall :=
  match update with
  | .setPeriodNs _ | .setDutyCycleNs _ => session.queries ++ session.queries
  | .configure _ => session.queries

def writes (update : PwmUpdate) (current : PwmConfiguration) : List FileCall :=
  (updateWrites current (update.target current)).map (·.call session)

/-- The update comes to switch the channel off, and a later write of it is refused. -/
def CutShort (update : PwmUpdate) (current : PwmConfiguration) (opened : PwmOpened) : Prop :=
  opened.session.metadata.state ≠ .closed ∧ opened.session.metadata.access.canWrite = true ∧
    opened.session.validateConfiguration (update.target current) = .ok () ∧
    LinuxSysfsPwmSession.needsDisable current (update.target current) = true ∧
    host.Grants opened.sysfs.calls
      (update.queries opened.session ++ [(PwmWrite.enable false).call opened.session]) ∧
    ¬host.Grants opened.sysfs.calls (update.queries opened.session ++ update.writes opened.session current)

def effect (update : PwmUpdate) : Pwm Unit :=
  match update with
  | .setPeriodNs periodNs => do
    let target ← session.currentConfiguration host
    session.applyConfiguration host { target with periodNs } "pwm.set_period"
  | .setDutyCycleNs dutyCycleNs => do
    let target ← session.currentConfiguration host
    session.applyConfiguration host { target with dutyCycleNs } "pwm.set_duty_cycle"
  | .configure configuration => session.applyConfiguration host configuration "pwm.configure"

end PwmUpdate

section Failures

variable {host : SysfsHost} {session : LinuxSysfsPwmSession} {current target : PwmConfiguration}

theorem keepsEnabled_of_shapeWrites {write : PwmWrite} (h : write ∈ shapeWrites current target)
    (configuration : PwmConfiguration) : (write.apply configuration).enabled = configuration.enabled := by
  have hwhen {condition : Bool} {other : PwmWrite} (hmem : write ∈ writeWhen condition other) : write = other :=
    by
    cases condition <;> simp [writeWhen] at hmem
    exact hmem
  unfold shapeWrites timingWrites at h
  rcases List.mem_append.mp h with h | h
  · split at h <;> rcases List.mem_append.mp h with h | h <;> rw [hwhen h] <;> rfl
  · rw [hwhen h]
    rfl

theorem updateWrites_of_needsDisable (h : LinuxSysfsPwmSession.needsDisable current target = true) :
    updateWrites current target = .enable false :: (shapeWrites current target ++ [.enable target.enabled]) := by
  simp [updateWrites, writeWhen, h]

theorem updateWrites_of_not_needsDisable (henabled : current.enabled = true)
    (h : LinuxSysfsPwmSession.needsDisable current target = false) : updateWrites current target = [] := by
  have hsame : target = current := by
    obtain ⟨period, duty, enabled, polarity⟩ := target
    simp only [LinuxSysfsPwmSession.needsDisable, henabled, Bool.true_and, Bool.or_eq_false_iff,
      decide_eq_false_iff_not, not_not, Bool.not_eq_false'] at h
    obtain ⟨⟨⟨rfl, rfl⟩, rfl⟩, rfl⟩ := h
    rw [← henabled]
  rw [hsame] at h ⊢
  simp [updateWrites, shapeWrites, timingWrites, writeWhen, h]

theorem exec_perform_of_refused {shape : List PwmWrite} {last : PwmWrite} (operation : String) {sysfs : Sysfs}
    {configuration : PwmConfiguration}
    (hshape : ∀ write ∈ shape, ∀ configuration, (write.apply configuration).enabled = configuration.enabled)
    (hshown : session.channelState sysfs.files = some configuration) (hoff : configuration.enabled = false)
    (hrefused : ¬host.Grants sysfs.calls ((shape ++ [last]).map (·.call session))) :
    let after := (session.perform host operation (shape ++ [last])).exec sysfs
    after.1.isOk = false ∧ ∃ reached, session.channelState after.2.files = some reached ∧
      reached.enabled = false := by
  induction shape generalizing sysfs configuration with
  | nil =>
    have hlast := session.exec_writeAttribute host last operation sysfs
    cases hwrite : host.write sysfs.calls (session.filePath last.fileName) last.text with
    | error error =>
      rw [hwrite] at hlast
      rw [List.nil_append, LinuxSysfsPwmSession.perform, exec_bind_of_error hlast]
      exact ⟨rfl, configuration, hshown, hoff⟩
    | ok granted => exact (hrefused ⟨hwrite, trivial⟩).elim
  | cons write shape ih =>
    have hfirst := session.exec_writeAttribute host write operation sysfs
    cases hwrite : host.write sysfs.calls (session.filePath write.fileName) write.text with
    | error error =>
      rw [hwrite] at hfirst
      rw [List.cons_append, LinuxSysfsPwmSession.perform, exec_bind_of_error hfirst]
      exact ⟨rfl, configuration, hshown, hoff⟩
    | ok granted =>
      rw [hwrite] at hfirst
      rw [List.cons_append, LinuxSysfsPwmSession.perform, exec_bind_of_ok hfirst]
      have hstillOff : (write.apply configuration).enabled = false := by
        rw [hshape write List.mem_cons_self, hoff]
      exact @ih (sysfs.apply (write.call session)) (write.apply configuration)
        (fun later hlater => hshape later (List.mem_cons_of_mem _ hlater))
        (session.channelState_written write hshown) hstillOff (fun hrest => hrefused ⟨hwrite, hrest⟩)

theorem exec_disabling_cases (operation : String) {sysfs : Sysfs}
    (hcurrent : session.channelState sysfs.files = some current)
    (hneeds : LinuxSysfsPwmSession.needsDisable current target = true) :
    let after := (session.perform host operation (updateWrites current target)).exec sysfs
    let disable := (PwmWrite.enable false).call session
    let planned := (updateWrites current target).map (·.call session)
    (¬host.Grants sysfs.calls [disable] ∧ after.2.files = sysfs.files) ∨
    (host.Grants sysfs.calls planned ∧ after.1 = .ok ()) ∨
    (host.Grants sysfs.calls [disable] ∧ ¬host.Grants sysfs.calls planned ∧ after.1.isOk = false ∧
      ∃ reached, session.channelState after.2.files = some reached ∧ reached.enabled = false) := by
  intro after disable planned
  have hfirst := session.exec_writeAttribute host (.enable false) operation sysfs
  by_cases hdisable : host.Grants sysfs.calls [disable]
  · right
    by_cases hplanned : host.Grants sysfs.calls planned
    · obtain ⟨files, hexec, -⟩ := session.exec_perform_of_granted operation hplanned
      exact .inl ⟨hplanned, by rw [show after = _ from hexec]⟩
    · have hanswer : host.write sysfs.calls (session.filePath (PwmWrite.enable false).fileName)
          (PwmWrite.enable false).text = .ok () := hdisable.1
      rw [hanswer] at hfirst
      have hafter : after =
        (session.perform host operation (shapeWrites current target ++ [.enable target.enabled])).exec
          (sysfs.apply disable) := by
        simp only [after]
        rw [updateWrites_of_needsDisable hneeds, LinuxSysfsPwmSession.perform, exec_bind_of_ok hfirst]
      have hrest : ¬host.Grants (sysfs.apply disable).calls
          ((shapeWrites current target ++ [PwmWrite.enable target.enabled]).map (·.call session)) := by
        intro hrest
        apply hplanned
        simp only [planned]
        rw [updateWrites_of_needsDisable hneeds]
        exact ⟨hdisable.1, hrest⟩
      have hshown : session.channelState (sysfs.apply disable).files =
          some ((PwmWrite.enable false).apply current) := by
        rw [Sysfs.apply_files]
        exact session.channelState_written (.enable false) hcurrent
      obtain ⟨hfailed, reached, hreached, hoff⟩ :=
        @exec_perform_of_refused host session (shapeWrites current target)
        (.enable target.enabled) operation (sysfs.apply disable) ((PwmWrite.enable false).apply current)
        (fun _ => keepsEnabled_of_shapeWrites) hshown rfl hrest
      rw [← hafter] at hfailed hreached
      exact .inr ⟨hdisable, hplanned, hfailed, reached, hreached, hoff⟩
  · refine .inl ⟨hdisable, ?_⟩
    cases hanswer : host.write sysfs.calls (session.filePath (PwmWrite.enable false).fileName)
      (PwmWrite.enable false).text with
    | ok granted => exact (hdisable ⟨hanswer, trivial⟩).elim
    | error error =>
      rw [hanswer] at hfirst
      simp only [after]
      rw [updateWrites_of_needsDisable hneeds, LinuxSysfsPwmSession.perform, exec_bind_of_error hfirst]
      rfl

theorem applyConfiguration_cases (target : PwmConfiguration) (operation : String) {sysfs : Sysfs}
    (hcurrent : session.channelState sysfs.files = some current) :
    let after := (session.applyConfiguration host target operation).exec sysfs
    ((session.validateConfiguration target = .ok () → ¬host.Grants sysfs.calls session.queries) ∧
      after.2.files = sysfs.files) ∨
    (session.validateConfiguration target = .ok () ∧ host.Grants sysfs.calls session.queries ∧
      after = (session.perform host operation (updateWrites current target)).exec
        { sysfs with calls := sysfs.calls ++ session.queries }) := by
  cases hvalid : session.validateConfiguration target with
  | error error =>
    refine .inl ⟨(fun hok => nomatch hok), ?_⟩
    unfold LinuxSysfsPwmSession.applyConfiguration
    rw [hvalid]
    rfl
  | ok valid =>
    obtain ⟨result, made, hexec, -, hasked, hresult⟩ := session.queries_currentConfiguration host sysfs
    cases result with
    | error error =>
      refine .inl ⟨fun _ hgranted => ?_, ?_⟩
      · cases (hresult current).mpr ⟨hgranted, hcurrent⟩
      · unfold LinuxSysfsPwmSession.applyConfiguration
        rw [hvalid, exec_bind_of_ok (exec_ofExcept _ _), exec_bind_of_error hexec]
    | ok read =>
      obtain ⟨hgranted, hshown⟩ := (hresult read).mp rfl
      obtain rfl : made = session.queries := hasked rfl
      obtain rfl : read = current := Option.some.inj (hshown.symm.trans hcurrent)
      exact .inr ⟨rfl, hgranted, session.exec_applyConfiguration_of_current host operation hvalid hexec⟩

theorem readThenApply_cases (target : PwmConfiguration → PwmConfiguration) (operation : String)
    {sysfs : Sysfs}
    (hcurrent : session.channelState sysfs.files = some current) :
    let after := Effect.exec (do
      let configuration ← session.currentConfiguration host
      session.applyConfiguration host (target configuration) operation) sysfs
    ((session.validateConfiguration (target current) = .ok () →
        ¬host.Grants sysfs.calls (session.queries ++ session.queries)) ∧ after.2.files = sysfs.files) ∨
    (session.validateConfiguration (target current) = .ok () ∧
      host.Grants sysfs.calls (session.queries ++ session.queries) ∧
      after = (session.perform host operation (updateWrites current (target current))).exec
        { sysfs with calls := sysfs.calls ++ (session.queries ++ session.queries) }) := by
  obtain ⟨result, made, hexec, -, hasked, hresult⟩ := session.queries_currentConfiguration host sysfs
  cases result with
  | error error =>
    rw [exec_bind_of_error hexec]
    refine .inl ⟨fun _ hgranted => ?_, rfl⟩
    have hfirst := ((host.grants_append _ _ _).mp hgranted).1
    cases (hresult current).mpr ⟨hfirst, hcurrent⟩
  | ok read =>
    obtain ⟨hgranted, hshown⟩ := (hresult read).mp rfl
    obtain rfl : made = session.queries := hasked rfl
    obtain rfl : read = current := Option.some.inj (hshown.symm.trans hcurrent)
    rw [exec_bind_of_ok hexec, host.grants_append, ← List.append_assoc]
    simp only [hgranted, true_and]
    exact @applyConfiguration_cases host session read (target read) operation
      { sysfs with calls := sysfs.calls ++ session.queries } hcurrent

theorem effect_cases (update : PwmUpdate) {sysfs : Sysfs}
    (hcurrent : session.channelState sysfs.files = some current) :
    let after := (update.effect host session).exec sysfs
    ((session.validateConfiguration (update.target current) = .ok () →
        ¬host.Grants sysfs.calls (update.queries session)) ∧ after.2.files = sysfs.files) ∨
    (session.validateConfiguration (update.target current) = .ok () ∧
      host.Grants sysfs.calls (update.queries session) ∧ ∃ operation,
      after = (session.perform host operation (updateWrites current (update.target current))).exec
        { sysfs with calls := sysfs.calls ++ update.queries session }) := by
  cases update with
  | setPeriodNs periodNs =>
    rcases readThenApply_cases ({ · with periodNs }) "pwm.set_period" hcurrent with hrefused | hdone
    · exact .inl hrefused
    · exact .inr ⟨hdone.1, hdone.2.1, _, hdone.2.2⟩
  | setDutyCycleNs dutyCycleNs =>
    rcases readThenApply_cases ({ · with dutyCycleNs }) "pwm.set_duty_cycle" hcurrent with hrefused | hdone
    · exact .inl hrefused
    · exact .inr ⟨hdone.1, hdone.2.1, _, hdone.2.2⟩
  | configure configuration =>
    rcases applyConfiguration_cases configuration "pwm.configure" hcurrent with hrefused | hdone
    · exact .inl hrefused
    · exact .inr ⟨hdone.1, hdone.2.1, _, hdone.2.2⟩

end Failures

namespace PwmUpdate

variable {host : SysfsHost} {opened : PwmOpened}

open LinuxSysfsPwmSession

theorem exec_guarded_cases (opened : PwmOpened) (operation reason : String)
    (call : LinuxSysfsPwmSession → Pwm Unit) :
    let after := Effect.exec (do ensureOpen operation; ensureWritable operation reason; runCall call) opened
    ((opened.session.metadata.state = .closed ∨ opened.session.metadata.access.canWrite = false) ∧
      after.2 = opened) ∨
    (opened.session.metadata.state ≠ .closed ∧ opened.session.metadata.access.canWrite = true ∧
      let done := (call (setMetadata .beginCall opened).session).exec opened.sysfs
      after.1 = done.1 ∧ after.2.sysfs = done.2) := by
  rcases exec_writing_cases opened operation reason call with ⟨hrefused, -, hsame⟩ | ⟨hopen, hwrite, hrun⟩
  · exact .inl ⟨hrefused, hsame⟩
  · refine .inr ⟨hopen, hwrite, ?_⟩
    rw [hrun, exec_runCall]
    exact ⟨rfl, rfl⟩

theorem exec_cases (update : PwmUpdate) (opened : PwmOpened) :
    let after := (update.exec host).exec opened
    ((opened.session.metadata.state = .closed ∨ opened.session.metadata.access.canWrite = false) ∧
      after.2 = opened) ∨
    (opened.session.metadata.state ≠ .closed ∧ opened.session.metadata.access.canWrite = true ∧
      let done := (update.effect host (setMetadata .beginCall opened).session).exec opened.sysfs
      after.1 = done.1 ∧ after.2.sysfs = done.2) := by
  cases update with
  | setPeriodNs periodNs => exact exec_guarded_cases opened _ _ _
  | setDutyCycleNs dutyCycleNs => exact exec_guarded_cases opened _ _ _
  | configure configuration => exact exec_guarded_cases opened _ _ _

theorem cutShort_iff_of_granted {current : PwmConfiguration} {update : PwmUpdate}
    (hopen : opened.session.metadata.state ≠ .closed) (hwrite : opened.session.metadata.access.canWrite = true)
    (hvalid : opened.session.validateConfiguration (update.target current) = .ok ())
    (hneeds : needsDisable current (update.target current) = true)
    (hgranted : host.Grants opened.sysfs.calls (update.queries opened.session)) :
    update.CutShort host current opened ↔
      host.Grants (opened.sysfs.calls ++ update.queries opened.session)
          [(PwmWrite.enable false).call opened.session] ∧
        ¬host.Grants (opened.sysfs.calls ++ update.queries opened.session)
          (update.writes opened.session current) := by
  constructor
  · rintro ⟨-, -, -, -, hdisable, hrest⟩
    rw [host.grants_append] at hdisable hrest
    exact ⟨hdisable.2, fun hwrites => hrest ⟨hgranted, hwrites⟩⟩
  · rintro ⟨hdisable, hrest⟩
    refine ⟨hopen, hwrite, hvalid, hneeds, ?_, ?_⟩
    · exact (host.grants_append _ _ _).mpr ⟨hgranted, hdisable⟩
    · exact fun hall => hrest ((host.grants_append _ _ _).mp hall).2

/-- An update of an enabled channel that fails leaves it enabled as it was, exactly if it did not come to switch the
channel off before a later write of it was refused. -/
theorem failed_update_keeps_output_iff {current : PwmConfiguration} (update : PwmUpdate)
    (hcurrent : opened.session.channelState opened.sysfs.files = some current)
    (henabled : current.enabled = true) :
    let after := (update.exec host).exec opened
    (after.1.isOk = false → opened.session.channelState after.2.sysfs.files = some current) ↔
      ¬update.CutShort host current opened := by
  intro after
  rcases @exec_cases host update opened with ⟨hrefused, hsame⟩ | ⟨hopen, hwrite, hresult, hsysfs⟩
  · have hkept : opened.session.channelState after.2.sysfs.files = some current := by
      rw [show after.2 = opened from hsame]
      exact hcurrent
    refine iff_of_true (fun _ => hkept) ?_
    rintro ⟨hopen, hwrite, -⟩
    rcases hrefused with hclosed | hreadOnly
    · exact hopen hclosed
    · rw [hreadOnly] at hwrite
      cases hwrite
  · let session := (setMetadata .beginCall opened).session
    have hshown : session.channelState opened.sysfs.files = some current := hcurrent
    rcases @effect_cases host session current update opened.sysfs hshown with
      ⟨hrefused, hfiles⟩ | ⟨hvalid, hgranted, operation, hdone⟩
    · have hkept : opened.session.channelState after.2.sysfs.files = some current := by
        rw [show after.2.sysfs = _ from hsysfs, hfiles]
        exact hcurrent
      refine iff_of_true (fun _ => hkept) ?_
      rintro ⟨-, -, hvalid, -, hgranted, -⟩
      exact hrefused hvalid ((host.grants_append _ _ _).mp hgranted).1
    · cases hneeds : needsDisable current (update.target current) with
      | false =>
        have hnothing := updateWrites_of_not_needsDisable henabled hneeds
        rw [hnothing] at hdone
        have hok : after.1 = .ok () := by
          rw [show after.1 = _ from hresult, hdone]
          rfl
        refine iff_of_true (fun hfailed => ?_) ?_
        · rw [hok] at hfailed
          cases hfailed
        · rintro ⟨-, -, -, hneeds', -⟩
          rw [hneeds] at hneeds'
          cases hneeds'
      | true =>
        have hcases := @exec_disabling_cases host session current (update.target current) operation
          { opened.sysfs with calls := opened.sysfs.calls ++ update.queries session } hshown hneeds
        rw [← hdone] at hcases
        rw [cutShort_iff_of_granted hopen hwrite hvalid hneeds hgranted]
        rcases hcases with ⟨hdisable, hfiles⟩ | ⟨hall, hok⟩ | ⟨hdisable, hrest, hfailed, reached, hreached, hoff⟩
        · refine iff_of_true (fun _ => ?_) fun h => hdisable h.1
          rw [show after.2.sysfs = _ from hsysfs, hfiles]
          exact hcurrent
        · refine iff_of_true (fun hfailed => ?_) fun h => h.2 hall
          rw [show after.1 = _ from hresult, hok] at hfailed
          cases hfailed
        · refine iff_of_false (fun hkept => ?_) fun h => h ⟨hdisable, hrest⟩
          have hsame := hkept ((congrArg Except.isOk hresult).trans hfailed)
          rw [show after.2.sysfs = _ from hsysfs] at hsame
          cases hreached.symm.trans hsame
          rw [henabled] at hoff
          cases hoff

def busyPeriod : SysfsHost :=
  { granting with
    write := fun _ path _ =>
      if path = "/sys/class/pwm/pwmchip0/pwm1/period" then .error "Device or resource busy" else .ok () }

theorem fan_update_keeps_output_iff :
    let after := (exec busyPeriod (.setPeriodNs 20000)).exec ⟨{ files := fanFiles }, fanChannel⟩
    (after.1.isOk = false → fanChannel.channelState after.2.sysfs.files = some spinning) ↔
      ¬CutShort busyPeriod (.setPeriodNs 20000) spinning ⟨{ files := fanFiles }, fanChannel⟩ := by
  have hshown : fanChannel.channelState fanFiles = some spinning := by decide +kernel
  exact @failed_update_keeps_output_iff busyPeriod
    ⟨{ files := fanFiles }, fanChannel⟩ spinning (.setPeriodNs 20000)
    hshown rfl

theorem failed_update_stops_fan :
    let after := (exec busyPeriod (.setPeriodNs 20000)).exec ⟨{ files := fanFiles }, fanChannel⟩
    fanChannel.channelState fanFiles = some spinning ∧ spinning.enabled = true ∧ after.1.isOk = false ∧
      fanChannel.channelState after.2.sysfs.files = some { spinning with enabled := false } := by
  decide +kernel

end PwmUpdate

end Lemnos.Linux
