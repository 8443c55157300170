import Lemnos.Library.Grants
import Lemnos.Linux.GpioLifeCycle

namespace Lemnos.Linux

open Lemnos.Core Bus Library.Frames Library.Grants

/-- A line as the kernel keeps it: what it drives as an output, and what the outside puts on it as an input. -/
structure SysfsLine where
  direction : GpioDirection
  driven : GpioLevel
  outside : GpioLevel
  activeLow : Bool
  edge : Option GpioEdge
  deriving DecidableEq

namespace SysfsLine

def inverted : GpioLevel → GpioLevel
  | .low => .high
  | .high => .low

def polarized (line : SysfsLine) (level : GpioLevel) : GpioLevel :=
  if line.activeLow then inverted level else level

def value (line : SysfsLine) : GpioLevel :=
  match line.direction with
  | .input => line.polarized line.outside
  | .output => line.polarized line.driven

def attributes (line : SysfsLine) : GpioDirection × GpioLevel × Bool × Option GpioEdge :=
  (line.direction, line.value, line.activeLow, line.edge)

def store (root path text : String) (line : SysfsLine) : SysfsLine :=
  if path = joinPath root "active_low" then
    match parseActiveLow text with
    | .ok activeLow => { line with activeLow }
    | .error _ => line
  else if path = joinPath root "direction" then
    if text = "in" then { line with direction := .input }
    else { line with direction := .output, driven := if text = "high" then .high else .low }
  else if path = joinPath root "edge" then
    match parseEdge text with
    | .ok edge => { line with edge }
    | .error _ => line
  else if path = joinPath root "value" then
    { line with driven := line.polarized (if text = "0" then .low else .high) }
  else line

def apply (root : String) (line : SysfsLine) : GpioCall → SysfsLine
  | .write path text => line.store root path text
  | _ => line

def after (host : GpioHost) (root : String) (earlier made : List GpioCall) (line : SysfsLine) : SysfsLine :=
  (granted host.grantsWrite earlier made).foldl (apply root) line

end SysfsLine

namespace LinuxSysfsGpioSession

variable (host : GpioHost) (session : LinuxSysfsGpioSession)

def lineRoot : String := session.paths.gpioLineRoot session.globalLine

def optionalCalls (name value : String) (calls : List GpioCall) : List GpioCall :=
  .exists (session.filePath name) ::
    if host.exists_ calls (session.filePath name) then [.write (session.filePath name) value] else []

def Accepts (name value : String) (needed : Bool) (calls : List GpioCall) : Prop :=
  if host.exists_ calls (session.filePath name) then
    host.write (calls ++ [.exists (session.filePath name)]) (session.filePath name) value = .ok ()
  else needed = false

def activeLowValue (activeLow : Bool) : String := if activeLow then "1" else "0"

def activeLowCalls (configuration : GpioLineConfiguration) (calls : List GpioCall) : List GpioCall :=
  session.optionalCalls host "active_low" (activeLowValue configuration.activeLow) calls

def directionCalls (configuration : GpioLineConfiguration) (calls : List GpioCall) : List GpioCall :=
  session.activeLowCalls host configuration calls ++
    [.write (session.filePath "direction") (directionValue configuration)]

structure LacksEdge (configuration : GpioLineConfiguration) (calls : List GpioCall) : Prop where
  activeLow : session.Accepts host "active_low" (activeLowValue configuration.activeLow)
    configuration.activeLow calls
  direction : host.write (calls ++ session.activeLowCalls host configuration calls)
    (session.filePath "direction") (directionValue configuration) = .ok ()
  asked : configuration.edge.isSome = true
  missing : host.exists_ (calls ++ session.directionCalls host configuration calls)
    (session.filePath "edge") = false

def Admitted (opened : Opened LinuxSysfsGpioSession) (configuration : GpioLineConfiguration) : Prop :=
  opened.session.metadata.state ≠ .closed ∧ opened.session.metadata.access.canWrite = true ∧
    checkConfiguration opened.session.device.id configuration = .ok ()

structure RejectedLate (opened : Opened LinuxSysfsGpioSession) (configuration : GpioLineConfiguration) :
    Prop where
  admitted : Admitted opened configuration
  lacksEdge : opened.session.LacksEdge host configuration opened.kernel.calls

def AlreadyInput (opened : Opened LinuxSysfsGpioSession) (configuration : GpioLineConfiguration)
    (line : SysfsLine) : Prop :=
  line.direction = .input ∧ (host.exists_ opened.kernel.calls (opened.session.filePath "active_low") = true →
    line.activeLow = configuration.activeLow)

def configured (opened : Opened LinuxSysfsGpioSession) (configuration : GpioLineConfiguration)
    (line : SysfsLine) : SysfsLine :=
  line.after host opened.session.lineRoot opened.kernel.calls
    ((configureLine host configuration).made (fun opened => opened.kernel.calls) opened)

end LinuxSysfsGpioSession

namespace SysfsLine

variable {host : GpioHost} {root : String} {line : SysfsLine}

@[simp] theorem after_nil {earlier : List GpioCall} : line.after host root earlier [] = line := rfl

theorem after_exists {earlier : List GpioCall} {path : String} :
    line.after host root earlier [.exists path] = line := rfl

theorem after_write {earlier : List GpioCall} {path text : String} (h : host.write earlier path text = .ok ()) :
    line.after host root earlier [.write path text] = line.store root path text := by
  have hgranted : host.grantsWrite earlier (.write path text) = true := decide_eq_true h
  rw [after, granted_singleton, if_pos hgranted]
  rfl

theorem after_append {earlier made more : List GpioCall} : line.after host root earlier (made ++ more) =
    (line.after host root earlier made).after host root (earlier ++ made) more := by
  rw [after, granted_append, List.foldl_append]
  rfl

theorem after_cons {earlier made : List GpioCall} {call : GpioCall} :
    line.after host root earlier (call :: made) =
      (line.after host root earlier [call]).after host root (earlier ++ [call]) made := by
  rw [← List.singleton_append, after_append]

theorem store_active_low {activeLow : Bool} :
    line.store root (joinPath root "active_low") (LinuxSysfsGpioSession.activeLowValue activeLow) =
      { line with activeLow } := by
  cases activeLow
  · simp [store, LinuxSysfsGpioSession.activeLowValue, parseActiveLow]
  · simp [store, LinuxSysfsGpioSession.activeLowValue, parseActiveLow]

theorem store_direction_in :
    line.store root (joinPath root "direction") "in" = { line with direction := .input } := by
  have hother : joinPath root "direction" ≠ joinPath root "active_low" :=
    fun h => absurd (joinPath_inj (by decide) (by decide) h) (by decide)
  rw [store, if_neg hother, if_pos rfl, if_pos rfl]

end SysfsLine

namespace LinuxSysfsGpioSession

variable {host : GpioHost} {session : LinuxSysfsGpioSession} {kernel : GpioKernel}
  {configuration : GpioLineConfiguration} {line : SysfsLine}

theorem exec_writeOptionalAttribute (name value : String) (needed : Bool) (missing : String) :
    (session.writeOptionalAttribute host name value needed missing).exec kernel =
      (if host.exists_ kernel.calls (session.filePath name) then
          (host.write (kernel.calls ++ [.exists (session.filePath name)]) (session.filePath name) value).mapError
            fun error => session.transportFailure "gpio.configure"
              s!"failed to write '{session.filePath name}' with value '{value}': {error}"
        else if needed then .error (.invalidConfiguration session.device.id missing) else .ok (),
       { kernel with calls := kernel.calls ++ session.optionalCalls host name value kernel.calls }) := by
  rw [writeOptionalAttribute, GpioHost.pathExists, exec_bind, exec_ask, optionalCalls]
  by_cases hthere : host.exists_ kernel.calls (session.filePath name) = true
  · simp only [hthere, if_true]
    rw [writeRequiredFile, exec_adapt, GpioHost.writeText, exec_ask, GpioKernel.called, GpioKernel.called,
      List.append_assoc]
    rfl
  · simp only [hthere]
    cases needed with
    | true => rfl
    | false => rfl

theorem writeOptionalAttribute_ok_iff {name value : String} {needed : Bool} {missing : String} :
    ((session.writeOptionalAttribute host name value needed missing).exec kernel).1 = .ok () ↔
      session.Accepts host name value needed kernel.calls := by
  rw [exec_writeOptionalAttribute, Accepts]
  by_cases hthere : host.exists_ kernel.calls (session.filePath name) = true
  · simp only [if_pos hthere]
    cases host.write (kernel.calls ++ [.exists (session.filePath name)]) (session.filePath name) value with
    | ok _ => exact iff_of_true rfl rfl
    | error error => exact iff_of_false nofun nofun
  · simp only [if_neg hthere]
    cases needed with
    | true => exact iff_of_false nofun nofun
    | false => exact iff_of_true rfl rfl

theorem writeOptionalAttribute_rejects {name value : String} {needed : Bool} {missing reason : String}
    {deviceId : DeviceId} (h : ((session.writeOptionalAttribute host name value needed missing).exec kernel).1 =
      .error (.invalidConfiguration deviceId reason)) :
    host.exists_ kernel.calls (session.filePath name) = false ∧ needed = true := by
  rw [exec_writeOptionalAttribute] at h
  by_cases hthere : host.exists_ kernel.calls (session.filePath name) = true
  · simp only [if_pos hthere] at h
    cases hwrite : host.write (kernel.calls ++ [.exists (session.filePath name)])
        (session.filePath name) value with
    | ok _ =>
      rw [hwrite] at h
      cases h
    | error error =>
      rw [hwrite] at h
      cases h
  · refine ⟨Bool.not_eq_true _ ▸ hthere, ?_⟩
    cases needed with
    | true => rfl
    | false =>
      simp only [if_neg hthere] at h
      cases h

theorem exec_writeRequiredFile (path value operation : String) :
    (session.writeRequiredFile host path value operation).exec kernel =
      ((host.write kernel.calls path value).mapError fun error => session.transportFailure operation
        s!"failed to write '{path}' with value '{value}': {error}", kernel.called (.write path value)) := by
  rw [writeRequiredFile, exec_adapt, GpioHost.writeText, exec_ask]

def writeActiveLow (host : GpioHost) (session : LinuxSysfsGpioSession) (activeLow : Bool) : Gpio Unit :=
  session.writeOptionalAttribute host "active_low" (activeLowValue activeLow) activeLow
    "linux GPIO sysfs transport does not expose active_low for this line"

def writeEdge (host : GpioHost) (session : LinuxSysfsGpioSession) (edge : Option GpioEdge) : Gpio Unit :=
  session.writeOptionalAttribute host "edge" (edgeValue edge) edge.isSome
    "linux GPIO sysfs transport does not expose edge configuration for this line"

theorem applyConfiguration_eq : session.applyConfiguration host configuration = (do
    session.writeActiveLow host configuration.activeLow
    session.writeRequiredFile host (session.filePath "direction") (directionValue configuration) "gpio.configure"
    session.writeEdge host configuration.edge) := rfl

def directed (host : GpioHost) (session : LinuxSysfsGpioSession) (configuration : GpioLineConfiguration)
    (kernel : GpioKernel) : GpioKernel :=
  { kernel with calls := kernel.calls ++ session.directionCalls host configuration kernel.calls }

theorem exec_applyConfiguration (haccepts : session.Accepts host "active_low"
    (activeLowValue configuration.activeLow) configuration.activeLow kernel.calls)
    (hdirection : host.write (kernel.calls ++ session.activeLowCalls host configuration kernel.calls)
      (session.filePath "direction") (directionValue configuration) = .ok ()) :
    (session.applyConfiguration host configuration).exec kernel =
      (session.writeEdge host configuration.edge).exec (session.directed host configuration kernel) := by
  have hactiveLow : (session.writeActiveLow host configuration.activeLow).exec kernel =
      (.ok (),
        { kernel with calls := kernel.calls ++ session.activeLowCalls host configuration kernel.calls }) := by
    refine Prod.ext (writeOptionalAttribute_ok_iff.mpr haccepts) ?_
    rw [writeActiveLow, exec_writeOptionalAttribute]
    rfl
  have hwritten : (session.writeRequiredFile host (session.filePath "direction") (directionValue configuration)
      "gpio.configure").exec
        { kernel with calls := kernel.calls ++ session.activeLowCalls host configuration kernel.calls } =
      (.ok (), session.directed host configuration kernel) := by
    rw [exec_writeRequiredFile, hdirection, directed, directionCalls, ← List.append_assoc]
    rfl
  rw [applyConfiguration_eq, exec_bind_of_ok hactiveLow, exec_bind_of_ok hwritten]

theorem applyConfiguration_rejects {deviceId : DeviceId} {reason : String}
    (h : ((session.applyConfiguration host configuration).exec kernel).1 =
      .error (.invalidConfiguration deviceId reason)) :
    ((session.applyConfiguration host configuration).exec kernel).2.calls =
        kernel.calls ++ [.exists (session.filePath "active_low")] ∨
      session.LacksEdge host configuration kernel.calls := by
  have hmiddle : ((session.writeActiveLow host configuration.activeLow).exec kernel).2 =
      { kernel with calls := kernel.calls ++ session.activeLowCalls host configuration kernel.calls } := by
    rw [writeActiveLow, exec_writeOptionalAttribute]
    rfl
  rcases hactiveLow : (session.writeActiveLow host configuration.activeLow).exec kernel with ⟨error | _, middle⟩
  · rw [applyConfiguration_eq, exec_bind_of_error hactiveLow] at h ⊢
    obtain ⟨hmissing, -⟩ := writeOptionalAttribute_rejects ((congrArg Prod.fst hactiveLow).trans h)
    rw [hactiveLow] at hmiddle
    rw [hmiddle, activeLowCalls, optionalCalls, hmissing]
    exact .inl rfl
  · have haccepts := writeOptionalAttribute_ok_iff.mp (congrArg Prod.fst hactiveLow)
    by_cases hdirection : host.write (kernel.calls ++ session.activeLowCalls host configuration kernel.calls)
        (session.filePath "direction") (directionValue configuration) = .ok ()
    · rw [exec_applyConfiguration haccepts hdirection] at h
      obtain ⟨hmissing, hasked⟩ := writeOptionalAttribute_rejects h
      exact .inr ⟨haccepts, hdirection, hasked, hmissing⟩
    · rw [hactiveLow] at hmiddle
      cases hmiddle
      rw [applyConfiguration_eq, exec_bind_of_ok hactiveLow, exec_bind, exec_writeRequiredFile] at h
      cases hrefused : host.write (kernel.calls ++ session.activeLowCalls host configuration kernel.calls)
          (session.filePath "direction") (directionValue configuration) with
      | ok _ => exact absurd hrefused hdirection
      | error error =>
        simp only [hrefused] at h
        cases h

theorem applyConfiguration_of_lacksEdge (h : session.LacksEdge host configuration kernel.calls) :
    ((session.applyConfiguration host configuration).exec kernel).1 = .error (.invalidConfiguration
        session.device.id "linux GPIO sysfs transport does not expose edge configuration for this line") ∧
      ((session.applyConfiguration host configuration).exec kernel).2.calls =
        kernel.calls ++ (session.directionCalls host configuration kernel.calls ++
          [.exists (session.filePath "edge")]) := by
  have hmissing :
      host.exists_ (session.directed host configuration kernel).calls (session.filePath "edge") = false :=
    h.missing
  rw [exec_applyConfiguration h.activeLow h.direction, writeEdge, exec_writeOptionalAttribute, optionalCalls]
  simp only [hmissing, h.asked, Bool.false_eq_true, if_false, if_true]
  exact ⟨trivial, List.append_assoc _ _ _⟩

variable {opened : Opened LinuxSysfsGpioSession}

theorem exec_configureLine (h : Admitted opened configuration) :
    ((configureLine host configuration).exec opened).1 =
        ((opened.session.applyConfiguration host configuration).exec opened.kernel).1 ∧
      ((configureLine host configuration).exec opened).2.kernel =
        ((opened.session.applyConfiguration host configuration).exec opened.kernel).2 := by
  obtain ⟨hopen, hwrite, hchecked⟩ := h
  have hensured : (ensureOpen "gpio.configure").exec opened = (.ok (), opened) := by
    rw [exec_ensureOpen, SessionMetadata.ensureOpen, if_neg hopen]
  have hwritable := exec_ensureWritable "gpio.configure"
    "session access does not allow configuration changes" opened
  rw [if_pos hwrite] at hwritable
  rw [configureLine, exec_bind_of_ok hensured, exec_bind_of_ok hwritable, exec_bind_of_ok (exec_get opened)]
  simp only [hchecked]
  rw [exec_bind_of_ok (exec_ofExcept _ opened), runCall, exec_runCallWith]
  exact ⟨rfl, rfl⟩

theorem configureLine_of_not_admitted (h : ¬Admitted opened configuration) :
    ((configureLine host configuration).exec opened).2 = opened := by
  rw [configureLine, exec_bind, exec_ensureOpen, SessionMetadata.ensureOpen]
  by_cases hclosed : opened.session.metadata.state = .closed
  · rw [if_pos hclosed]
  · rw [if_neg hclosed]
    simp only
    rw [exec_bind, exec_ensureWritable]
    by_cases hwrite : opened.session.metadata.access.canWrite = true
    · rw [if_pos hwrite]
      simp only
      rw [exec_bind_of_ok (exec_get opened), exec_bind, exec_ofExcept]
      cases hchecked : checkConfiguration opened.session.device.id configuration with
      | ok _ => exact absurd ⟨hclosed, hwrite, hchecked⟩ h
      | error error => rfl
    · rw [if_neg hwrite]

theorem configured_of_calls {made : List GpioCall}
    (h : ((configureLine host configuration).exec opened).2.kernel.calls = opened.kernel.calls ++ made) :
    configured host opened configuration line =
      line.after host opened.session.lineRoot opened.kernel.calls made := by
  rw [configured, made_of_append h]

theorem edge_asks_input {deviceId : DeviceId} (h : checkConfiguration deviceId configuration = .ok ())
    (hasked : configuration.edge.isSome = true) : configuration.direction = .input := by
  rw [checkConfiguration] at h
  split_ifs at h with _ _ _ _ hoffered
  cases hdirection : configuration.direction with
  | input => rfl
  | output => exact absurd ⟨hdirection, hasked⟩ hoffered

theorem after_directionCalls (h : session.LacksEdge host configuration kernel.calls)
    (hinput : configuration.direction = .input) :
    line.after host session.lineRoot kernel.calls (session.directionCalls host configuration kernel.calls ++
        [.exists (session.filePath "edge")]) =
      { line with
        direction := .input
        activeLow := if host.exists_ kernel.calls (session.filePath "active_low") then configuration.activeLow
          else line.activeLow } := by
  have hin : directionValue configuration = "in" := by rw [directionValue, hinput]
  have hpolarity : line.after host session.lineRoot kernel.calls
      (session.activeLowCalls host configuration kernel.calls) =
      { line with
        activeLow := if host.exists_ kernel.calls (session.filePath "active_low") then configuration.activeLow
          else line.activeLow } := by
    have haccepts := h.activeLow
    rw [Accepts] at haccepts
    rw [activeLowCalls, optionalCalls, SysfsLine.after_cons, SysfsLine.after_exists]
    by_cases hthere : host.exists_ kernel.calls (session.filePath "active_low") = true
    · rw [if_pos hthere] at haccepts
      rw [if_pos hthere, if_pos hthere, SysfsLine.after_write haccepts]
      exact SysfsLine.store_active_low
    · rw [if_neg hthere, if_neg hthere, SysfsLine.after_nil]
  rw [directionCalls, SysfsLine.after_append, SysfsLine.after_append, hpolarity, SysfsLine.after_exists,
    SysfsLine.after_write h.direction, hin]
  exact SysfsLine.store_direction_in

theorem rejected_configuration_iff :
    (∀ deviceId reason, ((configureLine host configuration).exec opened).1 =
        .error (.invalidConfiguration deviceId reason) →
      (configured host opened configuration line).attributes = line.attributes) ↔
    (RejectedLate host opened configuration → AlreadyInput host opened configuration line) := by
  have hlate : RejectedLate host opened configuration →
      configured host opened configuration line =
        { line with
          direction := .input
          activeLow := if host.exists_ opened.kernel.calls (opened.session.filePath "active_low") then
            configuration.activeLow else line.activeLow } := by
    rintro ⟨hadmitted, hlacks⟩
    have hcalls := (exec_configureLine hadmitted).2 ▸ (applyConfiguration_of_lacksEdge hlacks).2
    rw [configured_of_calls hcalls]
    exact after_directionCalls hlacks (edge_asks_input hadmitted.2.2 hlacks.asked)
  constructor
  · intro h hrejected
    have hresult := (exec_configureLine hrejected.admitted).1.trans
      (applyConfiguration_of_lacksEdge hrejected.lacksEdge).1
    have hsame := h _ _ hresult
    rw [hlate hrejected] at hsame
    refine ⟨(congrArg Prod.fst hsame).symm, ?_⟩
    intro hthere
    have hpolarity := congrArg (fun attributes => attributes.2.2.1) hsame
    simp only [SysfsLine.attributes, hthere, if_true] at hpolarity
    exact hpolarity.symm
  · intro h deviceId reason hresult
    by_cases hadmitted : Admitted opened configuration
    · rw [(exec_configureLine hadmitted).1] at hresult
      rcases applyConfiguration_rejects hresult with hcalls | hlacks
      · rw [configured_of_calls ((exec_configureLine hadmitted).2 ▸ hcalls)]
        rfl
      · obtain ⟨hinput, hpolarity⟩ := h ⟨hadmitted, hlacks⟩
        rw [hlate ⟨hadmitted, hlacks⟩]
        obtain ⟨direction, driven, outside, activeLow, edge⟩ := line
        cases hinput
        by_cases hthere : host.exists_ opened.kernel.calls (opened.session.filePath "active_low") = true
        · rw [if_pos hthere, ← hpolarity hthere]
        · rw [if_neg hthere]
    · rw [@configured_of_calls host configuration line opened [] (by
        rw [configureLine_of_not_admitted hadmitted, List.append_nil])]
      rfl

def edgelessHost : GpioHost := { answering with exists_ := fun _ path => path ≠ "/sys/class/gpio/gpio23/edge" }

def edgelessOpened : Opened LinuxSysfsGpioSession where
  kernel := { lines := fun _ => ⟨{ direction := .output }, .high⟩ }
  session := {
    device := relayLine
    metadata := { access := .exclusive, state := .idle }
    paths := {}
    globalLine := 23
    exportedBySession := false }

def risingEdge : GpioLineConfiguration where
  direction := .input
  activeLow := true
  bias := none
  drive := none
  edge := some .rising
  debounceUs := none
  initialLevel := none

def drivenLine : SysfsLine where
  direction := .output
  driven := .high
  outside := .low
  activeLow := false
  edge := none

theorem rejected_edge_changes_line :
    ((configureLine edgelessHost risingEdge).exec edgelessOpened).1 = .error (.invalidConfiguration relayLine.id
      "linux GPIO sysfs transport does not expose edge configuration for this line") ∧
    drivenLine.attributes = (.output, .high, false, none) ∧
    (configured edgelessHost edgelessOpened risingEdge drivenLine).attributes = (.input, .high, true, none) :=
  ⟨by decide +kernel, by decide, by decide +kernel⟩

end LinuxSysfsGpioSession

end Lemnos.Linux
