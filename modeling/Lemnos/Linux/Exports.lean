import Lemnos.Library.Acquiring
import Lemnos.Linux.GpioSysfs
import Lemnos.Linux.Pwm

namespace Lemnos.Linux

open Lemnos.Core Bus Library.Frames Library.Grants Library.Acquiring

section Lines

variable (host : GpioHost) (paths : LinuxPaths)

def exportLine (line : UInt32) : GpioCall := .write paths.gpioExportPath s!"{line}"

def unexportLine (line : UInt32) : GpioCall := .write paths.gpioUnexportPath s!"{line}"

def exportedLines (earlier made : List GpioCall) (before : Set UInt32) : Set UInt32 :=
  held (exportLine paths) (unexportLine paths) (granted host.grantsWrite earlier made) before

def lineAcquisition (line : UInt32) : Acquisition GpioCall where
  look := .exists (paths.gpioLineRoot line)
  check := .exists paths.gpioExportPath
  take := exportLine paths line
  sees calls := host.exists_ calls (paths.gpioLineRoot line)
  offers calls := host.exists_ calls paths.gpioExportPath
  gives calls := host.grantsWrite calls (exportLine paths line)

/-- The address of the device resolves to a line that is exported and does not show up. -/
def LineStranded (transportConfig : LinuxTransportConfig) (device : DeviceDescriptor) (kernel : GpioKernel) :
    Prop :=
  ∃ line, ((resolveGlobalLine host paths device).exec kernel).1 = .ok (some line) ∧
    (lineAcquisition host paths line).Stranded transportConfig.sysfsExportRetries
      ((resolveGlobalLine host paths device).exec kernel).2.calls

theorem waitForPath_eq (path : String) (retries : ℕ) :
    waitForPath host path retries = waiting (host.pathExists path) retries := by
  induction retries with
  | zero => rfl
  | succ retries ih =>
    rw [waitForPath, waiting, ih]

theorem ensureExported_eq (transportConfig : LinuxTransportConfig) (line : UInt32) (lineRoot : String)
    (device : DeviceDescriptor) :
    ensureExported host paths transportConfig line lineRoot device =
      acquire (host.pathExists lineRoot) (host.pathExists paths.gpioExportPath)
        (ExceptT.adapt (fun error => transportFailure device.id "gpio.open"
          s!"failed to export GPIO line {line} via '{paths.gpioExportPath}': {error}")
          (host.writeText paths.gpioExportPath s!"{line}"))
        transportConfig.sysfsExportRetries
        (.sessionUnavailable device.id
          s!"GPIO line '{lineRoot}' is not exported and '{paths.gpioExportPath}' is unavailable")
        (.sessionUnavailable device.id s!"GPIO line {line} did not appear at '{lineRoot}' after export") := by
  rw [ensureExported, acquire, waitForPath_eq]

theorem line_implements (line : UInt32) (describe : String → BusError) :
    Implements GpioKernel.calls (lineAcquisition host paths line)
      (host.pathExists (paths.gpioLineRoot line) : Gpio Bool) (host.pathExists paths.gpioExportPath)
      (ExceptT.adapt describe (host.writeText paths.gpioExportPath s!"{line}")) where
  there_result _ := rfl
  there_calls _ := rfl
  ready_result _ := rfl
  ready_calls _ := rfl
  take_result kernel := by
    rw [exec_adapt, GpioHost.writeText, exec_ask]
    change _ ↔ decide (host.write kernel.calls paths.gpioExportPath s!"{line}" = .ok ()) = true
    rw [decide_eq_true_iff]
    cases host.write kernel.calls paths.gpioExportPath s!"{line}" with
    | ok _ => exact iff_of_true rfl rfl
    | error error => exact iff_of_false nofun nofun
  take_calls kernel := by
    rw [exec_adapt, GpioHost.writeText, exec_ask]
    rfl

theorem ensureExported_keeps_iff (transportConfig : LinuxTransportConfig) (line : UInt32)
    (device : DeviceDescriptor) (kernel : GpioKernel) :
    (∀ error, ((ensureExported host paths transportConfig line (paths.gpioLineRoot line) device).exec kernel).1 =
        .error error →
      ∀ before, exportedLines host paths kernel.calls
        ((ensureExported host paths transportConfig line (paths.gpioLineRoot line) device).made GpioKernel.calls
          kernel) before = before) ↔
      ¬(lineAcquisition host paths line).Stranded transportConfig.sysfsExportRetries kernel.calls := by
  rw [ensureExported_eq]
  exact acquire_keeps_iff (line_implements host paths line _) (fun _ => rfl) (fun _ => rfl) (fun _ => rfl)
    line rfl

theorem logs_ensureExported (transportConfig : LinuxTransportConfig) (line : UInt32) (device : DeviceDescriptor) :
    Logs GpioKernel.calls (fun _ => True)
      (ensureExported host paths transportConfig line (paths.gpioLineRoot line) device) := by
  rw [ensureExported_eq]
  exact logs_acquire (line_implements host paths line _) _ _ _

theorem logs_resolveGlobalLine (device : DeviceDescriptor) :
    Logs GpioKernel.calls (fun call => ∀ earlier, host.grantsWrite earlier call = false)
      (resolveGlobalLine host paths device) := by
  have hread : ∀ path, Logs GpioKernel.calls (fun call => ∀ earlier, host.grantsWrite earlier call = false)
      (readU32 host path) := by
    intro path
    have htext : Logs GpioKernel.calls (fun call => ∀ earlier, host.grantsWrite earlier call = false)
        (host.readText path) := by
      apply @Logs.entry _ _ _ _ _ _ _ (.read path) _ fun _ => rfl
      intro kernel
      rw [GpioHost.readText, exec_ask]
      rfl
    exact (htext.bind fun _ => .pure _).bind fun _ => .pure _
  unfold resolveGlobalLine
  split
  · apply (hread _).attempt.bind
    intro base
    split
    · exact .pure _
    · exact .pure _
    · exact .pure _
  · exact .pure _

def openLineSession (transportConfig : LinuxTransportConfig) (device : DeviceDescriptor) (access : SessionAccess)
    (globalLine : UInt32) : Gpio LinuxSysfsGpioSession := do
  let exportedBySession ←
    ensureExported host paths transportConfig globalLine (paths.gpioLineRoot globalLine) device
  return { device, metadata := { access, state := .idle }, paths, globalLine, exportedBySession }

theorem openLineSession_keeps_iff (transportConfig : LinuxTransportConfig) (device : DeviceDescriptor)
    (access : SessionAccess) (line : UInt32) (kernel : GpioKernel) :
    (∀ error, ((openLineSession host paths transportConfig device access line).exec kernel).1 = .error error →
      ∀ before, exportedLines host paths kernel.calls
        ((openLineSession host paths transportConfig device access line).made GpioKernel.calls kernel) before =
          before) ↔
      ¬(lineAcquisition host paths line).Stranded transportConfig.sysfsExportRetries kernel.calls := by
  rw [← ensureExported_keeps_iff]
  exact failed_bind_pure_iff _ _ kernel fun made =>
    ∀ before, exportedLines host paths kernel.calls made before = before

theorem openSession_eq (transportConfig : LinuxTransportConfig) (device : DeviceDescriptor)
    (access : SessionAccess) :
    LinuxSysfsGpioSession.openSession host paths transportConfig device access =
      resolveGlobalLine host paths device >>= fun resolved =>
        match resolved with
        | none => throw (.unsupportedDevice backendName device.id)
        | some line => openLineSession host paths transportConfig device access line := by
  rw [LinuxSysfsGpioSession.openSession]
  congr
  funext resolved
  cases resolved with
  | none => rfl
  | some line => rfl

theorem failed_line_open_iff (transportConfig : LinuxTransportConfig) (device : DeviceDescriptor)
    (access : SessionAccess) (kernel : GpioKernel) :
    (∀ error, ((LinuxSysfsGpioSession.openSession host paths transportConfig device access).exec kernel).1 =
        .error error →
      ∀ before, exportedLines host paths kernel.calls
        ((LinuxSysfsGpioSession.openSession host paths transportConfig device access).made GpioKernel.calls kernel)
        before = before) ↔
      ¬LineStranded host paths transportConfig device kernel := by
  obtain ⟨asked, hcalls, hasked⟩ := logs_resolveGlobalLine host paths device kernel
  have hnone : granted host.grantsWrite kernel.calls asked = [] :=
    granted_of_refused fun call hcall => hasked call hcall
  rw [openSession_eq, LineStranded]
  rcases hresolved : (resolveGlobalLine host paths device).exec kernel with ⟨error | _ | line, asking⟩
  · refine iff_of_true ?_ (by rintro ⟨line, hline, -⟩; cases hline)
    intro _ _ before
    rw [made_of_append (by rw [exec_bind_of_error hresolved, ← hcalls, hresolved]), exportedLines, hnone, held]
  · refine iff_of_true ?_ (by rintro ⟨line, hline, -⟩; cases hline)
    intro _ _ before
    rw [hresolved] at hcalls
    rw [made_of_append (by rw [exec_bind_of_ok hresolved, ← hcalls]; rfl), exportedLines, hnone, held]
  · rw [hresolved] at hcalls
    have hlogs : Logs GpioKernel.calls (fun _ => True)
        (openLineSession host paths transportConfig device access line) :=
      (logs_ensureExported host paths transportConfig line device).bind fun _ => .pure _
    have hexported : ∀ made before, exportedLines host paths kernel.calls (asked ++ made) before =
        exportedLines host paths asking.calls made before := by
      intro made before
      rw [exportedLines, granted_append, hnone, ← hcalls]
      rfl
    rw [made_bind_of_ok hresolved hcalls hlogs, exec_bind_of_ok hresolved]
    simp only [hexported]
    rw [openLineSession_keeps_iff]
    refine not_congr ⟨fun hstranded => ⟨line, rfl, hstranded⟩, ?_⟩
    rintro ⟨found, hfound, hstranded⟩
    cases hfound
    exact hstranded

end Lines

section Channels

variable (host : SysfsHost) (paths : LinuxPaths)

def exportChannel (channel : String × UInt32) : FileCall :=
  .write (paths.pwmExportPath channel.1) s!"{channel.2}"

def unexportChannel (channel : String × UInt32) : FileCall :=
  .write (paths.pwmUnexportPath channel.1) s!"{channel.2}"

def exportedChannels (earlier made : List FileCall) (before : Set (String × UInt32)) : Set (String × UInt32) :=
  held (exportChannel paths) (unexportChannel paths) (granted host.grantsWrite earlier made) before

def channelAcquisition (channel : String × UInt32) : Acquisition FileCall where
  look := .exists (paths.pwmChannelRoot channel.1 channel.2)
  check := .exists (paths.pwmExportPath channel.1)
  take := exportChannel paths channel
  sees calls := host.exists_ calls (paths.pwmChannelRoot channel.1 channel.2)
  offers calls := host.exists_ calls (paths.pwmExportPath channel.1)
  gives calls := host.grantsWrite calls (exportChannel paths channel)

/-- The address of the device is a channel that is exported and does not show up. -/
def ChannelStranded (transportConfig : LinuxTransportConfig) (device : DeviceDescriptor) (sysfs : Sysfs) : Prop :=
  ∃ channel, pwmChannelAddress device = some channel ∧
    (channelAcquisition host paths channel).Stranded transportConfig.sysfsExportRetries sysfs.calls

theorem sysfs_waitForPath_eq (path : String) (retries : ℕ) :
    (host.waitForPath path retries : Pwm Bool) = waiting (host.pathExists path) retries := by
  induction retries with
  | zero => rfl
  | succ retries ih =>
    rw [SysfsHost.waitForPath, waiting, ih]

theorem ensureChannelExported_eq (transportConfig : LinuxTransportConfig) (channel : String × UInt32)
    (channelRoot : String) (device : DeviceDescriptor) :
    ensureChannelExported host paths transportConfig channel.1 channel.2 channelRoot device =
      acquire (host.pathExists channelRoot) (host.pathExists (paths.pwmExportPath channel.1))
        (ExceptT.adapt (fun error => transportFailure device.id "open"
          s!"failed to export PWM channel {channel.2} using '{paths.pwmExportPath channel.1}': {error}")
          (host.writeText (paths.pwmExportPath channel.1) s!"{channel.2}"))
        transportConfig.sysfsExportRetries
        (.transportFailure device.id "open"
          s!"PWM export path '{paths.pwmExportPath channel.1}' is not present and channel '{channelRoot}' is not exported")
        (.transportFailure device.id "open"
          s!"PWM channel {channel.2} did not appear at '{channelRoot}' after export") := by
  rw [ensureChannelExported, acquire, sysfs_waitForPath_eq]

theorem channel_implements (channel : String × UInt32) (describe : String → BusError) :
    Implements Sysfs.calls (channelAcquisition host paths channel)
      (host.pathExists (paths.pwmChannelRoot channel.1 channel.2) : Pwm Bool)
      (host.pathExists (paths.pwmExportPath channel.1))
      (ExceptT.adapt describe (host.writeText (paths.pwmExportPath channel.1) s!"{channel.2}")) where
  there_result _ := rfl
  there_calls _ := rfl
  ready_result _ := rfl
  ready_calls _ := rfl
  take_result sysfs := by
    rw [exec_adapt, SysfsHost.exec_writeText]
    change _ ↔ decide (host.write sysfs.calls (paths.pwmExportPath channel.1) s!"{channel.2}" = .ok ()) = true
    rw [decide_eq_true_iff]
    cases host.write sysfs.calls (paths.pwmExportPath channel.1) s!"{channel.2}" with
    | ok _ => exact iff_of_true rfl rfl
    | error error => exact iff_of_false nofun nofun
  take_calls sysfs := by
    rw [exec_adapt, SysfsHost.exec_writeText]
    cases host.write sysfs.calls (paths.pwmExportPath channel.1) s!"{channel.2}" with
    | ok _ => rfl
    | error error => rfl

theorem ensureChannelExported_keeps_iff (transportConfig : LinuxTransportConfig) (channel : String × UInt32)
    (device : DeviceDescriptor) (sysfs : Sysfs) :
    (∀ error, ((ensureChannelExported host paths transportConfig channel.1 channel.2
        (paths.pwmChannelRoot channel.1 channel.2) device).exec sysfs).1 = .error error →
      ∀ before, exportedChannels host paths sysfs.calls
        ((ensureChannelExported host paths transportConfig channel.1 channel.2
          (paths.pwmChannelRoot channel.1 channel.2) device).made Sysfs.calls sysfs) before = before) ↔
      ¬(channelAcquisition host paths channel).Stranded transportConfig.sysfsExportRetries sysfs.calls := by
  rw [ensureChannelExported_eq]
  exact acquire_keeps_iff (channel_implements host paths channel _) (fun _ => rfl) (fun _ => rfl) (fun _ => rfl)
    channel rfl

theorem failed_channel_open_iff (transportConfig : LinuxTransportConfig) (device : DeviceDescriptor)
    (access : SessionAccess) (sysfs : Sysfs) :
    (∀ error, ((LinuxSysfsPwmSession.openSession host paths transportConfig device access).exec sysfs).1 =
        .error error →
      ∀ before, exportedChannels host paths sysfs.calls
        ((LinuxSysfsPwmSession.openSession host paths transportConfig device access).made Sysfs.calls sysfs)
        before = before) ↔
      ¬ChannelStranded host paths transportConfig device sysfs := by
  rw [LinuxSysfsPwmSession.openSession, ChannelStranded]
  cases haddress : pwmChannelAddress device with
  | none =>
    refine iff_of_true ?_ (by rintro ⟨channel, hchannel, -⟩; cases hchannel)
    intro _ _ before
    rw [made_of_append (List.append_nil _).symm, exportedChannels, granted, held]
  | some channel =>
    have hopened := @failed_bind_pure_iff _ _ _ _ _ Sysfs.calls
      (ensureChannelExported host paths transportConfig channel.1 channel.2
        (paths.pwmChannelRoot channel.1 channel.2) device)
      (fun exportedBySession => (⟨device, { access, state := .idle }, paths, channel.1, channel.2,
        exportedBySession⟩ : LinuxSysfsPwmSession))
      sysfs fun made => ∀ before, exportedChannels host paths sysfs.calls made before = before
    rw [ensureChannelExported_keeps_iff] at hopened
    refine Iff.trans hopened (not_congr ⟨fun hstranded => ⟨channel, rfl, hstranded⟩, ?_⟩)
    rintro ⟨found, hfound, hstranded⟩
    cases hfound
    exact hstranded

end Channels

theorem failed_open_leaves_nothing_exported_iff (gpio : GpioHost) (pwm : SysfsHost) (paths : LinuxPaths)
    (transportConfig : LinuxTransportConfig) (device : DeviceDescriptor) (access : SessionAccess)
    (kernel : GpioKernel) (sysfs : Sysfs) :
    ((∀ error, ((LinuxSysfsGpioSession.openSession gpio paths transportConfig device access).exec kernel).1 =
          .error error →
        ∀ before, exportedLines gpio paths kernel.calls
          ((LinuxSysfsGpioSession.openSession gpio paths transportConfig device access).made GpioKernel.calls kernel)
          before = before) ↔
      ¬LineStranded gpio paths transportConfig device kernel) ∧
    ((∀ error, ((LinuxSysfsPwmSession.openSession pwm paths transportConfig device access).exec sysfs).1 =
          .error error →
        ∀ before, exportedChannels pwm paths sysfs.calls
          ((LinuxSysfsPwmSession.openSession pwm paths transportConfig device access).made Sysfs.calls sysfs)
          before = before) ↔
      ¬ChannelStranded pwm paths transportConfig device sysfs) :=
  ⟨failed_line_open_iff gpio paths transportConfig device access kernel,
    failed_channel_open_iff pwm paths transportConfig device access sysfs⟩

def vanishingHost : GpioHost :=
  { answering with
    read := fun _ _ => .ok (some "19")
    exists_ := fun _ path => path ≠ "/sys/class/gpio/gpio23" }

def unexportedKernel : GpioKernel := { lines := fun _ => ⟨{ direction := .input }, .low⟩ }

def vanishingOpen : Gpio LinuxSysfsGpioSession :=
  LinuxSysfsGpioSession.openSession vanishingHost {} ⟨3⟩ relayLine .exclusive

theorem failed_open_leaves_line_exported :
    (vanishingOpen.exec unexportedKernel).1 = .error (.sessionUnavailable relayLine.id
      "GPIO line 23 did not appear at '/sys/class/gpio/gpio23' after export") ∧
    23 ∉ (∅ : Set UInt32) ∧
    23 ∈ exportedLines vanishingHost {} unexportedKernel.calls
      (vanishingOpen.made GpioKernel.calls unexportedKernel) ∅ := by
  have hgranted : granted vanishingHost.grantsWrite unexportedKernel.calls
      (vanishingOpen.made GpioKernel.calls unexportedKernel) = [exportLine {} 23] := by decide +kernel
  refine ⟨rfl, Set.notMem_empty _, ?_⟩
  rw [exportedLines, hgranted]
  exact mem_held_of_taken 23 ∅

end Lemnos.Linux
