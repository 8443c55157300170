import Lemnos.Runtime.Ops

namespace Lemnos

open Lemnos.Core Discovery Registry Library.OrderedMap

namespace System

variable {host : Host} {sys : System} {context : DiscoveryContext} {probes : List DiscoveryProbe}
  {mode : RefreshMode} {error : RuntimeError}

/-- A commit that gets past the checks cannot fail any more: rebind failures are part of the report. -/
theorem finishRefresh_error {discovery : DiscoveryRunReport}
    (h : (sys.finishRefresh host discovery mode).1 = .error error) :
    (sys.finishRefresh host discovery mode).2 = sys := by
  apply finishRefresh_uncommitted
  rintro ⟨hr, snapshot, hn⟩
  rw [finishRefresh_of_nextInventory hr hn] at h
  cases h

theorem finishRefresh_refused_iff (discovery : DiscoveryRunReport) :
    (∃ error, (sys.finishRefresh host discovery mode).1 = .error error) ↔
      sys.runtime.running = false ∨ ∃ error, sys.runtime.nextInventory discovery mode = .error error := by
  cases hr : sys.runtime.running with
  | false => simp [finishRefresh, Runtime.prepareRefreshCommit, hr]
  | true =>
    cases hn : sys.runtime.nextInventory discovery mode with
    | error error => simp [finishRefresh, Runtime.prepareRefreshCommit, hr, hn]
    | ok snapshot => simp [finishRefresh_of_nextInventory hr hn]

theorem refreshWithMode_error (h : (sys.refreshWithMode host context probes mode).1 = .error error) :
    (sys.refreshWithMode host context probes mode).2 = sys := by
  revert h
  unfold refreshWithMode
  split
  · intro _
    rfl
  · split
    · intro _
      rfl
    · exact finishRefresh_error

theorem refreshWithMode_refused_iff :
    (∃ error, (sys.refreshWithMode host context probes mode).1 = .error error) ↔
      sys.runtime.running = false ∨
        (∃ error, runProbes host.availableParallelism context probes = .error error) ∨
          ∃ discovery error, runProbes host.availableParallelism context probes = .ok discovery ∧
            sys.runtime.nextInventory discovery mode = .error error := by
  cases hr : sys.runtime.running with
  | false => simp [refreshWithMode, hr]
  | true =>
    cases hp : runProbes host.availableParallelism context probes with
    | error error => simp [refreshWithMode, hr, hp]
    | ok discovery =>
      have hrefused := @finishRefresh_refused_iff host sys mode discovery
      simpa [refreshWithMode, hr, hp] using hrefused

theorem finishWatchRefresh_error {discovery : DiscoveryRunReport} {watchEvents : List InventoryWatchEvent}
    (h : (sys.finishWatchRefresh host discovery mode watchEvents).1 = .error error) :
    (sys.finishWatchRefresh host discovery mode watchEvents).2 = sys := by
  rw [finishWatchRefresh_snd]
  revert h
  unfold finishWatchRefresh
  split
  · rename_i refused sys' heq
    intro _
    have hrefused : (sys.finishRefresh host discovery mode).1 = .error refused := by rw [heq]
    exact finishRefresh_error hrefused
  · intro h
    cases h

theorem pollWatcherWithMode_error {polled : DiscoveryResult (List InventoryWatchEvent)}
    (h : (sys.pollWatcherWithMode host context probes polled mode).1 = .error error) :
    (sys.pollWatcherWithMode host context probes polled mode).2 = sys := by
  cases polled with
  | error source => rfl
  | ok watchEvents =>
    revert h
    simp only [pollWatcherWithMode, handleWatchEventsAndRefreshWithMode]
    split
    · intro _
      rfl
    · split
      · intro _
        rfl
      · split
        · intro _
          rfl
        · rename_i discovery _
          split
          · rename_i refused sys' heq
            intro _
            have hrefused : (sys.finishWatchRefresh host discovery mode watchEvents).1 = .error refused := by
              rw [heq]
            have hsame := finishWatchRefresh_error hrefused
            rw [heq] at hsame
            exact hsame
          · intro h
            cases h

theorem refused_refresh_changes_nothing (host : Host) (sys : System) (context : DiscoveryContext)
    (probes : List DiscoveryProbe) (polled : DiscoveryResult (List InventoryWatchEvent))
    (error : RuntimeError) :
    ((sys.refresh host context probes).1 = .error error → (sys.refresh host context probes).2 = sys) ∧
      ((sys.refreshIncremental host context probes).1 = .error error →
        (sys.refreshIncremental host context probes).2 = sys) ∧
      ((sys.pollWatcherAndRefresh host context probes polled).1 = .error error →
        (sys.pollWatcherAndRefresh host context probes polled).2 = sys) ∧
      ((sys.pollWatcherAndRefreshIncremental host context probes polled).1 = .error error →
        (sys.pollWatcherAndRefreshIncremental host context probes polled).2 = sys) :=
  ⟨refreshWithMode_error, refreshWithMode_error, pollWatcherWithMode_error, pollWatcherWithMode_error⟩

def claimant : DiscoveryProbe := ⟨"usb-gpio", [.gpio], fun _ => .ok { devices := [gpioLineDescriptor] }⟩

theorem refused_refresh_changes_nothing_claimed :
    (twoBuses.runtime.bindings.keys = [gpioLine, i2cSensor] ∧
      twoBuses.runtime.states.keys = [gpioLine, i2cSensor] ∧
      twoBuses.runtime.probeInventory.devicesByProbe.keys = ["linux-gpio", "linux-i2c"] ∧
      twoBuses.runtime.log.pushed.length = 4) ∧
    (twoBuses.refreshIncremental .stating {} [claimant]).1 =
      .error (.discovery (.duplicateDeviceId gpioLine)) ∧
    (twoBuses.refreshIncremental .stating {} [claimant]).2 = twoBuses :=
  ⟨by decide, rfl, (refused_refresh_changes_nothing .stating twoBuses {} [claimant] (.ok [])
    (.discovery (.duplicateDeviceId gpioLine))).2.1 rfl⟩

end System

end Lemnos
