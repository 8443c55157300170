import Lemnos.Library.LongestSuffix
import Lemnos.Runtime.State

namespace Lemnos

open Lemnos.Core Library

variable (layout : Layout)

def Layout.eventBytes (events : List LemnosEvent) : ℕ :=
  (events.map layout.estimatedRetainedEventBytes).sum

def RuntimeConfig.Retainable (config : RuntimeConfig) (events : List LemnosEvent) : Prop :=
  events.length ≤ config.maxRetainedEvents ∧
    ∀ limit ∈ config.maxRetainedEventBytes, layout.eventBytes events ≤ limit

namespace EventLog

structure KeepsLongestSuffix (config : RuntimeConfig) (log log' : EventLog) : Prop where
  longest : LongestSuffix (config.Retainable layout) log'.events log.events
  base_eq : log'.eventBaseIndex = log.eventBaseIndex + (log.events.length - log'.events.length)

def overCount (config : RuntimeConfig) (log : EventLog) : List LemnosEvent :=
  log.events.take (log.events.length - config.maxRetainedEvents)

variable {layout} {config : RuntimeConfig} {log : EventLog}

theorem eventBytes_le_of_suffix {kept events : List LemnosEvent} (h : kept <:+ events) :
    layout.eventBytes kept ≤ layout.eventBytes events := by
  obtain ⟨dropped, rfl⟩ := h
  rw [Layout.eventBytes, Layout.eventBytes, List.map_append, List.sum_append]
  exact Nat.le_add_left _ _

theorem suffixClosed_count (count : ℕ) : SuffixClosed
    (fun events : List LemnosEvent => events.length ≤ count) :=
  fun _ _ hs h => hs.length_le.trans h

/-- The byte pass compares the limit with what it keeps and `excess` bytes that are not among its events. -/
def WithinExcess (layout : Layout) (limit excess : ℕ) (events : List LemnosEvent) : Prop :=
  events = [] ∨ excess + layout.eventBytes events ≤ limit

theorem suffixClosed_withinExcess (limit excess : ℕ) : SuffixClosed (WithinExcess layout limit excess) := by
  intro events kept hs h
  rcases h with rfl | h
  · exact .inl (List.suffix_nil.mp hs)
  · have hle := @eventBytes_le_of_suffix layout kept events hs
    exact .inr (by omega)

theorem byteDropCount_longest (limit excess : ℕ) (events : List LemnosEvent) :
    LongestSuffix (WithinExcess layout limit excess)
      (events.drop (byteDropCount layout limit (excess + layout.eventBytes events) events)) events := by
  induction events with
  | nil => exact LongestSuffix.self (.inl rfl)
  | cons event events ih =>
    rw [byteDropCount]
    by_cases hfits : excess + layout.eventBytes (event :: events) ≤ limit
    · rw [if_pos hfits]
      exact LongestSuffix.self (.inr hfits)
    · have hrest : excess + layout.eventBytes (event :: events) - layout.estimatedRetainedEventBytes event =
          excess + layout.eventBytes events := by
        simp only [Layout.eventBytes, List.map_cons, List.sum_cons]
        omega
      rw [if_neg hfits, hrest, List.drop_succ_cons]
      apply ih.cons
      rintro (hnil | hle)
      · exact List.cons_ne_nil event events hnil
      · exact hfits hle

theorem enforceEventRetention_events (config : RuntimeConfig) (log : EventLog) :
    (log.enforceEventRetention layout config).events =
      log.events.drop (log.retentionDropCount layout config) := by
  unfold EventLog.enforceEventRetention
  by_cases h : log.retentionDropCount layout config = 0
  · rw [if_pos h, h, List.drop_zero]
  · rw [if_neg h]
    rfl

theorem enforceEventRetention_base (config : RuntimeConfig) (log : EventLog) :
    (log.enforceEventRetention layout config).eventBaseIndex = log.eventBaseIndex +
      (log.events.length - (log.enforceEventRetention layout config).events.length) := by
  have hbase := congrArg RetainedLog.Window.base (@enforceEventRetention_window layout config log)
  have hle := @retentionDropCount_le layout config log
  simp only [window, RetainedLog.Window.letGo] at hbase
  rw [hbase, enforceEventRetention_events, List.length_drop]
  omega

theorem enforceEventRetention_longest (hbytes : log.retainedEventBytes = layout.eventBytes log.events)
    {limit : ℕ} (hlimit : config.maxRetainedEventBytes = some limit) :
    LongestSuffix
      (fun kept => kept.length ≤ config.maxRetainedEvents ∧
        WithinExcess layout limit (layout.eventBytes (log.overCount config)) kept)
      (log.enforceEventRetention layout config).events log.events := by
  have hsplit : layout.eventBytes log.events = layout.eventBytes (log.overCount config) +
      layout.eventBytes (log.events.drop (log.events.length - config.maxRetainedEvents)) := by
    rw [overCount, Layout.eventBytes, Layout.eventBytes, Layout.eventBytes, ← List.sum_append,
      ← List.map_append, List.take_append_drop]
  rw [enforceEventRetention_events, retentionDropCount, hlimit]
  simp only
  rw [← List.drop_drop, hbytes, hsplit]
  apply LongestSuffix.and (suffixClosed_count _)
  · exact LongestSuffix.drop_length_sub _ _
  · exact byteDropCount_longest limit _ _

theorem longest_iff_of_some (hbytes : log.retainedEventBytes = layout.eventBytes log.events)
    {limit : ℕ} (hlimit : config.maxRetainedEventBytes = some limit) :
    LongestSuffix (config.Retainable layout) (log.enforceEventRetention layout config).events log.events ↔
      ∀ kept, kept <:+ log.events → config.Retainable layout kept →
        WithinExcess layout limit (layout.eventBytes (log.overCount config)) kept := by
  have hkept := enforceEventRetention_longest hbytes hlimit
  rw [LongestSuffix.iff_of_stricter _ _ hkept]
  · constructor
    · intro h kept hs hallowed
      exact (h kept hs hallowed).2
    · intro h kept hs hallowed
      exact ⟨hallowed.1, h kept hs hallowed⟩
  · intro events kept hs h
    exact ⟨suffixClosed_count _ events kept hs h.1, suffixClosed_withinExcess limit _ events kept hs h.2⟩
  · rintro kept ⟨hcount, hwithin⟩
    refine ⟨hcount, ?_⟩
    intro limit' hlimit'
    rw [hlimit] at hlimit'
    cases hlimit'
    rcases hwithin with rfl | hle
    · exact Nat.zero_le limit
    · exact (Nat.le_add_left _ _).trans hle

theorem longest_of_none (hlimit : config.maxRetainedEventBytes = none) :
    LongestSuffix (config.Retainable layout) (log.enforceEventRetention layout config).events log.events := by
  have hretainable : config.Retainable layout = fun kept => kept.length ≤ config.maxRetainedEvents := by
    funext kept
    rw [RuntimeConfig.Retainable, hlimit]
    simp
  rw [hretainable, enforceEventRetention_events, retentionDropCount, hlimit]
  exact LongestSuffix.drop_length_sub _ _

/-- The longest allowed suffix is kept exactly when no byte limit is set, or every allowed suffix is empty or
fits the byte limit together with the events that the count limit alone drops: the running total of the byte
pass still counts those. -/
theorem enforceEventRetention_keeps_longest_suffix_iff (layout : Layout) (config : RuntimeConfig)
    (log : EventLog) (hbytes : log.retainedEventBytes = layout.eventBytes log.events) :
    KeepsLongestSuffix layout config log (log.enforceEventRetention layout config) ↔
      ∀ limit ∈ config.maxRetainedEventBytes, ∀ kept, kept <:+ log.events → config.Retainable layout kept →
        kept = [] ∨ layout.eventBytes (log.overCount config) + layout.eventBytes kept ≤ limit := by
  have hlongest : KeepsLongestSuffix layout config log (log.enforceEventRetention layout config) ↔
      LongestSuffix (config.Retainable layout) (log.enforceEventRetention layout config).events log.events :=
    ⟨KeepsLongestSuffix.longest, fun h => ⟨h, enforceEventRetention_base config log⟩⟩
  rw [hlongest]
  cases hlimit : config.maxRetainedEventBytes with
  | none =>
    apply iff_of_true (longest_of_none hlimit)
    intro limit hmem
    cases hmem
  | some limit =>
    rw [longest_iff_of_some hbytes hlimit]
    constructor
    · intro h limit' hlimit'
      cases hlimit'
      exact h
    · intro h
      exact h limit rfl

end EventLog

def lineComesAndGoes : Runtime :=
  { log := [.inventory (.added gpioLineDescriptor), .inventory (.removed gpioLine)].foldl
      (EventLog.pushRetainedEvent wordLayout) {} }

def lowered : RuntimeConfig :=
  { maxRetainedEvents := 1
    maxRetainedEventBytes := some (wordLayout.eventBytes [.inventory (.removed gpioLine)]) }

theorem EventLog.lowered_limits_keep_nothing_iff :
    lineComesAndGoes.log.retainedEventBytes = wordLayout.eventBytes lineComesAndGoes.log.events ∧
    (KeepsLongestSuffix wordLayout lowered lineComesAndGoes.log
        (lineComesAndGoes.log.enforceEventRetention wordLayout lowered) ↔
      ∀ limit ∈ lowered.maxRetainedEventBytes, ∀ kept, kept <:+ lineComesAndGoes.log.events →
        lowered.Retainable wordLayout kept → kept = [] ∨
          wordLayout.eventBytes (lineComesAndGoes.log.overCount lowered) + wordLayout.eventBytes kept ≤ limit) :=
  ⟨by decide +kernel, enforceEventRetention_keeps_longest_suffix_iff _ _ _ (by decide +kernel)⟩

/-- The removal fits both limits, but setting them drops it too. -/
theorem setConfig_drops_retainable_event :
    [LemnosEvent.inventory (.removed gpioLine)] <:+ lineComesAndGoes.log.events ∧
    lowered.Retainable wordLayout [.inventory (.removed gpioLine)] ∧
    (lineComesAndGoes.setConfig wordLayout lowered).log.events = [] ∧
    ¬ EventLog.KeepsLongestSuffix wordLayout lowered lineComesAndGoes.log
      (lineComesAndGoes.setConfig wordLayout lowered).log := by
  have hsuffix : [LemnosEvent.inventory (.removed gpioLine)] <:+ lineComesAndGoes.log.events :=
    ⟨[.inventory (.added gpioLineDescriptor)], rfl⟩
  have hretainable : lowered.Retainable wordLayout [.inventory (.removed gpioLine)] := by
    refine ⟨Nat.le_refl 1, ?_⟩
    intro limit hlimit
    cases hlimit
    exact Nat.le_refl _
  have hnone : (lineComesAndGoes.setConfig wordLayout lowered).log.events = [] := by decide +kernel
  refine ⟨hsuffix, hretainable, hnone, ?_⟩
  intro h
  have hle := h.longest.length_le hsuffix hretainable
  rw [hnone] at hle
  exact absurd hle (by decide)

end Lemnos
