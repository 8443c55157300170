import Lemnos.Library.RetainedLog
import Lemnos.Runtime.Records
import Lemnos.Runtime.Retention

namespace Lemnos

open Lemnos.Core Library.RetainedLog

structure RuntimeEventCursor where
  nextIndex : ℕ := 0
  deriving DecidableEq

structure RuntimeEventPoll where
  events : List LemnosEvent
  wasTruncated : Bool
  deriving DecidableEq

structure RuntimeEventNotifier where
  tailIndex : ℕ := 0
  version : ℕ := 0
  deriving DecidableEq

namespace RuntimeEventNotifier

def advanceTo (notifier : RuntimeEventNotifier) (tailIndex : ℕ) : RuntimeEventNotifier :=
  if tailIndex ≤ notifier.tailIndex then notifier
  else ⟨tailIndex, notifier.version + 1⟩

def notifyChanged (notifier : RuntimeEventNotifier) : RuntimeEventNotifier :=
  { notifier with version := notifier.version + 1 }

end RuntimeEventNotifier

/-- The retained events of a runtime and their absolute position. Nothing reads the history of pushed
events: it is recorded for what is said about the retained ones. -/
structure EventLog where
  eventBaseIndex : ℕ := 0
  retainedEventBytes : ℕ := 0
  events : List LemnosEvent := []
  pushed : List LemnosEvent := []
  deriving DecidableEq

namespace EventLog

variable (layout : Layout)

def eventTailIndex (log : EventLog) : ℕ := log.eventBaseIndex + log.events.length

def subscribe (log : EventLog) : RuntimeEventCursor := ⟨log.eventTailIndex⟩

def subscribeFromStart (log : EventLog) : RuntimeEventCursor := ⟨log.eventBaseIndex⟩

def isCursorStale (log : EventLog) (cursor : RuntimeEventCursor) : Bool :=
  cursor.nextIndex < log.eventBaseIndex

def pollEventsWithStatus (log : EventLog) (cursor : RuntimeEventCursor) :
    RuntimeEventPoll × RuntimeEventCursor :=
  let wasTruncated := log.isCursorStale cursor
  let startIndex := min (max cursor.nextIndex log.eventBaseIndex) log.eventTailIndex
  let startOffset := startIndex - log.eventBaseIndex
  (⟨log.events.drop startOffset, wasTruncated⟩, ⟨log.eventTailIndex⟩)

def pendingEventCount (log : EventLog) (cursor : RuntimeEventCursor) : ℕ :=
  log.eventTailIndex - max cursor.nextIndex log.eventBaseIndex

def takeEvents (log : EventLog) : List LemnosEvent × EventLog :=
  (log.events,
    { log with
      eventBaseIndex := log.eventBaseIndex + log.events.length
      retainedEventBytes := 0
      events := [] })

def pushRetainedEvent (log : EventLog) (event : LemnosEvent) : EventLog :=
  { log with
    retainedEventBytes := log.retainedEventBytes + layout.estimatedRetainedEventBytes event
    events := log.events ++ [event]
    pushed := log.pushed ++ [event] }

def byteDropCount (limit : ℕ) : ℕ → List LemnosEvent → ℕ
  | _, [] => 0
  | retainedBytes, event :: events =>
    if retainedBytes ≤ limit then 0
    else byteDropCount limit (retainedBytes - layout.estimatedRetainedEventBytes event) events + 1

def retentionDropCount (config : RuntimeConfig) (log : EventLog) : ℕ :=
  let dropCount := log.events.length - config.maxRetainedEvents
  match config.maxRetainedEventBytes with
  | none => dropCount
  | some limit =>
    dropCount + byteDropCount layout limit log.retainedEventBytes (log.events.drop dropCount)

def drain (dropCount : ℕ) (log : EventLog) : EventLog :=
  { log with
    eventBaseIndex := log.eventBaseIndex + dropCount
    retainedEventBytes := (log.events.take dropCount).foldl
      (fun bytes event => bytes - layout.estimatedRetainedEventBytes event) log.retainedEventBytes
    events := log.events.drop dropCount }

def enforceEventRetention (config : RuntimeConfig) (log : EventLog) : EventLog :=
  if log.retentionDropCount layout config = 0 then log
  else log.drain layout (log.retentionDropCount layout config)

def window (log : EventLog) : Window LemnosEvent := ⟨log.eventBaseIndex, log.events⟩

structure Consistent (log : EventLog) : Prop where
  shows_end : log.window.Shows log.pushed
  bytes : log.retainedEventBytes = (log.events.map layout.estimatedRetainedEventBytes).sum

variable {layout} {log : EventLog}

theorem consistent_empty : ({} : EventLog).Consistent layout :=
  ⟨Window.shows_empty, rfl⟩

theorem byteDropCount_le (limit retainedBytes : ℕ) (events : List LemnosEvent) :
    byteDropCount layout limit retainedBytes events ≤ events.length := by
  induction events generalizing retainedBytes with
  | nil => exact Nat.le_refl 0
  | cons event events ih =>
    rw [byteDropCount, List.length_cons]
    split
    · exact Nat.zero_le _
    · exact Nat.succ_le_succ (ih _)

theorem retentionDropCount_le (config : RuntimeConfig) (log : EventLog) :
    log.retentionDropCount layout config ≤ log.events.length := by
  unfold retentionDropCount
  cases config.maxRetainedEventBytes with
  | none => exact Nat.sub_le _ _
  | some limit =>
    have h := @byteDropCount_le layout limit log.retainedEventBytes
      (log.events.drop (log.events.length - config.maxRetainedEvents))
    rw [List.length_drop] at h
    simp only
    omega

theorem Consistent.push (h : log.Consistent layout) (event : LemnosEvent) :
    (log.pushRetainedEvent layout event).Consistent layout where
  shows_end := h.shows_end.push [event]
  bytes := by simp [pushRetainedEvent, h.bytes]

theorem Consistent.pushAll (h : log.Consistent layout) (events : List LemnosEvent) :
    (events.foldl (pushRetainedEvent layout) log).Consistent layout := by
  induction events generalizing log with
  | nil => exact h
  | cons event events ih => exact ih (h.push event)

theorem foldl_sub_bytes (events : List LemnosEvent) (bytes : ℕ) :
    events.foldl (fun bytes event => bytes - layout.estimatedRetainedEventBytes event) bytes =
      bytes - (events.map layout.estimatedRetainedEventBytes).sum := by
  induction events generalizing bytes with
  | nil => rfl
  | cons event events ih => rw [List.foldl_cons, ih, List.map_cons, List.sum_cons, Nat.sub_sub]

theorem Consistent.drain (h : log.Consistent layout) {dropCount : ℕ}
    (hd : dropCount ≤ log.events.length) : (log.drain layout dropCount).Consistent layout where
  shows_end := h.shows_end.letGo hd
  bytes := by
    have hsum : (log.events.map layout.estimatedRetainedEventBytes).sum =
        ((log.events.take dropCount).map layout.estimatedRetainedEventBytes).sum +
          ((log.events.drop dropCount).map layout.estimatedRetainedEventBytes).sum := by
      rw [← List.sum_append, ← List.map_append, List.take_append_drop]
    simp only [EventLog.drain, foldl_sub_bytes, h.bytes, hsum, Nat.add_sub_cancel_left]

theorem Consistent.enforceEventRetention (h : log.Consistent layout) (config : RuntimeConfig) :
    (log.enforceEventRetention layout config).Consistent layout := by
  unfold EventLog.enforceEventRetention
  split
  · exact h
  · exact h.drain (retentionDropCount_le config log)

theorem Consistent.takeEvents (h : log.Consistent layout) : log.takeEvents.2.Consistent layout where
  shows_end := by
    have hgone := h.shows_end.letGo (Nat.le_refl log.window.retained.length)
    rwa [Window.letGo, List.drop_length] at hgone
  bytes := rfl

theorem Consistent.pollEventsWithStatus (h : log.Consistent layout) (cursor : RuntimeEventCursor) :
    (log.pollEventsWithStatus cursor).1.events =
      log.pushed.drop (max cursor.nextIndex log.eventBaseIndex) :=
  h.shows_end.readFrom_eq cursor.nextIndex

theorem Consistent.eventTailIndex (h : log.Consistent layout) : log.eventTailIndex = log.pushed.length :=
  h.shows_end.tail_eq

theorem enforceEventRetention_window (config : RuntimeConfig) (log : EventLog) :
    (log.enforceEventRetention layout config).window =
      log.window.letGo (log.retentionDropCount layout config) := by
  unfold EventLog.enforceEventRetention
  split
  · rename_i h
    rw [h]
    rfl
  · rfl

@[simp] theorem enforceEventRetention_pushed (config : RuntimeConfig) (log : EventLog) :
    (log.enforceEventRetention layout config).pushed = log.pushed := by
  unfold EventLog.enforceEventRetention
  split <;> rfl

theorem pushAll_window (events : List LemnosEvent) (log : EventLog) :
    (events.foldl (pushRetainedEvent layout) log).window = log.window.push events := by
  induction events generalizing log with
  | nil => simp [window, Window.push]
  | cons event events ih =>
    rw [List.foldl_cons, ih]
    simp [window, Window.push, pushRetainedEvent]

@[simp] theorem pushAll_pushed (events : List LemnosEvent) (log : EventLog) :
    (events.foldl (pushRetainedEvent layout) log).pushed = log.pushed ++ events := by
  induction events generalizing log with
  | nil => simp
  | cons event events ih =>
    rw [List.foldl_cons, ih]
    simp [pushRetainedEvent]

theorem takeEvents_window (log : EventLog) :
    log.takeEvents.2.window = log.window.letGo log.events.length := by
  simp [takeEvents, window, Window.letGo]

end EventLog

end Lemnos
