import Lemnos.Library.Runs
import Lemnos.Runtime.State

namespace Lemnos

open Lemnos.Core Discovery Library.RetainedLog Library.Runs

structure Subscriber where
  cursor : RuntimeEventCursor
  start : ℕ
  delivered : List (ℕ × LemnosEvent) := []
  missed : List ℕ := []

namespace Subscriber

def new (cursor : RuntimeEventCursor) : Subscriber := { cursor, start := cursor.nextIndex }

def poll (subscriber : Subscriber) (log : EventLog) : Subscriber where
  cursor := (log.pollEventsWithStatus subscriber.cursor).2
  start := subscriber.start
  delivered := subscriber.delivered ++ numbered (max subscriber.cursor.nextIndex log.eventBaseIndex)
    (log.pollEventsWithStatus subscriber.cursor).1.events
  missed := subscriber.missed ++
    List.range' subscriber.cursor.nextIndex (log.eventBaseIndex - subscriber.cursor.nextIndex)

def reader (subscriber : Subscriber) : Reader LemnosEvent :=
  ⟨subscriber.start, subscriber.cursor.nextIndex, subscriber.delivered, subscriber.missed⟩

theorem poll_reader (subscriber : Subscriber) (log : EventLog) :
    (subscriber.poll log).reader = subscriber.reader.read log.window := rfl

end Subscriber

structure EventWorld where
  runtime : Runtime
  subscribers : List Subscriber := []

inductive EventOp where
  | cacheState (state : DeviceStateSnapshot)
  | recordInventoryEvents (diff : InventoryDiff)
  | takeEvents
  | setConfig (config : RuntimeConfig)
  | subscribe
  | subscribeFromStart
  | poll (subscriber : ℕ)

namespace EventWorld

variable (layout : Layout)

def step (op : EventOp) (world : EventWorld) : Option EventWorld :=
  match op with
  | .cacheState state => some { world with runtime := world.runtime.cacheState layout state }
  | .recordInventoryEvents diff =>
    some { world with runtime := world.runtime.recordInventoryEvents layout diff }
  | .takeEvents => some { world with runtime := world.runtime.takeEvents.2 }
  | .setConfig config => some { world with runtime := world.runtime.setConfig layout config }
  | .subscribe =>
    some { world with subscribers := world.subscribers ++ [.new world.runtime.log.subscribe] }
  | .subscribeFromStart =>
    some { world with subscribers := world.subscribers ++ [.new world.runtime.log.subscribeFromStart] }
  | .poll i =>
    world.subscribers[i]?.map (fun subscriber =>
      { world with subscribers := world.subscribers.set i (subscriber.poll world.runtime.log) })

def init (config : RuntimeConfig) : EventWorld := { runtime := { config } }

structure Inv (world : EventWorld) : Prop where
  consistent : world.runtime.log.Consistent layout
  exact_readers : ∀ subscriber ∈ world.subscribers,
    subscriber.reader.Exact world.runtime.log.window world.runtime.log.pushed

variable {layout}

theorem init_inv (config : RuntimeConfig) : (init config).Inv layout where
  consistent := EventLog.consistent_empty
  exact_readers := fun _ hs => by cases hs

theorem Inv.push {world : EventWorld} (h : world.Inv layout) (events : List LemnosEvent)
    (config : RuntimeConfig) (runtime : Runtime)
    (hlog : runtime.log =
      (events.foldl (EventLog.pushRetainedEvent layout) world.runtime.log).enforceEventRetention layout
        config) :
    Inv layout { world with runtime } where
  consistent := by
    rw [hlog]
    exact (h.consistent.pushAll events).enforceEventRetention config
  exact_readers := by
    intro subscriber hs
    rw [hlog, EventLog.enforceEventRetention_window, EventLog.pushAll_window,
      EventLog.enforceEventRetention_pushed, EventLog.pushAll_pushed]
    exact ((h.exact_readers subscriber hs).push events).letGo _

theorem Inv.subscribe {world : EventWorld} (h : world.Inv layout) {cursor : RuntimeEventCursor}
    (hc : cursor.nextIndex ≤ world.runtime.log.pushed.length) :
    Inv layout { world with subscribers := world.subscribers ++ [.new cursor] } where
  consistent := h.consistent
  exact_readers := by
    intro subscriber hs
    rcases List.mem_append.mp hs with hs | hs
    · exact h.exact_readers subscriber hs
    · cases List.mem_singleton.mp hs
      exact Reader.subscribe_exact hc

theorem step_inv (op : EventOp) (world world' : EventWorld) (h : world.Inv layout)
    (hs : world.step layout op = some world') : world'.Inv layout := by
  cases op with
  | cacheState state =>
    cases hs
    exact h.push [.state (.snapshot state)] world.runtime.config _ rfl
  | recordInventoryEvents diff =>
    cases hs
    exact h.push (diff.events.map .inventory) world.runtime.config _ rfl
  | takeEvents =>
    cases hs
    refine ⟨h.consistent.takeEvents, ?_⟩
    intro subscriber hs
    have hgone := (h.exact_readers subscriber hs).letGo world.runtime.log.events.length
    rwa [← EventLog.takeEvents_window] at hgone
  | setConfig config =>
    cases hs
    exact h.push [] config (world.runtime.setConfig layout config) rfl
  | subscribe =>
    cases hs
    exact h.subscribe (Nat.le_of_eq h.consistent.eventTailIndex)
  | subscribeFromStart =>
    cases hs
    exact h.subscribe h.consistent.shows_end.1
  | poll i =>
    obtain ⟨subscriber, hget, rfl⟩ := Option.map_eq_some_iff.mp hs
    refine ⟨h.consistent, ?_⟩
    intro polled hp
    rcases List.mem_or_eq_of_mem_set hp with hp | rfl
    · exact h.exact_readers polled hp
    · rw [Subscriber.poll_reader]
      exact (h.exact_readers subscriber (List.mem_of_getElem? hget)).read h.consistent.shows_end

end EventWorld

end Lemnos
