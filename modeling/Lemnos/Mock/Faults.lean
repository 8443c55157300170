import Lemnos.Library.Queues
import Lemnos.Mock.Hardware

/-! The errors that a test injects into the mock hardware. -/

namespace Lemnos.Mock

open Lemnos.Core Bus Library Library.OrderedMap Library.Queues

inductive MockFaultStep where
  | timeout (operation : String)
  | disconnect (operation : String)
  | transportFailure (operation reason : String)
  | error (operation : String) (error : BusError)

def MockFaultStep.intoEntry (deviceId : DeviceId) : MockFaultStep → String × BusError
  | .timeout operation => (operation, .timeout deviceId operation)
  | .disconnect operation => (operation, .disconnected deviceId)
  | .transportFailure operation reason => (operation, .transportFailure deviceId operation reason)
  | .error operation failure => (operation, failure)

structure MockFaultScript where
  steps : List MockFaultStep := []

def MockFaultScript.intoEntries (deviceId : DeviceId) (script : MockFaultScript) : List (String × BusError) :=
  script.steps.map (MockFaultStep.intoEntry deviceId)

namespace FaultQueue

def toList (queue : FaultQueue) : List BusError := queue.front :: queue.rest

def pushBack (error : BusError) : Option FaultQueue → FaultQueue
  | none => ⟨error, []⟩
  | some queue => ⟨queue.front, queue.rest ++ [error]⟩

end FaultQueue

namespace MockFaultRegistry

def push (registry : MockFaultRegistry) (deviceId : DeviceId) (operation : String) (error : BusError) :
    MockFaultRegistry :=
  let operations := registry.faults[deviceId]?.getD ∅
  ⟨registry.faults.insert deviceId (operations.insert operation (.pushBack error operations[operation]?))⟩

def pushAll (registry : MockFaultRegistry) (deviceId : DeviceId) (entries : List (String × BusError)) :
    MockFaultRegistry :=
  entries.foldl (fun registry entry => registry.push deviceId entry.1 entry.2) registry

def pending (registry : MockFaultRegistry) (key : DeviceId × String) : List BusError :=
  (registry.next key.1 key.2).elim [] FaultQueue.toList

variable {registry : MockFaultRegistry}

theorem next_of_pending_nil {deviceId : DeviceId} {operation : String}
    (h : registry.pending (deviceId, operation) = []) : registry.next deviceId operation = none := by
  cases hnext : registry.next deviceId operation with
  | none => rfl
  | some queue =>
    rw [pending, hnext] at h
    cases h

theorem next_of_pending_cons {deviceId : DeviceId} {operation : String} {error : BusError} {rest : List BusError}
    (h : registry.pending (deviceId, operation) = error :: rest) :
    registry.next deviceId operation = some ⟨error, rest⟩ := by
  cases hnext : registry.next deviceId operation with
  | none =>
    rw [pending, hnext] at h
    cases h
  | some queue =>
    rw [pending, hnext] at h
    cases h
    rfl

theorem next_eq (registry : MockFaultRegistry) (deviceId : DeviceId) (operation : String) :
    registry.next deviceId operation = (registry.faults[deviceId]?.getD ∅)[operation]? := by
  unfold next
  cases registry.faults[deviceId]? with
  | none => simp
  | some operations => rfl

theorem pending_eq (registry : MockFaultRegistry) (deviceId : DeviceId) (operation : String) :
    registry.pending (deviceId, operation) =
      ((registry.faults[deviceId]?.getD ∅)[operation]?).elim [] FaultQueue.toList := by
  rw [pending, next_eq]

theorem pending_push (registry : MockFaultRegistry) (deviceId : DeviceId) (operation : String)
    (error : BusError) : (registry.push deviceId operation error).pending =
      Function.update registry.pending (deviceId, operation)
        (registry.pending (deviceId, operation) ++ [error]) := by
  funext key
  obtain ⟨deviceId', operation'⟩ := key
  rw [pending_eq, push]
  by_cases hdevice : deviceId' = deviceId
  · subst hdevice
    rw [BTreeMap.getElem?_insert_same, Option.getD_some]
    by_cases hoperation : operation' = operation
    · subst hoperation
      rw [BTreeMap.getElem?_insert_same, Function.update_self, pending_eq]
      cases (registry.faults[deviceId']?.getD ∅)[operation']? <;> rfl
    · rw [BTreeMap.getElem?_insert_ne _ _ hoperation, Function.update_of_ne (by simp [hoperation]), pending_eq]
  · rw [BTreeMap.getElem?_insert_ne _ _ hdevice, Function.update_of_ne (by simp [hdevice]), pending_eq]

theorem pending_clearDevice (registry : MockFaultRegistry) (deviceId : DeviceId) :
    (registry.clearDevice deviceId).pending =
      fun key => if decide (key.1 = deviceId) then [] else registry.pending key := by
  funext key
  obtain ⟨deviceId', operation⟩ := key
  rw [pending_eq, clearDevice]
  by_cases hdevice : deviceId' = deviceId
  · subst hdevice
    simp
  · rw [BTreeMap.getElem?_erase_ne _ hdevice, pending_eq]
    simp [hdevice]

theorem getElem?_afterTake (operations : BTreeMap String FaultQueue) (operation : String) (queue : FaultQueue)
    (operation' : String) : ((afterTake operations operation queue)[operation']?).elim [] FaultQueue.toList =
      if operation' = operation then queue.rest else (operations[operation']?).elim [] FaultQueue.toList := by
  unfold afterTake
  obtain ⟨front, rest⟩ := queue
  by_cases hoperation : operation' = operation
  · subst hoperation
    rw [if_pos rfl]
    cases rest with
    | nil => rw [BTreeMap.getElem?_erase_same, Option.elim_none]
    | cons next rest =>
      rw [BTreeMap.getElem?_insert_same]
      rfl
  · rw [if_neg hoperation]
    cases rest with
    | nil => rw [BTreeMap.getElem?_erase_ne _ hoperation]
    | cons next rest => rw [BTreeMap.getElem?_insert_ne _ _ hoperation]

theorem take_error (registry : MockFaultRegistry) (deviceId : DeviceId) (operation : String) :
    (registry.take deviceId operation).1 = (registry.pending (deviceId, operation)).head? := by
  rw [take_fst, pending]
  cases registry.next deviceId operation <;> rfl

theorem getElem?_kept (faults : BTreeMap DeviceId (BTreeMap String FaultQueue)) (deviceId : DeviceId)
    (operations : BTreeMap String FaultQueue) (deviceId' : DeviceId) (operation : String) :
    ((if operations.isEmpty then faults.erase deviceId else faults.insert deviceId operations)[deviceId']?.getD
        ∅)[operation]? =
      if deviceId' = deviceId then operations[operation]? else (faults[deviceId']?.getD ∅)[operation]? := by
  by_cases hdevice : deviceId' = deviceId
  · subst hdevice
    rw [if_pos rfl]
    by_cases hempty : operations.isEmpty = true
    · rw [if_pos hempty, BTreeMap.getElem?_erase_same, Std.ExtTreeMap.isEmpty_iff.mp hempty]
      rfl
    · rw [if_neg hempty, BTreeMap.getElem?_insert_same]
      rfl
  · rw [if_neg hdevice]
    split
    · rw [BTreeMap.getElem?_erase_ne _ hdevice]
    · rw [BTreeMap.getElem?_insert_ne _ _ hdevice]

theorem pending_take (registry : MockFaultRegistry) (deviceId : DeviceId) (operation : String) :
    (registry.take deviceId operation).2.pending =
      Function.update registry.pending (deviceId, operation)
        (registry.pending (deviceId, operation)).tail := by
  cases hnext : registry.next deviceId operation with
  | none =>
    have hempty : registry.pending (deviceId, operation) = [] := by
      rw [pending, hnext]
      rfl
    rw [take_of_none hnext, hempty, List.tail_nil, ← hempty, Function.update_eq_self]
  | some queue =>
    obtain ⟨operations, hoperations, hqueue⟩ := Option.bind_eq_some_iff.mp hnext
    have hpending : registry.pending (deviceId, operation) = queue.toList := by
      rw [pending, hnext]
      rfl
    funext key
    obtain ⟨deviceId', operation'⟩ := key
    rw [take, hoperations]
    simp only [hqueue]
    rw [pending_eq, hpending, getElem?_kept]
    by_cases hdevice : deviceId' = deviceId
    · subst hdevice
      rw [if_pos rfl, getElem?_afterTake]
      by_cases hoperation : operation' = operation
      · subst hoperation
        rw [if_pos rfl, Function.update_self]
        rfl
      · rw [if_neg hoperation, Function.update_of_ne (by simp [hoperation]), pending_eq, hoperations]
        rfl
    · rw [if_neg hdevice, Function.update_of_ne (by simp [hdevice]), pending_eq]

theorem pending_empty : ({} : MockFaultRegistry).pending = fun _ => [] := by
  funext key
  obtain ⟨deviceId, operation⟩ := key
  rw [pending_eq]
  simp

end MockFaultRegistry

/-- The calls that touch the queues: of a test that injects, of a session that calls, of a removal. -/
inductive FaultCall where
  | queueError (deviceId : DeviceId) (operation : String) (error : BusError)
  | queueScript (deviceId : DeviceId) (script : MockFaultScript)
  | take (deviceId : DeviceId) (operation : String)
  | clearFaults (deviceId : DeviceId)

namespace FaultCall

def queueTimeout (deviceId : DeviceId) (operation : String) : FaultCall :=
  .queueError deviceId operation (.timeout deviceId operation)

def queueTransportFailure (deviceId : DeviceId) (operation reason : String) : FaultCall :=
  .queueError deviceId operation (.transportFailure deviceId operation reason)

def queueDisconnect (deviceId : DeviceId) (operation : String) : FaultCall :=
  .queueError deviceId operation (.disconnected deviceId)

def exec : FaultCall → MockFaultRegistry → Option ((DeviceId × String) × BusError) × MockFaultRegistry
  | queueError deviceId operation error, registry => (none, registry.push deviceId operation error)
  | queueScript deviceId script, registry => (none, registry.pushAll deviceId (script.intoEntries deviceId))
  | take deviceId operation, registry =>
    let (error, registry) := registry.take deviceId operation
    (error.map fun error => ((deviceId, operation), error), registry)
  | clearFaults deviceId, registry => (none, registry.clearDevice deviceId)

def queueCalls : FaultCall → List (QueueCall (DeviceId × String) BusError)
  | queueError deviceId operation error => [.push (deviceId, operation) error]
  | queueScript deviceId script =>
    (script.intoEntries deviceId).map fun entry => .push (deviceId, entry.1) entry.2
  | take deviceId operation => [.take (deviceId, operation)]
  | clearFaults deviceId => [.clear fun key => decide (key.1 = deviceId)]

def run : List FaultCall → MockFaultRegistry → List ((DeviceId × String) × BusError) × MockFaultRegistry
  | [], registry => ([], registry)
  | call :: calls, registry =>
    let (struck, registry) := call.exec registry
    let (more, registry) := run calls registry
    (struck.toList ++ more, registry)

theorem pushAll_refines (deviceId : DeviceId) (entries : List (String × BusError)) (registry : MockFaultRegistry) :
    Queues.run (entries.map fun entry => .push (deviceId, entry.1) entry.2) registry.pending =
      ([], (registry.pushAll deviceId entries).pending) := by
  induction entries generalizing registry with
  | nil => rfl
  | cons entry entries ih =>
    rw [List.map_cons, Queues.run]
    simp only [QueueCall.step, ← MockFaultRegistry.pending_push, ih]
    rfl

theorem exec_refines (call : FaultCall) (registry : MockFaultRegistry) :
    Queues.run call.queueCalls registry.pending =
      ((call.exec registry).1.toList, (call.exec registry).2.pending) := by
  cases call with
  | queueError deviceId operation error =>
    simp only [queueCalls, Queues.run, QueueCall.step, ← MockFaultRegistry.pending_push]
    rfl
  | queueScript deviceId script => exact pushAll_refines deviceId (script.intoEntries deviceId) registry
  | take deviceId operation =>
    simp only [queueCalls, Queues.run, QueueCall.step, ← MockFaultRegistry.pending_take,
      ← MockFaultRegistry.take_error, List.append_nil]
    rfl
  | clearFaults deviceId =>
    simp only [queueCalls, Queues.run, QueueCall.step, ← MockFaultRegistry.pending_clearDevice]
    rfl

theorem run_refines (calls : List FaultCall) (registry : MockFaultRegistry) :
    Queues.run (calls.flatMap queueCalls) registry.pending =
      ((run calls registry).1, (run calls registry).2.pending) := by
  induction calls generalizing registry with
  | nil => rfl
  | cons call calls ih =>
    rw [List.flatMap_cons, run_append, exec_refines]
    simp only [ih]
    rfl

def injected (key : DeviceId × String) : FaultCall → List BusError
  | queueError deviceId operation error => if (deviceId, operation) = key then [error] else []
  | queueScript deviceId script =>
    (script.intoEntries deviceId).filterMap fun entry => if (deviceId, entry.1) = key then some entry.2 else none
  | _ => []

theorem injected_eq (key : DeviceId × String) (call : FaultCall) :
    pushedTo key call.queueCalls = call.injected key := by
  cases call with
  | queueError deviceId operation error => exact List.append_nil _
  | queueScript deviceId script =>
    simp only [queueCalls, injected]
    induction script.intoEntries deviceId with
    | nil => rfl
    | cons entry entries ih =>
      rw [List.map_cons, List.filterMap_cons, pushedTo, List.flatMap_cons, QueueCall.pushed]
      by_cases hkey : (deviceId, entry.1) = key
      · rw [if_pos hkey, if_pos hkey]
        exact congrArg (entry.2 :: ·) ih
      · rw [if_neg hkey, if_neg hkey]
        exact ih
  | take deviceId operation => rfl
  | clearFaults deviceId => rfl

theorem not_clears {deviceId : DeviceId} {operation : String} {call : FaultCall}
    (h : call ≠ .clearFaults deviceId) : ∀ queueCall ∈ call.queueCalls, ¬ queueCall.Clears (deviceId, operation) := by
  intro queueCall hmem hclears
  cases call with
  | queueError deviceId' operation' error =>
    obtain rfl := List.mem_singleton.mp hmem
    exact hclears
  | queueScript deviceId' script =>
    obtain ⟨entry, -, rfl⟩ := List.mem_map.mp hmem
    exact hclears
  | take deviceId' operation' =>
    obtain rfl := List.mem_singleton.mp hmem
    exact hclears
  | clearFaults deviceId' =>
    obtain rfl := List.mem_singleton.mp hmem
    exact h (congrArg clearFaults (of_decide_eq_true hclears).symm)

theorem injected_faults_strike_in_order (deviceId : DeviceId) (operation : String) (calls : List FaultCall)
    (h : ∀ call ∈ calls, call ≠ .clearFaults deviceId) (registry : MockFaultRegistry) :
    registry.pending (deviceId, operation) ++ calls.flatMap (injected (deviceId, operation)) =
      takenFrom (deviceId, operation) (run calls registry).1 ++
        (run calls registry).2.pending (deviceId, operation) := by
  have hkept : ∀ queueCall ∈ calls.flatMap queueCalls, ¬ queueCall.Clears (deviceId, operation) := by
    intro queueCall hmem
    obtain ⟨call, hcall, hqueueCall⟩ := List.mem_flatMap.mp hmem
    exact not_clears (h call hcall) queueCall hqueueCall
  have hpushed : pushedTo (deviceId, operation) (calls.flatMap queueCalls) =
      calls.flatMap (injected (deviceId, operation)) := by
    rw [pushedTo, List.flatMap_assoc]
    exact congrArg calls.flatMap (funext fun call => injected_eq (deviceId, operation) call)
  have hconserved := run_conserves (calls.flatMap queueCalls) hkept registry.pending
  rw [run_refines] at hconserved
  rw [← hpushed]
  exact hconserved

def samplePort : DeviceId := ⟨"mock.uart.ttyS0", by decide⟩

def sampleScript : MockFaultScript := ⟨[.timeout "uart.read", .disconnect "uart.write", .disconnect "uart.read"]⟩

theorem script_strikes_in_order :
    takenFrom (samplePort, "uart.read")
        (run [.queueScript samplePort sampleScript, .take samplePort "uart.read"] {}).1 ++
      (run [.queueScript samplePort sampleScript, .take samplePort "uart.read"] {}).2.pending
        (samplePort, "uart.read") = [.timeout samplePort "uart.read", .disconnected samplePort] := by
  have hordered := injected_faults_strike_in_order samplePort "uart.read"
    [.queueScript samplePort sampleScript, .take samplePort "uart.read"]
    (by simp) {}
  rw [MockFaultRegistry.pending_empty] at hordered
  exact hordered.symm

end FaultCall

end Lemnos.Mock
