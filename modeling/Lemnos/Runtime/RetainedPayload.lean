import Mathlib.Algebra.BigOperators.Group.List.Basic
import Lemnos.Core.Payload
import Lemnos.Runtime.EventBudget
import Lemnos.Runtime.EventDelivery

namespace Lemnos

open Lemnos.Core Library.Runs

namespace Layout

variable (layout : Layout)

/-! What an estimate counts besides the payload: the fixed sizes, and names that nothing owns. -/

mutual

def valueOverhead : Value → ℕ
  | .list values => values.length * layout.value + listOverhead values
  | .map values => mapOverhead values
  | _ => 0

def listOverhead : List Value → ℕ
  | [] => 0
  | value :: values => valueOverhead value + listOverhead values

def mapOverhead : ValueMap → ℕ
  | [] => 0
  | (_, value) :: values => valueOverhead value + mapOverhead values

end

def vecOverhead {α : Type} (size : ℕ) (overhead : α → ℕ) (values : List α) : ℕ :=
  values.length * size + totalOf overhead values

def addressOverhead : DeviceAddress → ℕ
  | .custom interface _ _ => interface.asStr.utf8ByteSize
  | _ => 0

def relationOverhead : DeviceRelation → ℕ
  | .custom _ => 0
  | relation => relationBytes relation

def descriptorOverhead (descriptor : DeviceDescriptor) : ℕ :=
  presentOf addressOverhead descriptor.address +
    layout.mapOverhead descriptor.properties +
    vecOverhead layout.capabilityDescriptor (fun capability => layout.mapOverhead capability.properties)
      descriptor.capabilities +
    vecOverhead layout.deviceLink
      (fun link => relationOverhead link.relation + layout.mapOverhead link.attributes) descriptor.links +
    vecOverhead layout.string (fun _ => 0) descriptor.matchHints.compatible

def issuesOverhead (issues : List DeviceIssue) : ℕ :=
  vecOverhead layout.deviceIssue (fun issue => layout.mapOverhead issue.attributes) issues

def snapshotOverhead (snapshot : DeviceStateSnapshot) : ℕ :=
  layout.issuesOverhead snapshot.issues + layout.mapOverhead snapshot.realizedConfig +
    layout.mapOverhead snapshot.telemetry +
    presentOf (fun record => presentOf layout.valueOverhead record.output) snapshot.lastOperation

def eventOverhead : LemnosEvent → ℕ
  | .inventory (.added descriptor) =>
    layout.deviceEvent + layout.deviceDescriptor + layout.descriptorOverhead descriptor
  | .inventory (.changed previous current) =>
    layout.deviceEvent + layout.deviceDescriptor + layout.descriptorOverhead previous +
      layout.deviceDescriptor + layout.descriptorOverhead current
  | .inventory (.removed _) => layout.deviceEvent
  | .state (.snapshot snapshot) => layout.stateEvent + layout.snapshotOverhead snapshot
  | .state (.healthChanged ..) | .state (.lifecycleChanged ..) => layout.stateEvent
  | .state (.issuesChanged _ issues _) => layout.stateEvent + layout.issuesOverhead issues

variable {layout} {α : Type} {bytes payload overhead : α → ℕ}

mutual

theorem valueBytes_eq (value : Value) :
    layout.valueBytes value = value.payload + layout.valueOverhead value := by
  cases value with
  | list values =>
    have hvalues := listBytes_eq values
    simp only [valueBytes, Value.payload, valueOverhead]
    omega
  | map values => exact mapBytes_eq values
  | null | bool | i64 | u64 | f64 | string | bytes => rfl

theorem listBytes_eq (values : List Value) :
    layout.valueListBytes values = listPayload values + layout.listOverhead values := by
  cases values with
  | nil => rfl
  | cons value values =>
    have hvalue := valueBytes_eq value
    have hvalues := listBytes_eq values
    simp only [valueListBytes, listPayload, listOverhead]
    omega

theorem mapBytes_eq (values : ValueMap) :
    layout.valueMapBytes values = mapPayload values + layout.mapOverhead values := by
  cases values with
  | nil => rfl
  | cons entry values =>
    obtain ⟨key, value⟩ := entry
    have hvalue := valueBytes_eq value
    have hvalues := mapBytes_eq values
    simp only [valueMapBytes, mapPayload, mapOverhead]
    omega

end

theorem vecBytes_eq (h : ∀ a, bytes a = payload a + overhead a) (size : ℕ) (values : List α) :
    vecBytes size bytes values = totalOf payload values + vecOverhead size overhead values := by
  have hsum : (values.map bytes).sum = (values.map payload).sum + (values.map overhead).sum := by
    rw [← List.sum_map_add]
    exact congrArg List.sum (List.map_congr_left fun a _ => h a)
  rw [vecBytes, vecOverhead, totalOf, totalOf, hsum]
  omega

theorem optionBytes_eq (h : ∀ a, bytes a = payload a + overhead a) (value : Option α) :
    optionBytes bytes value = presentOf payload value + presentOf overhead value := by
  cases value with
  | none => rfl
  | some a => exact h a

theorem optionBytes_self (value : Option α) : optionBytes bytes value = presentOf bytes value := rfl

theorem stringMapBytes_eq (values : Library.OrderedMap.BTreeMap String String) :
    stringMapBytes values = textPayload values := rfl

theorem addressBytes_eq (address : DeviceAddress) :
    addressBytes address = address.payload + addressOverhead address := by
  cases address with
  | custom interface scheme value =>
    simp only [addressBytes, interfaceBytes, DeviceAddress.payload, addressOverhead]
    omega
  | _ => rfl

theorem relationBytes_eq (relation : DeviceRelation) :
    relationBytes relation = relation.payload + relationOverhead relation := by
  cases relation with
  | custom name => rfl
  | _ => exact (Nat.zero_add _).symm

theorem capabilityBytes_eq (capability : CapabilityDescriptor) :
    layout.capabilityBytes capability = capability.payload + layout.mapOverhead capability.properties := by
  rw [capabilityBytes, mapBytes_eq, CapabilityDescriptor.payload, Nat.add_assoc _ (mapPayload _)]
  rfl

theorem linkBytes_eq (link : DeviceLink) :
    layout.linkBytes link =
      link.payload + (relationOverhead link.relation + layout.mapOverhead link.attributes) := by
  rw [linkBytes, relationBytes_eq, mapBytes_eq, DeviceLink.payload, stringIdBytes]
  omega

theorem matchHintsBytes_eq (hints : MatchHints) :
    layout.matchHintsBytes hints =
      hints.payload + vecOverhead layout.string (fun _ => 0) hints.compatible := by
  have hcompatible := @vecBytes_eq String String.utf8ByteSize String.utf8ByteSize (fun _ => 0) (fun _ => rfl)
    layout.string hints.compatible
  simp only [matchHintsBytes, MatchHints.payload, hcompatible, optionBytes_self, stringMapBytes_eq]
  omega

theorem descriptorBytes_eq (descriptor : DeviceDescriptor) :
    layout.descriptorBytes descriptor + descriptor.surfacePayload =
      descriptor.payload + layout.descriptorOverhead descriptor := by
  have haddress := optionBytes_eq addressBytes_eq descriptor.address
  have hcapabilities :=
    vecBytes_eq (@capabilityBytes_eq layout) layout.capabilityDescriptor descriptor.capabilities
  have hlinks := vecBytes_eq (@linkBytes_eq layout) layout.deviceLink descriptor.links
  simp only [descriptorBytes, haddress, hcapabilities, hlinks, mapBytes_eq, matchHintsBytes_eq,
    optionBytes_self, stringMapBytes_eq, stringIdBytes, DeviceDescriptor.payload, descriptorOverhead]
  omega

theorem issuesBytes_eq (issues : List DeviceIssue) :
    vecBytes layout.deviceIssue layout.issueBytes issues =
      totalOf DeviceIssue.payload issues + layout.issuesOverhead issues := by
  have hissue : ∀ issue : DeviceIssue,
      layout.issueBytes issue = issue.payload + layout.mapOverhead issue.attributes := by
    intro issue
    rw [issueBytes, mapBytes_eq, DeviceIssue.payload, Nat.add_assoc _ (mapPayload _)]
  exact vecBytes_eq hissue layout.deviceIssue issues

theorem operationRecordBytes_eq (record : OperationRecord) :
    layout.operationRecordBytes record =
      record.payload + presentOf layout.valueOverhead record.output := by
  have houtput := optionBytes_eq (@valueBytes_eq layout) record.output
  rw [operationRecordBytes, houtput, OperationRecord.payload, optionBytes_self]
  omega

theorem stateSnapshotBytes_eq (snapshot : DeviceStateSnapshot) :
    layout.stateSnapshotBytes snapshot = snapshot.payload + layout.snapshotOverhead snapshot := by
  have hoperation := optionBytes_eq (@operationRecordBytes_eq layout) snapshot.lastOperation
  simp only [stateSnapshotBytes, hoperation, issuesBytes_eq, mapBytes_eq, stringIdBytes,
    DeviceStateSnapshot.payload, snapshotOverhead]
  omega

theorem estimatedRetainedEventBytes_eq (event : LemnosEvent) :
    layout.estimatedRetainedEventBytes event + event.surfacePayload =
      event.payload + layout.eventOverhead event := by
  rcases event with (descriptor | ⟨previous, current⟩ | deviceId) |
    (snapshot | ⟨deviceId, _, _, _⟩ | ⟨deviceId, _, _, _⟩ | ⟨deviceId, issues, _⟩)
  · have hdescriptor := @descriptorBytes_eq layout descriptor
    simp only [estimatedRetainedEventBytes, inventoryEventBytes, LemnosEvent.payload,
      LemnosEvent.surfacePayload, eventOverhead]
    omega
  · have hprevious := @descriptorBytes_eq layout previous
    have hcurrent := @descriptorBytes_eq layout current
    simp only [estimatedRetainedEventBytes, inventoryEventBytes, LemnosEvent.payload,
      LemnosEvent.surfacePayload, eventOverhead]
    omega
  -- Only descriptors have a control surface.
  all_goals
    simp only [estimatedRetainedEventBytes, inventoryEventBytes, stateEventBytes, stateSnapshotBytes_eq,
      issuesBytes_eq, stringIdBytes, LemnosEvent.payload, LemnosEvent.surfacePayload, eventOverhead]
    omega

theorem payload_le_iff (event : LemnosEvent) :
    event.payload ≤ layout.estimatedRetainedEventBytes event ↔
      event.surfacePayload ≤ layout.eventOverhead event := by
  have hsum := @estimatedRetainedEventBytes_eq layout event
  omega

theorem totalPayload_le {events : List LemnosEvent}
    (h : ∀ event ∈ events, event.surfacePayload ≤ layout.eventOverhead event) :
    totalOf LemnosEvent.payload events ≤ layout.eventBytes events := by
  induction events with
  | nil => exact Nat.le_refl 0
  | cons event events ih =>
    have hevent := (payload_le_iff event).mpr (h event List.mem_cons_self)
    have hevents := ih fun later hlater => h later (List.mem_cons_of_mem event hlater)
    simp only [totalOf, eventBytes, List.map_cons, List.sum_cons] at hevents ⊢
    omega

end Layout

theorem EventLog.enforceEventRetention_within {layout : Layout} {config : RuntimeConfig} {log : EventLog}
    (h : log.Consistent layout) {limit : ℕ} (hlimit : limit ∈ config.maxRetainedEventBytes) :
    layout.eventBytes (log.enforceEventRetention layout config).events ≤ limit := by
  obtain ⟨-, hwithin⟩ := (enforceEventRetention_longest h.bytes hlimit).allowed
  rcases hwithin with hempty | hle
  · rw [hempty]
    exact Nat.zero_le limit
  · exact (Nat.le_add_left _ _).trans hle

namespace EventWorld

variable {layout : Layout} {world : EventWorld}

structure Budgeted (layout : Layout) (world : EventWorld) : Prop where
  inv : world.Inv layout
  within : ∀ limit ∈ world.runtime.config.maxRetainedEventBytes,
    layout.eventBytes world.runtime.log.events ≤ limit

theorem step_budgeted (op : EventOp) (world world' : EventWorld) (h : world.Budgeted layout)
    (hs : world.step layout op = some world') : world'.Budgeted layout := by
  refine ⟨step_inv op world world' h.inv hs, ?_⟩
  cases op with
  | cacheState state =>
    cases hs
    exact fun limit hlimit =>
      EventLog.enforceEventRetention_within (h.inv.consistent.pushAll [.state (.snapshot state)]) hlimit
  | recordInventoryEvents diff =>
    cases hs
    exact fun limit hlimit =>
      EventLog.enforceEventRetention_within (h.inv.consistent.pushAll (diff.events.map .inventory)) hlimit
  | takeEvents =>
    cases hs
    exact fun limit _ => Nat.zero_le limit
  | setConfig config =>
    cases hs
    exact fun limit hlimit => EventLog.enforceEventRetention_within h.inv.consistent hlimit
  | subscribe | subscribeFromStart =>
    cases hs
    exact h.within
  | poll i =>
    obtain ⟨subscriber, -, rfl⟩ := Option.map_eq_some_iff.mp hs
    exact h.within

/-- The estimate covers the payload exactly if the roots of the control surfaces, which it leaves out, are no
longer than what it counts beyond the payload. -/
theorem retained_payload_covered_iff (layout : Layout) :
    (∀ event, event.payload ≤ layout.estimatedRetainedEventBytes event ↔
      event.surfacePayload ≤ layout.eventOverhead event) ∧
    ∀ config ops world, run (step layout) ops (init config) = some world →
      (∀ event ∈ world.runtime.log.events, event.surfacePayload ≤ layout.eventOverhead event) →
        ∀ limit ∈ world.runtime.config.maxRetainedEventBytes,
          totalOf LemnosEvent.payload world.runtime.log.events ≤ limit := by
  refine ⟨Layout.payload_le_iff, ?_⟩
  intro config ops world hrun hevents limit hlimit
  have hinit : (init config).Budgeted layout := ⟨init_inv config, fun limit _ => Nat.zero_le limit⟩
  have hbudgeted := run_invariant step_budgeted hinit hrun
  exact (Layout.totalPayload_le hevents).trans (hbudgeted.within limit hlimit)

def announced (device : DeviceDescriptor) : List EventOp := [.recordInventoryEvents { added := [device] }]

def boundedTo (limit : ℕ) : RuntimeConfig := { maxRetainedEventBytes := some limit }

theorem retained_payload_covered_iff_plain :
    ∃ world, run (step wordLayout) (announced gpioLineDescriptor) (init (boundedTo 100)) = some world ∧
      totalOf LemnosEvent.payload world.runtime.log.events ≤ 100 := by
  have hcovered := (retained_payload_covered_iff wordLayout).2 (boundedTo 100) (announced gpioLineDescriptor)
  exact ⟨_, rfl, hcovered _ rfl (by decide) 100 rfl⟩

def pageLayout : Layout := ⟨4096, 4096, 4096, 4096, 4096, 4096, 4096, 4096⟩

def classRoot : ℕ → String
  | 0 => "/sys/class"
  | depth + 1 => classRoot depth ++ "/gpio"

theorem classRoot_size (depth : ℕ) : (classRoot depth).utf8ByteSize = 10 + 5 * depth := by
  induction depth with
  | zero => rfl
  | succ depth ih =>
    have hgpio : "/gpio".utf8ByteSize = 5 := rfl
    rw [classRoot, String.utf8ByteSize_append, ih, hgpio]
    omega

def classLine (depth : ℕ) : DeviceDescriptor :=
  { gpioLineDescriptor with controlSurface := some (.linuxClass (classRoot depth)) }

theorem classLine_surfacePayload (depth : ℕ) :
    (LemnosEvent.inventory (.added (classLine depth))).surfacePayload = 10 + 5 * depth := classRoot_size depth

theorem classLine_overhead (layout : Layout) (depth : ℕ) :
    layout.eventOverhead (.inventory (.added (classLine depth))) =
      layout.deviceEvent + layout.deviceDescriptor := by
  simp [classLine, gpioLineDescriptor, Layout.eventOverhead, Layout.descriptorOverhead, Layout.vecOverhead,
    Layout.mapOverhead, presentOf, totalOf]

theorem control_surface_exceeds_estimate :
    pageLayout.estimatedRetainedEventBytes (.inventory (.added (classLine 2000))) <
      (LemnosEvent.inventory (.added (classLine 2000))).payload := by
  apply Nat.lt_of_not_le
  rw [Layout.payload_le_iff, classLine_surfacePayload, classLine_overhead]
  decide

end EventWorld

end Lemnos
