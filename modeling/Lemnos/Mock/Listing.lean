import Lemnos.Discovery.Incremental
import Lemnos.Mock.Plugging

/-! What a runtime makes of the devices that the mock hardware lists. -/

namespace Lemnos.Mock

open Lemnos.Core Bus Discovery DriverSdk Drivers Registry Library Library.Frames Library.OrderedMap MockHardware

variable {hardware : MockHardwareState}

section Listing

namespace MockHardware

def interfaces : List InterfaceKind := [.gpio, .pwm, .i2c, .spi, .uart, .usb]

theorem mem_interfaces (interface : InterfaceKind) : interface ∈ interfaces := by
  cases interface <;> decide

def listing (interface : InterfaceKind) (hardware : MockHardwareState) : List DeviceDescriptor :=
  ((deviceTable interface).entries hardware).toList.flatMap fun entry => Device.descriptors interface entry.2

theorem descriptors_perm (hardware : MockHardwareState) :
    (descriptors hardware).Perm (interfaces.flatMap fun interface => listing interface hardware) := by
  refine (List.perm_insertionSort _ _).trans (List.Perm.of_eq ?_)
  simp only [interfaces, List.flatMap_cons, List.flatMap_nil, List.append_nil, List.append_assoc, listing,
    descriptorsOf, List.map_eq_flatMap]
  rfl

theorem mem_listing {interface : InterfaceKind} {descriptor : DeviceDescriptor} :
    descriptor ∈ listing interface hardware ↔
      ∃ key descriptors, shown interface key hardware = some descriptors ∧ descriptor ∈ descriptors := by
  simp only [listing, List.mem_flatMap, Prod.exists, Std.ExtTreeMap.mem_toList_iff_getElem?_eq_some, shown, Table.at]
  constructor
  · rintro ⟨key, device, hdevice, hin⟩
    exact ⟨key, _, by rw [hdevice, Option.map_some], hin⟩
  · rintro ⟨key, descriptors, hlisted, hin⟩
    obtain ⟨device, hdevice, rfl⟩ := Option.map_eq_some_iff.mp hlisted
    exact ⟨key, device, hdevice, hin⟩

theorem mem_descriptors {descriptor : DeviceDescriptor} : descriptor ∈ descriptors hardware ↔
    ∃ interface, descriptor ∈ listing interface hardware := by
  rw [(descriptors_perm hardware).mem_iff, List.mem_flatMap]
  exact ⟨fun ⟨interface, _, hin⟩ => ⟨interface, hin⟩,
    fun ⟨interface, hin⟩ => ⟨interface, mem_interfaces interface, hin⟩⟩

theorem made_of_listing (h : Inventoried hardware) {interface : InterfaceKind} {descriptor : DeviceDescriptor}
    (hin : descriptor ∈ listing interface hardware) : Made interface descriptor := by
  obtain ⟨key, descriptors, hlisted, hin⟩ := mem_listing.mp hin
  exact (h.stocked interface key descriptors hlisted).made descriptor hin

theorem listing_ids_nodup (h : Inventoried hardware) (interface : InterfaceKind) :
    ((listing interface hardware).map DeviceDescriptor.id).Nodup := by
  have hstocked : ∀ entry ∈ ((deviceTable interface).entries hardware).toList,
      Stocked interface entry.1 (Device.descriptors interface entry.2) := by
    intro entry hentry
    apply h.stocked
    rw [shown, Table.at, Std.ExtTreeMap.mem_toList_iff_getElem?_eq_some.mp hentry, Option.map_some]
  rw [listing, List.map_flatMap, List.nodup_flatMap]
  refine ⟨fun entry hentry => (hstocked entry hentry).ids_nodup, ?_⟩
  have hkeys : (((deviceTable interface).entries hardware).toList).Pairwise fun left right => left.1 ≠ right.1 := by
    refine Std.ExtTreeMap.distinct_keys_toList.imp fun hdistinct heq => hdistinct ?_
    rw [heq, Std.compare_self]
  refine hkeys.imp_of_mem ?_
  intro left right hleft hright hne id hid hid'
  obtain ⟨descriptor, hin, rfl⟩ := List.mem_map.mp hid
  obtain ⟨descriptor', hin', heq⟩ := List.mem_map.mp hid'
  have hbelongs := (hstocked right hright).belongs descriptor' hin'
  rw [heq] at hbelongs
  exact hne (((hstocked left hleft).belongs descriptor hin).unique hbelongs)

theorem ids_nodup_of_inventoried {world : InterfaceKind → MockHardwareState}
    (h : ∀ interface, Inventoried (world interface)) :
    ((interfaces.flatMap fun interface => listing interface (world interface)).map DeviceDescriptor.id).Nodup := by
  have hdistinct : interfaces.Nodup := by decide
  rw [List.map_flatMap, List.nodup_flatMap]
  refine ⟨fun interface _ => listing_ids_nodup (h interface) interface, hdistinct.imp ?_⟩
  intro interface other hne id hid hid'
  obtain ⟨descriptor, hin, rfl⟩ := List.mem_map.mp hid
  obtain ⟨descriptor', hin', heq⟩ := List.mem_map.mp hid'
  have hprefix := (made_of_listing (h other) hin').id
  rw [heq] at hprefix
  exact hne (prefixes_apart (made_of_listing (h interface) hin).id hprefix)

theorem descriptors_ids_nodup (h : Inventoried hardware) : (listed hardware).Nodup :=
  ((descriptors_perm hardware).map _).nodup_iff.mpr (ids_nodup_of_inventoried fun _ => h)

theorem made_of_descriptors (h : Inventoried hardware) {descriptor : DeviceDescriptor}
    (hin : descriptor ∈ descriptors hardware) : Made descriptor.interface descriptor := by
  obtain ⟨interface, hin⟩ := mem_descriptors.mp hin
  have hmade := made_of_listing h hin
  rwa [hmade.interface_eq]

def sortedById (devices : List DeviceDescriptor) : List DeviceDescriptor :=
  devices.insertionSort fun left right => (compare left.id right.id).isLE = true

theorem sortedById_perm (devices : List DeviceDescriptor) : (sortedById devices).Perm devices :=
  List.perm_insertionSort _ _

theorem sortedById_pairwise {devices : List DeviceDescriptor} (h : (devices.map DeviceDescriptor.id).Nodup) :
    (sortedById devices).Pairwise fun left right => compare left.id right.id = .lt := by
  have htotal : Std.Total fun left right : DeviceDescriptor => (compare left.id right.id).isLE = true := by
    refine ⟨fun left right => ?_⟩
    cases hcompare : compare left.id right.id with
    | lt => exact .inl rfl
    | eq => exact .inl rfl
    | gt => exact .inr (by rw [Std.OrientedCmp.lt_of_gt hcompare]; rfl)
  have htrans : IsTrans DeviceDescriptor fun left right => (compare left.id right.id).isLE = true :=
    ⟨fun _ _ _ hfirst hlater => Std.TransCmp.isLE_trans hfirst hlater⟩
  have hordered : (sortedById devices).Pairwise fun left right => (compare left.id right.id).isLE = true :=
    List.pairwise_insertionSort _ _
  have hids : ((sortedById devices).map DeviceDescriptor.id).Nodup :=
    ((sortedById_perm devices).map _).nodup_iff.mpr h
  refine (hordered.and (List.pairwise_map.mp hids)).imp ?_
  rintro left right ⟨hle, hne⟩
  cases hcompare : compare left.id right.id with
  | lt => rfl
  | eq => exact absurd (Std.LawfulEqOrd.eq_of_compare hcompare) hne
  | gt =>
    rw [hcompare] at hle
    cases hle

theorem eq_of_pairwise_ids {left right : List DeviceDescriptor} (hperm : left.Perm right)
    (hleft : left.Pairwise fun a b => compare a.id b.id = .lt)
    (hright : right.Pairwise fun a b => compare a.id b.id = .lt) : left = right := by
  refine List.Perm.eq_of_pairwise ?_ hleft hright hperm
  intro a b _ _ hlt hgt
  exact absurd hgt (Std.OrientedCmp.not_lt_of_lt hlt)

theorem descriptors_sorted (h : Inventoried hardware) :
    (descriptors hardware).Pairwise fun left right => compare left.id right.id = .lt :=
  sortedById_pairwise (((List.perm_insertionSort _ _).map _).nodup_iff.mp (descriptors_ids_nodup h))

def inventory (hardware : MockHardwareState) : DiscoveryResult InventorySnapshot :=
  InventorySnapshot.withObservedAt (descriptors hardware) none

theorem validateDevices_descriptors (h : Inventoried hardware) : validateDevices (descriptors hardware) = .ok () :=
  (validateDevices_ok _).mpr ⟨fun _ hin => (made_of_descriptors h hin).valid, descriptors_ids_nodup h⟩

end MockHardware

theorem inventory_lists_what_is_there (arithmetic : DutyCycleArithmetic) (test : Test) (h : test.Built) :
    ∃ bench snapshot, test.run arithmetic = some bench ∧ inventory bench.hardware = .ok snapshot ∧
      (snapshot.devices.Pairwise fun left right => compare left.id right.id = .lt) ∧
      ∀ device, device ∈ snapshot.devices ↔ ∃ interface key state,
        (deviceTable interface).at key bench.hardware = some state ∧ device ∈ Device.descriptors interface state := by
  obtain ⟨bench, hrun, hinventoried⟩ := test.run_inventoried arithmetic h
  have hinventory := InventorySnapshot.withObservedAt_of_valid none (validateDevices_descriptors hinventoried)
  refine ⟨bench, _, hrun, hinventory, descriptors_sorted hinventoried, ?_⟩
  intro device
  rw [mem_descriptors]
  apply exists_congr
  intro interface
  simp only [listing, List.mem_flatMap, Prod.exists, Std.ExtTreeMap.mem_toList_iff_getElem?_eq_some, Table.at]

theorem lineAndPort_inventory : ∃ bench snapshot, lineAndPort.run zeroRatios = some bench ∧
    inventory bench.hardware = .ok snapshot ∧
    (snapshot.devices.Pairwise fun left right => compare left.id right.id = .lt) ∧
    ∀ device, device ∈ snapshot.devices ↔ ∃ interface key state,
      (deviceTable interface).at key bench.hardware = some state ∧ device ∈ Device.descriptors interface state :=
  inventory_lists_what_is_there zeroRatios lineAndPort lineAndPort_built

end Listing

section Opening

theorem exec_open {α : Type} {table : Table α} {deviceId : DeviceId} {state : α}
    (hnone : hardware.faults.next deviceId "open" = none) (hstate : table.at deviceId hardware = some state)
    (next : α → MockSession) :
    (takeInjectedError deviceId "open" >>= fun _ =>
      table.stateOf deviceId (unsupportedDevice deviceId) >>= fun state => pure (next state)).exec hardware =
        (.ok (next state), hardware) := by
  rw [exec_bind_of_ok (exec_takeInjectedError_of_none hnone), exec_bind_pure, exec_stateOf]
  rw [Table.at] at hstate
  rw [hstate]
  rfl

theorem exec_openSession (h : Inventoried hardware) {interface : InterfaceKind} {device : DeviceDescriptor}
    (hin : device ∈ listing interface hardware) (access : SessionAccess)
    (hnone : hardware.faults.next device.id "open" = none) :
    ∃ session, (openSession interface device access).exec hardware = (.ok session, hardware) ∧
      session.device = device ∧
      ∃ descriptors, shown interface (session.target interface) hardware = some descriptors ∧ device ∈ descriptors := by
  obtain ⟨key, descriptors, hlisted, hin⟩ := mem_listing.mp hin
  have hbelongs := (h.stocked interface key descriptors hlisted).belongs device hin
  obtain ⟨state, hstate, rfl⟩ := Option.map_eq_some_iff.mp hlisted
  by_cases husb : interface = .usb
  · subst husb
    have howner : descriptorOwners.at device.id hardware = some key := h.owned key _ hlisted device hin
    exact ⟨opened access device key, exec_open hnone howner _, rfl, _, hlisted, hin⟩
  · have hkey : device.id = key := by
      cases interface <;> first | exact hbelongs | exact absurd rfl husb
    subst hkey
    cases interface with
    | usb => exact absurd rfl husb
    | _ =>
      obtain rfl := List.mem_singleton.mp hin
      exact ⟨_, exec_open hnone hstate _, rfl, _, hlisted, hin⟩

theorem exec_openSession_of_fault {interface : InterfaceKind} {device : DeviceDescriptor} {queue : FaultQueue}
    (hsome : hardware.faults.next device.id "open" = some queue) (access : SessionAccess) :
    (openSession interface device access).exec hardware =
      (.error queue.front, { hardware with faults := (hardware.faults.take device.id "open").2 }) := by
  cases interface <;> exact exec_bind_of_error (exec_takeInjectedError_of_some hsome)

theorem supportsDevice_of_mem (h : Inventoried hardware) {device : DeviceDescriptor}
    (hin : device ∈ descriptors hardware) : supportsDevice hardware device = true := by
  obtain ⟨interface, hin⟩ := mem_descriptors.mp hin
  have hinterface := (made_of_listing h hin).interface_eq
  obtain ⟨key, descriptors, hlisted, hin⟩ := mem_listing.mp hin
  have hbelongs := (h.stocked interface key descriptors hlisted).belongs device hin
  have howned := h.owned key descriptors
  obtain ⟨state, hstate, rfl⟩ := Option.map_eq_some_iff.mp hlisted
  have hcontains : ∀ {τ : Type} {entries : BTreeMap DeviceId τ} {key : DeviceId} {state : τ},
      entries[key]? = some state → entries.contains key = true := by
    intro τ entries key state hentry
    exact Std.ExtTreeMap.mem_iff_contains.mp ((BTreeMap.mem_iff_exists entries key).mpr ⟨state, hentry⟩)
  rw [supportsDevice, hinterface]
  cases interface with
  | usb => exact hcontains (howned hlisted device hin)
  | _ =>
    have hkey : device.id = key := hbelongs
    rw [hkey]
    exact hcontains hstate

end Opening

section Binding

theorem bind_of_openSession {interface : InterfaceKind} {device : DeviceDescriptor} (hmade : Made interface device)
    (bench : Bench) : bench.bind interface device =
      let done := (openSession interface device (driverFor interface).access).exec bench.hardware
      { hardware := done.2
        bound := bench.bound ++ (done.1.toOption.map fun session =>
          ⟨interface, (driverFor interface).id, session, Stats.initial interface⟩).toList } := by
  have hbind := exec_bind_accepted (driverFor interface) (Stats.initial interface) device bindContext hmade.kind
    bench.hardware
  have houtcome : bindOutcome (driverFor interface) (Stats.initial interface) device bindContext bench.hardware =
      let opened := (openSession interface device (driverFor interface).access).exec bench.hardware
      ((opened.1.mapError (transportError (driverFor interface).id device.id)).map fun session =>
        { driverId := (driverFor interface).id, session, stats := Stats.initial interface }, opened.2) := by
    cases interface <;> rfl
  simp only [Bench.bind, hbind, houtcome]
  cases ((openSession interface device (driverFor interface).access).exec bench.hardware).1 <;> rfl

theorem bind_listed {bench : Bench} (h : Inventoried bench.hardware) {interface : InterfaceKind}
    {device : DeviceDescriptor} (hin : device ∈ listing interface bench.hardware)
    (hnone : bench.hardware.faults.pending (device.id, "open") = []) :
    ∃ session, session.device = device ∧
      (∃ listed, shown interface (session.target interface) bench.hardware = some listed ∧ device ∈ listed) ∧
      bench.bind interface device = { bench with bound := bench.bound ++
        [⟨interface, (driverFor interface).id, session, Stats.initial interface⟩] } := by
  obtain ⟨session, hopen, hdevice, hlisted⟩ := exec_openSession h hin (driverFor interface).access
    (MockFaultRegistry.next_of_pending_nil hnone)
  refine ⟨session, hdevice, hlisted, ?_⟩
  rw [bind_of_openSession (made_of_listing h hin), hopen]
  rfl

theorem bind_faulted {bench : Bench} (h : Inventoried bench.hardware) {interface : InterfaceKind}
    {device : DeviceDescriptor} (hin : device ∈ listing interface bench.hardware) {error : BusError}
    {rest : List BusError} (hpending : bench.hardware.faults.pending (device.id, "open") = error :: rest) :
    (bench.bind interface device).bound = bench.bound ∧
      (bench.bind interface device).hardware.faults.pending (device.id, "open") = rest := by
  have hopen := @exec_openSession_of_fault bench.hardware interface device _
    (MockFaultRegistry.next_of_pending_cons hpending) (driverFor interface).access
  rw [bind_of_openSession (made_of_listing h hin), hopen]
  refine ⟨List.append_nil _, ?_⟩
  simp only [MockFaultRegistry.pending_take, Function.update_self, hpending, List.tail_cons]

theorem listed_devices_bind (arithmetic : DutyCycleArithmetic) (overflowChecks : Bool) (test : Test) (h : test.Built) :
    ∃ bench registered, test.run arithmetic = some bench ∧
      BuiltInDriverBundle.registerInto overflowChecks {} = .ok registered ∧
      ∀ device ∈ descriptors bench.hardware,
        supportsDevice bench.hardware device = true ∧
        device.matchHints.driverHint = some (driverFor device.interface).id ∧
        registered.resolve device = .ok ⟨(driverFor device.interface).registered overflowChecks,
          (driverFor device.interface).id, (driverFor device.interface).matchResult overflowChecks device⟩ ∧
        (bench.hardware.faults.pending (device.id, "open") = [] → ∃ session, session.device = device ∧
          (∃ listed, shown device.interface (session.target device.interface) bench.hardware = some listed ∧
            device ∈ listed) ∧
          bench.bind device.interface device = { bench with bound := bench.bound ++
            [⟨device.interface, (driverFor device.interface).id, session, Stats.initial device.interface⟩] }) ∧
        ∀ error rest, bench.hardware.faults.pending (device.id, "open") = error :: rest →
          (bench.bind device.interface device).bound = bench.bound ∧
          (bench.bind device.interface device).hardware.faults.pending (device.id, "open") = rest := by
  obtain ⟨bench, hrun, hinventoried⟩ := test.run_inventoried arithmetic h
  have hregistered : BuiltInDriverBundle.registerInto overflowChecks {} = .ok _ :=
    BuiltInDriverBundle.registerInto_of_new fun _ _ => List.not_mem_nil
  refine ⟨bench, _, hrun, hregistered, ?_⟩
  intro device hin
  have hmade := made_of_descriptors hinventoried hin
  have hlisting : device ∈ listing device.interface bench.hardware := by
    obtain ⟨interface, hlisted⟩ := mem_descriptors.mp hin
    rwa [(made_of_listing hinventoried hlisted).interface_eq]
  refine ⟨supportsDevice_of_mem hinventoried hin, hmade.hint, ?_, bind_listed hinventoried hlisting, ?_⟩
  · have hempty : (({} : DriverRegistry).drivers.map Driver.id).Nodup := List.nodup_nil
    have hothers : ∀ other ∈ ({} : DriverRegistry).drivers, (other.matchResult device).isSupported = false :=
      fun other hother => absurd hother List.not_mem_nil
    have hpreferred : ({} : DriverRegistry).preferredDrivers[device.id]? = none := by simp
    exact BuiltInDriverBundle.resolve_builtin hempty hregistered hmade.valid hpreferred hothers
      (BuiltInDriverBundle.driverFor_mem device.interface) hmade.kind
  · exact fun error rest hpending => bind_faulted hinventoried hlisting hpending

def mockLine : DeviceId := ⟨"mock.gpio.gpiochip0.17", by decide⟩

def lineOutOfOrder : Test :=
  { lineAndPort with steps := lineAndPort.steps ++ [.act (.fault (.queueTimeout mockLine "open"))] }

theorem lineOutOfOrder_built : lineOutOfOrder.Built where
  builder := lineAndPort_built.builder
  steps := by
    intro step hstep
    rcases List.mem_append.mp hstep with hbefore | hfault
    · exact lineAndPort_built.steps step hbefore
    · cases List.mem_singleton.mp hfault
      trivial

theorem lineOutOfOrder_bind : ∃ bench line port, lineOutOfOrder.run zeroRatios = some bench ∧
    descriptors bench.hardware = [line, port] ∧ line.id = mockLine ∧ port.id = FaultCall.samplePort ∧
    (∃ session, session.device = port ∧
      bench.bind port.interface port = { bench with bound := bench.bound ++
        [⟨port.interface, (driverFor port.interface).id, session, Stats.initial port.interface⟩] }) ∧
    (bench.bind line.interface line).bound = bench.bound ∧
    (bench.bind line.interface line).hardware.faults.pending (mockLine, "open") = [] := by
  obtain ⟨bench, registered, hrun, -, hlisted⟩ :=
    listed_devices_bind zeroRatios true lineOutOfOrder lineOutOfOrder_built
  have hids : (lineOutOfOrder.run zeroRatios).map (fun bench =>
      (descriptors bench.hardware).map DeviceDescriptor.id) = some [mockLine, FaultCall.samplePort] := by decide
  have hqueues : (lineOutOfOrder.run zeroRatios).map (fun bench =>
      (bench.hardware.faults.pending (mockLine, "open"),
        bench.hardware.faults.pending (FaultCall.samplePort, "open"))) =
        some ([.timeout mockLine "open"], []) := by decide
  rw [hrun] at hids hqueues
  obtain ⟨line, rest, hdevices, hline, hrest⟩ := List.map_eq_cons_iff.mp (Option.some.inj hids)
  obtain ⟨port, nothing, rfl, hport, hnil⟩ := List.map_eq_cons_iff.mp hrest
  cases List.map_eq_nil_iff.mp hnil
  obtain ⟨hfaulted, hfree⟩ := Prod.mk.inj (Option.some.inj hqueues)
  rw [← hline] at hfaulted
  rw [← hport] at hfree
  obtain ⟨-, -, -, -, hfails⟩ := hlisted line (by rw [hdevices]; exact List.mem_cons_self)
  obtain ⟨-, -, -, hbinds, -⟩ := hlisted port (by rw [hdevices]; exact List.mem_cons_of_mem _ List.mem_cons_self)
  obtain ⟨session, hdevice, -, hbound⟩ := hbinds hfree
  refine ⟨bench, line, port, hrun, hdevices, hline, hport, ⟨session, hdevice, hbound⟩, ?_⟩
  rw [← hline]
  exact hfails _ _ hfaulted

end Binding

end Lemnos.Mock
