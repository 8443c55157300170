import Lemnos.Linux.UsbDiscovery

namespace Lemnos.Linux

open Lemnos.Core Discovery Library.Census UsbEntry

/-- The interfaces of a device belong to one configuration. -/
def OneConfiguration (listed : List UsbEntry) : Prop :=
  ∀ location configuration number configuration' number',
    UsbEntry.interface location configuration number ∈ listed →
    UsbEntry.interface location configuration' number' ∈ listed → configuration = configuration'

/-- The entries that are described, in the order of their descriptors, and those that are noted, in the order of
their notes, account for all that is listed. -/
structure Accounted (host : DiscoveryHost) (paths : LinuxPaths) (listed : List UsbEntry)
    (discovery : ProbeDiscovery)
    (described noted : List UsbEntry) : Prop where
  devices : List.Forall₂ Describes described discovery.devices
  notes : List.Forall₂ (Notes paths) noted discovery.notes
  described_once : described.Nodup
  noted_once : noted.Nodup
  bus_iff : ∀ n, .bus n ∈ described ↔ (∃ location, .device location ∈ listed ∧ location.bus = n) ∨
    .bus n ∈ listed ∧ (bus n).isReadable host paths = true
  device_iff : ∀ location, .device location ∈ described ↔
    .device location ∈ listed ∧ (device location).isReadable host paths = true
  interface_iff : ∀ location configuration number, .interface location configuration number ∈ described ↔
    .interface location configuration number ∈ listed ∧ .device location ∈ described ∧
      (interface location configuration number).isReadable host paths = true
  noted_iff : ∀ entry, entry ∈ noted ↔ entry ∈ listed ∧ entry ∉ described
  ids_distinct : (discovery.devices.map DeviceDescriptor.id).Nodup
  linked : ∀ before device after, discovery.devices = before ++ device :: after → ∀ link ∈ device.links,
    ∃ earlier ∈ before, earlier.id = link.target

variable {host : DiscoveryHost} {paths : LinuxPaths} {listed described noted : List UsbEntry}
  {discovery : ProbeDiscovery}

theorem forall₂_split {α β : Type} {R : α → β → Prop} {elements : List α} {before after : List β} {b : β}
    (h : List.Forall₂ R elements (before ++ b :: after)) : ∃ before' a after', elements = before' ++ a :: after' ∧
      List.Forall₂ R before' before ∧ R a b := by
  induction before generalizing elements with
  | nil =>
    obtain ⟨a, after', hab, -, rfl⟩ := List.forall₂_cons_right_iff.mp h
    exact ⟨[], a, after', rfl, .nil, hab⟩
  | cons b' before ih =>
    obtain ⟨a', rest, hfirst, hrest, rfl⟩ := List.forall₂_cons_right_iff.mp h
    obtain ⟨before', a, after', rfl, hbefore, hab⟩ := ih hrest
    exact ⟨a' :: before', a, after', rfl, .cons hfirst hbefore, hab⟩

theorem exists_of_mem_left {α β : Type} {R : α → β → Prop} {as : List α} {bs : List β} {a : α}
    (h : List.Forall₂ R as bs) (ha : a ∈ as) : ∃ b ∈ bs, R a b := by
  induction h with
  | nil => cases ha
  | cons hfirst hrest ih =>
    rcases List.mem_cons.mp ha with rfl | hlater
    · exact ⟨_, List.mem_cons_self, hfirst⟩
    · obtain ⟨b, hb, hab⟩ := ih hlater
      exact ⟨b, List.mem_cons_of_mem _ hb, hab⟩

theorem ids_eq (h : List.Forall₂ Describes described discovery.devices) :
    discovery.devices.map DeviceDescriptor.id = described.map deviceId := by
  generalize discovery.devices = devices at h
  induction h with
  | nil => rfl
  | cons hfirst hrest ih => rw [List.map_cons, List.map_cons, hfirst.id, ih]

theorem eq_of_unconfigured_eq (hone : OneConfiguration listed) {a b : UsbEntry}
    (ha : (∀ n, a ≠ .bus n) → a ∈ listed) (hb : (∀ n, b ≠ .bus n) → b ∈ listed)
    (h : a.unconfigured = b.unconfigured) : a = b := by
  cases a with
  | bus n => cases b <;> first | exact h | cases h
  | device location => cases b <;> first | exact h | cases h
  | interface location configuration number =>
    cases b with
    | bus n => cases h
    | device location' => cases h
    | interface location' configuration' number' =>
      cases h
      rw [hone location configuration number configuration' number (ha nofun) (hb nofun)]

section Complete

variable {entries : List UsbEntry} {register : Register UsbEntry}

theorem bus_described_iff (h : Complete brings needs (isReadable host paths) entries register) (n : UInt16) :
    .bus n ∈ register.described ↔ (∃ location, .device location ∈ entries ∧ location.bus = n) ∨
      .bus n ∈ entries ∧ (bus n).isReadable host paths = true := by
  rw [h.described_iff]
  refine or_congr ?_ ?_
  · constructor
    · rintro ⟨d, hd, hbrings⟩
      cases d with
      | device location =>
        cases hbrings
        exact ⟨location, hd, rfl⟩
      | bus m => cases hbrings
      | interface location configuration number => cases hbrings
    · rintro ⟨location, hlocation, rfl⟩
      exact ⟨.device location, hlocation, rfl⟩
  · exact and_congr_right fun _ => and_iff_left nofun

theorem device_described_iff (h : Complete brings needs (isReadable host paths) entries register)
    (location : UsbLocation) : .device location ∈ register.described ↔
      .device location ∈ entries ∧ (device location).isReadable host paths = true := by
  rw [h.described_iff, or_iff_right fun ⟨d, _, hbrings⟩ => @not_brought (device location) nofun d hbrings]
  exact and_congr_right fun _ => and_iff_left nofun

theorem interface_described_iff (h : Complete brings needs (isReadable host paths) entries register)
    (location : UsbLocation) (configuration number : UInt8) :
    .interface location configuration number ∈ register.described ↔
      .interface location configuration number ∈ entries ∧ .device location ∈ register.described ∧
        (interface location configuration number).isReadable host paths = true := by
  have hnot : ∀ n, interface location configuration number ≠ .bus n := nofun
  rw [h.described_iff, or_iff_right fun ⟨d, _, hbrings⟩ => not_brought hnot d hbrings]
  refine and_congr_right fun _ => ?_
  constructor
  · rintro ⟨hreadable, hneeds⟩
    exact ⟨hneeds _ rfl, hreadable⟩
  · rintro ⟨hdevice, hreadable⟩
    refine ⟨hreadable, ?_⟩
    rintro p hp
    cases hp
    exact hdevice

theorem accounted {state : UsbDiscovery} (h : Complete brings needs (isReadable host paths) entries register)
    (hmirrors : state.Mirrors paths register) (hperm : entries.Perm listed) (hone : OneConfiguration listed) :
    Accounted host paths listed state.discovery register.described register.noted where
  devices := hmirrors.devices
  notes := hmirrors.notes
  described_once := h.described_nodup
  noted_once := h.noted_nodup
  bus_iff n := by
    simp only [bus_described_iff h, hperm.mem_iff]
  device_iff location := by
    rw [device_described_iff h, hperm.mem_iff]
  interface_iff location configuration number := by
    rw [interface_described_iff h, hperm.mem_iff]
  noted_iff entry := by
    rw [h.noted_iff, hperm.mem_iff]
  ids_distinct := by
    rw [ids_eq hmirrors.devices]
    refine List.Nodup.map_on ?_ h.described_nodup
    intro a ha b hb hid
    refine eq_of_unconfigured_eq hone ?_ ?_ (idText_injective (congrArg Identifier.asStr hid))
    · exact fun hbus => hperm.mem_iff.mp (mem_of_described h ha hbus)
    · exact fun hbus => hperm.mem_iff.mp (mem_of_described h hb hbus)
  linked before device after hsplit link hlink := by
    have hdevices := hmirrors.devices
    rw [hsplit] at hdevices
    obtain ⟨before', entry, after', hdescribed, hbefore, hdescribes⟩ := forall₂_split hdevices
    obtain ⟨hbrings, hneeds⟩ := h.linked before' entry after' hdescribed
    rw [hdescribes.links, List.mem_map] at hlink
    obtain ⟨parent, hparent, rfl⟩ := hlink
    have hearlier : parent ∈ before' := by
      cases entry with
      | bus n => cases hparent
      | device location => exact hbrings parent (Option.mem_toList.mp hparent)
      | interface location configuration number => exact hneeds parent (Option.mem_toList.mp hparent)
    obtain ⟨earlier, hmem, hearlier⟩ := exists_of_mem_left hbefore hearlier
    exact ⟨earlier, hmem, hearlier.id⟩

end Complete

def inNameOrder (listed : List UsbEntry) : List UsbEntry := listed.insertionSort fun a b => a.name ≤ b.name

theorem inNameOrder_pairwise (listed : List UsbEntry) :
    (inNameOrder listed).Pairwise fun a b => a.name ≤ b.name := by
  have : Std.Total (fun a b : UsbEntry => a.name ≤ b.name) := ⟨fun a b => le_total a.name b.name⟩
  have : IsTrans UsbEntry (fun a b => a.name ≤ b.name) := ⟨fun _ _ _ => le_trans⟩
  exact List.pairwise_insertionSort _ _

theorem mapM_ok {ε α β : Type} (f : α → β) (as : List α) :
    (as.map fun a => (.ok (f a) : Except ε β)).mapM id = .ok (as.map f) := by
  induction as with
  | nil => rfl
  | cons a as ih =>
    rw [List.map_cons, List.mapM_cons, ih]
    rfl

theorem readDirSorted_eq (h : host.readDir paths.usbDevicesRoot = .ok (listed.map fun entry => .ok entry.name)) :
    host.readDirSorted paths.usbDevicesRoot = .ok ((inNameOrder listed).map (UsbEntry.path paths)) := by
  have hsorted : (inNameOrder listed).map UsbEntry.name =
      (listed.map UsbEntry.name).insertionSort fun a b => a ≤ b :=
    List.map_insertionSort _ _ _ _ fun _ _ _ _ => Iff.rfl
  rw [DiscoveryHost.readDirSorted, h]
  simp only
  rw [mapM_ok]
  simp only [bind, Except.bind, pure, Except.pure]
  rw [← hsorted, List.map_map]
  rfl

theorem discoverUsb_accounted (hroot : host.pathExists paths.usbDevicesRoot = true)
    (hlisted : host.readDir paths.usbDevicesRoot = .ok (listed.map fun entry => .ok entry.name))
    (hnodup : listed.Nodup)
    (hone : OneConfiguration listed) (hagrees : ∀ entry ∈ listed, entry.Agrees host paths) :
    ∃ discovery described noted, discoverUsb host paths = .ok discovery ∧
      Accounted host paths listed discovery described noted := by
  have hperm : (inNameOrder listed).Perm listed := List.perm_insertionSort _ _
  have horder : (inNameOrder listed).Pairwise (InOrder brings needs) :=
    (inNameOrder_pairwise listed).imp inOrder_of_name_le
  have hsorted : (inNameOrder listed).Nodup := hperm.nodup_iff.mpr hnodup
  have hcomplete := take_complete brings needs (isReadable host paths) plain hsorted horder
  have hmirrors := @foldl_mirrors host paths _ hsorted horder fun entry h => hagrees entry (hperm.mem_iff.mp h)
  refine ⟨_, _, _, ?_, accounted hcomplete hmirrors hperm hone⟩
  rw [discoverUsb, hroot, readDirSorted_eq hlisted]
  rfl

theorem HasAddress.unconfigured_eq {a b : UsbEntry} {address : Option DeviceAddress} (ha : a.HasAddress address)
    (hb : b.HasAddress address) : a.unconfigured = b.unconfigured := by
  have hlocation : ∀ {location location' : UsbLocation}, location.bus = location'.bus →
      location.ports = location'.ports → location = location' := by
    rintro ⟨bus, ports, hne⟩ ⟨bus', ports', hne'⟩ rfl rfl
    rfl
  cases a with
  | bus n =>
    cases ha
    cases b with
    | bus m =>
      cases hb
      rfl
    | device location =>
      obtain ⟨vendorId, productId, heq⟩ := hb
      cases heq
    | interface location configuration number =>
      obtain ⟨vendorId, productId, heq⟩ := hb
      cases heq
  | device location =>
    obtain ⟨vendorId, productId, rfl⟩ := ha
    cases b with
    | bus m => cases hb
    | device location' =>
      obtain ⟨vendorId', productId', heq⟩ := hb
      obtain ⟨hbus, hports, -⟩ := DeviceAddress.usbDevice.inj (Option.some.inj heq)
      rw [hlocation hbus hports]
    | interface location' configuration number =>
      obtain ⟨vendorId', productId', heq⟩ := hb
      cases heq
  | interface location configuration number =>
    obtain ⟨vendorId, productId, rfl⟩ := ha
    cases b with
    | bus m => cases hb
    | device location' =>
      obtain ⟨vendorId', productId', heq⟩ := hb
      cases heq
    | interface location' configuration' number' =>
      obtain ⟨vendorId', productId', heq⟩ := hb
      obtain ⟨hbus, hports, rfl, -⟩ := DeviceAddress.usbInterface.inj (Option.some.inj heq)
      rw [unconfigured, unconfigured, hlocation hbus hports]

theorem Accounted.described_of_emitted (h : Accounted host paths listed discovery described noted)
    {device : DeviceDescriptor} (hdevice : device ∈ discovery.devices) {entry : UsbEntry}
    (haddress : entry.HasAddress device.address) : ∃ e ∈ described, e.unconfigured = entry.unconfigured := by
  obtain ⟨e, he, hdescribes⟩ := exists_of_mem_left h.devices.flip hdevice
  exact ⟨e, he, HasAddress.unconfigured_eq hdescribes.address haddress⟩

/-- Whatever entries are listed in whatever order: the probe emits one descriptor for each bus that a device
names or that has a readable entry, one descriptor or one note for each device and for each interface of a device
that it has emitted, and a note for each other interface. -/
theorem usb_discovery_accounts_for_listed (host : DiscoveryHost) (paths : LinuxPaths) (context : DiscoveryContext)
    (listed : List UsbEntry) (hroot : host.pathExists paths.usbDevicesRoot = true)
    (hlisted : host.readDir paths.usbDevicesRoot = .ok (listed.map fun entry => .ok entry.name))
    (hnodup : listed.Nodup)
    (hone : OneConfiguration listed) (hagrees : ∀ entry ∈ listed, entry.Agrees host paths) :
    ∃ discovery described noted, (usbDiscoveryProbe host paths).discover context = .ok discovery ∧
      Accounted host paths listed discovery described noted :=
  discoverUsb_accounted hroot hlisted hnodup hone hagrees

def secondPort : UsbLocation := ⟨1, [2], by decide⟩

def rootHub : UsbLocation := ⟨1, [0], by decide⟩

def withoutFiles (names : List String) : DiscoveryHost where
  pathExists _ := true
  readDir _ := .ok (names.map .ok)
  readToString _ := .error .notFound
  readLink _ := .error .notFound

theorem agrees_of_missing (hmissing : ∀ path, host.readToString path = .error .notFound) (entry : UsbEntry) :
    entry.Agrees host paths := by
  cases entry with
  | bus n => trivial
  | device location => trivial
  | interface location configuration number =>
    intro said h
    rw [DiscoveryHost.readHexU8, DiscoveryHost.readTrimmed, hmissing] at h
    cases h

theorem oneConfiguration_of_first (h : ∀ location configuration number,
    UsbEntry.interface location configuration number ∈ listed → configuration = 1) : OneConfiguration listed :=
  fun _ _ _ _ _ hfirst hsecond => (h _ _ _ hfirst).trans (h _ _ _ hsecond).symm

theorem usb_discovery_accounts_for_listed_withoutFiles : ∃ discovery described noted,
    (usbDiscoveryProbe (withoutFiles ["usb1", "1-2:1.0", "1-0:1.0", "1-2"]) {}).discover {} = .ok discovery ∧
      Accounted (withoutFiles ["usb1", "1-2:1.0", "1-0:1.0", "1-2"]) {}
        [.bus 1, .interface secondPort 1 0, .interface rootHub 1 0, .device secondPort]
        discovery described noted := by
  refine usb_discovery_accounts_for_listed _ {} {} _ rfl (by decide) (by decide) ?_ fun entry _ =>
    agrees_of_missing (fun _ => rfl) entry
  refine oneConfiguration_of_first ?_
  intro location configuration number h
  simp only [List.mem_cons, reduceCtorEq, UsbEntry.interface.injEq, false_or, List.not_mem_nil, or_false] at h
  rcases h with ⟨-, hconfiguration, -⟩ | ⟨-, hconfiguration, -⟩
  · exact hconfiguration
  · exact hconfiguration

def linksRefused : DiscoveryHost :=
  { withoutFiles ["1-2", "1-2:1.0"] with readLink _ := .error (.other "Permission denied (os error 13)") }

def filesRefused : DiscoveryHost :=
  { withoutFiles ["usb7"] with readToString _ := .error (.other "Permission denied (os error 13)") }

def deviceWithInterface : List UsbEntry := [.device secondPort, .interface secondPort 1 0]

theorem unreadable_entries_are_only_noted :
    (linksRefused.readDir ({} : LinuxPaths).usbDevicesRoot =
        .ok (deviceWithInterface.map fun entry => .ok entry.name) ∧
      OneConfiguration deviceWithInterface ∧ (∀ entry ∈ deviceWithInterface, entry.Agrees linksRefused {}) ∧
      ∃ discovery, (usbDiscoveryProbe linksRefused {}).discover {} = .ok discovery ∧
        (∃ device ∈ discovery.devices, (UsbEntry.device secondPort).HasAddress device.address) ∧
        ∀ device ∈ discovery.devices, ¬(UsbEntry.interface secondPort 1 0).HasAddress device.address) ∧
    filesRefused.readDir ({} : LinuxPaths).usbDevicesRoot = .ok [.ok (UsbEntry.bus 7).name] ∧
      ∃ discovery, (usbDiscoveryProbe filesRefused {}).discover {} = .ok discovery ∧
        ∀ device ∈ discovery.devices, ¬(UsbEntry.bus 7).HasAddress device.address := by
  have hone : OneConfiguration deviceWithInterface := by
    refine oneConfiguration_of_first ?_
    intro location configuration number h
    simp only [deviceWithInterface, List.mem_cons, reduceCtorEq, UsbEntry.interface.injEq, false_or,
      List.not_mem_nil, or_false] at h
    exact h.2.1
  have hagrees : ∀ entry ∈ deviceWithInterface, entry.Agrees linksRefused {} :=
    fun entry _ => agrees_of_missing (fun _ => rfl) entry
  refine ⟨⟨by decide, hone, hagrees, ?_⟩, by decide, ?_⟩
  · obtain ⟨discovery, described, noted, hdiscovered, haccounted⟩ :=
      @discoverUsb_accounted linksRefused {} _ rfl (by decide) (by decide) hone hagrees
    refine ⟨discovery, hdiscovered, ?_, ?_⟩
    · have hdevice : .device secondPort ∈ described :=
        (haccounted.device_iff secondPort).mpr ⟨List.mem_cons_self, rfl⟩
      obtain ⟨device, hmem, hdescribes⟩ := exists_of_mem_left haccounted.devices hdevice
      exact ⟨device, hmem, hdescribes.address⟩
    · intro device hdevice haddress
      obtain ⟨entry, hentry, hsame⟩ := haccounted.described_of_emitted hdevice haddress
      cases entry with
      | bus n => cases hsame
      | device location => cases hsame
      | interface location configuration number =>
        have hreadable := ((haccounted.interface_iff location configuration number).mp hentry).2.2
        cases hreadable
  · obtain ⟨discovery, described, noted, hdiscovered, haccounted⟩ :=
      @discoverUsb_accounted filesRefused {} [.bus 7] rfl (by decide) (by decide)
        (oneConfiguration_of_first (by simp)) (by simp [Agrees])
    refine ⟨discovery, hdiscovered, ?_⟩
    intro device hdevice haddress
    obtain ⟨entry, hentry, hsame⟩ := haccounted.described_of_emitted hdevice haddress
    cases entry with
    | bus n =>
      cases hsame
      rcases (haccounted.bus_iff 7).mp hentry with ⟨location, hlocation, -⟩ | ⟨-, hreadable⟩
      · simp at hlocation
      · cases hreadable
    | device location => cases hsame
    | interface location configuration number => cases hsame

end Lemnos.Linux
