import Lemnos.Linux.UsbDescriptors

namespace Lemnos.Linux

open Lemnos.Core Discovery

variable {host : DiscoveryHost} {path kernelName : String}

theorem joinPath_eq (root : String) {name : String} (hname : '/' ∉ name.toList) :
    (joinPath root name).toList = name.toList ∨
      ∃ front, (joinPath root name).toList = front ++ '/' :: name.toList := by
  have hhead : name.toList.head? ≠ some '/' := fun h => hname (List.mem_of_mem_head? h)
  rw [joinPath, if_neg hhead]
  split
  · rename_i hlast
    rcases List.eq_nil_or_concat root.toList with hroot | ⟨front, c, hroot⟩
    · exact .inl (by rw [String.toList_append, hroot, List.nil_append])
    · rw [hroot, List.concat_eq_append, List.getLast?_append] at hlast
      have hc : c = '/' := by simpa using hlast
      refine .inr ⟨front, ?_⟩
      rw [String.toList_append, hroot, hc, List.concat_eq_append, List.append_assoc]
      rfl
  · refine .inr ⟨root.toList, ?_⟩
    rw [String.toList_append, String.toList_append, List.append_assoc]
    rfl

structure IsFileName (name : String) : Prop where
  slash : '/' ∉ name.toList
  empty : name.toList ≠ []
  dot : name.toList ≠ ['.']
  dots : name.toList ≠ ['.', '.']

theorem fileName_joinPath (root : String) {name : String} (h : IsFileName name) :
    fileName (joinPath root name) = some name := by
  have hparts : name.toList.splitOn '/' = [name.toList] := by
    have hjoined : ['/'].intercalate [name.toList] = name.toList := by simp [List.intercalate]
    rw [← hjoined, List.splitOn_intercalate '/' (by simpa using h.slash) (List.cons_ne_nil _ _), hjoined]
  have hkept : [name.toList].filter (fun part => part ≠ [] ∧ part ≠ ['.']) = [name.toList] := by
    rw [List.filter_eq_self, List.forall_mem_singleton, decide_eq_true_iff]
    exact ⟨h.empty, h.dot⟩
  have hlast : (((joinPath root name).toList.splitOn '/').filter fun part => part ≠ [] ∧ part ≠ ['.']).getLast? =
      some name.toList := by
    rcases joinPath_eq root h.slash with hpath | ⟨front, hpath⟩
    · rw [hpath, hparts, hkept]
      rfl
    · rw [hpath, List.splitOn_append_cons_self, hparts, List.filter_append, hkept, List.getLast?_concat]
  rw [fileName, hlast]
  split
  · rename_i hdots
    exact absurd (Option.some.inj hdots) h.dots
  · rename_i part hpart
    rw [← Option.some.inj hpart, String.ofList_toList]
  · rename_i hnone
    cases hnone

section Reading

variable {ε α β : Type}

theorem isOk_bind_iff {x : Except ε α} {f : α → Except ε β} {p : Prop} (hf : ∀ a, (f a).isOk = true ↔ p) :
    (x >>= f).isOk = true ↔ x.isOk = true ∧ p := by
  cases x with
  | error error => exact iff_of_false nofun fun h => nomatch h.1
  | ok a => exact (hf a).trans (and_iff_right rfl).symm

theorem isOk_map_iff {x : Except ε α} {f : α → β} : (x >>= fun a => pure (f a)).isOk = true ↔ x.isOk = true :=
  (isOk_bind_iff fun _ => iff_of_true rfl trivial).trans (and_iff_left trivial)

def UnreadNote (subject path note : String) : Prop :=
  ∃ what error : String, note = s!"failed to read Linux USB {what} for '{subject}' at '{path}': {error}"

def NotesUnread (subject path : String) (result : Except String α) : Prop :=
  ∀ note, result = .error note → UnreadNote subject path note

theorem NotesUnread.bind {subject path : String} {x : Except String α} {f : α → Except String β}
    (h : NotesUnread subject path x) (hf : ∀ a, NotesUnread subject path (f a)) :
    NotesUnread subject path (x >>= f) := by
  intro note hnote
  cases x with
  | error error =>
    cases hnote
    exact h note rfl
  | ok a => exact hf a note hnote

theorem notesUnread_pure {subject path : String} (a : α) : NotesUnread subject path (pure a) := nofun

theorem notesUnread_readAttribute {what subject path : String} {reading : Except IoError α} :
    NotesUnread subject path (readAttribute what subject path reading) := by
  intro note hnote
  cases reading with
  | error error =>
    cases hnote
    exact ⟨what, error.display, rfl⟩
  | ok a => cases hnote

theorem isOk_readAttribute {what subject path : String} {reading : Except IoError α} :
    (readAttribute what subject path reading).isOk = true ↔ reading.isOk = true := by
  cases reading <;> exact Iff.rfl

end Reading

namespace UsbEntry

def files : UsbEntry → List String
  | bus _ => ["product"]
  | device _ => ["idVendor", "idProduct", "devnum", "modalias", "manufacturer", "product", "serial"]
  | interface .. => ["bInterfaceNumber", "bAlternateSetting", "bInterfaceClass", "bInterfaceSubClass",
      "bInterfaceProtocol", "modalias"]

def links : UsbEntry → List String
  | interface .. => ["driver"]
  | _ => []

/-- No file of the entry refuses to be read; one that is missing does not. -/
def readable (host : DiscoveryHost) (path : String) (entry : UsbEntry) : Bool :=
  (entry.files.all fun file => (host.readTrimmed (joinPath path file)).isOk) &&
    entry.links.all fun link => (host.readLinkName (joinPath path link)).isOk

def kind : UsbEntry → DeviceKind
  | bus _ => .usbBus
  | device _ => .usbDevice
  | interface .. => .usbInterface

def parent : UsbEntry → Option UsbEntry
  | bus _ => none
  | device location => some (bus location.bus)
  | interface location _ _ => some (device location)

def HasAddress : UsbEntry → Option DeviceAddress → Prop
  | bus n, address => address = some (.usbBus n)
  | device location, address => ∃ vendorId productId,
      address = some (.usbDevice location.bus location.ports vendorId productId)
  | interface location _ number, address => ∃ vendorId productId,
      address = some (.usbInterface location.bus location.ports number vendorId productId)

/-- The descriptor has the id, the kind and the address of the entry, and one link, to its parent. -/
structure Describes (entry : UsbEntry) (device : DeviceDescriptor) : Prop where
  id : device.id = entry.deviceId
  kind : device.kind = entry.kind
  address : entry.HasAddress device.address
  links : device.links = entry.parent.toList.map fun parent => .new parent.deviceId .parent

end UsbEntry

theorem notesUnread_readDeviceAttributes :
    NotesUnread kernelName path (readDeviceAttributes host kernelName path) :=
  notesUnread_readAttribute.bind fun _ => notesUnread_readAttribute.bind fun _ => notesUnread_readAttribute.bind
    fun _ => notesUnread_readAttribute.bind fun _ => notesUnread_readAttribute.bind fun _ =>
      notesUnread_readAttribute.bind fun _ => notesUnread_readAttribute.bind fun _ => notesUnread_pure _

theorem notesUnread_readInterfaceAttributes :
    NotesUnread kernelName path (readInterfaceAttributes host kernelName path) :=
  notesUnread_readAttribute.bind fun _ => notesUnread_readAttribute.bind fun _ => notesUnread_readAttribute.bind
    fun _ => notesUnread_readAttribute.bind fun _ => notesUnread_readAttribute.bind fun _ =>
      notesUnread_readAttribute.bind fun _ => notesUnread_readAttribute.bind fun _ => notesUnread_pure _

theorem readDeviceAttributes_isOk_iff (location : UsbLocation) :
    (readDeviceAttributes host kernelName path).isOk = true ↔
      (UsbEntry.device location).readable host path = true := by
  rw [readDeviceAttributes]
  refine (isOk_bind_iff fun _ => isOk_bind_iff fun _ => isOk_bind_iff fun _ => isOk_bind_iff fun _ =>
    isOk_bind_iff fun _ => isOk_bind_iff fun _ => isOk_map_iff).trans ?_
  simp only [isOk_readAttribute, DiscoveryHost.readHexU16, DiscoveryHost.readU32, isOk_map_iff, UsbEntry.readable,
    UsbEntry.files, UsbEntry.links, List.all_cons, List.all_nil, Bool.and_eq_true, and_true]

theorem readInterfaceAttributes_isOk_iff (location : UsbLocation) (configuration number : UInt8) :
    (readInterfaceAttributes host kernelName path).isOk = true ↔
      (UsbEntry.interface location configuration number).readable host path = true := by
  rw [readInterfaceAttributes]
  refine (isOk_bind_iff fun _ => isOk_bind_iff fun _ => isOk_bind_iff fun _ => isOk_bind_iff fun _ =>
    isOk_bind_iff fun _ => isOk_bind_iff fun _ => isOk_map_iff).trans ?_
  simp only [isOk_readAttribute, DiscoveryHost.readHexU8, isOk_map_iff, UsbEntry.readable, UsbEntry.files,
    UsbEntry.links, List.all_cons, List.all_nil, Bool.and_eq_true, and_true]
  constructor
  · rintro ⟨hnumber, halternate, hclass, hsubclass, hprotocol, hdriver, hmodalias⟩
    exact ⟨⟨hnumber, halternate, hclass, hsubclass, hprotocol, hmodalias⟩, hdriver⟩
  · rintro ⟨⟨hnumber, halternate, hclass, hsubclass, hprotocol, hmodalias⟩, hdriver⟩
    exact ⟨hnumber, halternate, hclass, hsubclass, hprotocol, hdriver, hmodalias⟩

def UsbEntry.started (entry : UsbEntry) : DeviceDescriptor :=
  { id := entry.deviceId, interface := entry.kind.interface, kind := entry.kind }

theorem builderForKind_idText (entry : UsbEntry) :
    DeviceDescriptor.builderForKind entry.idText entry.kind = .ok entry.started := by
  have hid : Identifier.new "device id" entry.idText = .ok entry.deviceId := Identifier.new_asStr entry.deviceId
  rw [DeviceDescriptor.builderForKind, DeviceDescriptor.builder, hid]
  rfl

theorem Details.describes {entry : UsbEntry} {builder detailed : DeviceDescriptor} (h : Details builder detailed)
    (hid : builder.id = entry.deviceId) (hkind : builder.kind = entry.kind)
    (haddress : entry.HasAddress builder.address)
    (hlinks : builder.links = entry.parent.toList.map fun parent => .new parent.deviceId .parent) :
    entry.Describes detailed :=
  ⟨h.id.trans hid, h.kind.trans hkind, h.address ▸ haddress, h.links.trans hlinks⟩

theorem startBusDescriptor_spec (n : UInt16) : ∃ builder started, startBusDescriptor n = .ok started ∧
    Details builder started ∧ builder.validate = .ok () ∧ (UsbEntry.bus n).Describes builder := by
  have hstart : DeviceDescriptor.builderForKind (usbBusId n) .usbBus = _ := builderForKind_idText (.bus n)
  rw [startBusDescriptor, hstart]
  exact ⟨_, _, rfl, (((Details.refl _).withLabel _ _).withLabel _ _).withNumber _ _, rfl, ⟨rfl, rfl, rfl, rfl⟩⟩

theorem finishBusDescriptor_spec {n : UInt16} {builder detailed : DeviceDescriptor} (h : Details builder detailed)
    (hvalid : builder.validate = .ok ()) (hdescribes : (UsbEntry.bus n).Describes builder) :
    finishBusDescriptor n detailed = .ok detailed ∧ (UsbEntry.bus n).Describes detailed := by
  refine ⟨?_, h.describes hdescribes.id hdescribes.kind hdescribes.address hdescribes.links⟩
  rw [finishBusDescriptor, h.build_eq_ok hvalid]
  rfl

theorem buildBusDescriptorFromNumber_spec (n : UInt16) :
    ∃ descriptor, buildBusDescriptorFromNumber n = .ok descriptor ∧ (UsbEntry.bus n).Describes descriptor := by
  obtain ⟨builder, started, hstart, hdetails, hvalid, hdescribes⟩ := startBusDescriptor_spec n
  refine ⟨started, ?_, (finishBusDescriptor_spec hdetails hvalid hdescribes).2⟩
  rw [buildBusDescriptorFromNumber, hstart]
  exact (finishBusDescriptor_spec hdetails hvalid hdescribes).1

/-- An entry is described if its files can be read, and noted otherwise. -/
inductive Outcome (host : DiscoveryHost) (path subject : String) (entry : UsbEntry) :
    Except String DeviceDescriptor → Prop where
  | described {descriptor : DeviceDescriptor} (hreadable : entry.readable host path = true)
    (hdescribes : entry.Describes descriptor) : Outcome host path subject entry (.ok descriptor)
  | noted {note : String} (hunreadable : entry.readable host path = false)
      (hnote : UnreadNote subject path note) :
    Outcome host path subject entry (.error note)

theorem buildBusDescriptor_spec (n : UInt16) :
    Outcome host path (toString n) (.bus n) (buildBusDescriptor host n path) := by
  obtain ⟨builder, started, hstart, hdetails, hvalid, hdescribes⟩ := startBusDescriptor_spec n
  have hreadable : (UsbEntry.bus n).readable host path = (host.readTrimmed (joinPath path "product")).isOk := by
    simp only [UsbEntry.readable, UsbEntry.files, UsbEntry.links, List.all_cons, List.all_nil, Bool.and_true]
  have hlocated := hdetails.withText "sysfs_path" path
  rw [buildBusDescriptor, hstart]
  cases hproduct : host.readTrimmed (joinPath path "product") with
  | error error =>
    rw [hproduct] at hreadable
    exact .noted hreadable ⟨"bus product", error.display, rfl⟩
  | ok product =>
    rw [hproduct] at hreadable
    have hfinish := finishBusDescriptor_spec
      (hlocated.whenRead product fun value _ h => h.withText "product" value) hvalid hdescribes
    simp only [readAttribute, Except.mapError, bind, Except.bind]
    rw [hfinish.1]
    exact .described hreadable hfinish.2

theorem Details.build_describes {entry : UsbEntry} {builder detailed : DeviceDescriptor}
    (h : Details builder detailed)
    (hvalid : builder.validate = .ok ()) (hdescribes : entry.Describes builder) :
    detailed.build = .ok detailed ∧ entry.Describes detailed :=
  ⟨h.build_eq_ok hvalid, h.describes hdescribes.id hdescribes.kind hdescribes.address hdescribes.links⟩

theorem describeDevice_details (paths : LinuxPaths) (location : UsbLocation) (attributes : UsbDeviceAttributes) :
    ∃ builder, Details builder (describeDevice host paths (UsbEntry.bus location.bus).deviceId location.bus
      location.ports kernelName path attributes (UsbEntry.device location).started) ∧
        builder.validate = .ok () ∧ (UsbEntry.device location).Describes builder := by
  exact ⟨_,
    ((((Details.refl _).withUsbProperties _ _ _ _).withLink _).withCapabilities).withDeviceAttributes _ _ _ _,
    rfl, ⟨rfl, rfl, ⟨attributes.vendorId, attributes.productId, rfl⟩, rfl⟩⟩

theorem buildDeviceDescriptor_spec (paths : LinuxPaths) (location : UsbLocation)
    (hname : fileName path = some kernelName) :
    Outcome host path kernelName (.device location)
      ((buildDeviceDescriptor host paths (UsbEntry.bus location.bus).deviceId location.bus location.ports path).map
        Prod.fst) := by
  have hreadable := @readDeviceAttributes_isOk_iff host path kernelName location
  have hstart : DeviceDescriptor.builderForKind (usbDeviceId location.bus location.ports) .usbDevice =
      .ok (UsbEntry.device location).started := builderForKind_idText (.device location)
  rw [buildDeviceDescriptor, hname]
  simp only [hstart]
  cases hread : readDeviceAttributes host kernelName path with
  | error note =>
    rw [hread] at hreadable
    have hnot : (UsbEntry.device location).readable host path = false :=
      Bool.eq_false_iff.mpr fun h => nomatch hreadable.mpr h
    exact .noted hnot (notesUnread_readDeviceAttributes note hread)
  | ok attributes =>
    rw [hread] at hreadable
    obtain ⟨builder, hdetails, hvalid, hdescribes⟩ :=
      @describeDevice_details host path kernelName paths location attributes
    obtain ⟨hbuild, hdevice⟩ := hdetails.build_describes hvalid hdescribes
    simp only [bind, Except.bind, Except.mapError]
    rw [hbuild]
    exact .described (hreadable.mp rfl) hdevice

def NumberAgrees (host : DiscoveryHost) (path : String) (number : UInt8) : Prop :=
  ∀ said, host.readHexU8 (joinPath path "bInterfaceNumber") = .ok (some said) → said = number

theorem interfaceNumber_of_agrees {number : UInt8} {attributes : UsbInterfaceAttributes}
    (hagrees : NumberAgrees host path number)
    (h : readInterfaceAttributes host kernelName path = .ok attributes) :
    attributes.interfaceNumber.getD number = number := by
  rw [readInterfaceAttributes] at h
  obtain ⟨said, hsaid, h⟩ := exists_of_bind_eq_ok h
  obtain ⟨_, -, h⟩ := exists_of_bind_eq_ok h
  obtain ⟨_, -, h⟩ := exists_of_bind_eq_ok h
  obtain ⟨_, -, h⟩ := exists_of_bind_eq_ok h
  obtain ⟨_, -, h⟩ := exists_of_bind_eq_ok h
  obtain ⟨_, -, h⟩ := exists_of_bind_eq_ok h
  obtain ⟨_, -, h⟩ := exists_of_bind_eq_ok h
  cases h
  cases said with
  | none => rfl
  | some said =>
    cases hread : host.readHexU8 (joinPath path "bInterfaceNumber") with
    | error error =>
      rw [hread] at hsaid
      cases hsaid
    | ok value =>
      rw [hread] at hsaid
      cases hsaid
      exact hagrees said hread

def interfaceInput (location : UsbLocation) (configuration number : UInt8) (vendorProduct : UsbVendorProduct)
    (path : String) : UsbInterfaceDescriptorInput where
  parentDeviceId := (UsbEntry.device location).deviceId
  bus := location.bus
  ports := location.ports
  configurationNumber := configuration
  parsedInterfaceNumber := number
  vendorId := vendorProduct.1
  productId := vendorProduct.2
  path := path

theorem describeInterface_details (location : UsbLocation) (configuration number : UInt8)
    (vendorProduct : UsbVendorProduct) (attributes : UsbInterfaceAttributes) :
    ∃ builder, Details builder (describeInterface
      (interfaceInput location configuration number vendorProduct path)
      kernelName number attributes (UsbEntry.interface location configuration number).started) ∧
        builder.validate = .ok () ∧ (UsbEntry.interface location configuration number).Describes builder := by
  exact ⟨_, (((((Details.refl _).withUsbProperties _ _ _ _).withNumber _ _).withNumber _ _).withLink _
    |>.withCapabilities).withInterfaceAttributes _, rfl, ⟨rfl, rfl, ⟨vendorProduct.1, vendorProduct.2, rfl⟩, rfl⟩⟩

theorem buildInterfaceDescriptor_spec (location : UsbLocation) (configuration number : UInt8)
    (vendorProduct : UsbVendorProduct) (hname : fileName path = some kernelName)
    (hagrees : NumberAgrees host path number) :
    Outcome host path kernelName (.interface location configuration number)
      (buildInterfaceDescriptor host (interfaceInput location configuration number vendorProduct path)) := by
  have hreadable := @readInterfaceAttributes_isOk_iff host path kernelName location configuration number
  have hstart : DeviceDescriptor.builderForKind
      (usbInterfaceId location.bus location.ports number) .usbInterface =
        .ok (UsbEntry.interface location configuration number).started :=
    builderForKind_idText (.interface location configuration number)
  rw [buildInterfaceDescriptor]
  simp only [interfaceInput, hname]
  cases hread : readInterfaceAttributes host kernelName path with
  | error note =>
    rw [hread] at hreadable
    have hnot : (UsbEntry.interface location configuration number).readable host path = false :=
      Bool.eq_false_iff.mpr fun h => nomatch hreadable.mpr h
    exact .noted hnot (notesUnread_readInterfaceAttributes note hread)
  | ok attributes =>
    rw [hread] at hreadable
    obtain ⟨builder, hdetails, hvalid, hdescribes⟩ :=
      @describeInterface_details path kernelName location configuration number vendorProduct attributes
    obtain ⟨hbuild, hdevice⟩ := hdetails.build_describes hvalid hdescribes
    rw [interfaceInput] at hbuild hdevice
    simp only [bind, Except.bind, Except.mapError, interfaceNumber_of_agrees hagrees hread, hstart]
    rw [hbuild]
    exact .described (hreadable.mp rfl) hdevice

end Lemnos.Linux
