import Lemnos.Linux.UsbDescriptors
import Lemnos.Mock.Hardware

namespace Lemnos.Mock

open Lemnos.Core Library Linux OrderedMap

inductive MockUsbEntry where
  | device (bus : UInt16) (ports : List UInt8)
  | interface (bus : UInt16) (ports : List UInt8) (interfaceNumber : UInt8)
  deriving DecidableEq

namespace MockUsbEntry

def idText : MockUsbEntry → String
  | device bus ports => s!"mock.usb.bus{bus}.ports{portsLabel ports}.dev"
  | interface bus ports interfaceNumber => s!"mock.usb.bus{bus}.ports{portsLabel ports}.if{interfaceNumber}"

def written (bus : UInt16) (ports : List UInt8) (suffix : List Char) : List Char :=
  "mock.usb.bus".toList ++
    (digits bus.toNat ++ '.' :: ("ports".toList ++ (joined '_' ports ++ '.' :: suffix)))

theorem toList_idText_device (bus : UInt16) (ports : List UInt8) :
    (device bus ports).idText.toList = written bus ports "dev".toList := by
  have hid : (device bus ports).idText =
    "mock.usb.bus" ++ bus.toNat.repr ++ ".ports" ++ portsLabel ports ++ ".dev" := rfl
  rw [hid, String.toList_append, String.toList_append, String.toList_append, String.toList_append,
    List.append_assoc, List.append_assoc, List.append_assoc, toList_portsLabel]
  rfl

theorem toList_idText_interface (bus : UInt16) (ports : List UInt8) (interfaceNumber : UInt8) :
    (interface bus ports interfaceNumber).idText.toList =
      written bus ports ("if".toList ++ digits interfaceNumber.toNat) := by
  have hid : (interface bus ports interfaceNumber).idText =
    "mock.usb.bus" ++ bus.toNat.repr ++ ".ports" ++ portsLabel ports ++ ".if" ++
      interfaceNumber.toNat.repr := rfl
  rw [hid, String.toList_append, String.toList_append, String.toList_append, String.toList_append,
    String.toList_append, List.append_assoc, List.append_assoc, List.append_assoc, List.append_assoc,
    toList_portsLabel]
  rfl

theorem joined_ne_nil {ports : List UInt8} (h : ports ≠ []) : joined '_' ports ≠ [] := by
  intro hnil
  have hsplit := @splitOn_joined '_' ports rfl h
  rw [hnil, List.splitOn_nil] at hsplit
  obtain ⟨port, rest, rfl⟩ := List.exists_cons_of_ne_nil h
  rw [List.map_cons, List.cons.injEq] at hsplit
  exact Decimal.repr_ne_nil _ hsplit.1.symm

/-- Without a port there is no character, and with one there is. -/
theorem ports_eq {ports ports' : List UInt8} (h : joined '_' ports = joined '_' ports') : ports = ports' := by
  by_cases hempty : ports = []
  · by_cases hempty' : ports' = []
    · rw [hempty, hempty']
    · rw [hempty] at h
      exact absurd h.symm (joined_ne_nil hempty')
  · by_cases hempty' : ports' = []
    · rw [hempty'] at h
      exact absurd h (joined_ne_nil hempty)
    · exact joined_injective rfl hempty hempty' h

theorem written_injective {bus bus' : UInt16} {ports ports' : List UInt8} {suffix suffix' : List Char}
    (h : written bus ports suffix = written bus' ports' suffix') :
    bus = bus' ∧ ports = ports' ∧ suffix = suffix' := by
  have hdot : ∀ ports, '.' ∉ joined '_' ports := fun _ => not_mem_joined (by decide) rfl
  have htext := List.append_cancel_left h
  obtain ⟨hbus, hrest⟩ := Separated.append_cons_inj (not_mem_digits rfl) (not_mem_digits rfl) htext
  obtain ⟨hports, hsuffix⟩ :=
    Separated.append_cons_inj (hdot ports) (hdot ports') (List.append_cancel_left hrest)
  exact ⟨UInt16.toNat_inj.mp (digits_injective hbus), ports_eq hports, hsuffix⟩

theorem written_wellFormed {value : String} {bus : UInt16} {ports : List UInt8} {suffix : List Char}
    (h : value.toList = written bus ports suffix) (hsuffix : ∀ c ∈ suffix, isIdentifierChar c = true) :
    validateIdentifier "device id" value = .ok () := by
  have hfront : "ock.usb.bus".toList.all isIdentifierChar = true ∧
      "ports".toList.all isIdentifierChar = true := by decide
  have hcons : value.toList = 'm' :: ("ock.usb.bus".toList ++
      (digits bus.toNat ++ '.' :: ("ports".toList ++ (joined '_' ports ++ '.' :: suffix)))) := h
  refine validateIdentifier_of_cons hcons rfl ?_
  simp only [List.mem_append, List.mem_cons]
  rintro c (hname | hbus | rfl | hword | hports | rfl | hc)
  · exact List.all_eq_true.mp hfront.1 c hname
  · exact UsbEntry.isIdentifierChar_of_isDigit (isDigit_of_mem_digits hbus)
  · rfl
  · exact List.all_eq_true.mp hfront.2 c hword
  · rcases mem_joined hports with rfl | hdigit
    · rfl
    · exact UsbEntry.isIdentifierChar_of_isDigit hdigit
  · rfl
  · exact hsuffix c hc

theorem idText_wellFormed (entry : MockUsbEntry) : validateIdentifier "device id" entry.idText = .ok () := by
  have hwords : "dev".toList.all isIdentifierChar = true ∧ "if".toList.all isIdentifierChar = true := by decide
  cases entry with
  | device bus ports =>
    exact written_wellFormed (toList_idText_device bus ports) (fun c hc => List.all_eq_true.mp hwords.1 c hc)
  | interface bus ports interfaceNumber =>
    refine written_wellFormed (toList_idText_interface bus ports interfaceNumber) ?_
    intro c hc
    rcases List.mem_append.mp hc with hword | hdigit
    · exact List.all_eq_true.mp hwords.2 c hword
    · exact UsbEntry.isIdentifierChar_of_isDigit (isDigit_of_mem_digits hdigit)

def deviceId (entry : MockUsbEntry) : DeviceId := ⟨entry.idText, entry.idText_wellFormed⟩

theorem dev_ne_interface (digits : List Char) : "dev".toList ≠ "if".toList ++ digits := by
  intro h
  have hfirst : 'd' = 'i' := (List.cons.inj h).1
  exact absurd hfirst (by decide)

theorem deviceId_injective {a b : MockUsbEntry} (h : a.deviceId = b.deviceId) : a = b := by
  have htext : a.idText.toList = b.idText.toList := congrArg (fun id : DeviceId => id.asStr.toList) h
  cases a with
  | device bus ports =>
    cases b with
    | device bus' ports' =>
      rw [toList_idText_device, toList_idText_device] at htext
      obtain ⟨rfl, rfl, -⟩ := written_injective htext
      rfl
    | interface bus' ports' interfaceNumber' =>
      rw [toList_idText_device, toList_idText_interface] at htext
      exact absurd (written_injective htext).2.2 (dev_ne_interface _)
  | interface bus ports interfaceNumber =>
    cases b with
    | device bus' ports' =>
      rw [toList_idText_device, toList_idText_interface] at htext
      exact absurd (written_injective htext).2.2.symm (dev_ne_interface _)
    | interface bus' ports' interfaceNumber' =>
      rw [toList_idText_interface, toList_idText_interface] at htext
      obtain ⟨rfl, rfl, hnumber⟩ := written_injective htext
      rw [UInt8.toNat_inj.mp (digits_injective (List.append_cancel_left hnumber))]

/-- The descriptor that `builder_for_kind` starts with, which it cannot refuse to. -/
def builder (entry : MockUsbEntry) (kind : DeviceKind) : DeviceDescriptor :=
  { id := entry.deviceId, interface := kind.interface, kind }

theorem builderForKind_idText (entry : MockUsbEntry) (kind : DeviceKind) :
    DeviceDescriptor.builderForKind entry.idText kind = .ok (entry.builder kind) := by
  have hid : Identifier.new "device id" entry.idText = .ok entry.deviceId := Identifier.new_asStr entry.deviceId
  rw [DeviceDescriptor.builderForKind, DeviceDescriptor.builder, hid]
  rfl

end MockUsbEntry

def usbBus (descriptor : DeviceDescriptor) : Option UInt16 :=
  match descriptor.address with
  | some (.usbDevice bus ..) => some bus
  | some (.usbInterface bus ..) => some bus
  | _ => none

def usbPorts (descriptor : DeviceDescriptor) : Option (List UInt8) :=
  match descriptor.address with
  | some (.usbDevice _ ports ..) => some ports
  | some (.usbInterface _ ports ..) => some ports
  | _ => none

structure MockUsbInterfaceConfig where
  interfaceNumber : UInt8
  alternateSetting : Option UInt8 := none
  classCode : Option UInt8 := none
  subclassCode : Option UInt8 := none
  protocolCode : Option UInt8 := none

structure MockUsbInterfaceIdentity where
  vendorId : Option UInt16 := none
  productId : Option UInt16 := none

structure MockUsbInterfaceDescriptor extends MockUsbInterfaceConfig where
  identity : MockUsbInterfaceIdentity

def describeInterface (parent : DeviceId) (bus : UInt16) (ports : List UInt8)
    (interface : MockUsbInterfaceDescriptor) (builder : DeviceDescriptor) : DeviceDescriptor :=
  let builder := { builder with
    displayName := some s!"usb-{bus}-{portsLabel ports}:if{interface.interfaceNumber}"
    summary := some "Mock USB interface"
    address := some (.usbInterface bus ports interface.interfaceNumber interface.identity.vendorId
      interface.identity.productId) }
  let builder := (builder.withDriverHint (some "lemnos.usb.generic")).withLabel "bus" (toString bus)
    |> withNumber "bus" bus.toUInt64
    |> withText "ports" (portsDisplay ports)
    |> withNumber "interface_number" interface.interfaceNumber.toUInt64
  builder.withLink (.new parent .parent)
    |> withUsbRequestCapabilities
    |> whenRead interface.alternateSetting (fun number => withNumber "alternate_setting" number.toUInt64)
    |> whenRead interface.classCode (fun number => withNumber "class_code" number.toUInt64)
    |> whenRead interface.subclassCode (fun number => withNumber "subclass_code" number.toUInt64)
    |> whenRead interface.protocolCode (fun number => withNumber "protocol_code" number.toUInt64)

def buildInterfaceDescriptor (deviceDescriptor : DeviceDescriptor) (interface : MockUsbInterfaceDescriptor) :
    Option DeviceDescriptor := do
  let bus ← usbBus deviceDescriptor
  let ports ← usbPorts deviceDescriptor
  let entry := MockUsbEntry.interface bus ports interface.interfaceNumber
  let builder ← (DeviceDescriptor.builderForKind entry.idText .usbInterface).toOption
  (describeInterface deviceDescriptor.id bus ports interface builder).build.toOption

structure LocatedAt (descriptor : DeviceDescriptor) (bus : UInt16) (ports : List UInt8) : Prop where
  id : descriptor.id = (MockUsbEntry.device bus ports).deviceId
  address : ∃ vendorId productId, descriptor.address = some (.usbDevice bus ports vendorId productId)

namespace LocatedAt

variable {descriptor : DeviceDescriptor} {bus : UInt16} {ports : List UInt8}

theorem usbBus_eq (h : LocatedAt descriptor bus ports) : usbBus descriptor = some bus := by
  obtain ⟨vendorId, productId, haddress⟩ := h.address
  rw [usbBus, haddress]

theorem usbPorts_eq (h : LocatedAt descriptor bus ports) : usbPorts descriptor = some ports := by
  obtain ⟨vendorId, productId, haddress⟩ := h.address
  rw [usbPorts, haddress]

theorem buildInterfaceDescriptor_eq (h : LocatedAt descriptor bus ports)
    (interface : MockUsbInterfaceDescriptor) :
    ∃ built, buildInterfaceDescriptor descriptor interface = some built ∧
      built.id = (MockUsbEntry.interface bus ports interface.interfaceNumber).deviceId := by
  let builder := (MockUsbEntry.interface bus ports interface.interfaceNumber).builder .usbInterface
  let described := describeInterface descriptor.id bus ports interface builder
  have hdetails : Details ({ builder with
      address := some (.usbInterface bus ports interface.interfaceNumber interface.identity.vendorId
        interface.identity.productId)
      links := [.new descriptor.id .parent] }) described := by
    refine .whenRead _ (.whenRead _ (.whenRead _ (.whenRead _ (.withCapabilities ⟨rfl, rfl, rfl, rfl, rfl⟩)
      ?_) ?_) ?_) ?_
    all_goals exact fun _ _ h => h.withNumber _ _
  have hbuild : described.build = .ok described := hdetails.build_eq_ok rfl
  refine ⟨described, ?_, hdetails.id⟩
  rw [buildInterfaceDescriptor, h.usbBus_eq, h.usbPorts_eq]
  simp only [Option.bind_eq_bind, Option.bind_some, MockUsbEntry.builderForKind_idText, Except.toOption]
  rw [hbuild]

end LocatedAt

structure MockUsbDevice where
  deviceDescriptor : DeviceDescriptor
  interfaces : List MockUsbInterfaceConfig := []
  controlResponses : List (MockUsbControlKey × List UInt8) := []
  bulkInResponses : BTreeMap UInt8 (List (List UInt8)) := ∅
  interruptInResponses : BTreeMap UInt8 (List (List UInt8)) := ∅
  claimedInterfaces : BTreeMap UInt8 (Option UInt8) := ∅
  lastControlOut : Option UsbControlTransfer := none
  lastBulkWrites : BTreeMap UInt8 (List UInt8) := ∅
  lastInterruptWrites : BTreeMap UInt8 (List UInt8) := ∅
  located : ∃ bus ports, LocatedAt deviceDescriptor bus ports

namespace MockUsbDevice

def describe (bus : UInt16) (ports : List UInt8) (builder : DeviceDescriptor) : DeviceDescriptor :=
  let builder := { builder with
    displayName := some s!"usb-{bus}-{portsLabel ports}"
    summary := some "Mock USB device"
    address := some (.usbDevice bus ports none none) }
  (builder.withDriverHint (some "lemnos.usb.generic")).withLabel "bus" (toString bus)
    |> withNumber "bus" bus.toUInt64
    |> withText "ports" (portsDisplay ports)
    |> withUsbRequestCapabilities

theorem describe_build (bus : UInt16) (ports : List UInt8) :
    (describe bus ports ((MockUsbEntry.device bus ports).builder .usbDevice)).build =
      .ok (describe bus ports ((MockUsbEntry.device bus ports).builder .usbDevice)) := by
  rw [DeviceDescriptor.build]
  rfl

def new (bus : UInt16) (ports : List UInt8) : MockUsbDevice where
  deviceDescriptor := describe bus ports ((MockUsbEntry.device bus ports).builder .usbDevice)
  located := ⟨bus, ports, rfl, none, none, rfl⟩

variable (device : MockUsbDevice)

theorem located_of_same {descriptor : DeviceDescriptor} (hid : descriptor.id = device.deviceDescriptor.id)
    (haddress : descriptor.address = device.deviceDescriptor.address) :
    ∃ bus ports, LocatedAt descriptor bus ports := by
  obtain ⟨bus, ports, hlocated⟩ := device.located
  exact ⟨bus, ports, hid.trans hlocated.id, by rw [haddress]; exact hlocated.address⟩

def withDisplayName (displayName : String) : MockUsbDevice :=
  { device with
    deviceDescriptor := { device.deviceDescriptor with displayName := some displayName }
    located := device.located_of_same rfl rfl }

theorem usbBus_isSome : (usbBus device.deviceDescriptor).isSome = true := by
  obtain ⟨bus, ports, hlocated⟩ := device.located
  rw [hlocated.usbBus_eq]
  rfl

theorem usbPorts_isSome : (usbPorts device.deviceDescriptor).isSome = true := by
  obtain ⟨bus, ports, hlocated⟩ := device.located
  rw [hlocated.usbPorts_eq]
  rfl

theorem located_get : LocatedAt device.deviceDescriptor ((usbBus device.deviceDescriptor).get device.usbBus_isSome)
    ((usbPorts device.deviceDescriptor).get device.usbPorts_isSome) := by
  obtain ⟨bus, ports, hlocated⟩ := device.located
  simp only [hlocated.usbBus_eq, hlocated.usbPorts_eq, Option.get_some]
  exact hlocated

def withVendorProduct (vendorId productId : UInt16) : MockUsbDevice :=
  let bus := (usbBus device.deviceDescriptor).get device.usbBus_isSome
  let ports := (usbPorts device.deviceDescriptor).get device.usbPorts_isSome
  { device with
    deviceDescriptor :=
      { device.deviceDescriptor with address := some (.usbDevice bus ports (some vendorId) (some productId)) }
        |> withVendorId vendorId
        |> withProductId productId
    located := ⟨bus, ports, device.located_get.id, some vendorId, some productId, rfl⟩ }

def withSerialNumber (serialNumber : String) : MockUsbDevice :=
  { device with
    deviceDescriptor := Linux.withSerialNumber serialNumber device.deviceDescriptor
    located := device.located_of_same rfl rfl }

def withInterfaceDetails (interface : MockUsbInterfaceConfig) : MockUsbDevice :=
  { device with
    interfaces := ((device.interfaces.filter fun candidate =>
        candidate.interfaceNumber ≠ interface.interfaceNumber) ++ [interface]).insertionSort
      fun left right => left.interfaceNumber ≤ right.interfaceNumber }

def withInterface (interfaceNumber : UInt8) : MockUsbDevice := device.withInterfaceDetails { interfaceNumber }

end MockUsbDevice

end Lemnos.Mock
