import Lemnos.Discovery.Run
import Lemnos.Linux.Hotplug
import Lemnos.Linux.UsbNames

namespace Lemnos.Linux

open Lemnos.Core Discovery

/-! What the probe reads of the files, and the descriptors that it builds from them. -/

structure DiscoveryHost where
  pathExists : String → Bool
  readDir : String → Except IoError (List (Except IoError String))
  readToString : String → Except IoError String
  readLink : String → Except IoError String

def fileName (path : String) : Option String :=
  match ((path.toList.splitOn '/').filter fun part => part ≠ [] ∧ part ≠ ['.']).getLast? with
  | some ['.', '.'] => none
  | some part => some (String.ofList part)
  | none => none

def hexValue (c : Char) : Option ℕ :=
  if c.isDigit then some (c.toNat - '0'.toNat)
  else if 'a' ≤ c ∧ c ≤ 'f' then some (c.toNat - 'a'.toNat + 10)
  else if 'A' ≤ c ∧ c ≤ 'F' then some (c.toNat - 'A'.toNat + 10)
  else none

def parseHex (limit : ℕ) (text : String) : Option ℕ := do
  let digits : List Char := match text.toList with
    | '+' :: digits => digits
    | digits => digits
  let values ← digits.mapM hexValue
  let value := values.foldl (fun value digit => 16 * value + digit) 0
  if digits ≠ [] ∧ value < limit then some value else none

namespace DiscoveryHost

variable (host : DiscoveryHost)

def readDirSorted (root : String) : Except IoError (List String) :=
  match host.readDir root with
  | .ok entries => do
    let names ← entries.mapM id
    return (names.insertionSort fun a b => a ≤ b).map (joinPath root)
  | .error .notFound => .ok []
  | .error error => .error error

def readTrimmed (path : String) : Except IoError (Option String) :=
  match host.readToString path with
  | .ok contents => .ok (trimmed (some contents))
  | .error .notFound => .ok none
  | .error error => .error error

def readU32 (path : String) : Except IoError (Option UInt32) := do
  return (← host.readTrimmed path).bind parseU32

def readHexU16 (path : String) : Except IoError (Option UInt16) := do
  return ((← host.readTrimmed path).bind (parseHex UInt16.size)).map UInt16.ofNat

def readHexU8 (path : String) : Except IoError (Option UInt8) := do
  return ((← host.readTrimmed path).bind (parseHex UInt8.size)).map UInt8.ofNat

def readLinkName (path : String) : Except IoError (Option String) :=
  match host.readLink path with
  | .ok target => .ok (fileName target)
  | .error .notFound => .ok none
  | .error error => .error error

def existingPathString (path : String) : Option String := if host.pathExists path then some path else none

end DiscoveryHost

def threeDigits (n : ℕ) : String := String.ofList (List.replicate (3 - n.repr.length) '0') ++ n.repr

def LinuxPaths.usbBusDevnode (paths : LinuxPaths) (bus deviceNumber : UInt16) : String :=
  joinPath (joinPath (joinPath (joinPath paths.devRoot "bus") "usb") (threeDigits bus.toNat))
    (threeDigits deviceNumber.toNat)

abbrev UsbVendorProduct := Option UInt16 × Option UInt16

def usbRequestCapabilities : List (CapabilityId × CapabilityAccess) :=
  [(⟨"usb.control_transfer", by decide⟩, .READ_WRITE), (⟨"usb.bulk_read", by decide⟩, .READ),
    (⟨"usb.bulk_write", by decide⟩, .WRITE), (⟨"usb.interrupt_read", by decide⟩, .READ),
    (⟨"usb.interrupt_write", by decide⟩, .WRITE), (⟨"usb.claim_interface", by decide⟩, .CONFIGURE),
    (⟨"usb.release_interface", by decide⟩, .CONFIGURE)]

def withUsbRequestCapabilities (builder : DeviceDescriptor) : DeviceDescriptor :=
  configuredBuilderWithCapabilities builder usbRequestCapabilities

def whenRead {α : Type} (value : Option α) (f : α → DeviceDescriptor → DeviceDescriptor)
    (builder : DeviceDescriptor) :
    DeviceDescriptor :=
  value.elim builder fun value => f value builder

def withText (key text : String) (builder : DeviceDescriptor) : DeviceDescriptor :=
  builder.withProperty key (.string text)

def withNumber (key : String) (number : UInt64) (builder : DeviceDescriptor) : DeviceDescriptor :=
  builder.withProperty key (.u64 number)

def withDevnode (devnode : String) (builder : DeviceDescriptor) : DeviceDescriptor :=
  withText "devnode" devnode builder

def withDriver (driver : String) (builder : DeviceDescriptor) : DeviceDescriptor :=
  withText "driver" driver (builder.withLabel "driver" driver)

def withHints (hints : MatchHints → MatchHints) (builder : DeviceDescriptor) : DeviceDescriptor :=
  { builder with matchHints := hints builder.matchHints }

def withModalias (modalias : String) (builder : DeviceDescriptor) : DeviceDescriptor :=
  withText "modalias" modalias (withHints (fun hints => { hints with modalias := some modalias }) builder)

def withVendorId (vendorId : UInt16) (builder : DeviceDescriptor) : DeviceDescriptor :=
  withNumber "vendor_id" vendorId.toUInt64
    (withHints (fun hints => { hints with vendor := some (DeviceAddress.hex 4 vendorId.toNat) }) builder)

def withProductId (productId : UInt16) (builder : DeviceDescriptor) : DeviceDescriptor :=
  withNumber "product_id" productId.toUInt64
    (withHints (fun hints => { hints with model := some (DeviceAddress.hex 4 productId.toNat) }) builder)

def withSerialNumber (serialNumber : String) (builder : DeviceDescriptor) : DeviceDescriptor :=
  withHints (fun hints => { hints with serialNumber := some serialNumber }) builder

def withHealth (health : DeviceHealth) (builder : DeviceDescriptor) : DeviceDescriptor := { builder with health }

def readAttribute {α : Type} (what subject path : String) (reading : Except IoError α) : Except String α :=
  reading.mapError fun error => s!"failed to read Linux USB {what} for '{subject}' at '{path}': {error.display}"

def startBusDescriptor (bus : UInt16) : Except String DeviceDescriptor := do
  let builder ← (DeviceDescriptor.builderForKind (usbBusId bus) .usbBus).mapError fun error =>
    s!"failed to start USB bus descriptor for bus {bus}: {error}"
  let builder := { builder with
    displayName := some s!"usb{bus}"
    summary := some "Linux USB bus"
    address := some (.usbBus bus) }
  return withNumber "bus" bus.toUInt64 ((builder.withLabel "backend" "linux").withLabel "bus" (toString bus))

def finishBusDescriptor (bus : UInt16) (builder : DeviceDescriptor) : Except String DeviceDescriptor :=
  builder.build.mapError fun error => s!"failed to build USB bus descriptor for bus {bus}: {error}"

def buildBusDescriptorFromNumber (bus : UInt16) : Except String DeviceDescriptor := do
  finishBusDescriptor bus (← startBusDescriptor bus)

variable (host : DiscoveryHost)

def buildBusDescriptor (bus : UInt16) (path : String) : Except String DeviceDescriptor := do
  let builder := withText "sysfs_path" path (← startBusDescriptor bus)
  let product ← readAttribute "bus product" (toString bus) path (host.readTrimmed (joinPath path "product"))
  finishBusDescriptor bus (whenRead product (withText "product") builder)

structure UsbDeviceAttributes where
  vendorId : Option UInt16
  productId : Option UInt16
  deviceNumber : Option UInt32
  modalias : Option String
  manufacturer : Option String
  product : Option String
  serialNumber : Option String

def readDeviceAttributes (kernelName path : String) : Except String UsbDeviceAttributes := do
  let vendorId ← readAttribute "vendor ID" kernelName path (host.readHexU16 (joinPath path "idVendor"))
  let productId ← readAttribute "product ID" kernelName path (host.readHexU16 (joinPath path "idProduct"))
  let deviceNumber ← readAttribute "device number" kernelName path (host.readU32 (joinPath path "devnum"))
  let modalias ← readAttribute "modalias" kernelName path (host.readTrimmed (joinPath path "modalias"))
  let manufacturer ←
    readAttribute "manufacturer" kernelName path (host.readTrimmed (joinPath path "manufacturer"))
  let product ← readAttribute "product" kernelName path (host.readTrimmed (joinPath path "product"))
  let serialNumber ← readAttribute "serial" kernelName path (host.readTrimmed (joinPath path "serial"))
  return { vendorId, productId, deviceNumber, modalias, manufacturer, product, serialNumber }

def withDeviceNumber (paths : LinuxPaths) (bus : UInt16) (deviceNumber : Option UInt32)
    (builder : DeviceDescriptor) :
    DeviceDescriptor :=
  match deviceNumber with
  | none => withHealth .degraded builder
  | some deviceNumber =>
    let builder := withNumber "device_number" deviceNumber.toUInt64 builder
    if deviceNumber.toNat < UInt16.size then
      match host.existingPathString (paths.usbBusDevnode bus deviceNumber.toUInt16) with
      | some devnode => withDevnode devnode builder
      | none => withHealth .degraded builder
    else builder

def withDeviceAttributes (paths : LinuxPaths) (bus : UInt16) (attributes : UsbDeviceAttributes)
    (builder : DeviceDescriptor) : DeviceDescriptor :=
  builder
    |> whenRead attributes.vendorId withVendorId
    |> whenRead attributes.productId withProductId
    |> whenRead attributes.modalias withModalias
    |> whenRead attributes.manufacturer (withText "manufacturer")
    |> whenRead attributes.product (withText "product")
    |> whenRead attributes.serialNumber withSerialNumber
    |> withDeviceNumber host paths bus attributes.deviceNumber

def withUsbProperties (bus : UInt16) (ports : List UInt8) (kernelName path : String)
    (builder : DeviceDescriptor) :
    DeviceDescriptor :=
  (builder.withDriverHint (some "lemnos.usb.generic")).withLabel "backend" "linux"
    |>.withLabel "bus" (toString bus)
    |> withNumber "bus" bus.toUInt64
    |> withText "ports" (portsDisplay ports)
    |> withText "kernel_name" kernelName
    |> withText "sysfs_path" path

def describeDevice (paths : LinuxPaths) (busId : DeviceId) (bus : UInt16) (ports : List UInt8)
    (kernelName path : String)
    (attributes : UsbDeviceAttributes) (builder : DeviceDescriptor) : DeviceDescriptor :=
  let builder := { builder with
    displayName := some s!"usb-{bus}-{portsDisplay ports}"
    summary := some "Linux USB device"
    address := some (.usbDevice bus ports attributes.vendorId attributes.productId) }
  (withUsbProperties bus ports kernelName path builder).withLink (.new busId .parent)
    |> withUsbRequestCapabilities
    |> withDeviceAttributes host paths bus attributes

def buildDeviceDescriptor (paths : LinuxPaths) (busId : DeviceId) (bus : UInt16) (ports : List UInt8)
    (path : String) :
    Except String (DeviceDescriptor × UsbVendorProduct) := do
  let some kernelName := fileName path | throw s!"missing file name for Linux USB device '{path}'"
  let attributes ← readDeviceAttributes host kernelName path
  let builder ← (DeviceDescriptor.builderForKind (usbDeviceId bus ports) .usbDevice).mapError fun error =>
    s!"failed to start USB device descriptor for bus {bus} ports {portsDisplay ports}: {error}"
  let builder := describeDevice host paths busId bus ports kernelName path attributes builder
  let descriptor ← builder.build.mapError fun error =>
    s!"failed to build USB device descriptor '{kernelName}': {error}"
  return (descriptor, attributes.vendorId, attributes.productId)

structure UsbInterfaceAttributes where
  interfaceNumber : Option UInt8
  alternateSetting : Option UInt8
  classCode : Option UInt8
  subclassCode : Option UInt8
  protocolCode : Option UInt8
  driver : Option String
  modalias : Option String

def readInterfaceAttributes (kernelName path : String) : Except String UsbInterfaceAttributes := do
  let interfaceNumber ←
    readAttribute "interface number" kernelName path (host.readHexU8 (joinPath path "bInterfaceNumber"))
  let alternateSetting ←
    readAttribute "alternate setting" kernelName path (host.readHexU8 (joinPath path "bAlternateSetting"))
  let classCode ←
    readAttribute "interface class" kernelName path (host.readHexU8 (joinPath path "bInterfaceClass"))
  let subclassCode ←
    readAttribute "interface subclass" kernelName path (host.readHexU8 (joinPath path "bInterfaceSubClass"))
  let protocolCode ←
    readAttribute "interface protocol" kernelName path (host.readHexU8 (joinPath path "bInterfaceProtocol"))
  let driver ← readAttribute "interface driver link" kernelName path (host.readLinkName (joinPath path "driver"))
  let modalias ← readAttribute "interface modalias" kernelName path (host.readTrimmed (joinPath path "modalias"))
  return { interfaceNumber, alternateSetting, classCode, subclassCode, protocolCode, driver, modalias }

def withInterfaceAttributes (attributes : UsbInterfaceAttributes) (builder : DeviceDescriptor) :
    DeviceDescriptor :=
  builder
    |> whenRead attributes.alternateSetting (fun number => withNumber "alternate_setting" number.toUInt64)
    |> whenRead attributes.classCode (fun number => withNumber "class_code" number.toUInt64)
    |> whenRead attributes.subclassCode (fun number => withNumber "subclass_code" number.toUInt64)
    |> whenRead attributes.protocolCode (fun number => withNumber "protocol_code" number.toUInt64)
    |> whenRead attributes.driver withDriver
    |> whenRead attributes.modalias withModalias

structure UsbInterfaceDescriptorInput where
  parentDeviceId : DeviceId
  bus : UInt16
  ports : List UInt8
  configurationNumber : UInt8
  parsedInterfaceNumber : UInt8
  vendorId : Option UInt16
  productId : Option UInt16
  path : String

def describeInterface (input : UsbInterfaceDescriptorInput) (kernelName : String) (interfaceNumber : UInt8)
    (attributes : UsbInterfaceAttributes) (builder : DeviceDescriptor) : DeviceDescriptor :=
  let { parentDeviceId, bus, ports, configurationNumber, vendorId, productId, path, .. } := input
  let builder := { builder with
    displayName := some s!"usb-{bus}-{portsDisplay ports}:if{interfaceNumber}"
    summary := some "Linux USB interface"
    address := some (.usbInterface bus ports interfaceNumber vendorId productId) }
  let builder := withUsbProperties bus ports kernelName path builder
    |> withNumber "configuration_number" configurationNumber.toUInt64
    |> withNumber "interface_number" interfaceNumber.toUInt64
  builder.withLink (.new parentDeviceId .parent)
    |> withUsbRequestCapabilities
    |> withInterfaceAttributes attributes

/-- The number that the interface says it has is preferred to the one in its name. -/
def buildInterfaceDescriptor (input : UsbInterfaceDescriptorInput) : Except String DeviceDescriptor := do
  let { bus, ports, parsedInterfaceNumber, path, .. } := input
  let some kernelName := fileName path | throw s!"missing file name for Linux USB interface '{path}'"
  let attributes ← readInterfaceAttributes host kernelName path
  let interfaceNumber := attributes.interfaceNumber.getD parsedInterfaceNumber
  let builder ← (DeviceDescriptor.builderForKind
    (usbInterfaceId bus ports interfaceNumber) .usbInterface).mapError
    fun error => s!"failed to start USB interface descriptor for '{kernelName}' at '{path}': {error}"
  (describeInterface input kernelName interfaceNumber attributes builder).build.mapError fun error =>
    s!"failed to build USB interface descriptor '{kernelName}' at '{path}': {error}"

structure Details (builder detailed : DeviceDescriptor) : Prop where
  id : detailed.id = builder.id
  interface : detailed.interface = builder.interface
  kind : detailed.kind = builder.kind
  address : detailed.address = builder.address
  links : detailed.links = builder.links

namespace Details

variable {builder detailed : DeviceDescriptor}

theorem refl (builder : DeviceDescriptor) : Details builder builder := ⟨rfl, rfl, rfl, rfl, rfl⟩

theorem withLabel (key value : String) (h : Details builder detailed) :
    Details builder (detailed.withLabel key value) := ⟨h.id, h.interface, h.kind, h.address, h.links⟩

theorem withDriverHint (driverHint : String) (h : Details builder detailed) :
    Details builder (detailed.withDriverHint (some driverHint)) := ⟨h.id, h.interface, h.kind, h.address, h.links⟩

theorem withText (key text : String) (h : Details builder detailed) :
    Details builder (withText key text detailed) :=
  ⟨h.id, h.interface, h.kind, h.address, h.links⟩

theorem withNumber (key : String) (number : UInt64) (h : Details builder detailed) :
    Details builder (withNumber key number detailed) := ⟨h.id, h.interface, h.kind, h.address, h.links⟩

theorem withHints (hints : MatchHints → MatchHints) (h : Details builder detailed) :
    Details builder (withHints hints detailed) := ⟨h.id, h.interface, h.kind, h.address, h.links⟩

theorem withHealth (health : DeviceHealth) (h : Details builder detailed) :
    Details builder (withHealth health detailed) := ⟨h.id, h.interface, h.kind, h.address, h.links⟩

theorem withCapabilities (h : Details builder detailed) : Details builder (withUsbRequestCapabilities detailed) :=
  ⟨h.id, h.interface, h.kind, h.address, h.links⟩

theorem whenRead {α : Type} (value : Option α) {f : α → DeviceDescriptor → DeviceDescriptor}
    (h : Details builder detailed)
    (hf : ∀ a {detailed}, Details builder detailed → Details builder (f a detailed)) :
    Details builder (whenRead value f detailed) := by
  cases value with
  | none => exact h
  | some a => exact hf a h

theorem withModalias (modalias : String) (h : Details builder detailed) :
    Details builder (withModalias modalias detailed) := (h.withHints _).withText _ _

theorem withUsbProperties (bus : UInt16) (ports : List UInt8) (kernelName path : String)
    (h : Details builder detailed) : Details builder (withUsbProperties bus ports kernelName path detailed) :=
  ((((((h.withDriverHint _).withLabel _ _).withLabel _ _).withNumber _ _).withText _ _).withText _ _).withText _ _

theorem withDeviceNumber (paths : LinuxPaths) (bus : UInt16) (deviceNumber : Option UInt32)
    (h : Details builder detailed) : Details builder (withDeviceNumber host paths bus deviceNumber detailed) := by
  cases deviceNumber with
  | none => exact h.withHealth _
  | some deviceNumber =>
    have hnumbered := h.withNumber "device_number" deviceNumber.toUInt64
    simp only [Linux.withDeviceNumber]
    split
    · split
      · exact hnumbered.withText _ _
      · exact hnumbered.withHealth _
    · exact hnumbered

theorem withDeviceAttributes (paths : LinuxPaths) (bus : UInt16) (attributes : UsbDeviceAttributes)
    (h : Details builder detailed) :
    Details builder (withDeviceAttributes host paths bus attributes detailed) := by
  apply Details.withDeviceNumber
  refine .whenRead _ (.whenRead _ (.whenRead _ (.whenRead _ (.whenRead _ (.whenRead _ h ?_) ?_) ?_) ?_) ?_) ?_
  · exact fun _ _ h => (h.withHints _).withNumber _ _
  · exact fun _ _ h => (h.withHints _).withNumber _ _
  · exact fun _ _ h => h.withModalias _
  · exact fun _ _ h => h.withText _ _
  · exact fun _ _ h => h.withText _ _
  · exact fun _ _ h => h.withHints _

theorem withInterfaceAttributes (attributes : UsbInterfaceAttributes) (h : Details builder detailed) :
    Details builder (withInterfaceAttributes attributes detailed) := by
  refine .whenRead _ (.whenRead _ (.whenRead _ (.whenRead _ (.whenRead _ (.whenRead _ h ?_) ?_) ?_) ?_) ?_) ?_
  · exact fun _ _ h => h.withNumber _ _
  · exact fun _ _ h => h.withNumber _ _
  · exact fun _ _ h => h.withNumber _ _
  · exact fun _ _ h => h.withNumber _ _
  · exact fun _ _ h => (h.withLabel _ _).withText _ _
  · exact fun _ _ h => h.withModalias _

theorem withLink (link : DeviceLink) (h : Details builder detailed) :
    Details (builder.withLink link) (detailed.withLink link) :=
  ⟨h.id, h.interface, h.kind, h.address, congrArg (· ++ [link]) h.links⟩

theorem build_eq_ok (h : Details builder detailed) (hvalid : builder.validate = .ok ()) :
    detailed.build = .ok detailed := by
  rw [DeviceDescriptor.validate_iff] at hvalid
  have hdetailed : detailed.validate = .ok () := by
    rw [DeviceDescriptor.validate_iff, h.interface, h.kind, h.address]
    exact hvalid
  rw [DeviceDescriptor.build, hdetailed]
  rfl

end Details

end Lemnos.Linux
