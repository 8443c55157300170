import Lemnos.Drivers.Answers
import Lemnos.DriverSdk.Device

namespace Lemnos.Drivers

open Lemnos.Core Bus DriverSdk Library.Frames Library.OrderedMap

def portsName (ports : List UInt8) : String := ".".intercalate (ports.map toString)

def hexU16 (value : UInt16) : String := DeviceAddress.hex 4 value.toNat

structure UsbStats where
  controlOps : UInt64 := 0
  bulkReadOps : UInt64 := 0
  bulkWriteOps : UInt64 := 0
  interruptReadOps : UInt64 := 0
  interruptWriteOps : UInt64 := 0
  claimOps : UInt64 := 0
  releaseOps : UInt64 := 0
  bytesRead : UInt64 := 0
  bytesWritten : UInt64 := 0
  claimedInterfaces : BTreeMap UInt8 (Option UInt8) := ∅
  lastOperation : Option OperationRecord := none

namespace UsbStats

def recordControlRead (bytes : List UInt8) (summary : String) (stats : UsbStats) : UsbStats :=
  let (lastOperation, bytesRead) :=
    recordBytesReadOperation stats.bytesRead "usb.control_transfer" summary bytes
  { stats with controlOps := stats.controlOps + 1, bytesRead, lastOperation }

def recordControlWrite (bytes : List UInt8) (summary : String) (stats : UsbStats) : UsbStats :=
  let (lastOperation, bytesWritten) :=
    recordBytesWrittenSliceOperation stats.bytesWritten "usb.control_transfer" summary bytes
  { stats with controlOps := stats.controlOps + 1, bytesWritten, lastOperation }

def recordBulkRead (bytes : List UInt8) (summary : String) (stats : UsbStats) : UsbStats :=
  let (lastOperation, bytesRead) := recordBytesReadOperation stats.bytesRead "usb.bulk_read" summary bytes
  { stats with bulkReadOps := stats.bulkReadOps + 1, bytesRead, lastOperation }

def recordBulkWrite (bytes : List UInt8) (summary : String) (stats : UsbStats) : UsbStats :=
  let (lastOperation, bytesWritten) :=
    recordBytesWrittenSliceOperation stats.bytesWritten "usb.bulk_write" summary bytes
  { stats with bulkWriteOps := stats.bulkWriteOps + 1, bytesWritten, lastOperation }

def recordInterruptRead (bytes : List UInt8) (summary : String) (stats : UsbStats) : UsbStats :=
  let (lastOperation, bytesRead) :=
    recordBytesReadOperation stats.bytesRead "usb.interrupt_read" summary bytes
  { stats with interruptReadOps := stats.interruptReadOps + 1, bytesRead, lastOperation }

def recordInterruptWrite (bytes : List UInt8) (summary : String) (stats : UsbStats) : UsbStats :=
  let (lastOperation, bytesWritten) :=
    recordBytesWrittenSliceOperation stats.bytesWritten "usb.interrupt_write" summary bytes
  { stats with interruptWriteOps := stats.interruptWriteOps + 1, bytesWritten, lastOperation }

def recordClaim (interfaceNumber : UInt8) (alternateSetting : Option UInt8) (summary : String)
    (stats : UsbStats) : UsbStats :=
  { stats with
    claimOps := stats.claimOps + 1
    claimedInterfaces := stats.claimedInterfaces.insert interfaceNumber alternateSetting
    lastOperation := recordOutputOperation "usb.claim_interface" summary (.u64 interfaceNumber.toUInt64) }

def recordRelease (interfaceNumber : UInt8) (summary : String) (stats : UsbStats) : UsbStats :=
  { stats with
    releaseOps := stats.releaseOps + 1
    claimedInterfaces := stats.claimedInterfaces.erase interfaceNumber
    lastOperation := recordOutputOperation "usb.release_interface" summary (.u64 interfaceNumber.toUInt64) }

end UsbStats

abbrev UsbBoundDevice (S : Type) := SessionBound S UsbStats

namespace UsbBoundDevice

variable {S : Type} (session : UsbSession S)

def withUsbIds (bus : UInt16) (ports : List UInt8) (vendorId productId : Option UInt16)
    (state : DeviceStateSnapshot) : DeviceStateSnapshot :=
  let state := state.withConfig "bus" (.u64 bus.toUInt64)
  let state := state.withConfig "ports" (.string (portsName ports))
  let state := state.withConfigured "vendor_id" vendorId fun vendorId => .string (hexU16 vendorId)
  state.withConfigured "product_id" productId fun productId => .string (hexU16 productId)

def withAddress (device : DeviceDescriptor) (state : DeviceStateSnapshot) : DeviceStateSnapshot :=
  match device.address with
  | some (.usbDevice bus ports vendorId productId) => withUsbIds bus ports vendorId productId state
  | some (.usbInterface bus ports interfaceNumber vendorId productId) =>
    (withUsbIds bus ports vendorId productId state).withConfig "interface_number" (.u64 interfaceNumber.toUInt64)
  | _ => state

theorem withAddress_books (device : DeviceDescriptor) (state : DeviceStateSnapshot) :
    (withAddress device state).telemetry = state.telemetry ∧
      (withAddress device state).lastOperation = state.lastOperation := by
  unfold withAddress
  split <;> simp [withUsbIds]

def describe (stats : UsbStats) : DeviceStateSnapshot :=
  let state : DeviceStateSnapshot := { deviceId := session.device.id }
  let state := state.withLifecycle .idle
  let state := state.withTelemetry "control_ops" (.u64 stats.controlOps)
  let state := state.withTelemetry "bulk_read_ops" (.u64 stats.bulkReadOps)
  let state := state.withTelemetry "bulk_write_ops" (.u64 stats.bulkWriteOps)
  let state := state.withTelemetry "interrupt_read_ops" (.u64 stats.interruptReadOps)
  let state := state.withTelemetry "interrupt_write_ops" (.u64 stats.interruptWriteOps)
  let state := state.withTelemetry "claim_ops" (.u64 stats.claimOps)
  let state := state.withTelemetry "release_ops" (.u64 stats.releaseOps)
  let state := state.withTelemetry "claimed_interface_count" (.u64 (UInt64.ofNat stats.claimedInterfaces.size))
  let state := withByteTelemetry state stats.bytesRead stats.bytesWritten
  withAddress session.device (withLastOperation state stats.lastOperation)

def snapshotState : DriverCall S UsbStats DeviceStateSnapshot := do
  let bound ← get
  pure (describe session bound.stats)

def recordControl (transfer : UsbControlTransfer) (bytes : List UInt8) : UsbStats → UsbStats :=
  match transfer.setup.direction with
  | .input => .recordControlRead bytes s!"read {bytes.length} bytes from control endpoint"
  | .output => .recordControlWrite transfer.data s!"wrote {transfer.data.length} bytes in control transfer"

def endpointText (endpoint : UInt8) : String := "0x" ++ DeviceAddress.hex 2 endpoint.toNat

def executeUsbRequest : UsbRequest → DriverCall S UsbStats UsbResponse
  | .control transfer => do
    let bytes ← io session.device (session.controlTransfer transfer)
    modifyStats (recordControl transfer bytes)
    pure (.bytes bytes)
  | .bulkRead endpoint length timeoutMs => do
    let bytes ← io session.device (session.bulkRead endpoint length timeoutMs)
    modifyStats (.recordBulkRead bytes s!"read {bytes.length} bytes from bulk endpoint {endpointText endpoint}")
    pure (.bytes bytes)
  | .bulkWrite endpoint bytes timeoutMs => do
    io session.device (session.bulkWrite endpoint bytes timeoutMs)
    modifyStats (.recordBulkWrite bytes s!"wrote {bytes.length} bytes to bulk endpoint {endpointText endpoint}")
    pure .applied
  | .interruptRead endpoint length timeoutMs => do
    let bytes ← io session.device (session.interruptRead endpoint length timeoutMs)
    modifyStats (.recordInterruptRead bytes
      s!"read {bytes.length} bytes from interrupt endpoint {endpointText endpoint}")
    pure (.bytes bytes)
  | .interruptWrite transfer => do
    io session.device (session.interruptWrite transfer)
    modifyStats (.recordInterruptWrite transfer.bytes
      s!"wrote {transfer.bytes.length} bytes to interrupt endpoint {endpointText transfer.endpoint}")
    pure .applied
  | .claimInterface interfaceNumber alternateSetting => do
    io session.device (session.claimInterface interfaceNumber alternateSetting)
    modifyStats (.recordClaim interfaceNumber alternateSetting s!"claimed interface {interfaceNumber}")
    pure (.interfaceClaimed interfaceNumber alternateSetting)
  | .releaseInterface interfaceNumber => do
    io session.device (session.releaseInterface interfaceNumber)
    modifyStats (.recordRelease interfaceNumber s!"released interface {interfaceNumber}")
    pure (.interfaceReleased interfaceNumber)

def variant : StandardVariant UsbRequest UsbResponse where
  interface := .usb
  wrap := .usb
  request
    | .usb request => some request
    | _ => none
  response := .usb
  wrap_request := by
    intro standard selected h
    cases standard <;> cases h
    rfl
  wrap_interface selected := rfl

def execute : InteractionRequest → DriverCall S UsbStats InteractionResponse :=
  executeStandardRequest variant session.device (executeUsbRequest session)

def book : UsbRequest → UsbResponse → UsbStats → UsbStats
  | .control transfer, .bytes bytes => recordControl transfer bytes
  | .bulkRead endpoint _ _, .bytes bytes =>
    .recordBulkRead bytes s!"read {bytes.length} bytes from bulk endpoint {endpointText endpoint}"
  | .bulkWrite endpoint bytes _, _ =>
    .recordBulkWrite bytes s!"wrote {bytes.length} bytes to bulk endpoint {endpointText endpoint}"
  | .interruptRead endpoint _ _, .bytes bytes =>
    .recordInterruptRead bytes s!"read {bytes.length} bytes from interrupt endpoint {endpointText endpoint}"
  | .interruptWrite transfer, _ =>
    .recordInterruptWrite transfer.bytes
      s!"wrote {transfer.bytes.length} bytes to interrupt endpoint {endpointText transfer.endpoint}"
  | .claimInterface interfaceNumber alternateSetting, _ =>
    .recordClaim interfaceNumber alternateSetting s!"claimed interface {interfaceNumber}"
  | .releaseInterface interfaceNumber, _ => .recordRelease interfaceNumber s!"released interface {interfaceNumber}"
  | _, _ => id

theorem books_executeUsbRequest (request : UsbRequest) :
    Books SessionBound.stats (executeUsbRequest session request) (book request) := by
  cases request with
  | control transfer => exact books_io _ fun bytes => books_modifyStats fun stats => rfl
  | bulkRead endpoint length timeoutMs => exact books_io _ fun bytes => books_modifyStats fun stats => rfl
  | bulkWrite endpoint bytes timeoutMs => exact books_io _ fun done => books_modifyStats fun stats => rfl
  | interruptRead endpoint length timeoutMs => exact books_io _ fun bytes => books_modifyStats fun stats => rfl
  | interruptWrite transfer => exact books_io _ fun done => books_modifyStats fun stats => rfl
  | claimInterface number alternateSetting => exact books_io _ fun done => books_modifyStats fun stats => rfl
  | releaseInterface number => exact books_io _ fun done => books_modifyStats fun stats => rfl

theorem yields_executeUsbRequest (request : UsbRequest) :
    Yields (UsbAnswers request) (executeUsbRequest session request) := by
  cases request with
  | control transfer => exact .after fun bytes => .after fun done => .pure (.control transfer bytes)
  | bulkRead endpoint length timeoutMs =>
    exact .after fun bytes => .after fun done => .pure (.bulkRead endpoint length timeoutMs bytes)
  | bulkWrite endpoint bytes timeoutMs =>
    exact .after fun done => .after fun done => .pure (.bulkWrite endpoint bytes timeoutMs)
  | interruptRead endpoint length timeoutMs =>
    exact .after fun bytes => .after fun done => .pure (.interruptRead endpoint length timeoutMs bytes)
  | interruptWrite transfer => exact .after fun done => .after fun done => .pure (.interruptWrite transfer)
  | claimInterface number alternateSetting =>
    exact .after fun done => .after fun done => .pure (.claim number alternateSetting)
  | releaseInterface number => exact .after fun done => .after fun done => .pure (.release number)

end UsbBoundDevice

def usbDriver : GenericSessionDriver where
  id := "lemnos.usb.generic"
  summary := "Generic USB driver bundle"
  interface := .usb
  kinds := [.usbDevice, .usbInterface]
  expected := "usb-device or usb-interface"
  access := .exclusiveController
  interactions := ["usb.control_transfer", "usb.bulk_read", "usb.bulk_write", "usb.interrupt_read",
    "usb.interrupt_write", "usb.claim_interface", "usb.release_interface"]

end Lemnos.Drivers
