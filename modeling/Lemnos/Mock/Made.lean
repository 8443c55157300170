import Lemnos.Drivers.Builtin
import Lemnos.Mock.Backends
import Lemnos.Mock.Builders

/-! What holds of all devices that are put into the mock hardware. -/

namespace Lemnos.Mock

open Lemnos.Core Bus DriverSdk Drivers Linux Library.OrderedMap

def idPrefix : InterfaceKind → String
  | .gpio => "mock.gpio."
  | .pwm => "mock.pwm."
  | .i2c => "mock.i2c."
  | .spi => "mock.spi."
  | .uart => "mock.uart."
  | .usb => "mock.usb."

theorem prefixes_apart {interface other : InterfaceKind} {text : List Char}
    (h : (idPrefix interface).toList <+: text) (hother : (idPrefix other).toList <+: text) : interface = other := by
  have hapart : ∀ interface other : InterfaceKind, (idPrefix interface).toList <+: (idPrefix other).toList →
      interface = other := by
    intro interface other
    cases interface <;> cases other <;> decide
  rcases List.prefix_or_prefix_of_prefix h hother with hfirst | hlater
  · exact hapart interface other hfirst
  · exact (hapart other interface hlater).symm

structure Made (interface : InterfaceKind) (descriptor : DeviceDescriptor) : Prop where
  kind : descriptor.kind ∈ (driverFor interface).kinds
  valid : descriptor.validate = .ok ()
  hint : descriptor.matchHints.driverHint = some (driverFor interface).id
  id : (idPrefix interface).toList <+: descriptor.id.asStr.toList

section Builders

theorem described {id : String} {kind : DeviceKind} {describe : DeviceDescriptor → DeviceDescriptor}
    {descriptor : DeviceDescriptor} (h : describedDevice id kind describe = some descriptor) :
    descriptor.validate = .ok () ∧ ∃ deviceId : DeviceId, deviceId.asStr = id ∧
      descriptor = describe { id := deviceId, interface := kind.interface, kind } := by
  obtain ⟨builder, hbuilder, hbuild⟩ := Option.bind_eq_some_iff.mp h
  cases hid : Identifier.new "device id" id with
  | error error =>
    rw [DeviceDescriptor.builderForKind, DeviceDescriptor.builder, hid] at hbuilder
    cases hbuilder
  | ok deviceId =>
    rw [DeviceDescriptor.builderForKind, DeviceDescriptor.builder, hid] at hbuilder
    cases hbuilder
    cases hbuilt : (describe { id := deviceId, interface := kind.interface, kind }).build with
    | error error =>
      have hnone : (describe { id := deviceId, interface := kind.interface, kind }).build.toOption = some descriptor :=
        hbuild
      rw [hbuilt] at hnone
      cases hnone
    | ok built =>
      have hsome : (describe { id := deviceId, interface := kind.interface, kind }).build.toOption = some descriptor :=
        hbuild
      rw [hbuilt] at hsome
      cases hsome
      obtain ⟨rfl, hvalid⟩ := DeviceDescriptor.of_build_eq_ok hbuilt
      exact ⟨hvalid, deviceId, Identifier.asStr_of_new hid, rfl⟩

theorem made_described {interface : InterfaceKind} {id : String} {kind : DeviceKind}
    {describe : DeviceDescriptor → DeviceDescriptor} {descriptor : DeviceDescriptor}
    (h : describedDevice id kind describe = some descriptor) (hid : (idPrefix interface).toList <+: id.toList)
    (hkind : kind ∈ (driverFor interface).kinds)
    (hdescribe : ∀ builder, (describe builder).id = builder.id ∧ (describe builder).kind = builder.kind ∧
      (describe builder).matchHints.driverHint = some (driverFor interface).id) : Made interface descriptor := by
  obtain ⟨hvalid, deviceId, hname, rfl⟩ := described h
  obtain ⟨hsame, hkept, hhint⟩ := hdescribe { id := deviceId, interface := kind.interface, kind }
  refine ⟨?_, hvalid, hhint, ?_⟩
  · rw [hkept]
    exact hkind
  · rw [hsame, hname]
    exact hid

theorem made_gpioLine {chipName : String} {offset : UInt32} {line : MockGpioLineState}
    (h : MockGpioLine.new chipName offset = some line) : Made .gpio line.descriptor := by
  obtain ⟨descriptor, hdescriptor, rfl⟩ := Option.map_eq_some_iff.mp h
  refine made_described hdescriptor ?_ (by decide) fun builder => ⟨rfl, rfl, rfl⟩
  change _ <+: ("mock.gpio." ++ chipName ++ "." ++ toString offset).toList
  simp only [String.toList_append, List.append_assoc]
  exact List.prefix_append _ _

theorem made_pwmChannel {chipName : String} {number : UInt32} {channel : MockPwmChannelState}
    (h : MockPwmChannel.new chipName number = some channel) : Made .pwm channel.descriptor := by
  obtain ⟨descriptor, hdescriptor, rfl⟩ := Option.map_eq_some_iff.mp h
  refine made_described hdescriptor ?_ (by decide) fun builder => ⟨rfl, rfl, rfl⟩
  change _ <+: ("mock.pwm." ++ chipName ++ "." ++ toString number).toList
  simp only [String.toList_append, List.append_assoc]
  exact List.prefix_append _ _

theorem made_i2cDevice {bus : UInt32} {address : UInt16} {device : MockI2cDeviceState}
    (h : MockI2cDevice.new bus address = some device) : Made .i2c device.descriptor := by
  obtain ⟨descriptor, hdescriptor, rfl⟩ := Option.map_eq_some_iff.mp h
  refine made_described hdescriptor ?_ (by decide) fun builder => ⟨rfl, rfl, rfl⟩
  change _ <+: ("mock.i2c.bus" ++ toString bus ++ "." ++ "0x" ++ DeviceAddress.hex 2 address.toNat).toList
  simp only [String.toList_append, List.append_assoc]
  exact List.IsPrefix.trans (by decide) (List.prefix_append _ _)

theorem made_spiDevice {bus : UInt32} {chipSelect : UInt16} {device : MockSpiDeviceState}
    (h : MockSpiDevice.new bus chipSelect = some device) : Made .spi device.descriptor := by
  obtain ⟨descriptor, hdescriptor, rfl⟩ := Option.map_eq_some_iff.mp h
  refine made_described hdescriptor ?_ (by decide) fun builder => ⟨rfl, rfl, rfl⟩
  change _ <+: ("mock.spi.bus" ++ toString bus ++ ".cs" ++ toString chipSelect).toList
  simp only [String.toList_append, List.append_assoc]
  exact List.IsPrefix.trans (by decide) (List.prefix_append _ _)

theorem made_uartPort {name : String} {port : MockUartPortState} (h : MockUartPort.new name = some port) :
    Made .uart port.descriptor := by
  obtain ⟨descriptor, hdescriptor, rfl⟩ := Option.map_eq_some_iff.mp h
  refine made_described hdescriptor ?_ (by decide) fun builder => ⟨rfl, rfl, rfl⟩
  change _ <+: ("mock.uart." ++ name).toList
  rw [String.toList_append]
  exact List.prefix_append _ _

end Builders

theorem Made.interface_eq {interface : InterfaceKind} {descriptor : DeviceDescriptor} (h : Made interface descriptor) :
    descriptor.interface = interface :=
  ((DeviceDescriptor.validate_iff descriptor).mp h.valid).1.symm.trans
    (BuiltInDriverBundle.driverFor_kinds interface _ h.kind)

theorem Made.of_same {interface : InterfaceKind} {descriptor changed : DeviceDescriptor} (h : Made interface descriptor)
    (hid : changed.id = descriptor.id) (hinterface : changed.interface = descriptor.interface)
    (hkind : changed.kind = descriptor.kind) (haddress : changed.address = descriptor.address)
    (hhint : changed.matchHints.driverHint = descriptor.matchHints.driverHint) : Made interface changed where
  kind := by
    rw [hkind]
    exact h.kind
  valid := by
    rw [DeviceDescriptor.validate_iff, hkind, hinterface, haddress]
    exact (DeviceDescriptor.validate_iff descriptor).mp h.valid
  hint := hhint.trans h.hint
  id := by
    rw [hid]
    exact h.id

inductive MockGpioLine.Built : MockGpioLineState → Prop where
  | new {chipName : String} {offset : UInt32} {line : MockGpioLineState}
    (h : MockGpioLine.new chipName offset = some line) : Built line
  | withLevel {line : MockGpioLineState} (h : Built line) (level : GpioLevel) : Built (withLevel line level)
  | withConfiguration {line : MockGpioLineState} (h : Built line) (configuration : GpioLineConfiguration) :
    Built (withConfiguration line configuration)
  | withLineName {line : MockGpioLineState} (h : Built line) (lineName : String) : Built (withLineName line lineName)

inductive MockPwmChannel.Built : MockPwmChannelState → Prop where
  | new {chipName : String} {number : UInt32} {channel : MockPwmChannelState}
    (h : MockPwmChannel.new chipName number = some channel) : Built channel
  | withDisplayName {channel : MockPwmChannelState} (h : Built channel) (displayName : String) :
    Built (withDisplayName channel displayName)
  | withConfiguration {channel configured : MockPwmChannelState} (h : Built channel) (configuration : PwmConfiguration)
    (hconfigured : withConfiguration channel configuration = some configured) : Built configured

inductive MockI2cDevice.Built : MockI2cDeviceState → Prop where
  | new {bus : UInt32} {address : UInt16} {device : MockI2cDeviceState}
    (h : MockI2cDevice.new bus address = some device) : Built device
  | withDisplayName {device : MockI2cDeviceState} (h : Built device) (displayName : String) :
    Built (withDisplayName device displayName)
  | withMemory {device : MockI2cDeviceState} (h : Built device) (memory : List UInt8) : Built (withMemory device memory)
  | withBytes {device : MockI2cDeviceState} (h : Built device) (offset : UInt8) (bytes : List UInt8) :
    Built (withBytes device offset bytes)
  | withPointer {device : MockI2cDeviceState} (h : Built device) (pointer : ℕ) : Built (withPointer device pointer)

inductive MockSpiDevice.Built : MockSpiDeviceState → Prop where
  | new {bus : UInt32} {chipSelect : UInt16} {device : MockSpiDeviceState}
    (h : MockSpiDevice.new bus chipSelect = some device) : Built device
  | withDisplayName {device : MockSpiDeviceState} (h : Built device) (displayName : String) :
    Built (withDisplayName device displayName)
  | withConfiguration {device configured : MockSpiDeviceState} (h : Built device) (configuration : SpiConfiguration)
    (hconfigured : withConfiguration device configuration = some configured) : Built configured
  | withTransferResponse {device : MockSpiDeviceState} (h : Built device) (write read : List UInt8) :
    Built (withTransferResponse device write read)

inductive MockUartPort.Built : MockUartPortState → Prop where
  | new {name : String} {port : MockUartPortState} (h : MockUartPort.new name = some port) : Built port
  | withDisplayName {port : MockUartPortState} (h : Built port) (displayName : String) :
    Built (withDisplayName port displayName)
  | withConfiguration {port configured : MockUartPortState} (h : Built port) (configuration : UartConfiguration)
    (hconfigured : withConfiguration port configuration = some configured) : Built configured
  | withRxBytes {port : MockUartPortState} (h : Built port) (bytes : List UInt8) : Built (withRxBytes port bytes)

inductive MockUsbDevice.Built : MockUsbDevice → Prop where
  | new (bus : UInt16) (ports : List UInt8) : Built (new bus ports)
  | withDisplayName {device : MockUsbDevice} (h : Built device) (displayName : String) :
    Built (device.withDisplayName displayName)
  | withVendorProduct {device : MockUsbDevice} (h : Built device) (vendorId productId : UInt16) :
    Built (device.withVendorProduct vendorId productId)
  | withSerialNumber {device : MockUsbDevice} (h : Built device) (serialNumber : String) :
    Built (device.withSerialNumber serialNumber)
  | withInterfaceDetails {device : MockUsbDevice} (h : Built device) (interface : MockUsbInterfaceConfig) :
    Built (device.withInterfaceDetails interface)
  | withControlResponse {device : MockUsbDevice} (h : Built device) (transfer : UsbControlTransfer)
    (response : List UInt8) : Built (device.withControlResponse transfer response)
  | withBulkInResponse {device : MockUsbDevice} (h : Built device) (endpoint : UInt8) (bytes : List UInt8) :
    Built (device.withBulkInResponse endpoint bytes)
  | withInterruptInResponse {device : MockUsbDevice} (h : Built device) (endpoint : UInt8) (bytes : List UInt8) :
    Built (device.withInterruptInResponse endpoint bytes)

section Built

theorem MockGpioLine.Built.made {line : MockGpioLineState} (h : MockGpioLine.Built line) :
    Made .gpio line.descriptor := by
  induction h with
  | new h => exact made_gpioLine h
  | withLevel h level ih => exact ih
  | withConfiguration h configuration ih => exact ih
  | withLineName h lineName ih => exact ih.of_same rfl rfl rfl rfl rfl

theorem MockPwmChannel.Built.made {channel : MockPwmChannelState} (h : MockPwmChannel.Built channel) :
    Made .pwm channel.descriptor := by
  induction h with
  | new h => exact made_pwmChannel h
  | withDisplayName h displayName ih => exact ih.of_same rfl rfl rfl rfl rfl
  | withConfiguration h configuration hconfigured ih =>
    obtain ⟨_, -, heq⟩ := Option.bind_eq_some_iff.mp hconfigured
    cases heq
    exact ih

theorem MockI2cDevice.Built.made {device : MockI2cDeviceState} (h : MockI2cDevice.Built device) :
    Made .i2c device.descriptor := by
  induction h with
  | new h => exact made_i2cDevice h
  | withDisplayName h displayName ih => exact ih.of_same rfl rfl rfl rfl rfl
  | withMemory h memory ih => exact ih
  | withBytes h offset bytes ih => exact ih
  | withPointer h pointer ih => exact ih

theorem MockSpiDevice.Built.made {device : MockSpiDeviceState} (h : MockSpiDevice.Built device) :
    Made .spi device.descriptor := by
  induction h with
  | new h => exact made_spiDevice h
  | withDisplayName h displayName ih => exact ih.of_same rfl rfl rfl rfl rfl
  | withConfiguration h configuration hconfigured ih =>
    obtain ⟨_, -, heq⟩ := Option.bind_eq_some_iff.mp hconfigured
    cases heq
    exact ih
  | withTransferResponse h write read ih => exact ih

theorem MockUartPort.Built.made {port : MockUartPortState} (h : MockUartPort.Built port) :
    Made .uart port.descriptor := by
  induction h with
  | new h => exact made_uartPort h
  | withDisplayName h displayName ih => exact ih.of_same rfl rfl rfl rfl rfl
  | withConfiguration h configuration hconfigured ih =>
    obtain ⟨_, -, heq⟩ := Option.bind_eq_some_iff.mp hconfigured
    cases heq
    exact ih
  | withRxBytes h bytes ih => exact ih

theorem idPrefix_usb (entry : MockUsbEntry) : (idPrefix .usb).toList <+: entry.idText.toList := by
  cases entry with
  | device bus ports =>
    rw [MockUsbEntry.toList_idText_device]
    exact List.IsPrefix.trans (by decide) (List.prefix_append _ _)
  | interface bus ports number =>
    rw [MockUsbEntry.toList_idText_interface]
    exact List.IsPrefix.trans (by decide) (List.prefix_append _ _)

theorem MockUsbDevice.Built.made {device : MockUsbDevice} (h : MockUsbDevice.Built device) :
    Made .usb device.deviceDescriptor := by
  induction h with
  | new bus ports =>
    have hvalid := (DeviceDescriptor.of_build_eq_ok (MockUsbDevice.describe_build bus ports)).2
    exact ⟨List.mem_cons_self, hvalid, rfl, idPrefix_usb (.device bus ports)⟩
  | withDisplayName h displayName ih => exact ih.of_same rfl rfl rfl rfl rfl
  | withVendorProduct h vendorId productId ih =>
    refine ⟨ih.kind, ?_, ih.hint, ih.id⟩
    apply (DeviceDescriptor.validate_iff _).mpr
    refine ⟨((DeviceDescriptor.validate_iff _).mp ih.valid).1, ?_⟩
    rintro _ ⟨⟩
    exact ih.interface_eq.symm
  | withSerialNumber h serialNumber ih => exact ih.of_same rfl rfl rfl rfl rfl
  | withInterfaceDetails h interface ih => exact ih
  | withControlResponse h transfer response ih => exact ih
  | withBulkInResponse h endpoint bytes ih => exact ih
  | withInterruptInResponse h endpoint bytes ih => exact ih

end Built

end Lemnos.Mock
