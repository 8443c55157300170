import Lemnos.Core.ConfiguredSpec
import Lemnos.Library.Growth
import Lemnos.Linux.Backend

/-! What the probes report is well formed, whatever the file system answers. -/

namespace Lemnos.Linux

open Lemnos.Core Discovery Drivers Library.Growth Library.OrderedMap

def LinuxProbe.starts : LinuxProbe → List String
  | .gpio => ["linux.gpio.chip.", "linux.gpio.line."]
  | .led => ["linux.gpio.led."]
  | .pwm => ["linux.pwm.chip.", "linux.pwm.channel."]
  | .hwmon => ["linux.pwm.hwmon-fan."]
  | .i2c => ["linux.i2c."]
  | .spi => ["linux.spi."]
  | .uart => ["linux.uart."]
  | .usb => ["linux.usb."]

theorem LinuxProbe.eq_of_starts {probe other : LinuxProbe} {start otherStart : String} {text : List Char}
    (h : start ∈ probe.starts) (hother : otherStart ∈ other.starts) (htext : start.toList <+: text)
    (hothertext : otherStart.toList <+: text) : probe = other := by
  have hapart : ∀ probe other : LinuxProbe, ∀ start ∈ probe.starts, ∀ otherStart ∈ other.starts,
      start.toList <+: otherStart.toList → probe = other := by
    intro probe other
    cases probe <;> cases other <;> decide
  rcases List.prefix_or_prefix_of_prefix htext hothertext with hfirst | hlater
  · exact hapart probe other start h otherStart hother hfirst
  · exact (hapart other probe otherStart hother start h hlater).symm

def hintFor (kind : DeviceKind) : Option String :=
  if kind ∈ (driverFor kind.interface).kinds then some (driverFor kind.interface).id else none

/-- What a probe reports of a device, after the devices that it has reported before. -/
structure Reported (probe : LinuxProbe) (earlier : List DeviceDescriptor) (device : DeviceDescriptor) : Prop where
  valid : device.validate = .ok ()
  interface : device.interface = probe.interface
  named : ∃ start ∈ probe.starts, start.toList <+: device.id.asStr.toList
  hint : device.matchHints.driverHint = hintFor device.kind
  fits : ∃ address, device.address = some address ∧ LinuxBackend.Fits device.kind address
  linked : ∀ link ∈ device.links, link.relation = .parent ∧ link.target ∈ earlier.map DeviceDescriptor.id

theorem builderForKind_eq_ok {id : String} {kind : DeviceKind} {note : CoreError → String} {builder : DeviceDescriptor}
    (h : (DeviceDescriptor.builderForKind id kind).mapError note = .ok builder) :
    ∃ deviceId : DeviceId, deviceId.asStr = id ∧ builder = { id := deviceId, interface := kind.interface, kind } := by
  rw [DeviceDescriptor.builderForKind, DeviceDescriptor.builder] at h
  cases hid : Identifier.new "device id" id with
  | error error =>
    rw [hid] at h
    cases h
  | ok deviceId =>
    rw [hid] at h
    cases h
    exact ⟨deviceId, Identifier.asStr_of_new hid, rfl⟩

def parents (ids : List DeviceId) : List DeviceLink := ids.map fun id => .new id .parent

theorem reported_of_essence {probe : LinuxProbe} {device : DeviceDescriptor} {deviceId : DeviceId} {kind : DeviceKind}
    {address : DeviceAddress} {ids : List DeviceId} {start : String} {earlier : List DeviceDescriptor}
    (hvalid : device.validate = .ok ())
    (hessence : essence device = (deviceId, kind.interface, kind, some address, parents ids, hintFor kind))
    (hinterface : kind.interface = probe.interface) (hfits : LinuxBackend.Fits kind address)
    (hstart : start ∈ probe.starts)
    (hid : start.toList <+: deviceId.asStr.toList) (hids : ∀ id ∈ ids, id ∈ earlier.map DeviceDescriptor.id) :
    Reported probe earlier device := by
  simp only [essence, Prod.mk.injEq] at hessence
  obtain ⟨rfl, hsame, rfl, haddress, hlinks, hhint⟩ := hessence
  refine ⟨hvalid, hsame.trans hinterface, ⟨start, hstart, hid⟩, hhint, ⟨address, haddress, hfits⟩, ?_⟩
  rw [hlinks]
  intro link hlink
  obtain ⟨id, hin, rfl⟩ := List.mem_map.mp hlink
  exact ⟨rfl, hids id hin⟩

theorem reported_of_built {probe : LinuxProbe} {id starting building : String} {kind : DeviceKind}
    {describe : DeviceDescriptor → DeviceDescriptor} {device : DeviceDescriptor} {address : DeviceAddress}
    {ids : List DeviceId} {start : String} {earlier : List DeviceDescriptor}
    (h : buildDescriptor id kind starting building describe = .ok device)
    (hessence : ∀ deviceId, essence (describe { id := deviceId, interface := kind.interface, kind }) =
      (deviceId, kind.interface, kind, some address, parents ids, hintFor kind))
    (hinterface : kind.interface = probe.interface) (hfits : LinuxBackend.Fits kind address)
    (hstart : start ∈ probe.starts)
    (hid : start.toList <+: id.toList) (hids : ∀ id ∈ ids, id ∈ earlier.map DeviceDescriptor.id) :
    Reported probe earlier device := by
  obtain ⟨builder, hbuilder, hbuild⟩ := exists_of_bind_eq_ok h
  obtain ⟨deviceId, htext, rfl⟩ := builderForKind_eq_ok hbuilder
  obtain ⟨rfl, hvalid⟩ := DeviceDescriptor.of_build_eq_ok (of_mapError_eq_ok hbuild)
  exact reported_of_essence hvalid (hessence deviceId) hinterface hfits hstart (htext ▸ hid) hids

section Builders

variable {host : DiscoveryHost} {classes : ClassHost} {paths : LinuxPaths} {earlier : List DeviceDescriptor}
  {device : DeviceDescriptor}

theorem starts_append {start front : String} (h : start.toList <+: front.toList) (rest : String) :
    start.toList <+: (front ++ rest).toList := by
  rw [String.toList_append]
  exact h.trans (List.prefix_append _ _)

theorem reported_gpioChip {data : GpioDiscoveryProbe.GpioChipData}
    (h : GpioDiscoveryProbe.buildChipDescriptor data = .ok device) : Reported .gpio earlier device := by
  refine @reported_of_built _ _ _ _ _ _ _ _ [] "linux.gpio.chip." _ h (fun deviceId => ?_) rfl
    (.other (.gpioChip data.chipName data.base) (by decide)) (by decide) (starts_append (by decide) _) (by simp)
  simp [GpioDiscoveryProbe.describeChip, (neutral_withLabel _ _).withText]
  rfl

theorem reported_gpioLine {data : GpioDiscoveryProbe.GpioChipData} {chipId : DeviceId} {offset : UInt32}
    (h : GpioDiscoveryProbe.buildLineDescriptor data chipId offset = .ok device)
    (hchip : chipId ∈ earlier.map DeviceDescriptor.id) : Reported .gpio earlier device := by
  refine @reported_of_built _ _ _ _ _ _ _ _ [chipId] "linux.gpio.line." _ h (fun deviceId => ?_) rfl
    (.gpioLine data.chipName offset) (by decide)
    (starts_append (starts_append (starts_append (by decide) _) _) _) (by simpa using hchip)
  simp [GpioDiscoveryProbe.describeLine]
  rfl

theorem reported_pwmChip {data : PwmDiscoveryProbe.PwmChipData}
    (h : PwmDiscoveryProbe.buildChipDescriptor data = .ok device) : Reported .pwm earlier device := by
  refine @reported_of_built _ _ _ _ _ _ _ _ [] "linux.pwm.chip." _ h (fun deviceId => ?_) rfl
    (.other (.pwmChip data.chipName) (by decide)) (by decide) (starts_append (by decide) _) (by simp)
  simp [PwmDiscoveryProbe.describeChip]
  rfl

theorem reported_pwmChannel {data : PwmDiscoveryProbe.PwmChipData} {chipId : DeviceId} {channel : UInt32}
    (h : PwmDiscoveryProbe.buildChannelDescriptor host data chipId channel = .ok device)
    (hchip : chipId ∈ earlier.map DeviceDescriptor.id) : Reported .pwm earlier device := by
  refine @reported_of_built _ _ _ _ _ _ _ _ [chipId] "linux.pwm.channel." _ h (fun deviceId => ?_) rfl
    (.pwmChannel data.chipName channel) (by decide)
    (starts_append (starts_append (starts_append (by decide) _) _) _) (by simpa using hchip)
  simp [PwmDiscoveryProbe.describeChannel]
  rfl

theorem reported_uartPort {portName ttyPath : String}
    (h : UartDiscoveryProbe.buildPortDescriptor host paths portName ttyPath = .ok (some device)) :
    Reported .uart earlier device := by
  simp only [UartDiscoveryProbe.buildPortDescriptor] at h
  split at h
  · cases h
  · obtain ⟨data, -, h⟩ := exists_of_bind_eq_ok h
    obtain ⟨descriptor, h, hsome⟩ := exists_of_bind_eq_ok h
    cases hsome
    refine @reported_of_built _ _ _ _ _ _ _ _ [] "linux.uart." _ h (fun deviceId => ?_) rfl
      (.uartPort data.portName) (by decide) (starts_append (by decide) _) (by simp)
    simp [UartDiscoveryProbe.describePort]
    rfl

theorem essence_withTriggers (triggers : List String) (builder : DeviceDescriptor) :
    essence (LedDiscoveryProbe.withTriggers triggers builder) = essence builder := by
  rw [LedDiscoveryProbe.withTriggers]
  split <;> rfl

theorem reported_led {path ledName : String}
    (h : LedDiscoveryProbe.buildLedDescriptor classes path ledName = .ok device) :
    Reported .led earlier device := by
  obtain ⟨data, -, h⟩ := exists_of_bind_eq_ok h
  refine @reported_of_built _ _ _ _ _ _ _ _ [] "linux.gpio.led." _ h (fun deviceId => ?_) rfl
    (.other (.custom .gpio "linux-led-class" data.ledName) (by decide)) (by decide)
    (starts_append (by decide) _) (by simp)
  simp [LedDiscoveryProbe.describeLed, essence_withTriggers]
  rfl

theorem reported_hwmon {path hwmonName : String}
    (h : HwmonDiscoveryProbe.buildHwmonDescriptor classes path hwmonName = .ok (some device)) :
    Reported .hwmon earlier device := by
  simp only [HwmonDiscoveryProbe.buildHwmonDescriptor] at h
  split at h
  · cases h
  · obtain ⟨data, -, h⟩ := exists_of_bind_eq_ok h
    obtain ⟨descriptor, h, hsome⟩ := exists_of_bind_eq_ok h
    cases hsome
    refine @reported_of_built _ _ _ _ _ _ _ _ [] "linux.pwm.hwmon-fan." _ h (fun deviceId => ?_) rfl
      (.other (.custom .pwm "linux-hwmon-fan" data.hwmonName) (by decide)) (by decide)
      (starts_append (by decide) _) (by simp)
    simp [HwmonDiscoveryProbe.describeHwmon]
    rfl

theorem reported_spiBus {bus : UInt32} (h : SpiDiscoveryProbe.buildBusDescriptor bus = .ok device) :
    Reported .spi earlier device := by
  refine @reported_of_built _ _ _ _ _ _ _ _ [] "linux.spi." _ h (fun deviceId => ?_) rfl
    (.other (.spiBus bus) (by decide)) (by decide) (starts_append (by decide) _) (by simp)
  rfl

theorem reported_spiDevice {bus : UInt32} {chipSelect : UInt16} {kernelName devicePath : String} {busId : DeviceId}
    (h : SpiDiscoveryProbe.buildDeviceDescriptor host paths bus chipSelect kernelName devicePath busId = .ok device)
    (hbus : busId ∈ earlier.map DeviceDescriptor.id) : Reported .spi earlier device := by
  obtain ⟨data, -, h⟩ := exists_of_bind_eq_ok h
  refine @reported_of_built _ _ _ _ _ _ _ _ [busId] "linux.spi." _ h (fun deviceId => ?_) rfl
    (.spiDevice data.bus data.chipSelect) (by decide)
    (starts_append (starts_append (starts_append (by decide) _) _) _) (by simpa using hbus)
  simp [SpiDiscoveryProbe.describeDevice]
  rfl

theorem reported_i2cBus {bus : UInt32} {classPath : Option String}
    (h : I2cDiscoveryProbe.buildBusDescriptor host paths bus classPath = .ok device) :
    Reported .i2c earlier device := by
  obtain ⟨data, -, h⟩ := exists_of_bind_eq_ok h
  refine @reported_of_built _ _ _ _ _ _ _ _ [] "linux.i2c." _ h (fun deviceId => ?_) rfl
    (.other (.i2cBus data.bus) (by decide)) (by decide) (starts_append (by decide) _) (by simp)
  simp [I2cDiscoveryProbe.describeBus, (neutral_withLabel _ _).withText]
  rfl

theorem reported_i2cDevice {bus : UInt32} {address : UInt16} {kernelName devicePath : String} {busId : DeviceId}
    (h : I2cDiscoveryProbe.buildDeviceDescriptor host paths bus address kernelName devicePath busId = .ok device)
    (hbus : busId ∈ earlier.map DeviceDescriptor.id) : Reported .i2c earlier device := by
  obtain ⟨data, -, h⟩ := exists_of_bind_eq_ok h
  refine @reported_of_built _ _ _ _ _ _ _ _ [busId] "linux.i2c." _ h (fun deviceId => ?_) rfl
    (.i2cDevice data.bus data.address) (by decide)
    (starts_append (starts_append (starts_append (by decide) _) _) _) (by simpa using hbus)
  simp [I2cDiscoveryProbe.describeDevice, (neutral_withLabel _ _).withText]
  rfl

theorem reported_usbBusNumber {n : UInt16} (h : buildBusDescriptorFromNumber n = .ok device) :
    Reported .usb earlier device := by
  obtain ⟨builder, hstart, hfinish⟩ := exists_of_bind_eq_ok h
  obtain ⟨started, hstarted, hbuilder⟩ := exists_of_bind_eq_ok hstart
  obtain ⟨deviceId, htext, rfl⟩ := builderForKind_eq_ok hstarted
  cases hbuilder
  obtain ⟨rfl, hvalid⟩ := DeviceDescriptor.of_build_eq_ok (of_mapError_eq_ok hfinish)
  exact @reported_of_essence _ _ deviceId .usbBus _ [] "linux.usb." _ hvalid rfl rfl
    (.other (.usbBus n) (by decide)) (by decide)
    (htext ▸ starts_append (by decide) _) (by simp)

theorem reported_usbBus {n : UInt16} {path : String} (h : buildBusDescriptor host n path = .ok device) :
    Reported .usb earlier device := by
  obtain ⟨builder, hstart, h⟩ := exists_of_bind_eq_ok h
  obtain ⟨started, hstarted, hbuilder⟩ := exists_of_bind_eq_ok hstart
  obtain ⟨deviceId, htext, rfl⟩ := builderForKind_eq_ok hstarted
  cases hbuilder
  obtain ⟨product, -, hfinish⟩ := exists_of_bind_eq_ok h
  obtain ⟨rfl, hvalid⟩ := DeviceDescriptor.of_build_eq_ok (of_mapError_eq_ok hfinish)
  refine @reported_of_essence _ _ deviceId .usbBus _ [] "linux.usb." _ hvalid ?_ rfl
    (.other (.usbBus n) (by decide)) (by decide)
    (htext ▸ starts_append (by decide) _) (by simp)
  simp
  rfl

theorem essence_withDeviceAttributes (n : UInt16) (attributes : UsbDeviceAttributes) (builder : DeviceDescriptor) :
    essence (withDeviceAttributes host paths n attributes builder) = essence builder := by
  have hnumber (builder : DeviceDescriptor) :
      essence (withDeviceNumber host paths n attributes.deviceNumber builder) = essence builder := by
    cases attributes.deviceNumber with
    | none => rfl
    | some deviceNumber =>
      simp only [withDeviceNumber]
      split
      · split <;> rfl
      · rfl
  have hvendor (id : UInt16) : Neutral (withVendorId id) := fun _ => rfl
  have hproduct (id : UInt16) : Neutral (withProductId id) := fun _ => rfl
  have hserial (serial : String) : Neutral (withSerialNumber serial) := fun _ => rfl
  simp [withDeviceAttributes, hnumber, hvendor, hproduct, hserial]

theorem reported_usbDevice {n : UInt16} {ports : List UInt8} {path : String} {busId : DeviceId}
    {vendorProduct : UsbVendorProduct}
    (h : buildDeviceDescriptor host paths busId n ports path = .ok (device, vendorProduct))
    (hbus : busId ∈ earlier.map DeviceDescriptor.id) : Reported .usb earlier device := by
  cases hname : fileName path with
  | none =>
    rw [buildDeviceDescriptor, hname] at h
    cases h
  | some kernelName =>
    rw [buildDeviceDescriptor, hname] at h
    obtain ⟨attributes, -, h⟩ := exists_of_bind_eq_ok h
    obtain ⟨builder, hbuilder, h⟩ := exists_of_bind_eq_ok h
    obtain ⟨deviceId, htext, rfl⟩ := builderForKind_eq_ok hbuilder
    obtain ⟨built, hbuild, h⟩ := exists_of_bind_eq_ok h
    cases h
    obtain ⟨rfl, hvalid⟩ := DeviceDescriptor.of_build_eq_ok (of_mapError_eq_ok hbuild)
    refine @reported_of_essence _ _ deviceId _ _ [busId] "linux.usb." _ hvalid ?_ rfl
      (.usbDevice n ports attributes.vendorId attributes.productId) (by decide)
      (htext ▸ starts_append (starts_append (starts_append (by decide) _) _) _) (by simpa using hbus)
    rw [describeDevice, essence_withDeviceAttributes]
    rfl

theorem reported_usbInterface {input : UsbInterfaceDescriptorInput}
    (h : buildInterfaceDescriptor host input = .ok device)
    (hparent : input.parentDeviceId ∈ earlier.map DeviceDescriptor.id) : Reported .usb earlier device := by
  cases hname : fileName input.path with
  | none =>
    simp only [buildInterfaceDescriptor, hname] at h
    cases h
  | some kernelName =>
    simp only [buildInterfaceDescriptor, hname] at h
    obtain ⟨attributes, -, h⟩ := exists_of_bind_eq_ok h
    obtain ⟨builder, hbuilder, hbuild⟩ := exists_of_bind_eq_ok h
    obtain ⟨deviceId, htext, rfl⟩ := builderForKind_eq_ok hbuilder
    obtain ⟨rfl, hvalid⟩ := DeviceDescriptor.of_build_eq_ok (of_mapError_eq_ok hbuild)
    refine @reported_of_essence _ _ deviceId _ _ [input.parentDeviceId] "linux.usb." _ hvalid ?_ rfl
      (.usbInterface input.bus input.ports (attributes.interfaceNumber.getD input.parsedInterfaceNumber) input.vendorId
        input.productId) (by decide)
      (htext ▸ starts_append (starts_append (starts_append (starts_append (starts_append (by decide) _) _) _) _) _)
      (by simpa using hparent)
    simp [describeInterface, withInterfaceAttributes]
    rfl

end Builders

abbrev Sound (probe : LinuxProbe) (discovery : ProbeDiscovery) : Prop := Grown (Reported probe) discovery.devices

section Recording

variable {probe : LinuxProbe} {discovery : ProbeDiscovery} {built : Except String DeviceDescriptor}

theorem Sound.record (h : Sound probe discovery)
    (hbuilt : ∀ device, built = .ok device → Reported probe discovery.devices device) :
    Sound probe (record discovery built) := by
  cases built with
  | error note => exact h
  | ok device => exact h.snoc (hbuilt device rfl)

theorem Sound.recordIfAny {built : Except String (Option DeviceDescriptor)} (h : Sound probe discovery)
    (hbuilt : ∀ device, built = .ok (some device) → Reported probe discovery.devices device) :
    Sound probe (recordIfAny discovery built) := by
  cases built with
  | error note => exact h
  | ok device =>
    cases device with
    | none => exact h
    | some device => exact h.snoc (hbuilt device rfl)

theorem mem_ids_record {id : DeviceId} (h : id ∈ discovery.devices.map DeviceDescriptor.id) :
    id ∈ (record discovery built).devices.map DeviceDescriptor.id := by
  cases built with
  | error note => exact h
  | ok device =>
    rw [record, List.map_append]
    exact List.mem_append_left _ h

theorem Sound.recordChip {chip : Except String DeviceDescriptor}
    {line : DeviceId → UInt32 → Except String DeviceDescriptor}
    (h : Sound probe discovery) (hchip : ∀ device, chip = .ok device → Reported probe discovery.devices device)
    (hline : ∀ chipId offset device earlier, line chipId offset = .ok device →
      chipId ∈ earlier.map DeviceDescriptor.id →
      Reported probe earlier device) (count : UInt32) : Sound probe (recordChip chip line count discovery) := by
  have hrecorded := h.record hchip
  cases chip with
  | error note => exact hrecorded
  | ok device =>
    have hthere : device.id ∈ (Linux.record discovery (.ok device)).devices.map DeviceDescriptor.id :=
      List.mem_map_of_mem (List.mem_append_right _ (List.mem_singleton_self _))
    rw [Linux.recordChip]
    generalize Linux.record discovery (.ok device) = recorded at hrecorded hthere
    generalize List.range count.toNat = offsets
    induction offsets generalizing recorded with
    | nil => exact hrecorded
    | cons offset offsets ih =>
      apply ih
      · exact hrecorded.record fun built hbuilt => hline _ _ _ _ hbuilt hthere
      · exact mem_ids_record hthere

theorem discoverEntries_keeps {σ : Type} {name root action : String} {listed : Except IoError (List String)}
    {visit : σ → String → String → DiscoveryResult σ} {Holds : σ → Prop} {start found : σ}
    (h : discoverEntries name root action listed visit start = .ok found) (hstart : Holds start)
    (hvisit : ∀ state path entry next, Holds state → visit state path entry = .ok next → Holds next) : Holds found := by
  obtain ⟨entries, -, hfold⟩ := exists_of_bind_eq_ok h
  clear h
  induction entries generalizing start with
  | nil =>
    cases hfold
    exact hstart
  | cons path entries ih =>
    obtain ⟨state, hstate, hrest⟩ := exists_of_bind_eq_ok hfold
    refine ih ?_ hrest
    cases hname : fileName path with
    | none =>
      simp only [hname] at hstate
      cases hstate
      exact hstart
    | some entry =>
      simp only [hname] at hstate
      exact hvisit start path entry state hstart hstate

structure BusDiscovery.SoundFor (probe : LinuxProbe) (state : BusDiscovery) : Prop where
  sound : Sound probe state.discovery
  buses : ∀ (bus : UInt32) (busId : DeviceId), state.busIds[bus]? = some busId →
    busId ∈ state.discovery.devices.map DeviceDescriptor.id

namespace BusDiscovery.SoundFor

variable {state : BusDiscovery} {bus : UInt32}

theorem init : SoundFor probe {} := ⟨.nil, fun bus busId h => by simp at h⟩

theorem record (h : SoundFor probe state) (hbuilt : ∀ device, built = .ok device →
    Reported probe state.discovery.devices device) : SoundFor probe (state.record built) :=
  ⟨h.sound.record hbuilt, fun bus busId hbus => mem_ids_record (h.buses bus busId hbus)⟩

theorem emitBus {descriptor : DeviceDescriptor} (h : SoundFor probe state)
    (hreported : Reported probe state.discovery.devices descriptor) :
    SoundFor probe (state.emitBus bus descriptor) := by
  refine ⟨h.sound.snoc hreported, fun other busId hother => ?_⟩
  have hother' : (state.busIds.insert bus descriptor.id)[other]? = some busId := hother
  rw [BTreeMap.getElem?_insert_eq] at hother'
  have hids : (state.emitBus bus descriptor).discovery.devices.map DeviceDescriptor.id =
      state.discovery.devices.map DeviceDescriptor.id ++ [descriptor.id] := List.map_append
  rw [hids]
  split at hother'
  · cases hother'
    exact List.mem_append_right _ (List.mem_singleton_self _)
  · exact List.mem_append_left _ (h.buses other busId hother')

theorem discoverBus (h : SoundFor probe state)
    (hbus : ∀ device, built = .ok device → Reported probe state.discovery.devices device) :
    SoundFor probe (state.discoverBus bus built) := by
  cases built with
  | error note => exact h.record hbus
  | ok descriptor => exact h.emitBus (hbus descriptor rfl)

theorem discoverDevice {buildDevice : DeviceId → Except String DeviceDescriptor} (h : SoundFor probe state)
    (hbus : ∀ device, built = .ok device → Reported probe state.discovery.devices device)
    (hdevice : ∀ busId device earlier, buildDevice busId = .ok device → busId ∈ earlier.map DeviceDescriptor.id →
      Reported probe earlier device) : SoundFor probe (state.discoverDevice bus built buildDevice) := by
  cases hknown : state.busIds[bus]? with
  | some busId =>
    simp only [BusDiscovery.discoverDevice, hknown]
    exact h.record fun device hbuilt => hdevice busId device _ hbuilt (h.buses bus busId hknown)
  | none =>
    simp only [BusDiscovery.discoverDevice, hknown]
    cases built with
    | error note => exact h.record hbus
    | ok descriptor =>
      have hemitted := @emitBus _ _ bus _ h (hbus descriptor rfl)
      refine hemitted.record fun device hbuilt => hdevice descriptor.id device _ hbuilt ?_
      exact List.mem_map_of_mem (List.mem_append_right _ (List.mem_singleton_self _))

end BusDiscovery.SoundFor

structure UsbDiscovery.SoundFor (state : UsbDiscovery) : Prop where
  sound : Sound .usb state.discovery
  buses : ∀ (bus : UInt16) (busId : DeviceId), state.busIds[bus]? = some busId →
    busId ∈ state.discovery.devices.map DeviceDescriptor.id
  devices : ∀ (key : String) (deviceId : DeviceId), state.deviceIds[key]? = some deviceId →
    deviceId ∈ state.discovery.devices.map DeviceDescriptor.id

namespace UsbDiscovery.SoundFor

variable {host : DiscoveryHost} {paths : LinuxPaths} {state : UsbDiscovery} {descriptor : DeviceDescriptor}

theorem mem_ids_emit {id : DeviceId} : id ∈ (state.emit descriptor).discovery.devices.map DeviceDescriptor.id ↔
    id ∈ state.discovery.devices.map DeviceDescriptor.id ∨ id = descriptor.id := by
  rw [emit, List.map_append, List.mem_append, List.map_singleton, List.mem_singleton]

theorem note (h : SoundFor state) (text : String) : SoundFor (state.note text) := ⟨h.sound, h.buses, h.devices⟩

theorem emit (h : SoundFor state) (hreported : Reported .usb state.discovery.devices descriptor) :
    SoundFor (state.emit descriptor) where
  sound := h.sound.snoc hreported
  buses bus busId hbus := mem_ids_emit.mpr (.inl (h.buses bus busId hbus))
  devices key deviceId hdevice := mem_ids_emit.mpr (.inl (h.devices key deviceId hdevice))

theorem emitBus {n : UInt16} (h : SoundFor state) (hreported : Reported .usb state.discovery.devices descriptor) :
    SoundFor (state.emitBus n descriptor) where
  sound := h.sound.snoc hreported
  buses bus busId hbus := by
    have hbus' : (state.busIds.insert n descriptor.id)[bus]? = some busId := hbus
    rw [BTreeMap.getElem?_insert_eq] at hbus'
    apply mem_ids_emit.mpr
    split at hbus'
    · cases hbus'
      exact .inr rfl
    · exact .inl (h.buses bus busId hbus')
  devices key deviceId hdevice := mem_ids_emit.mpr (.inl (h.devices key deviceId hdevice))

theorem emitDevice {key : String} (h : SoundFor state) (hreported : Reported .usb state.discovery.devices descriptor)
    (vendorProduct : UsbVendorProduct) : SoundFor (state.emitDevice key descriptor vendorProduct) where
  sound := h.sound.snoc hreported
  buses bus busId hbus := mem_ids_emit.mpr (.inl (h.buses bus busId hbus))
  devices other deviceId hdevice := by
    have hdevice' : (state.deviceIds.insert key descriptor.id)[other]? = some deviceId := hdevice
    rw [BTreeMap.getElem?_insert_eq] at hdevice'
    apply mem_ids_emit.mpr
    split at hdevice'
    · cases hdevice'
      exact .inr rfl
    · exact .inl (h.devices other deviceId hdevice')

theorem discoverBus (h : SoundFor state) (n : UInt16) (entry : String) : SoundFor (state.discoverBus host n entry) := by
  rw [UsbDiscovery.discoverBus]
  split
  · exact h
  · cases hbuilt : buildBusDescriptor host n entry with
    | error text => exact h.note text
    | ok descriptor => exact h.emitBus (reported_usbBus hbuilt)

theorem ensureBus {n : UInt16} {busId : DeviceId} {next : UsbDiscovery} (h : SoundFor state)
    (hensured : state.ensureBus n = .ok (busId, next)) :
    SoundFor next ∧ busId ∈ next.discovery.devices.map DeviceDescriptor.id := by
  rw [UsbDiscovery.ensureBus] at hensured
  cases hknown : state.busIds[n]? with
  | some known =>
    rw [hknown] at hensured
    cases hensured
    exact ⟨h, h.buses n busId hknown⟩
  | none =>
    rw [hknown] at hensured
    obtain ⟨descriptor, hbuilt, hemitted⟩ := exists_of_bind_eq_ok hensured
    cases hemitted
    exact ⟨h.emitBus (reported_usbBusNumber hbuilt), mem_ids_emit.mpr (.inr rfl)⟩

theorem discoverDevice (h : SoundFor state) (n : UInt16) (ports : List UInt8) (entry : String) :
    SoundFor (state.discoverDevice host paths n ports entry) := by
  rw [UsbDiscovery.discoverDevice]
  cases hensured : state.ensureBus n with
  | error text => exact h.note text
  | ok ensured =>
    obtain ⟨busId, next⟩ := ensured
    obtain ⟨hnext, hbus⟩ := h.ensureBus hensured
    simp only
    cases hbuilt : buildDeviceDescriptor host paths busId n ports entry with
    | error text => exact hnext.note text
    | ok built =>
      obtain ⟨descriptor, vendorProduct⟩ := built
      exact hnext.emitDevice (reported_usbDevice hbuilt hbus) vendorProduct

theorem discoverInterface (h : SoundFor state) (name : String) (n : UInt16) (ports : List UInt8)
    (configuration number : UInt8) (entry : String) :
    SoundFor (state.discoverInterface host name n ports configuration number entry) := by
  simp only [UsbDiscovery.discoverInterface]
  cases hknown : state.deviceIds[usbDeviceKey n ports]? with
  | none => exact h.note _
  | some parentDeviceId =>
    simp only
    split
    · rename_i descriptor hbuilt
      exact h.emit (reported_usbInterface hbuilt (h.devices _ _ hknown))
    · exact h.note _

theorem discoverEntry (h : SoundFor state) (entry : String) : SoundFor (state.discoverEntry host paths entry) := by
  rw [UsbDiscovery.discoverEntry]
  repeat' split
  · exact h
  · exact h.discoverBus _ _
  · exact h.discoverDevice _ _ _
  · exact h.discoverInterface _ _ _ _ _ _
  · exact h

end UsbDiscovery.SoundFor

end Recording

section Probes

variable {host : DiscoveryHost} {classes : ClassHost} {paths : LinuxPaths} {discovery : ProbeDiscovery}

theorem sound_gpio (h : GpioDiscoveryProbe.discover host paths = .ok discovery) : Sound .gpio discovery := by
  simp only [GpioDiscoveryProbe.discover] at h
  split at h
  · cases h
    exact .nil
  · refine discoverEntries_keeps h .nil fun state path entry next hstate hvisit => ?_
    rw [GpioDiscoveryProbe.visit] at hvisit
    split at hvisit
    · cases hvisit
      exact hstate
    · obtain ⟨data, -, hvisit⟩ := exists_of_bind_eq_ok hvisit
      cases hvisit
      exact hstate.recordChip (fun _ => reported_gpioChip) (fun _ _ _ _ => reported_gpioLine) _

theorem sound_pwm (h : PwmDiscoveryProbe.discover host paths = .ok discovery) : Sound .pwm discovery := by
  simp only [PwmDiscoveryProbe.discover] at h
  split at h
  · cases h
    exact .nil
  · refine discoverEntries_keeps h .nil fun state path entry next hstate hvisit => ?_
    rw [PwmDiscoveryProbe.visit] at hvisit
    split at hvisit
    · cases hvisit
      exact hstate
    · obtain ⟨data, -, hvisit⟩ := exists_of_bind_eq_ok hvisit
      cases hvisit
      exact hstate.recordChip (fun _ => reported_pwmChip) (fun _ _ _ _ => reported_pwmChannel) _

theorem sound_uart (h : UartDiscoveryProbe.discover host paths = .ok discovery) : Sound .uart discovery := by
  simp only [UartDiscoveryProbe.discover] at h
  split at h
  · cases h
    exact .nil
  · refine discoverEntries_keeps h .nil fun state path entry next hstate hvisit => ?_
    cases hvisit
    exact hstate.recordIfAny fun _ => reported_uartPort

theorem sound_led (h : LedDiscoveryProbe.discover classes paths = .ok discovery) : Sound .led discovery := by
  simp only [LedDiscoveryProbe.discover] at h
  split at h
  · cases h
    exact .nil
  · refine discoverEntries_keeps h .nil fun state path entry next hstate hvisit => ?_
    cases hvisit
    split
    · exact hstate
    · exact hstate.record fun _ => reported_led

theorem sound_hwmon (h : HwmonDiscoveryProbe.discover classes paths = .ok discovery) : Sound .hwmon discovery := by
  simp only [HwmonDiscoveryProbe.discover] at h
  split at h
  · cases h
    exact .nil
  · refine discoverEntries_keeps h .nil fun state path entry next hstate hvisit => ?_
    cases hvisit
    split
    · exact hstate
    · exact hstate.recordIfAny fun _ => reported_hwmon

theorem sound_spi (h : SpiDiscoveryProbe.discover host paths = .ok discovery) : Sound .spi discovery := by
  simp only [SpiDiscoveryProbe.discover] at h
  split at h
  · cases h
    exact .nil
  · obtain ⟨state, hstate, hdone⟩ := exists_of_bind_eq_ok h
    cases hdone
    refine (discoverEntries_keeps hstate .init fun state path entry next hbefore hvisit => ?_ : state.SoundFor .spi).sound
    cases hvisit
    cases SpiDiscoveryProbe.parseSpiDeviceName entry with
    | none => exact hbefore
    | some location => exact hbefore.discoverDevice (fun _ => reported_spiBus) fun _ _ _ => reported_spiDevice

theorem sound_i2c (h : I2cDiscoveryProbe.discover host paths = .ok discovery) : Sound .i2c discovery := by
  simp only [I2cDiscoveryProbe.discover] at h
  split at h
  · cases h
    exact .nil
  · obtain ⟨buses, hbuses, h⟩ := exists_of_bind_eq_ok h
    obtain ⟨state, hstate, hdone⟩ := exists_of_bind_eq_ok h
    cases hdone
    have hfirst : buses.SoundFor .i2c := by
      refine discoverEntries_keeps hbuses .init fun state path entry next hbefore hvisit => ?_
      cases hvisit
      cases parsePrefixedU32 entry "i2c-" with
      | none => exact hbefore
      | some bus => exact hbefore.discoverBus fun _ => reported_i2cBus
    refine (discoverEntries_keeps hstate hfirst fun state path entry next hbefore hvisit => ?_ : state.SoundFor .i2c).sound
    cases hvisit
    cases I2cDiscoveryProbe.parseI2cDeviceName entry with
    | none => exact hbefore
    | some location => exact hbefore.discoverDevice (fun _ => reported_i2cBus) fun _ _ _ => reported_i2cDevice

theorem sound_usb (h : discoverUsb host paths = .ok discovery) : Sound .usb discovery := by
  simp only [discoverUsb] at h
  split at h
  · cases h
    exact .nil
  · split at h
    · cases h
    · rename_i entries _
      cases h
      have hall (entries : List String) (state : UsbDiscovery) (hstate : state.SoundFor) :
          (entries.foldl (UsbDiscovery.discoverEntry host paths) state).SoundFor := by
        induction entries generalizing state with
        | nil => exact hstate
        | cons entry entries ih => exact ih _ (hstate.discoverEntry entry)
      exact (hall entries {} ⟨.nil, fun _ _ h => by simp at h, fun _ _ h => by simp at h⟩).sound

theorem LinuxProbe.sound {probe : LinuxProbe} (h : probe.discover classes paths = .ok discovery) :
    Sound probe discovery := by
  cases probe with
  | gpio => exact sound_gpio h
  | led => exact sound_led h
  | pwm => exact sound_pwm h
  | hwmon => exact sound_hwmon h
  | i2c => exact sound_i2c h
  | spi => exact sound_spi h
  | uart => exact sound_uart h
  | usb => exact sound_usb h

end Probes

end Lemnos.Linux
