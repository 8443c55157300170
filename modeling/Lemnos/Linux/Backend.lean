import Lemnos.Linux.BusDiscovery
import Lemnos.Linux.ChipDiscovery
import Lemnos.Linux.ClassDiscovery
import Lemnos.Linux.GpioObserving
import Lemnos.Linux.Pwm
import Lemnos.Linux.ReportedSettings
import Lemnos.Linux.UsbDiscovery

namespace Lemnos.Linux

open Lemnos.Core Discovery Drivers

structure LinuxFeatures extends GpioFeatures where
  pwm : Bool
  i2c : Bool
  spi : Bool
  uart : Bool
  usb : Bool
  deriving DecidableEq

namespace LinuxFeatures

variable (features : LinuxFeatures)

def serves : InterfaceKind → Bool
  | .gpio => features.gpioCdev || features.gpioSysfs
  | .pwm => features.pwm
  | .i2c => features.i2c
  | .spi => features.spi
  | .uart => features.uart
  | .usb => features.usb

end LinuxFeatures

namespace LinuxSysfsPwmSession

def supportsDescriptor (device : DeviceDescriptor) : Bool :=
  device.interface = .pwm && device.kind = .pwmChannel && (pwmChannelAddress device).isSome

end LinuxSysfsPwmSession

namespace LinuxI2cSession

def i2cBusAddress (device : DeviceDescriptor) : Option (UInt32 × UInt16) :=
  match device.address with
  | some (.i2cDevice bus address) => some (bus, address)
  | _ => none

def supportsDescriptor (device : DeviceDescriptor) : Bool :=
  device.interface = .i2c && device.kind = .i2cDevice && (i2cBusAddress device).isSome

end LinuxI2cSession

namespace LinuxUsbSession

def usbBusPorts (device : DeviceDescriptor) : Option (UInt16 × List UInt8) :=
  match device.address with
  | some (.usbDevice bus ports _ _) => some (bus, ports)
  | some (.usbInterface bus ports _ _ _) => some (bus, ports)
  | _ => none

def supportsDescriptor (device : DeviceDescriptor) : Bool :=
  device.interface = .usb && (device.kind = .usbDevice || device.kind = .usbInterface) && (usbBusPorts device).isSome

end LinuxUsbSession

inductive LinuxProbe where
  | gpio
  | led
  | pwm
  | hwmon
  | i2c
  | spi
  | uart
  | usb
  deriving DecidableEq

namespace LinuxProbe

def all : List LinuxProbe := [gpio, led, pwm, hwmon, i2c, spi, uart, usb]

def name : LinuxProbe → String
  | gpio => "linux-gpio"
  | led => "linux-leds"
  | pwm => "linux-pwm"
  | hwmon => "linux-hwmon"
  | i2c => "linux-i2c"
  | spi => "linux-spi"
  | uart => "linux-uart"
  | usb => "linux-usb"

def interface : LinuxProbe → InterfaceKind
  | gpio | led => .gpio
  | pwm | hwmon => .pwm
  | i2c => .i2c
  | spi => .spi
  | uart => .uart
  | usb => .usb

def discover (host : ClassHost) (paths : LinuxPaths) : LinuxProbe → DiscoveryResult ProbeDiscovery
  | gpio => GpioDiscoveryProbe.discover host.toDiscoveryHost paths
  | led => LedDiscoveryProbe.discover host paths
  | pwm => PwmDiscoveryProbe.discover host.toDiscoveryHost paths
  | hwmon => HwmonDiscoveryProbe.discover host paths
  | i2c => I2cDiscoveryProbe.discover host.toDiscoveryHost paths
  | spi => SpiDiscoveryProbe.discover host.toDiscoveryHost paths
  | uart => UartDiscoveryProbe.discover host.toDiscoveryHost paths
  | usb => discoverUsb host.toDiscoveryHost paths

def toProbe (host : ClassHost) (paths : LinuxPaths) (probe : LinuxProbe) : DiscoveryProbe where
  name := probe.name
  interfaces := [probe.interface]
  discover _ := probe.discover host paths

end LinuxProbe

namespace LinuxBackend

variable (features : LinuxFeatures)

def supportsDevice (device : DeviceDescriptor) : Bool :=
  LinuxGpioSession.supportsDescriptor features.toGpioFeatures device ||
    (features.pwm && LinuxSysfsPwmSession.supportsDescriptor device) ||
    (features.i2c && LinuxI2cSession.supportsDescriptor device) ||
    (features.spi && LinuxSpiSession.supportsDescriptor device) ||
    (features.uart && LinuxUartSession.supportsDescriptor device) ||
    (features.usb && LinuxUsbSession.supportsDescriptor device)

/-- The probes of GPIO chips and of LEDs are always there. -/
def hasProbe : LinuxProbe → Bool
  | .gpio | .led => true
  | .pwm | .hwmon => features.pwm
  | .i2c => features.i2c
  | .spi => features.spi
  | .uart => features.uart
  | .usb => features.usb

def probes (host : ClassHost) (paths : LinuxPaths) : List DiscoveryProbe :=
  (LinuxProbe.all.filter (hasProbe features)).map (LinuxProbe.toProbe host paths)

def discover (host : ClassHost) (paths : LinuxPaths) (availableParallelism : ℕ) (context : DiscoveryContext) :
    DiscoveryResult DiscoveryRunReport :=
  runProbes availableParallelism context (probes features host paths)

/-- The addresses that go with the kinds of devices that sessions are opened for. -/
inductive Fits : DeviceKind → DeviceAddress → Prop
  | gpioLine (chipName : String) (offset : UInt32) : Fits .gpioLine (.gpioLine chipName offset)
  | pwmChannel (chipName : String) (channel : UInt32) : Fits .pwmChannel (.pwmChannel chipName channel)
  | i2cDevice (bus : UInt32) (address : UInt16) : Fits .i2cDevice (.i2cDevice bus address)
  | spiDevice (bus : UInt32) (chipSelect : UInt16) : Fits .spiDevice (.spiDevice bus chipSelect)
  | uartPort (port : String) : Fits .uartPort (.uartPort port)
  | usbDevice (bus : UInt16) (ports : List UInt8) (vendorId productId : Option UInt16) :
      Fits .usbDevice (.usbDevice bus ports vendorId productId)
  | usbInterface (bus : UInt16) (ports : List UInt8) (number : UInt8) (vendorId productId : Option UInt16) :
      Fits .usbInterface (.usbInterface bus ports number vendorId productId)
  | other {kind : DeviceKind} (address : DeviceAddress)
      (h : kind ∉ (driverFor kind.interface).kinds) : Fits kind address

theorem not_supportsDevice {device : DeviceDescriptor} (h : device.kind ∉ (driverFor device.kind.interface).kinds) :
    supportsDevice features device = false := by
  have hother (kind : DeviceKind) (hkind : kind ∈ (driverFor kind.interface).kinds) : device.kind ≠ kind := by
    rintro rfl
    exact h hkind
  have hgpio := hother .gpioLine (by decide)
  have hpwm := hother .pwmChannel (by decide)
  have hi2c := hother .i2cDevice (by decide)
  have hspi := hother .spiDevice (by decide)
  have huart := hother .uartPort (by decide)
  have hdevice := hother .usbDevice (by decide)
  have husb := hother .usbInterface (by decide)
  simp [supportsDevice, LinuxGpioSession.supportsDescriptor, LinuxSysfsPwmSession.supportsDescriptor,
    LinuxI2cSession.supportsDescriptor, LinuxSpiSession.supportsDescriptor, LinuxUartSession.supportsDescriptor,
    LinuxUsbSession.supportsDescriptor, hgpio, hpwm, hi2c, hspi, huart, hdevice, husb]

theorem supportsDevice_of_fits {device : DeviceDescriptor} {address : DeviceAddress} (hvalid : device.validate = .ok ())
    (haddress : device.address = some address) (hfits : Fits device.kind address) :
    supportsDevice features device =
      (decide (device.kind ∈ (driverFor device.interface).kinds) && features.serves device.interface) := by
  have hinterface := ((DeviceDescriptor.validate_iff device).mp hvalid).1
  rw [← hinterface]
  generalize hkind : device.kind = kind at hfits hinterface
  cases hfits with
  | other _ h =>
    rw [not_supportsDevice features (hkind ▸ h), decide_eq_false h, Bool.false_and]
  | gpioLine | pwmChannel | i2cDevice | spiDevice | uartPort | usbDevice | usbInterface =>
    simp only [supportsDevice, LinuxGpioSession.supportsDescriptor, LinuxCdevGpioSession.supportsDescriptor,
      LinuxSysfsGpioSession.supportsDescriptor, gpioLineAddress, LinuxSysfsPwmSession.supportsDescriptor,
      pwmChannelAddress, LinuxI2cSession.supportsDescriptor, LinuxI2cSession.i2cBusAddress,
      LinuxSpiSession.supportsDescriptor, LinuxSpiSession.spiBusChipSelect, LinuxUartSession.supportsDescriptor,
      LinuxUartSession.uartPortName, LinuxUsbSession.supportsDescriptor, LinuxUsbSession.usbBusPorts, haddress, hkind,
      ← hinterface]
    simp [DeviceKind.interface, driverFor, LinuxFeatures.serves, gpioDriver, pwmDriver, i2cDriver, spiDriver, uartDriver,
      usbDriver]

end LinuxBackend

end Lemnos.Linux
