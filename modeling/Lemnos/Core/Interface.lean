import Lemnos.Library.OrderedMap

namespace Lemnos.Core

inductive InterfaceKind where
  | gpio
  | pwm
  | i2c
  | spi
  | uart
  | usb
  deriving DecidableEq

namespace InterfaceKind

instance : Ord InterfaceKind := ⟨compareOn InterfaceKind.ctorIdx⟩

instance : Std.TransOrd InterfaceKind := inferInstanceAs (Std.TransCmp (compareOn InterfaceKind.ctorIdx))

theorem ctorIdx_injective {a b : InterfaceKind} (h : a.ctorIdx = b.ctorIdx) : a = b := by
  cases a <;> cases b <;> first | rfl | cases h

instance : Std.LawfulEqOrd InterfaceKind where
  eq_of_compare h := ctorIdx_injective (Std.LawfulEqOrd.eq_of_compare h)

def asStr : InterfaceKind → String
  | gpio => "gpio"
  | pwm => "pwm"
  | i2c => "i2c"
  | spi => "spi"
  | uart => "uart"
  | usb => "usb"

instance : ToString InterfaceKind := ⟨asStr⟩

end InterfaceKind

inductive DeviceKind where
  | unspecified (interface : InterfaceKind)
  | gpioChip
  | gpioLine
  | pwmChip
  | pwmChannel
  | i2cBus
  | i2cDevice
  | spiBus
  | spiDevice
  | uartPort
  | uartDevice
  | usbBus
  | usbDevice
  | usbInterface
  deriving DecidableEq

namespace DeviceKind

def interface : DeviceKind → InterfaceKind
  | unspecified interface => interface
  | gpioChip | gpioLine => .gpio
  | pwmChip | pwmChannel => .pwm
  | i2cBus | i2cDevice => .i2c
  | spiBus | spiDevice => .spi
  | uartPort | uartDevice => .uart
  | usbBus | usbDevice | usbInterface => .usb

def display : DeviceKind → String
  | unspecified interface => s!"unspecified({interface})"
  | gpioChip => "gpio-chip"
  | gpioLine => "gpio-line"
  | pwmChip => "pwm-chip"
  | pwmChannel => "pwm-channel"
  | i2cBus => "i2c-bus"
  | i2cDevice => "i2c-device"
  | spiBus => "spi-bus"
  | spiDevice => "spi-device"
  | uartPort => "uart-port"
  | uartDevice => "uart-device"
  | usbBus => "usb-bus"
  | usbDevice => "usb-device"
  | usbInterface => "usb-interface"

instance : ToString DeviceKind := ⟨display⟩

end DeviceKind

inductive DeviceAddress where
  | gpioChip (chipName : String) (baseLine : Option UInt32)
  | gpioLine (chipName : String) (offset : UInt32)
  | pwmChip (chipName : String)
  | pwmChannel (chipName : String) (channel : UInt32)
  | i2cBus (bus : UInt32)
  | i2cDevice (bus : UInt32) (address : UInt16)
  | spiBus (bus : UInt32)
  | spiDevice (bus : UInt32) (chipSelect : UInt16)
  | uartPort (port : String)
  | uartDevice (port : String) (unit : Option String)
  | usbBus (bus : UInt16)
  | usbDevice (bus : UInt16) (ports : List UInt8) (vendorId productId : Option UInt16)
  | usbInterface (bus : UInt16) (ports : List UInt8) (interfaceNumber : UInt8)
      (vendorId productId : Option UInt16)
  | custom (interface : InterfaceKind) (scheme value : String)
  deriving DecidableEq

namespace DeviceAddress

def interface : DeviceAddress → InterfaceKind
  | gpioChip .. | gpioLine .. => .gpio
  | pwmChip .. | pwmChannel .. => .pwm
  | i2cBus .. | i2cDevice .. => .i2c
  | spiBus .. | spiDevice .. => .spi
  | uartPort .. | uartDevice .. => .uart
  | usbBus .. | usbDevice .. | usbInterface .. => .usb
  | custom interface .. => interface

def hex (width n : ℕ) : String :=
  let digits := Nat.toDigits 16 n
  String.ofList (List.replicate (width - digits.length) '0' ++ digits)

def displayPorts (ports : List UInt8) : String :=
  "[" ++ ", ".intercalate (ports.map toString) ++ "]"

def displayUsbIds : Option UInt16 → Option UInt16 → String
  | some vendorId, some productId => "@" ++ hex 4 vendorId.toNat ++ ":" ++ hex 4 productId.toNat
  | _, _ => ""

def display : DeviceAddress → String
  | gpioChip chipName baseLine =>
    s!"gpio-chip:{chipName}" ++ baseLine.elim "" (fun line => s!"@{line}")
  | gpioLine chipName offset => s!"gpio-line:{chipName}:{offset}"
  | pwmChip chipName => s!"pwm-chip:{chipName}"
  | pwmChannel chipName channel => s!"pwm-channel:{chipName}:{channel}"
  | i2cBus bus => s!"i2c-bus:{bus}"
  | i2cDevice bus address => s!"i2c-device:{bus}:0x" ++ hex 2 address.toNat
  | spiBus bus => s!"spi-bus:{bus}"
  | spiDevice bus chipSelect => s!"spi-device:{bus}:{chipSelect}"
  | uartPort port => s!"uart-port:{port}"
  | uartDevice port unit => s!"uart-device:{port}" ++ unit.elim "" (fun unit => s!":{unit}")
  | usbBus bus => s!"usb-bus:{bus}"
  | usbDevice bus ports vendorId productId =>
    s!"usb-device:{bus}:" ++ displayPorts ports ++ displayUsbIds vendorId productId
  | usbInterface bus ports interfaceNumber vendorId productId =>
    s!"usb-interface:{bus}:" ++ displayPorts ports ++ s!":{interfaceNumber}"
      ++ displayUsbIds vendorId productId
  | custom interface scheme value => s!"{interface}:{scheme}:{value}"

instance : ToString DeviceAddress := ⟨display⟩

end DeviceAddress

inductive CoreError where
  | emptyIdentifier (kind : String)
  | invalidIdentifierCharacter (kind value : String) (invalid : Char)
  | invalidIdentifierStart (kind value : String)
  | kindInterfaceMismatch (kind : DeviceKind) (interface : InterfaceKind)
  | addressInterfaceMismatch (address : DeviceAddress) (interface : InterfaceKind)
  | requestInterfaceMismatch (request : String) (interface : InterfaceKind)
  | invalidRequest (request reason : String)
  deriving DecidableEq

abbrev CoreResult := Except CoreError

section Outcomes

variable {ε α β : Type}

theorem exists_of_bind_eq_ok {x : Except ε α} {f : α → Except ε β} {b : β} (h : x >>= f = .ok b) :
    ∃ a, x = .ok a ∧ f a = .ok b := by
  cases x with
  | error error => cases h
  | ok a => exact ⟨a, rfl, h⟩

theorem of_mapError_eq_ok {ε' : Type} {x : Except ε α} {f : ε → ε'} {a : α} (h : x.mapError f = .ok a) : x = .ok a := by
  cases x with
  | error error => cases h
  | ok b =>
    cases h
    rfl

end Outcomes

def CoreError.display : CoreError → String
  | emptyIdentifier kind => s!"{kind} cannot be empty"
  | invalidIdentifierCharacter kind value invalid =>
    s!"{kind} '{value}' contains invalid character '{invalid}'"
  | invalidIdentifierStart kind value =>
    s!"{kind} '{value}' must start with an ASCII alphanumeric character"
  | kindInterfaceMismatch kind interface =>
    s!"device kind '{kind}' does not belong to interface '{interface}'"
  | addressInterfaceMismatch address interface =>
    s!"device address '{address}' does not belong to interface '{interface}'"
  | requestInterfaceMismatch request interface =>
    s!"request '{request}' does not belong to interface '{interface}'"
  | invalidRequest request reason => s!"request '{request}' is invalid: {reason}"

instance : ToString CoreError := ⟨CoreError.display⟩

def extraIdentifierChars : List Char := ['.', '_', '-', ':', '/', '+', '#']

def isAsciiAlphanumeric (c : Char) : Bool :=
  ('0' ≤ c && c ≤ '9') || ('a' ≤ c && c ≤ 'z') || ('A' ≤ c && c ≤ 'Z')

def isIdentifierChar (c : Char) : Bool :=
  isAsciiAlphanumeric c || extraIdentifierChars.contains c

def validateIdentifier (kind value : String) : CoreResult Unit :=
  match value.toList with
  | [] => .error (.emptyIdentifier kind)
  | first :: rest =>
    if !isAsciiAlphanumeric first then
      .error (.invalidIdentifierStart kind value)
    else
      match rest.find? (fun c => !isIdentifierChar c) with
      | some invalid => .error (.invalidIdentifierCharacter kind value invalid)
      | none => .ok ()

theorem validateIdentifier_of_cons {kind value : String} {first : Char} {rest : List Char}
    (h : value.toList = first :: rest) (hfirst : isAsciiAlphanumeric first = true)
    (hrest : ∀ c ∈ rest, isIdentifierChar c = true) : validateIdentifier kind value = .ok () := by
  have hall : rest.find? (fun c => !isIdentifierChar c) = none := by
    rw [List.find?_eq_none]
    intro c hc
    simp [hrest c hc]
  rw [validateIdentifier, h]
  simp only [hfirst, hall]
  rfl

/-- The identifier types of one kind; a value carries that it passed `validateIdentifier`. -/
structure Identifier (kind : String) where
  asStr : String
  wellFormed : validateIdentifier kind asStr = .ok ()
  deriving DecidableEq

namespace Identifier

variable {kind : String}

instance : Ord (Identifier kind) := ⟨compareOn asStr⟩

instance : Std.TransOrd (Identifier kind) := inferInstanceAs (Std.TransCmp (compareOn asStr))

theorem asStr_injective {a b : Identifier kind} (h : a.asStr = b.asStr) : a = b := by
  cases a
  cases b
  cases h
  rfl

instance : Std.LawfulEqOrd (Identifier kind) where
  eq_of_compare h := asStr_injective (Std.LawfulEqOrd.eq_of_compare h)

def new (kind value : String) : CoreResult (Identifier kind) :=
  match h : validateIdentifier kind value with
  | .ok () => .ok ⟨value, h⟩
  | .error error => .error error

theorem asStr_of_new {value : String} {id : Identifier kind} (h : new kind value = .ok id) : id.asStr = value := by
  unfold new at h
  split at h
  · cases h
    rfl
  · cases h

theorem new_asStr (id : Identifier kind) : new kind id.asStr = .ok id := by
  have h := id.wellFormed
  unfold new
  split
  · rfl
  · simp_all

instance : ToString (Identifier kind) := ⟨asStr⟩

end Identifier

abbrev DeviceId := Identifier "device id"
abbrev LocalDeviceId := Identifier "local device id"
abbrev CapabilityId := Identifier "capability id"
abbrev InteractionId := Identifier "interaction id"
abbrev IssueCode := Identifier "issue code"

def gpioLine : DeviceId := ⟨"gpiochip0-line-7", by decide⟩

end Lemnos.Core
