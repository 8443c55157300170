import Lemnos.Core.Descriptor

namespace Lemnos.Linux

open Lemnos.Core

def joinPath (root name : String) : String :=
  if name.toList.head? = some '/' then name
  else if root.toList.getLast?.all (· = '/') then root ++ name
  else root ++ "/" ++ name

theorem joinPath_inj {root a b : String} (ha : a.toList.head? ≠ some '/') (hb : b.toList.head? ≠ some '/')
    (h : joinPath root a = joinPath root b) : a = b := by
  unfold joinPath at h
  rw [if_neg ha, if_neg hb] at h
  split at h <;> simpa using h

structure LinuxPaths where
  sysClassRoot : String := "/sys/class"
  sysBusRoot : String := "/sys/bus"
  devRoot : String := "/dev"
  deriving DecidableEq

namespace LinuxPaths

variable (paths : LinuxPaths)

def gpioClassRoot : String := joinPath paths.sysClassRoot "gpio"

def ledClassRoot : String := joinPath paths.sysClassRoot "leds"

def hwmonClassRoot : String := joinPath paths.sysClassRoot "hwmon"

def gpioLineRoot (globalLine : UInt32) : String := joinPath paths.gpioClassRoot s!"gpio{globalLine}"

def gpioExportPath : String := joinPath paths.gpioClassRoot "export"

def gpioUnexportPath : String := joinPath paths.gpioClassRoot "unexport"

def i2cClassRoot : String := joinPath paths.sysClassRoot "i2c-dev"

def ttyClassRoot : String := joinPath paths.sysClassRoot "tty"

def pwmClassRoot : String := joinPath paths.sysClassRoot "pwm"

def i2cDevicesRoot : String := joinPath (joinPath paths.sysBusRoot "i2c") "devices"

def spiDevicesRoot : String := joinPath (joinPath paths.sysBusRoot "spi") "devices"

def usbDevicesRoot : String := joinPath (joinPath paths.sysBusRoot "usb") "devices"

def gpioDevnode (chipName : String) : String := joinPath paths.devRoot chipName

def spiDevnode (bus : UInt32) (chipSelect : UInt16) : String :=
  joinPath paths.devRoot s!"spidev{bus}.{chipSelect}"

def ttyDevnode (port : String) : String := joinPath paths.devRoot port

end LinuxPaths

structure LinuxTransportConfig where
  sysfsExportRetries : ℕ
  deriving DecidableEq

def isWhitespace (c : Char) : Bool :=
  let code := c.toNat
  (9 ≤ code && code ≤ 13) || (0x2000 ≤ code && code ≤ 0x200a) ||
    [0x20, 0x85, 0xa0, 0x1680, 0x2028, 0x2029, 0x202f, 0x205f, 0x3000].contains code

def trim (text : String) : String :=
  String.ofList ((text.toList.dropWhile isWhitespace).reverse.dropWhile isWhitespace).reverse

def trimmed (contents : Option String) : Option String :=
  contents.bind fun contents => if trim contents = "" then none else some (trim contents)

theorem not_isWhitespace_of_isDigit {c : Char} (h : c.isDigit = true) : isWhitespace c = false := by
  have hrange : 48 ≤ c.toNat ∧ c.toNat ≤ 57 := by
    simpa [Char.isDigit, UInt32.le_iff_toNat_le] using h
  simp [isWhitespace]
  omega

theorem trimmed_of_digits {text : String} (hne : text ≠ "") (h : ∀ c ∈ text.toList, c.isDigit = true) :
    trimmed (some text) = some text := by
  have hfront : text.toList.dropWhile isWhitespace = text.toList := by
    cases htext : text.toList with
    | nil => rfl
    | cons c rest =>
      rw [htext] at h
      rw [List.dropWhile_cons_of_neg]
      simp [not_isWhitespace_of_isDigit (h c (by simp))]
  have hback : text.toList.reverse.dropWhile isWhitespace = text.toList.reverse := by
    cases htext : text.toList.reverse with
    | nil => rfl
    | cons c rest =>
      rw [List.dropWhile_cons_of_neg]
      have hc : c ∈ text.toList := by rw [← List.mem_reverse, htext]; simp
      simp [not_isWhitespace_of_isDigit (h c hc)]
  have htrim : trim text = text := by
    rw [trim, hfront, hback, List.reverse_reverse, String.ofList_toList]
  simp [trimmed, htrim, hne]

def parseU32 (text : String) : Option UInt32 :=
  let digits : List Char := match text.toList with
    | '+' :: digits => digits
    | digits => digits
  let value : ℕ := digits.foldl (fun value c => 10 * value + (c.toNat - '0'.toNat)) 0
  if digits ≠ [] ∧ digits.all Char.isDigit ∧ value < UInt32.size then some (UInt32.ofNat value) else none

def checkedAdd (a b : UInt32) : Option UInt32 :=
  if a.toNat + b.toNat < UInt32.size then some (a + b) else none

def descriptorStringProperty (device : DeviceDescriptor) (key : String) : Option String :=
  (device.properties.lookup key).bind fun value =>
    match value with
    | .string value => some value
    | _ => none

def descriptorDevnode (device : DeviceDescriptor) : Option String := descriptorStringProperty device "devnode"

end Lemnos.Linux
