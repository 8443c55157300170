import Mathlib.Data.List.Sort
import Mathlib.Data.String.Basic
import Lemnos.Core.Configured
import Lemnos.Library.Decimal
import Lemnos.Library.Separated

namespace Lemnos.Linux

open Lemnos.Core Library

def parseU8 (digits : List Char) : Option UInt8 :=
  (Decimal.parse UInt8.size (String.ofList digits)).toOption.map UInt8.ofNat

def parseU16 (digits : List Char) : Option UInt16 :=
  (Decimal.parse UInt16.size (String.ofList digits)).toOption.map UInt16.ofNat

def parseUsbBusName (value : String) : Option UInt16 := (value.toList.dropPrefix? "usb".toList).bind parseU16

def parseUsbDeviceName (value : String) : Option (UInt16 × List UInt8) :=
  if ':' ∈ value.toList then none
  else do
    let (bus, ports) ← Separated.splitOnce '-' value.toList
    let ports ← (ports.splitOn '.').mapM parseU8
    return (← parseU16 bus, ports)

def parseUsbInterfaceName (value : String) : Option (UInt16 × List UInt8 × UInt8 × UInt8) := do
  let (device, suffix) ← Separated.splitOnce ':' value.toList
  let (bus, ports) ← parseUsbDeviceName (String.ofList device)
  let (configuration, interfaceNumber) ← Separated.splitOnce '.' suffix
  return (bus, ports, ← parseU8 configuration, ← parseU8 interfaceNumber)

def portsLabel (ports : List UInt8) : String := "_".intercalate (ports.map toString)

def portsDisplay (ports : List UInt8) : String := ".".intercalate (ports.map toString)

def usbDeviceKey (bus : UInt16) (ports : List UInt8) : String := s!"{bus}-{portsDisplay ports}"

def usbBusId (bus : UInt16) : String := s!"linux.usb.bus.{bus}"

def usbDeviceId (bus : UInt16) (ports : List UInt8) : String := s!"linux.usb.bus{bus}.ports{portsLabel ports}"

def usbInterfaceId (bus : UInt16) (ports : List UInt8) (interfaceNumber : UInt8) : String :=
  s!"linux.usb.bus{bus}.ports{portsLabel ports}.if{interfaceNumber}"

structure UsbLocation where
  bus : UInt16
  ports : List UInt8
  nonempty : ports ≠ []
  deriving DecidableEq

/-- What the kernel keeps an entry for, and the names it gives to the entries. -/
inductive UsbEntry where
  | bus (bus : UInt16)
  | device (location : UsbLocation)
  | interface (location : UsbLocation) (configuration number : UInt8)
  deriving DecidableEq

namespace UsbEntry

def name : UsbEntry → String
  | bus n => s!"usb{n}"
  | device location => usbDeviceKey location.bus location.ports
  | interface location configuration number =>
    s!"{usbDeviceKey location.bus location.ports}:{configuration}.{number}"

def idText : UsbEntry → String
  | bus n => usbBusId n
  | device location => usbDeviceId location.bus location.ports
  | interface location _ number => usbInterfaceId location.bus location.ports number

end UsbEntry

section Digits

def digits (n : ℕ) : List Char := n.repr.toList

theorem isDigit_of_mem_digits {n : ℕ} {c : Char} (h : c ∈ digits n) : c.isDigit = true :=
  Decimal.isDigit_of_mem_repr h

theorem not_mem_digits {n : ℕ} {c : Char} (h : c.isDigit = false) : c ∉ digits n := by
  intro hc
  rw [isDigit_of_mem_digits hc] at h
  cases h

theorem digits_injective {m n : ℕ} (h : digits m = digits n) : m = n :=
  Decimal.repr_injective (String.toList_injective h)

theorem parseU8_digits (n : UInt8) : parseU8 (digits n.toNat) = some n := by
  rw [parseU8, digits, String.ofList_toList, Decimal.parse_repr n.toNat_lt]
  exact congrArg some (UInt8.ofNat_toNat)

theorem parseU16_digits (n : UInt16) : parseU16 (digits n.toNat) = some n := by
  rw [parseU16, digits, String.ofList_toList, Decimal.parse_repr n.toNat_lt]
  exact congrArg some (UInt16.ofNat_toNat)

end Digits

theorem toList_portsDisplay (ports : List UInt8) :
    (portsDisplay ports).toList = ['.'].intercalate (ports.map fun port => digits port.toNat) := by
  rw [portsDisplay, String.toList_intercalate, List.map_map]
  rfl

theorem toList_portsLabel (ports : List UInt8) :
    (portsLabel ports).toList = ['_'].intercalate (ports.map fun port => digits port.toNat) := by
  rw [portsLabel, String.toList_intercalate, List.map_map]
  rfl

theorem toList_usbDeviceKey (bus : UInt16) (ports : List UInt8) :
    (usbDeviceKey bus ports).toList = digits bus.toNat ++ '-' :: (portsDisplay ports).toList := by
  have hkey : usbDeviceKey bus ports = bus.toNat.repr ++ "-" ++ portsDisplay ports := rfl
  rw [hkey, String.toList_append, String.toList_append, List.append_assoc]
  rfl

section Joined

def joined (sep : Char) (ports : List UInt8) : List Char :=
  [sep].intercalate (ports.map fun port => digits port.toNat)

variable {sep : Char} {ports ports' : List UInt8}

theorem mem_joined {c : Char} (h : c ∈ joined sep ports) : c = sep ∨ c.isDigit = true := by
  rcases Separated.mem_intercalate h with hsep | ⟨word, hword, hc⟩
  · exact .inl hsep
  · obtain ⟨port, -, rfl⟩ := List.mem_map.mp hword
    exact .inr (isDigit_of_mem_digits hc)

theorem not_mem_joined {c : Char} (hsep : c ≠ sep) (hdigit : c.isDigit = false) : c ∉ joined sep ports := by
  intro h
  rcases mem_joined h with heq | hdigit'
  · exact hsep heq
  · rw [hdigit] at hdigit'
    cases hdigit'

theorem splitOn_joined (hsep : sep.isDigit = false) (hne : ports ≠ []) :
    (joined sep ports).splitOn sep = ports.map fun port => digits port.toNat := by
  refine List.splitOn_intercalate sep ?_ (by simpa using hne)
  intro word hword
  obtain ⟨port, -, rfl⟩ := List.mem_map.mp hword
  exact not_mem_digits hsep

theorem map_digits_injective
    (h : (ports.map fun port => digits port.toNat) = ports'.map fun port => digits port.toNat) :
    ports = ports' :=
  List.map_injective_iff.mpr (fun _ _ heq => UInt8.toNat_inj.mp (digits_injective heq)) h

theorem joined_injective (hsep : sep.isDigit = false) (hne : ports ≠ []) (hne' : ports' ≠ [])
    (h : joined sep ports = joined sep ports') : ports = ports' := by
  apply map_digits_injective
  rw [← splitOn_joined hsep hne, h, splitOn_joined hsep hne']

theorem mapM_parseU8 (ports : List UInt8) :
    (ports.map fun port => digits port.toNat).mapM parseU8 = some ports := by
  induction ports with
  | nil => rfl
  | cons port ports ih =>
    rw [List.map_cons, List.mapM_cons, parseU8_digits, ih]
    rfl

end Joined

namespace UsbLocation

variable (location : UsbLocation)

def key : String := usbDeviceKey location.bus location.ports

theorem toList_key : location.key.toList = digits location.bus.toNat ++ '-' :: joined '.' location.ports := by
  rw [key, toList_usbDeviceKey, toList_portsDisplay]
  rfl

theorem mem_key {c : Char} (h : c ∈ location.key.toList) : c = '-' ∨ c = '.' ∨ c.isDigit = true := by
  rw [toList_key, List.mem_append, List.mem_cons] at h
  rcases h with hbus | hdash | hports
  · exact .inr (.inr (isDigit_of_mem_digits hbus))
  · exact .inl hdash
  · exact .inr (mem_joined hports)

theorem colon_not_mem_key : ':' ∉ location.key.toList := by
  intro h
  rcases location.mem_key h with heq | heq | hdigit
  · exact absurd heq (by decide)
  · exact absurd heq (by decide)
  · exact absurd hdigit (by decide)

theorem exists_digit_cons : ∃ c rest, location.key.toList = c :: rest ∧ c.isDigit = true := by
  rw [toList_key]
  rcases hbus : digits location.bus.toNat with _ | ⟨c, rest⟩
  · exact absurd hbus (Decimal.repr_ne_nil _)
  · exact ⟨c, _, rfl, isDigit_of_mem_digits (hbus ▸ List.mem_cons_self)⟩

theorem key_injective {location location' : UsbLocation} (h : location.key = location'.key) :
    location = location' := by
  have htext : location.key.toList = location'.key.toList := congrArg String.toList h
  rw [toList_key, toList_key] at htext
  obtain ⟨hbus, hports⟩ := Separated.append_cons_inj (not_mem_digits rfl) (not_mem_digits rfl) htext
  have hports' := joined_injective rfl location.nonempty location'.nonempty hports
  have hbus' := UInt16.toNat_inj.mp (digits_injective hbus)
  cases location
  cases location'
  cases hbus'
  cases hports'
  rfl

theorem parseUsbDeviceName_key : parseUsbDeviceName location.key = some (location.bus, location.ports) := by
  rw [parseUsbDeviceName, if_neg location.colon_not_mem_key, toList_key,
    Separated.splitOnce_append (not_mem_digits rfl), Option.bind_eq_bind, Option.bind_some]
  simp only
  rw [splitOn_joined rfl location.nonempty, mapM_parseU8, parseU16_digits]
  rfl

end UsbLocation

namespace UsbEntry

theorem toList_name_bus (n : UInt16) : (bus n).name.toList = "usb".toList ++ digits n.toNat := by
  have hname : (bus n).name = "usb" ++ n.toNat.repr := rfl
  rw [hname, String.toList_append]
  rfl

theorem toList_name_device (location : UsbLocation) : (device location).name.toList = location.key.toList := rfl

theorem toList_name_interface (location : UsbLocation) (configuration number : UInt8) :
    (interface location configuration number).name.toList =
      location.key.toList ++ ':' :: (digits configuration.toNat ++ '.' :: digits number.toNat) := by
  have hname : (interface location configuration number).name =
    location.key ++ ":" ++ configuration.toNat.repr ++ "." ++ number.toNat.repr := rfl
  rw [hname, String.toList_append, String.toList_append, String.toList_append, String.toList_append,
    List.append_assoc, List.append_assoc, List.append_assoc]
  rfl

theorem parseUsbBusName_bus (n : UInt16) : parseUsbBusName (bus n).name = some n := by
  rw [parseUsbBusName, toList_name_bus, List.dropPrefix?_append_of_beq _ (beq_self_eq_true _), Option.bind_some,
    parseU16_digits]

theorem parseUsbBusName_eq_none {value : String} {c : Char} {rest : List Char} (h : value.toList = c :: rest)
    (hdigit : c.isDigit = true) : parseUsbBusName value = none := by
  have hne : (c == 'u') = false := by
    rw [beq_eq_false_iff_ne]
    rintro rfl
    exact absurd hdigit (by decide)
  rw [parseUsbBusName, h]
  have hdrop : (c :: rest).dropPrefix? "usb".toList = none := by
    change (c :: rest).dropPrefix? ['u', 's', 'b'] = none
    rw [List.dropPrefix?, hne]
    rfl
  rw [hdrop, Option.bind_none]

theorem parseUsbBusName_device (location : UsbLocation) : parseUsbBusName (device location).name = none := by
  obtain ⟨c, rest, hkey, hdigit⟩ := location.exists_digit_cons
  exact parseUsbBusName_eq_none hkey hdigit

theorem parseUsbBusName_interface (location : UsbLocation) (configuration number : UInt8) :
    parseUsbBusName (interface location configuration number).name = none := by
  obtain ⟨c, rest, hkey, hdigit⟩ := location.exists_digit_cons
  have hname := toList_name_interface location configuration number
  rw [hkey] at hname
  exact parseUsbBusName_eq_none hname hdigit

theorem parseUsbDeviceName_device (location : UsbLocation) :
    parseUsbDeviceName (device location).name = some (location.bus, location.ports) :=
  location.parseUsbDeviceName_key

theorem parseUsbDeviceName_interface (location : UsbLocation) (configuration number : UInt8) :
    parseUsbDeviceName (interface location configuration number).name = none := by
  rw [parseUsbDeviceName, toList_name_interface, if_pos (List.mem_append_right _ List.mem_cons_self)]

theorem parseUsbInterfaceName_interface (location : UsbLocation) (configuration number : UInt8) :
    parseUsbInterfaceName (interface location configuration number).name =
      some (location.bus, location.ports, configuration, number) := by
  rw [parseUsbInterfaceName, toList_name_interface, Separated.splitOnce_append location.colon_not_mem_key,
    Option.bind_eq_bind, Option.bind_some]
  simp only
  rw [String.ofList_toList, location.parseUsbDeviceName_key, Option.bind_eq_bind, Option.bind_some]
  simp only
  rw [Separated.splitOnce_append (not_mem_digits rfl), Option.bind_eq_bind, Option.bind_some]
  simp only
  rw [parseU8_digits, parseU8_digits]
  rfl

theorem exists_name_cons (entry : UsbEntry) : ∃ c rest, entry.name.toList = c :: rest ∧ c ≠ '.' := by
  have hkey : ∀ location : UsbLocation, ∃ c rest, location.key.toList = c :: rest ∧ c ≠ '.' := by
    intro location
    obtain ⟨c, rest, hkey, hdigit⟩ := location.exists_digit_cons
    refine ⟨c, rest, hkey, ?_⟩
    rintro rfl
    cases hdigit
  cases entry with
  | bus n => exact ⟨'u', _, toList_name_bus n, by decide⟩
  | device location => exact hkey location
  | interface location configuration number =>
    obtain ⟨c, rest, hcons, hc⟩ := hkey location
    rw [toList_name_interface, hcons]
    exact ⟨c, _, rfl, hc⟩

theorem slash_not_mem_name (entry : UsbEntry) : '/' ∉ entry.name.toList := by
  have hkey : ∀ location : UsbLocation, '/' ∉ location.key.toList := by
    intro location h
    rcases location.mem_key h with heq | heq | hdigit
    · exact absurd heq (by decide)
    · exact absurd heq (by decide)
    · exact absurd hdigit (by decide)
  have hdigits : ∀ n, '/' ∉ digits n := fun _ => not_mem_digits rfl
  cases entry with
  | bus n =>
    rw [toList_name_bus, List.mem_append, not_or]
    exact ⟨by decide, hdigits _⟩
  | device location => exact hkey location
  | interface location configuration number =>
    simp only [toList_name_interface, List.mem_append, List.mem_cons, not_or]
    exact ⟨hkey location, by decide, hdigits _, by decide, hdigits _⟩

theorem not_interface_le_device (location : UsbLocation) (configuration number : UInt8) :
    ¬(interface location configuration number).name ≤ (device location).name := by
  intro hle
  have hfront : (device location).name.toList <+: (interface location configuration number).name.toList := by
    rw [toList_name_interface]
    exact List.prefix_append _ _
  have hge : (device location).name ≤ (interface location configuration number).name :=
    not_lt.mp fun hlt => hfront.le (String.lt_iff_toList_lt.mp hlt)
  have hparsed := congrArg parseUsbDeviceName (le_antisymm hle hge)
  rw [parseUsbDeviceName_interface, parseUsbDeviceName_device] at hparsed
  cases hparsed

theorem not_bus_le_device (n : UInt16) (location : UsbLocation) : ¬(bus n).name ≤ (device location).name := by
  obtain ⟨c, rest, hkey, hdigit⟩ := location.exists_digit_cons
  have hbus : (bus n).name.toList = 'u' :: 's' :: 'b' :: digits n.toNat := toList_name_bus n
  have hlt : c < 'u' := by
    have hrange : c.toNat ≤ 57 := by
      have hdigits : 48 ≤ c.toNat ∧ c.toNat ≤ 57 := by
        simpa [Char.isDigit, UInt32.le_iff_toNat_le] using hdigit
      exact hdigits.2
    rw [Char.lt_def, UInt32.lt_iff_toNat_lt]
    exact Nat.lt_of_le_of_lt hrange (by decide)
  rw [not_le, String.lt_iff_toList_lt, hbus, toList_name_device, hkey]
  exact List.Lex.rel hlt

theorem toList_idText_bus (n : UInt16) :
    (bus n).idText.toList = "linux.usb.bus".toList ++ '.' :: digits n.toNat := by
  have hid : (bus n).idText = "linux.usb.bus." ++ n.toNat.repr := rfl
  rw [hid, String.toList_append]
  rfl

theorem toList_idText_device (location : UsbLocation) : (device location).idText.toList =
    "linux.usb.bus".toList ++
      (digits location.bus.toNat ++ '.' :: ("ports".toList ++ joined '_' location.ports)) := by
  have hid : (device location).idText =
    "linux.usb.bus" ++ location.bus.toNat.repr ++ ".ports" ++ portsLabel location.ports := rfl
  rw [hid, String.toList_append, String.toList_append, String.toList_append, List.append_assoc, List.append_assoc,
    toList_portsLabel]
  rfl

theorem toList_idText_interface (location : UsbLocation) (configuration number : UInt8) :
    (interface location configuration number).idText.toList =
      "linux.usb.bus".toList ++ (digits location.bus.toNat ++ '.' :: ("ports".toList ++
        (joined '_' location.ports ++ '.' :: ("if".toList ++ digits number.toNat)))) := by
  have hid : (interface location configuration number).idText =
    "linux.usb.bus" ++ location.bus.toNat.repr ++ ".ports" ++ portsLabel location.ports ++ ".if" ++
      number.toNat.repr := rfl
  rw [hid, String.toList_append, String.toList_append, String.toList_append, String.toList_append,
    String.toList_append, List.append_assoc, List.append_assoc, List.append_assoc, List.append_assoc,
    toList_portsLabel]
  rfl

def unconfigured : UsbEntry → UsbEntry
  | interface location _ number => interface location 0 number
  | entry => entry

theorem digits_ne_dot (n : ℕ) (rest rest' : List Char) : '.' :: rest ≠ digits n ++ rest' := by
  intro h
  rcases hdigits : digits n with _ | ⟨c, others⟩
  · exact Decimal.repr_ne_nil n hdigits
  · rw [hdigits] at h
    have hdot : '.' ∈ digits n := by
      rw [hdigits, (List.cons.inj h).1]
      exact List.mem_cons_self
    exact not_mem_digits rfl hdot

theorem joined_ne_interface (ports ports' : List UInt8) (rest : List Char) :
    joined '_' ports ≠ joined '_' ports' ++ '.' :: rest := by
  intro h
  have hdot : '.' ∈ joined '_' ports := h ▸ List.mem_append_right _ List.mem_cons_self
  exact not_mem_joined (by decide) rfl hdot

theorem eq_of_written {location location' : UsbLocation}
    (hbus : digits location.bus.toNat = digits location'.bus.toNat)
    (hports : joined '_' location.ports = joined '_' location'.ports) : location = location' := by
  obtain ⟨bus, ports, hne⟩ := location
  obtain ⟨bus', ports', hne'⟩ := location'
  cases UInt16.toNat_inj.mp (digits_injective hbus)
  cases joined_injective rfl hne hne' hports
  rfl

theorem idText_injective {a b : UsbEntry} (h : a.idText = b.idText) : a.unconfigured = b.unconfigured := by
  have htext : a.idText.toList = b.idText.toList := congrArg String.toList h
  have hnot : ∀ n, '.' ∉ digits n := fun _ => not_mem_digits rfl
  cases a with
  | bus n =>
    cases b with
    | bus n' =>
      rw [toList_idText_bus, toList_idText_bus, List.append_cancel_left_eq] at htext
      rw [UInt16.toNat_inj.mp (digits_injective (List.cons.inj htext).2)]
    | device location' =>
      rw [toList_idText_bus, toList_idText_device, List.append_cancel_left_eq] at htext
      exact absurd htext (digits_ne_dot _ _ _)
    | interface location' configuration' number' =>
      rw [toList_idText_bus, toList_idText_interface, List.append_cancel_left_eq] at htext
      exact absurd htext (digits_ne_dot _ _ _)
  | device location =>
    cases b with
    | bus n' =>
      rw [toList_idText_bus, toList_idText_device, List.append_cancel_left_eq] at htext
      exact absurd htext.symm (digits_ne_dot _ _ _)
    | device location' =>
      rw [toList_idText_device, toList_idText_device, List.append_cancel_left_eq] at htext
      obtain ⟨hbus, hrest⟩ := Separated.append_cons_inj (hnot _) (hnot _) htext
      rw [eq_of_written hbus (List.append_cancel_left hrest)]
    | interface location' configuration' number' =>
      rw [toList_idText_device, toList_idText_interface, List.append_cancel_left_eq] at htext
      have hrest := (Separated.append_cons_inj (hnot _) (hnot _) htext).2
      exact absurd (List.append_cancel_left hrest) (joined_ne_interface _ _ _)
  | interface location configuration number =>
    cases b with
    | bus n' =>
      rw [toList_idText_bus, toList_idText_interface, List.append_cancel_left_eq] at htext
      exact absurd htext.symm (digits_ne_dot _ _ _)
    | device location' =>
      rw [toList_idText_device, toList_idText_interface, List.append_cancel_left_eq] at htext
      have hrest := (Separated.append_cons_inj (hnot _) (hnot _) htext).2
      exact absurd (List.append_cancel_left hrest).symm (joined_ne_interface _ _ _)
    | interface location' configuration' number' =>
      rw [toList_idText_interface, toList_idText_interface, List.append_cancel_left_eq] at htext
      obtain ⟨hbus, hrest⟩ := Separated.append_cons_inj (hnot _) (hnot _) htext
      have hdot : ∀ ports, '.' ∉ joined '_' ports := fun _ => not_mem_joined (by decide) rfl
      obtain ⟨hports, hnumber⟩ := Separated.append_cons_inj (hdot _) (hdot _) (List.append_cancel_left hrest)
      have hnumber' := digits_injective (List.append_cancel_left hnumber)
      rw [unconfigured, unconfigured, eq_of_written hbus hports, UInt8.toNat_inj.mp hnumber']

theorem isIdentifierChar_of_isDigit {c : Char} (h : c.isDigit = true) : isIdentifierChar c = true := by
  have hrange : '0' ≤ c ∧ c ≤ '9' := by simpa [Char.isDigit, Char.le_def] using h
  rw [isIdentifierChar, isAsciiAlphanumeric]
  simp [hrange]

theorem validateIdentifier_of_front {value : String} {rest : List Char}
    (h : value.toList = "linux.usb.bus".toList ++ rest) (hrest : ∀ c ∈ rest, isIdentifierChar c = true) :
    validateIdentifier "device id" value = .ok () := by
  have hcheck : "inux.usb.bus".toList.all isIdentifierChar = true := by decide
  have hcons : value.toList = 'l' :: ("inux.usb.bus".toList ++ rest) := h
  refine validateIdentifier_of_cons hcons rfl ?_
  intro c hc
  rcases List.mem_append.mp hc with hfront | hlater
  · exact List.all_eq_true.mp hcheck c hfront
  · exact hrest c hlater

theorem idText_wellFormed (entry : UsbEntry) : validateIdentifier "device id" entry.idText = .ok () := by
  have hdigits : ∀ n, ∀ c ∈ digits n, isIdentifierChar c = true :=
    fun _ _ hc => isIdentifierChar_of_isDigit (isDigit_of_mem_digits hc)
  have hports : ∀ ports, ∀ c ∈ joined '_' ports, isIdentifierChar c = true := by
    intro ports c hc
    rcases mem_joined hc with rfl | hdigit
    · rfl
    · exact isIdentifierChar_of_isDigit hdigit
  have hword : "ports".toList.all isIdentifierChar = true ∧ "if".toList.all isIdentifierChar = true := by decide
  cases entry with
  | bus n =>
    refine validateIdentifier_of_front (toList_idText_bus n) ?_
    intro c hc
    rcases List.mem_cons.mp hc with rfl | hdigit
    · rfl
    · exact hdigits _ c hdigit
  | device location =>
    refine validateIdentifier_of_front (toList_idText_device location) ?_
    simp only [List.mem_append, List.mem_cons]
    rintro c (hbus | rfl | hport | hlabel)
    · exact hdigits _ c hbus
    · rfl
    · exact List.all_eq_true.mp hword.1 c hport
    · exact hports _ c hlabel
  | interface location configuration number =>
    refine validateIdentifier_of_front (toList_idText_interface location configuration number) ?_
    simp only [List.mem_append, List.mem_cons]
    rintro c (hbus | rfl | hport | hlabel | rfl | hif | hnumber)
    · exact hdigits _ c hbus
    · rfl
    · exact List.all_eq_true.mp hword.1 c hport
    · exact hports _ c hlabel
    · rfl
    · exact List.all_eq_true.mp hword.2 c hif
    · exact hdigits _ c hnumber

def deviceId (entry : UsbEntry) : DeviceId := ⟨entry.idText, entry.idText_wellFormed⟩

end UsbEntry

end Lemnos.Linux
