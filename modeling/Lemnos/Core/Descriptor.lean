import Lemnos.Core.Interface

namespace Lemnos.Core

open Library.OrderedMap

structure TimestampMs where
  asU64 : UInt64
  deriving DecidableEq

/-- The bit pattern that stands for an `f64` under `OrderedFloat` equality: one zero and one NaN. -/
def canonicalBits (bits : UInt64) : UInt64 :=
  if bits = 0x8000000000000000 then 0
  else if 0x7ff0000000000000 < bits &&& 0x7fffffffffffffff then 0x7ff8000000000000
  else bits

structure OrderedFloat where
  bits : UInt64
  canonical : canonicalBits bits = bits
  deriving DecidableEq

/-- Dynamic values. A map is the list of its entries in ascending key order. -/
inductive Value where
  | null
  | bool (value : Bool)
  | i64 (value : Int64)
  | u64 (value : UInt64)
  | f64 (value : OrderedFloat)
  | string (value : String)
  | bytes (value : List UInt8)
  | list (values : List Value)
  | map (values : List (String × Value))

abbrev ValueMap := List (String × Value)

namespace Value

mutual

def decEq : (a b : Value) → Decidable (a = b)
  | null, b => match b with
    | null => isTrue rfl
    | bool _ | i64 _ | u64 _ | f64 _ | string _ | bytes _ | list _ | map _ => isFalse (by simp)
  | bool a, b => match b with
    | bool b => decidable_of_iff (a = b) (by simp)
    | null | i64 _ | u64 _ | f64 _ | string _ | bytes _ | list _ | map _ => isFalse (by simp)
  | i64 a, b => match b with
    | i64 b => decidable_of_iff (a = b) (by simp)
    | null | bool _ | u64 _ | f64 _ | string _ | bytes _ | list _ | map _ => isFalse (by simp)
  | u64 a, b => match b with
    | u64 b => decidable_of_iff (a = b) (by simp)
    | null | bool _ | i64 _ | f64 _ | string _ | bytes _ | list _ | map _ => isFalse (by simp)
  | f64 a, b => match b with
    | f64 b => decidable_of_iff (a = b) (by simp)
    | null | bool _ | i64 _ | u64 _ | string _ | bytes _ | list _ | map _ => isFalse (by simp)
  | string a, b => match b with
    | string b => decidable_of_iff (a = b) (by simp)
    | null | bool _ | i64 _ | u64 _ | f64 _ | bytes _ | list _ | map _ => isFalse (by simp)
  | bytes a, b => match b with
    | bytes b => decidable_of_iff (a = b) (by simp)
    | null | bool _ | i64 _ | u64 _ | f64 _ | string _ | list _ | map _ => isFalse (by simp)
  | list as, b => match b with
    | list bs => match decEqList as bs with
      | isTrue h => isTrue (by rw [h])
      | isFalse h => isFalse (by simpa using h)
    | null | bool _ | i64 _ | u64 _ | f64 _ | string _ | bytes _ | map _ => isFalse (by simp)
  | map as, b => match b with
    | map bs => match decEqEntries as bs with
      | isTrue h => isTrue (by rw [h])
      | isFalse h => isFalse (by simpa using h)
    | null | bool _ | i64 _ | u64 _ | f64 _ | string _ | bytes _ | list _ => isFalse (by simp)

def decEqList : (as bs : List Value) → Decidable (as = bs)
  | [], [] => isTrue rfl
  | [], _ :: _ => isFalse (by simp)
  | _ :: _, [] => isFalse (by simp)
  | a :: as, b :: bs => match decEq a b with
    | isFalse h => isFalse (by simp [h])
    | isTrue h => match decEqList as bs with
      | isTrue hs => isTrue (by rw [h, hs])
      | isFalse hs => isFalse (by simp [hs])

def decEqEntries : (as bs : List (String × Value)) → Decidable (as = bs)
  | [], [] => isTrue rfl
  | [], _ :: _ => isFalse (by simp)
  | _ :: _, [] => isFalse (by simp)
  | (k, a) :: as, (l, b) :: bs => match decEq a b with
    | isFalse h => isFalse (by simp [h])
    | isTrue h => match decEqEntries as bs with
      | isTrue hs => decidable_of_iff (k = l) (by simp [h, hs])
      | isFalse hs => isFalse (by simp [hs])

end

instance : DecidableEq Value := decEq

end Value

structure CapabilityAccess where
  read : Bool
  write : Bool
  configure : Bool
  stream : Bool
  deriving DecidableEq

structure CapabilityDescriptor where
  id : CapabilityId
  summary : Option String
  access : CapabilityAccess
  properties : ValueMap
  deriving DecidableEq

inductive DeviceControlSurface where
  | linuxClass (root : String)
  deriving DecidableEq

inductive DeviceRelation where
  | parent
  | controller
  | bus
  | transport
  | interface
  | channel
  | dependency
  | peer
  | consumer
  | provider
  | custom (name : String)
  deriving DecidableEq

structure DeviceLink where
  target : DeviceId
  relation : DeviceRelation
  attributes : ValueMap
  deriving DecidableEq

structure MatchHints where
  driverHint : Option String := none
  modalias : Option String := none
  compatible : List String := []
  vendor : Option String := none
  model : Option String := none
  revision : Option String := none
  serialNumber : Option String := none
  hardwareIds : BTreeMap String String := ∅
  deriving DecidableEq

inductive DeviceHealth where
  | healthy
  | degraded
  | failed
  | offline
  | unknown
  deriving DecidableEq

structure DeviceDescriptor where
  id : DeviceId
  localId : Option LocalDeviceId := none
  interface : InterfaceKind
  kind : DeviceKind := .unspecified interface
  displayName : Option String := none
  summary : Option String := none
  address : Option DeviceAddress := none
  labels : BTreeMap String String := ∅
  properties : ValueMap := []
  controlSurface : Option DeviceControlSurface := none
  capabilities : List CapabilityDescriptor := []
  links : List DeviceLink := []
  health : DeviceHealth := .healthy
  matchHints : MatchHints := {}
  deriving DecidableEq

namespace DeviceDescriptor

def validate (device : DeviceDescriptor) : CoreResult Unit :=
  if device.kind.interface ≠ device.interface then
    .error (.kindInterfaceMismatch device.kind device.interface)
  else
    match device.address with
    | some address =>
      if address.interface ≠ device.interface then
        .error (.addressInterfaceMismatch address device.interface)
      else
        .ok ()
    | none => .ok ()

theorem validate_iff (device : DeviceDescriptor) :
    device.validate = .ok () ↔ device.kind.interface = device.interface ∧
      ∀ address ∈ device.address, address.interface = device.interface := by
  unfold validate
  split
  · rename_i hk
    simp [hk]
  · rename_i hk
    rw [not_not] at hk
    cases device.address <;> simp [hk]

end DeviceDescriptor

def gpioLineDescriptor : DeviceDescriptor := { id := gpioLine, interface := .gpio }

end Lemnos.Core
