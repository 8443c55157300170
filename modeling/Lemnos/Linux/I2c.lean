import Lemnos.Core.Request
import Lemnos.Linux.GpioCdev
import Lemnos.Linux.Session

namespace Lemnos.Linux

open Lemnos.Core Bus Library.Frames

inductive IoErrorKind where
  | permissionDenied
  | notFound
  | unsupported
  | invalidInput
  | invalidData
  | other
  deriving DecidableEq

/-- An error of the device with what the code looks at, and how it renders. -/
structure LinuxI2cError where
  kind : IoErrorKind
  rawOsError : Option Int
  text : String
  deriving DecidableEq

inductive I2cDeviceCall where
  | new (devnode : String) (address : UInt16)
  | setSlaveAddress (address : UInt16)
  | read (length : ℕ)
  | write (bytes : List UInt8)
  | transfer (write : List UInt8) (length : ℕ)
  | smbusWriteByte (value : UInt8)
  | smbusWriteByteData (register value : UInt8)
  | smbusWriteI2cBlockData (register : UInt8) (values : List UInt8)
  | smbusReadI2cBlockData (register length : UInt8)
  | smbusReadByteData (register : UInt8)
  deriving DecidableEq

def I2cDeviceCall.isTransfer : I2cDeviceCall → Bool
  | .new .. | .setSlaveAddress _ => false
  | _ => true

/-- What the device answers to a call after the calls made before, with the bytes that it gives. -/
abbrev I2cHost := List I2cDeviceCall → I2cDeviceCall → Except LinuxI2cError (List UInt8)

structure LinuxI2cDevice where
  calls : List I2cDeviceCall := []

namespace LinuxI2cDevice

abbrev Io (E α : Type) := Effect LinuxI2cDevice E α

def call (host : I2cHost) (call : I2cDeviceCall) : Io LinuxI2cError (List UInt8) := do
  let device ← get
  modify fun device => { device with calls := device.calls ++ [call] }
  MonadExcept.ofExcept (host device.calls call)

theorem exec_call (host : I2cHost) (made : I2cDeviceCall) (device : LinuxI2cDevice) :
    (call host made).exec device = (host device.calls made, ⟨device.calls ++ [made]⟩) := by
  rw [call, exec_bind_of_ok (exec_get device), exec_bind_of_ok (exec_modify _ _), exec_ofExcept]

end LinuxI2cDevice

open LinuxI2cDevice

def isSmbusUnsupportedKindOrErrno (kind : IoErrorKind) (rawOsError : Option Int) : Bool :=
  kind = .unsupported || [some 22, some 25, some 38, some 95].contains rawOsError

def shouldTrySmbusFallback (error : LinuxI2cError) : Bool :=
  isSmbusUnsupportedKindOrErrno error.kind error.rawOsError

def filled (length : ℕ) (bytes : List UInt8) : List UInt8 :=
  bytes.take length ++ List.replicate (length - bytes.length) 0

section Smbus

variable (host : I2cHost)

def smbusWriteByteDataFrom (register : UInt8) : ℕ → List UInt8 → Io LinuxI2cError Unit
  | _, [] => pure ()
  | index, value :: values => do
    let _ ← call host (.smbusWriteByteData (register + UInt8.ofNat index) value)
    smbusWriteByteDataFrom register (index + 1) values

def smbusWriteByteDataSequence (register : UInt8) (values : List UInt8) : Io LinuxI2cError Unit :=
  smbusWriteByteDataFrom host register 0 values

def smbusWriteFallback : List UInt8 → Io LinuxI2cError Unit
  | [] => pure ()
  | [value] => do let _ ← call host (.smbusWriteByte value)
  | [register, value] => do let _ ← call host (.smbusWriteByteData register value)
  | register :: values =>
    if values.length ≤ 32 then do
      match ← (call host (.smbusWriteI2cBlockData register values)).attempt with
      | .ok _ => return
      | .error error =>
        if isSmbusUnsupportedKindOrErrno error.kind error.rawOsError then
          smbusWriteByteDataSequence host register values
        else throw error
    else smbusWriteByteDataSequence host register values

def smbusReadByteDataFrom (register : UInt8) : ℕ → ℕ → Io LinuxI2cError (List UInt8)
  | _, 0 => return []
  | offset, remaining + 1 => do
    let bytes ← call host (.smbusReadByteData (register + UInt8.ofNat offset))
    return bytes.headD 0 :: (← smbusReadByteDataFrom register (offset + 1) remaining)

def smbusReadRegisterDataSequence (register : UInt8) (readLength : UInt32) :
    Io LinuxI2cError (List UInt8) := do
  if readLength.toNat = 0 then return []
  if readLength.toNat ≤ 32 then
    if let .ok bytes ← (call host (.smbusReadI2cBlockData register (UInt8.ofNat readLength.toNat))).attempt then
      return bytes
  smbusReadByteDataFrom host register 0 readLength.toNat

def smbusWriteReadFallback (write : List UInt8) (readLength : UInt32) : Io LinuxI2cError (List UInt8) :=
  match write with
  | [register] => smbusReadRegisterDataSequence host register readLength
  | _ => throw ⟨.unsupported, none, "SMBus fallback requires a single register byte for write_read"⟩

end Smbus

section Kernel

variable (host : I2cHost) (deviceId : DeviceId)

def invalidI2cRequest (operation reason : String) : BusError := .invalidRequest deviceId operation reason

def transportI2cFailure (operation reason : String) : BusError := .transportFailure deviceId operation reason

def linuxI2cReadInto (length : ℕ) : Io BusError (List UInt8) := do
  if length = 0 then
    throw (invalidI2cRequest deviceId "i2c.read" "read length must be greater than zero")
  let bytes ← ExceptT.adapt (fun error : LinuxI2cError =>
    transportI2cFailure deviceId "i2c.read" s!"Linux I2C read failed: {error.text}") (call host (.read length))
  return filled length bytes

def linuxI2cRead (length : UInt32) : Io BusError (List UInt8) := do
  if length = 0 then
    throw (invalidI2cRequest deviceId "i2c.read" "read length must be greater than zero")
  linuxI2cReadInto host deviceId length.toNat

def linuxI2cWrite (bytes : List UInt8) : Io BusError Unit := do
  if bytes = [] then
    throw (invalidI2cRequest deviceId "i2c.write" "write payload must not be empty")
  match ← (call host (.write bytes)).attempt with
  | .ok _ => return
  | .error error =>
    if shouldTrySmbusFallback error then
      ExceptT.adapt (fun fallback : LinuxI2cError => transportI2cFailure deviceId "i2c.write"
        s!"Linux I2C write failed: {error.text}; SMBus fallback also failed: {fallback.text}")
        (smbusWriteFallback host bytes)
    else throw (transportI2cFailure deviceId "i2c.write" s!"Linux I2C write failed: {error.text}")

def checkedFallback (write : List UInt8) (length : ℕ) : Io LinuxI2cError (List UInt8) := do
  let bytes ← smbusWriteReadFallback host write (UInt32.ofNat length)
  if bytes.length ≠ length then
    throw ⟨.invalidData, none, s!"SMBus fallback returned {bytes.length} bytes, expected {length}"⟩
  return bytes

def linuxI2cWriteReadInto (write : List UInt8) (length : ℕ) : Io BusError (List UInt8) := do
  if write = [] then
    throw (invalidI2cRequest deviceId "i2c.write_read" "write buffer must not be empty")
  if length = 0 then
    throw (invalidI2cRequest deviceId "i2c.write_read" "read length must be greater than zero")
  match ← (call host (.transfer write length)).attempt with
  | .ok bytes => return filled length bytes
  | .error error =>
    if shouldTrySmbusFallback error then
      ExceptT.adapt (fun fallback : LinuxI2cError => transportI2cFailure deviceId "i2c.write_read"
        s!"Linux I2C write_read transfer failed: {error.text}; SMBus fallback also failed: {fallback.text}")
        (checkedFallback host write length)
    else
      throw (transportI2cFailure deviceId "i2c.write_read" s!"Linux I2C write_read transfer failed: {error.text}")

def linuxI2cWriteRead (write : List UInt8) (readLength : UInt32) : Io BusError (List UInt8) := do
  if write = [] then
    throw (invalidI2cRequest deviceId "i2c.write_read" "write buffer must not be empty")
  if readLength = 0 then
    throw (invalidI2cRequest deviceId "i2c.write_read" "read length must be greater than zero")
  linuxI2cWriteReadInto host deviceId write readLength.toNat

def linuxI2cOperation (operation : I2cOperation) : Io BusError (List UInt8) :=
  match operation with
  | .read length => linuxI2cRead host deviceId length
  | .write bytes => do
    linuxI2cWrite host deviceId bytes
    return []

def linuxI2cOperations : List I2cOperation → Io BusError (List (List UInt8))
  | [] => return []
  | operation :: operations => do
    let result ← linuxI2cOperation host deviceId operation
    return result :: (← linuxI2cOperations operations)

def linuxI2cTransaction (operations : List I2cOperation) : Io BusError (List (List UInt8)) := do
  if operations = [] then
    throw (invalidI2cRequest deviceId "i2c.transaction" "transaction operations must not be empty")
  linuxI2cOperations host deviceId operations

end Kernel

/-- The calls of the transport of a device, each with what it gives. A buffer is passed as its length. -/
inductive I2cTransportCall where
  | readInto (length : ℕ)
  | read (length : UInt32)
  | write (bytes : List UInt8)
  | writeReadInto (write : List UInt8) (length : ℕ)
  | writeRead (write : List UInt8) (readLength : UInt32)
  | transaction (operations : List I2cOperation)
  deriving DecidableEq

namespace I2cTransportCall

abbrev Result : I2cTransportCall → Type
  | .readInto _ | .read _ | .writeReadInto .. | .writeRead .. => List UInt8
  | .write _ => Unit
  | .transaction _ => List (List UInt8)

end I2cTransportCall

abbrev I2cTransport (τ : Type) := Transport τ I2cTransportCall I2cTransportCall.Result

abbrev I2cControllerTransport (τ : Type) :=
  Transport τ (UInt16 × I2cTransportCall) (fun call => I2cTransportCall.Result call.2)

def linuxI2cCall (host : I2cHost) (deviceId : DeviceId) : I2cTransport LinuxI2cDevice
  | .readInto length => linuxI2cReadInto host deviceId length
  | .read length => linuxI2cRead host deviceId length
  | .write bytes => linuxI2cWrite host deviceId bytes
  | .writeReadInto write length => linuxI2cWriteReadInto host deviceId write length
  | .writeRead write readLength => linuxI2cWriteRead host deviceId write readLength
  | .transaction operations => linuxI2cTransaction host deviceId operations

structure LinuxKernelI2cTransport where
  deviceId : DeviceId
  device : LinuxI2cDevice := {}

def LinuxKernelI2cTransport.transport (host : I2cHost) : I2cTransport LinuxKernelI2cTransport :=
  fun call => do
  let transport ← get
  (linuxI2cCall host transport.deviceId call).within LinuxKernelI2cTransport.device
    (fun device transport => { transport with device })

def hexAddress (address : UInt16) : String :=
  let digits := Nat.toDigits 16 address.toNat
  "0x" ++ String.ofList (List.replicate (4 - digits.length) '0' ++ digits)

def classifyControllerAddressError (ownerId : DeviceId) (devnode : String) (address : UInt16)
    (operation : String) (error : LinuxI2cError) : BusError :=
  let addressNote := s!"Linux I2C address {hexAddress address} on '{devnode}'"
  if error.kind = .permissionDenied ∨ error.rawOsError = some 1 ∨ error.rawOsError = some 13 then
    .permissionDenied ownerId operation s!"failed to select {addressNote}: {error.text}"
  else if error.rawOsError = some 16 then
    .accessConflict ownerId s!"{addressNote} is already in use by another kernel or userspace client"
  else if error.kind = .notFound ∨ error.rawOsError = some 6 ∨ error.rawOsError = some 19 then
    .sessionUnavailable ownerId s!"{addressNote} is not currently available: {error.text}"
  else .transportFailure ownerId operation s!"failed to select {addressNote}: {error.text}"

/-- The device of a controller is opened for the first address that is asked for. -/
structure LinuxKernelI2cControllerTransport where
  ownerId : DeviceId
  devnode : String
  opened : Bool := false
  device : LinuxI2cDevice := {}
  currentAddress : Option UInt16 := none

namespace LinuxKernelI2cControllerTransport

variable (host : I2cHost)

abbrev Io (α : Type) := Effect LinuxKernelI2cControllerTransport BusError α

def onDevice {α : Type} (effect : Effect LinuxI2cDevice BusError α) : Io α :=
  effect.within LinuxKernelI2cControllerTransport.device (fun device transport => { transport with device })

def chosen (address : UInt16) (transport : LinuxKernelI2cControllerTransport) :
    LinuxKernelI2cControllerTransport :=
  { transport with opened := true, currentAddress := some address }

def selectAddress (choice : I2cDeviceCall) (address : UInt16) (operation : String) : Io Unit := do
  let transport ← get
  let _ ← onDevice (ExceptT.adapt
    (classifyControllerAddressError transport.ownerId transport.devnode address operation) (call host choice))
  modify (chosen address)

def ensureAddress (address : UInt16) (operation : String) : Io Unit := do
  let transport ← get
  if !transport.opened then selectAddress host (.new transport.devnode address) address operation
  else if transport.currentAddress ≠ some address then
    selectAddress host (.setSlaveAddress address) address operation
  else pure ()

def operationName : I2cTransportCall → String
  | .readInto _ | .read _ => "i2c.read"
  | .write _ => "i2c.write"
  | .writeReadInto .. | .writeRead .. => "i2c.write_read"
  | .transaction _ => "i2c.transaction"

def transport : I2cControllerTransport LinuxKernelI2cControllerTransport := fun (address, call) => do
  ensureAddress host address (operationName call)
  let transport ← get
  onDevice (linuxI2cCall host transport.ownerId call)

end LinuxKernelI2cControllerTransport

def isWrite : I2cOperation → Bool
  | .read _ => false
  | .write _ => true

namespace LinuxI2cSession

variable {τ : Type} (T : I2cTransport τ)

open TransportSession

def readInto (length : ℕ) : Call τ (List UInt8) := readingCall T "I2C" "i2c.read" (.readInto length)

def read (length : UInt32) : Call τ (List UInt8) := readingCall T "I2C" "i2c.read" (.read length)

def write (bytes : List UInt8) : Call τ Unit :=
  writingCall T "I2C" "i2c.write" "session access is read-only" (.write bytes)

def writeReadInto (write : List UInt8) (length : ℕ) : Call τ (List UInt8) :=
  writingCall T "I2C" "i2c.write_read" "session access is read-only" (.writeReadInto write length)

def writeRead (write : List UInt8) (readLength : UInt32) : Call τ (List UInt8) :=
  writingCall T "I2C" "i2c.write_read" "session access is read-only" (.writeRead write readLength)

def transaction (operations : List I2cOperation) : Call τ (List (List UInt8)) :=
  if operations.any isWrite then
    writingCall T "I2C" "i2c.transaction" "session access is read-only" (.transaction operations)
  else readingCall T "I2C" "i2c.transaction" (.transaction operations)

end LinuxI2cSession

namespace LinuxI2cControllerSession

variable {τ : Type} (T : I2cControllerTransport τ) (address : UInt16)

open TransportSession

def readInto (length : ℕ) : Call τ (List UInt8) :=
  readingCall T "I2C controller" "i2c.read" (address, .readInto length)

def read (length : UInt32) : Call τ (List UInt8) :=
  readingCall T "I2C controller" "i2c.read" (address, .read length)

def write (bytes : List UInt8) : Call τ Unit :=
  writingCall T "I2C controller" "i2c.write" "session access is read-only" (address, .write bytes)

def writeReadInto (write : List UInt8) (length : ℕ) : Call τ (List UInt8) :=
  writingCall T "I2C controller" "i2c.write_read" "session access is read-only"
    (address, .writeReadInto write length)

def writeRead (write : List UInt8) (readLength : UInt32) : Call τ (List UInt8) :=
  writingCall T "I2C controller" "i2c.write_read" "session access is read-only"
    (address, .writeRead write readLength)

def transaction (operations : List I2cOperation) : Call τ (List (List UInt8)) :=
  if operations.any isWrite then
    writingCall T "I2C controller" "i2c.transaction" "session access is read-only"
      (address, .transaction operations)
  else readingCall T "I2C controller" "i2c.transaction" (address, .transaction operations)

end LinuxI2cControllerSession

end Lemnos.Linux
