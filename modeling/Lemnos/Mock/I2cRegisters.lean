import Lemnos.Mock.LifeCycle

namespace Lemnos.Mock

open Lemnos.Core Bus Library.Frames Library.OrderedMap

section State

variable {chip : MockI2cDeviceState}

def MockI2cDeviceState.bytesFrom (chip : MockI2cDeviceState) (start length : ℕ) : List UInt8 :=
  (List.range length).map fun index => chip.memory.getD (start + index) 0

theorem exec_readFromState (length : UInt32) (chip : MockI2cDeviceState) :
    (readFromState length).exec chip =
      (.ok (chip.bytesFrom chip.pointer length.toNat), { chip with pointer := chip.pointer + length.toNat }) :=
  rfl

theorem exec_writeToState (deviceId : DeviceId) (offset : UInt8) (bytes : List UInt8)
    (chip : MockI2cDeviceState) : ∃ memory, (writeToState deviceId (offset :: bytes)).exec chip =
      (.ok (), { chip with memory, pointer := offset.toNat + bytes.length }) := by
  cases bytes with
  | nil => exact ⟨chip.memory, rfl⟩
  | cons byte bytes => exact ⟨overwrite chip.memory offset.toNat (byte :: bytes), rfl⟩

theorem exec_transactionState_cons (deviceId : DeviceId) {operation : I2cOperation}
    (h : operation ≠ .write []) (chip : MockI2cDeviceState) :
    ∃ (bytes : List UInt8) (left : MockI2cDeviceState), left.descriptor = chip.descriptor ∧
      ∀ operations, (transactionState deviceId (operation :: operations)).exec chip =
        (((transactionState deviceId operations).exec left).1.map (bytes :: ·),
          ((transactionState deviceId operations).exec left).2) := by
  cases operation with
  | read length =>
    refine ⟨chip.bytesFrom chip.pointer length.toNat,
      { chip with pointer := chip.pointer + length.toNat }, rfl, fun operations => ?_⟩
    rw [transactionState, exec_bind_of_ok (exec_readFromState length chip), exec_bind_pure]
  | write bytes =>
    cases bytes with
    | nil => exact absurd rfl h
    | cons offset bytes =>
      obtain ⟨memory, hwrite⟩ := exec_writeToState deviceId offset bytes chip
      refine ⟨[], { chip with memory, pointer := offset.toNat + bytes.length }, rfl, fun operations => ?_⟩
      rw [transactionState, exec_bind_of_ok hwrite, exec_bind_pure]

theorem exec_transactionState_append (deviceId : DeviceId) {earlier : List I2cOperation}
    (h : I2cOperation.write [] ∉ earlier) (chip : MockI2cDeviceState) :
    ∃ results between, (transactionState deviceId earlier).exec chip = (.ok results, between) ∧
      between.descriptor = chip.descriptor ∧
      ∀ later, (transactionState deviceId (earlier ++ later)).exec chip =
        (((transactionState deviceId later).exec between).1.map (results ++ ·),
          ((transactionState deviceId later).exec between).2) := by
  induction earlier generalizing chip with
  | nil =>
    refine ⟨[], chip, rfl, rfl, fun later => ?_⟩
    rw [List.nil_append]
    cases (transactionState deviceId later).exec chip with
    | mk result left => cases result <;> rfl
  | cons operation earlier ih =>
    rw [List.mem_cons, not_or] at h
    obtain ⟨bytes, left, hleft, hfirst⟩ := exec_transactionState_cons deviceId (Ne.symm h.1) chip
    obtain ⟨results, between, hearlier, hbetween, happend⟩ := ih h.2 left
    refine ⟨bytes :: results, between, ?_, hbetween.trans hleft, fun later => ?_⟩
    · rw [hfirst, hearlier]
      rfl
    · rw [List.cons_append, hfirst, happend]
      cases (transactionState deviceId later).exec between with
      | mk result left => cases result <;> rfl

end State

/-- A session of the device itself, or one of its bus that names it by its address. -/
inductive MockI2cPath where
  | device
  | controller (bus : UInt32) (address : UInt16)

namespace MockI2cPath

def read : MockI2cPath → UInt32 → MockMethod (List UInt8)
  | device => MockI2cSession.read
  | controller bus address => MockI2cControllerSession.read bus address

def write : MockI2cPath → List UInt8 → MockMethod Unit
  | device => MockI2cSession.write
  | controller bus address => MockI2cControllerSession.write bus address

def writeRead : MockI2cPath → List UInt8 → UInt32 → MockMethod (List UInt8)
  | device => MockI2cSession.writeRead
  | controller bus address => MockI2cControllerSession.writeRead bus address

def transaction : MockI2cPath → List I2cOperation → MockMethod (List (List UInt8))
  | device => MockI2cSession.transaction
  | controller bus address => MockI2cControllerSession.transaction bus address

def chip (path : MockI2cPath) (opened : MockOpened) : Option MockI2cDeviceState :=
  match path with
  | device => opened.hardware.i2cDevices[opened.device]?
  | controller bus address =>
    (opened.hardware.i2cDevices.toList.find?
      fun entry => entry.2.descriptor.address = some (.i2cDevice bus address)).map Prod.snd

def outcome {α : Type} (path : MockI2cPath) (method : MockMethod α) (opened : MockOpened) :
    BusResult α × Option MockI2cDeviceState :=
  ((method.call.exec opened).1, path.chip (method.call.exec opened).2)

structure Serves (path : MockI2cPath) (opened : MockOpened) (chip : MockI2cDeviceState) : Prop where
  reaches : path.chip opened = some chip
  faultless : ∀ operation, opened.hardware.faults.next opened.device operation = none

def target : MockI2cPath → I2cTarget
  | device => MockI2cSession.withDeviceStateMut
  | controller bus address => MockI2cControllerSession.withTargetDeviceStateMut bus address

variable {path : MockI2cPath} {opened : MockOpened} {chip : MockI2cDeviceState} {α : Type}

theorem exec_withStateMut {hardware : MockHardwareState} {key : DeviceId}
    (h : hardware.i2cDevices[key]? = some chip) (missing : BusError) (update : I2cStateCall α) :
    (i2cDevices.withStateMut key missing update).exec hardware = ((update.exec chip).1,
      { hardware with i2cDevices := hardware.i2cDevices.insert key (update.exec chip).2 }) := by
  have hentry : (i2cDevices.entries hardware)[key]? = some chip := h
  have hstate : (i2cDevices.stateOf key missing).exec hardware = (.ok chip, hardware) := by
    rw [exec_stateOf, hentry]
  rw [Table.withStateMut, exec_bind_of_ok hstate, exec_within]
  rfl

theorem Serves.exec_target (h : path.Serves opened chip) (owner : DeviceId) {update : I2cStateCall α}
    (howner : owner = opened.device) (hupdate : (update.exec chip).2.descriptor = chip.descriptor) :
    ((path.target owner update).exec opened.hardware).1 = (update.exec chip).1 ∧
    ((path.target owner update).exec opened.hardware).2.faults = opened.hardware.faults ∧
    path.chip { opened with hardware := ((path.target owner update).exec opened.hardware).2 } =
      some (update.exec chip).2 := by
  subst howner
  cases path with
  | device =>
    have hentry : opened.hardware.i2cDevices[opened.device]? = some chip := h.reaches
    rw [target, MockI2cSession.withDeviceStateMut, exec_withStateMut hentry]
    exact ⟨rfl, rfl, BTreeMap.getElem?_insert_same _ _ _⟩
  | controller bus address =>
    obtain ⟨⟨key, found⟩, hfind, hfound⟩ := Option.map_eq_some_iff.mp h.reaches
    obtain rfl : chip = found := hfound.symm
    obtain ⟨hentry, haddress, -⟩ := (BTreeMap.find?_toList_eq_some_iff _).mp hfind
    rw [target, MockI2cControllerSession.withTargetDeviceStateMut, exec_bind_of_ok (exec_get opened.hardware)]
    simp only [hfind]
    rw [exec_withStateMut hentry]
    refine ⟨rfl, rfl, ?_⟩
    have hsame : decide ((update.exec chip).2.descriptor.address = some (.i2cDevice bus address)) = true := by
      rw [hupdate]
      exact haddress
    exact congrArg (Option.map Prod.snd) (BTreeMap.find?_toList_insert hfind hsame)

def Performs (path : MockI2cPath) (opened : MockOpened) (chip : MockI2cDeviceState) (method : MockMethod α)
    (update : I2cStateCall α) : Prop :=
  (method.call.exec opened).1 = (update.exec chip).1 ∧
    (method.call.exec opened).2.device = opened.device ∧
    path.Serves (method.call.exec opened).2 (update.exec chip).2

theorem Serves.run (h : path.Serves opened chip) (check : DeviceId → SessionAccess → BusResult Unit)
    (operation : String) (update : DeviceId → I2cStateCall α)
    (hcheck : check opened.device opened.metadata.access = .ok ())
    (hupdate : ((update opened.device).exec chip).2.descriptor = chip.descriptor) :
    path.Performs opened chip (.run check operation fun device => path.target device (update device))
      (update opened.device) := by
  obtain ⟨hresult, hfaults, hchip⟩ := h.exec_target opened.device rfl hupdate
  have hchecked : (MonadExcept.ofExcept (check opened.device opened.metadata.access) :
      SessionCall Unit).exec opened = (.ok (), opened) := by
    rw [exec_ofExcept, hcheck]
  have hexec : (MockMethod.run check operation fun device =>
      path.target device (update device)).call.exec opened =
      (MockOpened.runCall (path.target opened.device (update opened.device))).exec opened := by
    rw [MockMethod.call, exec_bind_of_ok (exec_get opened), exec_bind_of_ok hchecked, exec_runCall,
      exec_bind_of_ok (exec_takeInjectedError_of_none (h.faultless operation)), exec_runCall]
  rw [Performs, hexec, exec_runCall]
  refine ⟨hresult, rfl, hchip, fun operation => ?_⟩
  exact (congrArg (fun faults => MockFaultRegistry.next faults _ operation) hfaults).trans
    (h.faultless operation)

theorem Serves.read (h : path.Serves opened chip) {length : UInt32} (hlength : length ≠ 0) :
    path.Performs opened chip (path.read length) (readFromState length) := by
  have hrun := h.run (fun device _ => rejectZeroLength "i2c.read" length device) "i2c.read"
    (fun _ => readFromState length) (if_neg hlength) rfl
  cases path <;> exact hrun

theorem Serves.write (h : path.Serves opened chip) (offset : UInt8) (bytes : List UInt8) :
    path.Performs opened chip (path.write (offset :: bytes)) (writeToState opened.device (offset :: bytes)) := by
  obtain ⟨memory, hwrite⟩ := exec_writeToState opened.device offset bytes chip
  have hrun := h.run unchecked "i2c.write" (fun device => writeToState device (offset :: bytes)) rfl
    (congrArg (fun done => done.2.descriptor) hwrite)
  cases path <;> exact hrun

theorem exec_writeReadState (deviceId : DeviceId) (offset : UInt8) (bytes : List UInt8) (length : UInt32)
    (chip : MockI2cDeviceState) :
    (writeReadState deviceId (offset :: bytes) length).exec chip =
      (readFromState length).exec
        { ((writeToState deviceId (offset :: bytes)).exec chip).2 with pointer := offset.toNat } := by
  cases bytes with
  | nil => rfl
  | cons byte bytes => rfl

theorem Serves.writeRead (h : path.Serves opened chip) (offset : UInt8) (bytes : List UInt8) {length : UInt32}
    (hlength : length ≠ 0) :
    path.Performs opened chip (path.writeRead (offset :: bytes) length)
      (writeReadState opened.device (offset :: bytes) length) := by
  obtain ⟨memory, hwrite⟩ := exec_writeToState opened.device offset bytes chip
  have hkept : ((writeReadState opened.device (offset :: bytes) length).exec chip).2.descriptor =
      chip.descriptor := by
    rw [exec_writeReadState, hwrite]
    rfl
  have hrun := h.run (fun device _ => rejectZeroLength "i2c.write_read" length device) "i2c.write_read"
    (fun device => writeReadState device (offset :: bytes) length) (if_neg hlength) hkept
  cases path <;> exact hrun

theorem Serves.transaction (h : path.Serves opened chip) {operations : List I2cOperation}
    (hoperations : operations ≠ []) (hwrites : I2cOperation.write [] ∉ operations) :
    path.Performs opened chip (path.transaction operations) (transactionState opened.device operations) := by
  obtain ⟨results, left, hexec, hkept, -⟩ := exec_transactionState_append opened.device hwrites chip
  have hrun := h.run (fun device _ => rejectNoOperations operations device) "i2c.transaction"
    (fun device => transactionState device operations) (if_neg hoperations)
    ((congrArg (fun done => done.2.descriptor) hexec).trans hkept)
  cases path <;> exact hrun

end MockI2cPath

open MockI2cPath

end Lemnos.Mock
