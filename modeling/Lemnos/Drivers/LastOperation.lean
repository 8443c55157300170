import Lemnos.Drivers.Telemetry

namespace Lemnos.Drivers

open Lemnos.Core Bus DriverSdk Library.Frames

def recorded : StandardRequest → Bool
  | .gpio .getConfiguration | .pwm .getConfiguration => false
  | .spi (.configure _) | .spi .getConfiguration => false
  | .uart (.configure _) | .uart .getConfiguration => false
  | _ => true

def payload : StandardRequest → StandardResponse → Option (List UInt8)
  | .usb (.control transfer), .usb (.bytes bytes) =>
    if transfer.setup.direction = .input then some bytes else none
  | _, .i2c (.bytes bytes) | _, .spi (.bytes bytes) | _, .uart (.bytes bytes) | _, .usb (.bytes bytes) =>
    some bytes
  | _, _ => none

def count (bytes : List UInt8) : Value := .u64 (UInt64.ofNat bytes.length)

/-- What is put on record of a request that brings no bytes: the value that it read or set, or how much it moved. -/
def told : StandardRequest → StandardResponse → Option Value
  | .gpio .read, .gpio (.level level) | .gpio (.write level), _ => some (levelName level)
  | .pwm (.enable enabled), _ => some (.bool enabled)
  | .pwm (.configure configuration), _ =>
    some (.string s!"{configuration.periodNs}:{configuration.dutyCycleNs}")
  | .pwm (.setPeriod ns), _ | .pwm (.setDutyCycle ns), _ => some (.u64 ns)
  | .i2c (.write bytes), _ | .spi (.write bytes), _ | .uart (.write bytes), _ => some (count bytes)
  | .i2c (.transaction operations), _ => some (.u64 (UInt64.ofNat operations.length))
  | .usb (.control transfer), _ =>
    if transfer.setup.direction = .output then some (count transfer.data) else none
  | .usb (.bulkWrite _ bytes _), _ => some (count bytes)
  | .usb (.interruptWrite transfer), _ => some (count transfer.bytes)
  | .usb (.claimInterface interfaceNumber _), _ | .usb (.releaseInterface interfaceNumber), _ =>
    some (.u64 interfaceNumber.toUInt64)
  | _, _ => none

/-- The bytes of a device that an output keeps. -/
def retained : Value → List UInt8
  | .bytes bytes => bytes
  | .map values =>
    match values.lookup "preview" with
    | some (.bytes bytes) => bytes
    | _ => []
  | _ => []

/-- The output keeps the bytes, or says how many there were next to the first of them. -/
structure Retains (bytes : List UInt8) (output : Value) : Prop where
  retained : retained output = bytes.take maxRetainedOutputBytes
  whole : bytes.length ≤ maxRetainedOutputBytes → output = .bytes bytes
  preview : maxRetainedOutputBytes < bytes.length → ∃ values, output = .map values ∧
    values.lookup "truncated" = some (.bool true) ∧
    values.lookup "len" = some (.u64 (UInt64.ofNat bytes.length)) ∧
    values.lookup "retained_len" = some (.u64 (UInt64.ofNat maxRetainedOutputBytes))

theorem retains_boundedBytesOutput (bytes : List UInt8) : Retains bytes (boundedBytesOutput bytes) := by
  unfold boundedBytesOutput
  by_cases h : bytes.length ≤ maxRetainedOutputBytes
  · rw [if_pos h]
    exact ⟨(List.take_of_length_le h).symm, fun _ => rfl, fun hlong => absurd h (by omega)⟩
  · rw [if_neg h]
    exact ⟨by simp [retained, lookup_insertValue], fun hshort => absurd hshort h,
      fun hlong => ⟨_, rfl, by simp [lookup_insertValue]⟩⟩

structure Tells (request : StandardRequest) (response : StandardResponse) (record : OperationRecord) : Prop where
  interaction : record.interaction = request.name
  status : record.status = .succeeded
  summary : record.summary.isSome = true
  bounded : ∀ output, record.output = some output → (retained output).length ≤ maxRetainedOutputBytes
  payload : ∀ bytes, payload request response = some bytes →
    ∃ output, record.output = some output ∧ Retains bytes output
  told : Drivers.payload request response = none → record.output = told request response

theorem tells_bytes {request : StandardRequest} {response : StandardResponse} {summary : String}
    {bytes : List UInt8} (h : payload request response = some bytes) :
    Tells request response (succeededOperationWithOutput request.name summary (boundedBytesOutput bytes)) where
  interaction := rfl
  status := rfl
  summary := rfl
  bounded output houtput := by
    cases houtput
    rw [(retains_boundedBytesOutput bytes).retained, List.length_take]
    exact Nat.min_le_left _ _
  payload bytes' hbytes := by
    cases h.symm.trans hbytes
    exact ⟨_, rfl, retains_boundedBytesOutput bytes⟩
  told hnone := by
    rw [h] at hnone
    cases hnone

theorem tells_output {request : StandardRequest} {response : StandardResponse} {summary : String}
    {output : Value} (h : payload request response = none) (htold : told request response = some output)
    (houtput : retained output = []) :
    Tells request response (succeededOperationWithOutput request.name summary output) where
  interaction := rfl
  status := rfl
  summary := rfl
  bounded output' houtput' := by
    cases houtput'
    rw [houtput]
    exact Nat.zero_le _
  payload bytes hbytes := by
    rw [h] at hbytes
    cases hbytes
  told _ := htold.symm

theorem tells_plain {request : StandardRequest} {response : StandardResponse} {summary : String}
    (h : payload request response = none) (htold : told request response = none) :
    Tells request response (succeededOperation request.name summary) where
  interaction := rfl
  status := rfl
  summary := rfl
  bounded output houtput := by cases houtput
  payload bytes hbytes := by
    rw [h] at hbytes
    cases hbytes
  told _ := htold.symm

def Stats.lastOperation : (interface : InterfaceKind) → Stats interface → Option OperationRecord
  | .gpio => GpioStats.lastOperation
  | .pwm => PwmStats.lastOperation
  | .i2c => I2cStats.lastOperation
  | .spi => SpiStats.lastOperation
  | .uart => UartStats.lastOperation
  | .usb => UsbStats.lastOperation

def record (request : StandardRequest) (response : StandardResponse) : Option OperationRecord :=
  Stats.lastOperation request.interface (book request.interface request response (Stats.initial _))

/-- What is entered for a request that was served replaces the last operation by a true record of it, or leaves it. -/
structure Recorded (request : StandardRequest) (response : StandardResponse)
    (after before : Option OperationRecord) : Prop where
  overwrites : after = (record request response).or before
  isSome : (record request response).isSome = recorded request
  tells : ∀ one, record request response = some one → Tells request response one

namespace Recorded

variable {request : StandardRequest} {response : StandardResponse} {before : Option OperationRecord}

theorem new {one : OperationRecord} (tells : Tells request response one)
    (h : record request response = some one) (hrecorded : recorded request = true) :
    Recorded request response (some one) before where
  overwrites := by rw [h, Option.some_or]
  isSome := by rw [h, hrecorded, Option.isSome_some]
  tells other hother := by
    cases h.symm.trans hother
    exact tells

theorem kept (h : record request response = none) (hrecorded : recorded request = false) :
    Recorded request response before before where
  overwrites := by rw [h, Option.none_or]
  isSome := by rw [h, hrecorded, Option.isSome_none]
  tells other hother := by
    rw [h] at hother
    cases hother

end Recorded

theorem gpio_recorded {request : GpioRequest} {response : GpioResponse} (answers : GpioAnswers request response)
    (stats : GpioStats) : Recorded (.gpio request) (.gpio response)
      (GpioBoundDevice.book request response stats).lastOperation stats.lastOperation := by
  cases answers with
  | read level => cases level <;> exact .new (tells_output rfl rfl rfl) rfl rfl
  | write level => cases level <;> exact .new (tells_output rfl rfl rfl) rfl rfl
  | configure asked => exact .new (tells_plain rfl rfl) rfl rfl
  | configuration configuration => exact .kept rfl rfl

theorem pwm_recorded {request : PwmRequest} {response : PwmResponse} (answers : PwmAnswers request response)
    (stats : PwmStats) : Recorded (.pwm request) (.pwm response)
      (PwmBoundDevice.book request stats).lastOperation stats.lastOperation := by
  cases answers with
  | enable enabled => exact .new (tells_output rfl rfl rfl) rfl rfl
  | configure asked => exact .new (tells_output rfl rfl rfl) rfl rfl
  | setPeriod periodNs => exact .new (tells_output rfl rfl rfl) rfl rfl
  | setDutyCycle dutyCycleNs => exact .new (tells_output rfl rfl rfl) rfl rfl
  | configuration configuration => exact .kept rfl rfl

theorem i2c_recorded {request : I2cRequest} {response : I2cResponse} (answers : I2cAnswers request response)
    (stats : I2cStats) : Recorded (.i2c request) (.i2c response)
      (I2cBoundDevice.book request response stats).lastOperation stats.lastOperation := by
  cases answers with
  | read length bytes => exact .new (tells_bytes rfl) rfl rfl
  | write bytes => exact .new (tells_output rfl rfl rfl) rfl rfl
  | writeRead write readLength bytes => exact .new (tells_bytes rfl) rfl rfl
  | transaction h => exact .new (tells_output rfl rfl rfl) rfl rfl

theorem spi_recorded {request : SpiRequest} {response : SpiResponse} (answers : SpiAnswers request response)
    (stats : SpiStats) : Recorded (.spi request) (.spi response)
      (SpiBoundDevice.book request response stats).lastOperation stats.lastOperation := by
  cases answers with
  | transfer write bytes => exact .new (tells_bytes rfl) rfl rfl
  | write bytes => exact .new (tells_output rfl rfl rfl) rfl rfl
  | configure asked => exact .kept rfl rfl
  | configuration configuration => exact .kept rfl rfl

theorem uart_recorded {request : UartRequest} {response : UartResponse} (answers : UartAnswers request response)
    (stats : UartStats) : Recorded (.uart request) (.uart response)
      (UartBoundDevice.book request response stats).lastOperation stats.lastOperation := by
  cases answers with
  | read maxBytes bytes => exact .new (tells_bytes rfl) rfl rfl
  | write bytes => exact .new (tells_output rfl rfl rfl) rfl rfl
  | configure asked => exact .kept rfl rfl
  | flush => exact .new (tells_plain rfl rfl) rfl rfl
  | configuration configuration => exact .kept rfl rfl

theorem usb_control_recorded (transfer : UsbControlTransfer) (bytes : List UInt8) (stats : UsbStats) :
    Recorded (.usb (.control transfer)) (.usb (.bytes bytes))
      (UsbBoundDevice.recordControl transfer bytes stats).lastOperation stats.lastOperation := by
  have hrecord : record (.usb (.control transfer)) (.usb (.bytes bytes)) =
      (UsbBoundDevice.recordControl transfer bytes {}).lastOperation := rfl
  unfold UsbBoundDevice.recordControl at hrecord ⊢
  cases hdirection : transfer.setup.direction with
  | input =>
    rw [hdirection] at hrecord
    exact .new (tells_bytes (by simp [payload, hdirection])) hrecord rfl
  | output =>
    have htold : told (.usb (.control transfer)) (.usb (.bytes bytes)) = some (count transfer.data) :=
      if_pos hdirection
    rw [hdirection] at hrecord
    exact .new (tells_output (by simp [payload, hdirection]) htold rfl) hrecord rfl

theorem usb_recorded {request : UsbRequest} {response : UsbResponse} (answers : UsbAnswers request response)
    (stats : UsbStats) : Recorded (.usb request) (.usb response)
      (UsbBoundDevice.book request response stats).lastOperation stats.lastOperation := by
  cases answers with
  | control transfer bytes => exact usb_control_recorded transfer bytes stats
  | bulkRead endpoint length timeoutMs bytes => exact .new (tells_bytes rfl) rfl rfl
  | bulkWrite endpoint bytes timeoutMs => exact .new (tells_output rfl rfl rfl) rfl rfl
  | interruptRead endpoint length timeoutMs bytes => exact .new (tells_bytes rfl) rfl rfl
  | interruptWrite transfer => exact .new (tells_output rfl rfl rfl) rfl rfl
  | claim number alternateSetting => exact .new (tells_output rfl rfl rfl) rfl rfl
  | release number => exact .new (tells_output rfl rfl rfl) rfl rfl

theorem book_recorded {interface : InterfaceKind} {request : StandardRequest} {response : StandardResponse}
    (own : request.interface = interface) (answers : Answers request response) (stats : Stats interface) :
    Recorded request response (Stats.lastOperation interface (book interface request response stats))
      (Stats.lastOperation interface stats) := by
  cases own
  cases answers with
  | gpio answers => exact gpio_recorded answers stats
  | pwm answers => exact pwm_recorded answers stats
  | i2c answers => exact i2c_recorded answers stats
  | spi answers => exact spi_recorded answers stats
  | uart answers => exact uart_recorded answers stats
  | usb answers => exact usb_recorded answers stats

def recordOfCall (call : BoundCall) (answer : BoundAnswer) : Option OperationRecord :=
  (served call answer).bind fun one => record one.1 one.2

theorem enter_records {interface : InterfaceKind} {call : BoundCall} {answer : BoundAnswer}
    (hfits : Fits interface call answer) (stats : Stats interface) :
    Stats.lastOperation interface (enter interface call answer stats) =
      (recordOfCall call answer).or (Stats.lastOperation interface stats) := by
  cases hfits with
  | response valid own answers => exact (book_recorded own answers stats).overwrites
  | state snapshot => exact Option.none_or.symm
  | closed => exact Option.none_or.symm

variable {S : Type}

theorem reports_lastOperation (arithmetic : DutyCycleArithmetic) (interface : InterfaceKind)
    (session : Session S interface) :
    Reports SessionBound.stats (fun stats snapshot => snapshot.lastOperation = Stats.lastOperation interface stats)
      (state arithmetic interface session) := by
  cases interface with
  | gpio =>
    refine .after (keepsStats_io _) fun configuration => .after (keepsStats_io _) fun level => .get_pure ?_
    exact fun bound => by simp [GpioBoundDevice.describe, Stats.lastOperation]
  | pwm =>
    refine .after (keepsStats_io _) fun configuration => .get_pure ?_
    exact fun bound => by simp [PwmBoundDevice.describe, PwmBoundDevice.withAddress_books, Stats.lastOperation]
  | i2c =>
    refine .get_pure fun bound => ?_
    simp [I2cBoundDevice.describe, I2cBoundDevice.withAddress_books, withByteTelemetry, Stats.lastOperation]
  | spi =>
    refine .after (keepsStats_io _) fun configuration => .get_pure fun bound => ?_
    simp [SpiBoundDevice.describe, SpiBoundDevice.withAddress_books, withByteTelemetry, Stats.lastOperation]
  | uart =>
    refine .after (keepsStats_io _) fun configuration => .get_pure fun bound => ?_
    simp [UartBoundDevice.describe, UartBoundDevice.withAddress_books, withByteTelemetry, Stats.lastOperation]
  | usb =>
    refine .get_pure fun bound => ?_
    simp [UsbBoundDevice.describe, UsbBoundDevice.withAddress_books, withByteTelemetry, Stats.lastOperation]

def lastRecorded (done : List (BoundCall × BoundAnswer)) : Option (StandardRequest × StandardResponse) :=
  done.reverse.findSome? fun one => (served one.1 one.2).filter fun one => recorded one.1

theorem recordOfCall_eq {interface : InterfaceKind} {call : BoundCall} {answer : BoundAnswer}
    (hfits : Fits interface call answer) : recordOfCall call answer =
      ((served call answer).filter fun one => recorded one.1).bind fun one => record one.1 one.2 := by
  cases hfits with
  | @response request response valid own answers =>
    have hsome := (book_recorded own answers (Stats.initial interface)).isSome
    cases hrecorded : recorded request with
    | true => simp [recordOfCall, served, Option.filter, hrecorded]
    | false => simpa [recordOfCall, served, Option.filter, hrecorded] using hsome
  | state snapshot => rfl
  | closed => rfl

theorem record_isSome {interface : InterfaceKind} {call : BoundCall} {answer : BoundAnswer}
    (hfits : Fits interface call answer) (one : StandardRequest × StandardResponse)
    (hone : (served call answer).filter (fun one => recorded one.1) = some one) :
    (record one.1 one.2).isSome = true := by
  obtain ⟨hserved, hrecorded⟩ := Option.filter_eq_some_iff.mp hone
  cases hfits with
  | response valid own answers =>
    cases hserved
    exact (book_recorded own answers (Stats.initial interface)).isSome.trans hrecorded
  | state snapshot => cases hserved
  | closed => cases hserved

theorem initial_lastOperation (interface : InterfaceKind) :
    Stats.lastOperation interface (Stats.initial interface) = none := by
  cases interface <;> rfl

theorem runCalls_lastOperation (arithmetic : DutyCycleArithmetic) (interface : InterfaceKind)
    (session : Session S interface) (driverId : String) (world : S) (calls : List BoundCall) :
    Stats.lastOperation interface
        (runCalls arithmetic session calls (freshlyBound interface driverId world)).2.stats =
      (lastRecorded (runCalls arithmetic session calls (freshlyBound interface driverId world)).1).bind
        fun one => record one.1 one.2 := by
  have hfits := runCalls_fits arithmetic session calls (freshlyBound interface driverId world)
  have hview : (runCalls arithmetic session calls (freshlyBound interface driverId world)).2.stats =
      (runCalls arithmetic session calls (freshlyBound interface driverId world)).1.foldl
        (fun stats done => enter interface done.1 done.2 stats) (Stats.initial interface) :=
    attempts_view (books_perform arithmetic interface session) calls _
  have hrecords : ∀ call answer stats, Fits interface call answer →
      Stats.lastOperation interface (enter interface call answer stats) =
        (((served call answer).filter fun one => recorded one.1).bind fun one => record one.1 one.2).or
          (Stats.lastOperation interface stats) := by
    intro call answer stats hfit
    rw [enter_records hfit, recordOfCall_eq hfit]
  rw [hview, foldl_latest hrecords _ hfits, initial_lastOperation, Option.or_none, lastRecorded]
  apply findSome?_bind
  intro one hone
  exact record_isSome (hfits one (List.mem_reverse.mp hone))

theorem lastRecorded_fits {interface : InterfaceKind} {done : List (BoundCall × BoundAnswer)}
    (hfits : ∀ one ∈ done, Fits interface one.1 one.2) {request : StandardRequest} {response : StandardResponse}
    (h : lastRecorded done = some (request, response)) :
    recorded request = true ∧ request.interface = interface ∧ Answers request response := by
  obtain ⟨one, hone, hserved⟩ := List.exists_of_findSome?_eq_some h
  obtain ⟨hserved, hrecorded⟩ := Option.filter_eq_some_iff.mp hserved
  have hfit := hfits one (List.mem_reverse.mp hone)
  obtain ⟨call, answer⟩ := one
  cases hfit with
  | response valid own answers =>
    cases hserved
    exact ⟨hrecorded, own, answers⟩
  | state snapshot => cases hserved
  | closed => cases hserved

theorem snapshot_tells_last_recorded (arithmetic : DutyCycleArithmetic) (interface : InterfaceKind)
    (session : Session S interface) (driverId : String) (world : S) (calls : List BoundCall)
    (snapshot : DeviceStateSnapshot) (after : SessionBound S (Stats interface))
    (hstate : (state arithmetic interface session).exec
      (runCalls arithmetic session calls (freshlyBound interface driverId world)).2 = (.ok snapshot, after)) :
    (lastRecorded (runCalls arithmetic session calls (freshlyBound interface driverId world)).1 = none →
      snapshot.lastOperation = none) ∧
    ∀ request response,
      lastRecorded (runCalls arithmetic session calls (freshlyBound interface driverId world)).1 =
        some (request, response) →
      ∃ one, snapshot.lastOperation = some one ∧ Tells request response one := by
  have hlast : snapshot.lastOperation = _ :=
    (reports_lastOperation arithmetic interface session _ snapshot after hstate).trans
      (runCalls_lastOperation arithmetic interface session driverId world calls)
  constructor
  · intro hnone
    rw [hlast, hnone, Option.bind_none]
  · intro request response hsome
    obtain ⟨hrecorded, own, answers⟩ := lastRecorded_fits (runCalls_fits arithmetic session calls _) hsome
    have hbook := book_recorded own answers (Stats.initial interface)
    obtain ⟨one, hone⟩ := Option.isSome_iff_exists.mp (hbook.isSome.trans hrecorded)
    refine ⟨one, ?_, hbook.tells one hone⟩
    rw [hlast, hsome, Option.bind_some, hone]

theorem loopback_tells_read : ∃ snapshot one,
    ((state zeroRatios .uart loopback).exec loopbackRun.2).1 = .ok snapshot ∧
      snapshot.lastOperation = some one ∧ Tells (.uart (.read 2)) (.uart (.bytes [1, 2])) one := by
  have htold := snapshot_tells_last_recorded zeroRatios .uart loopback uartDriver.id [] loopbackCalls _ _ rfl
  obtain ⟨one, hone, htells⟩ := htold.2 (.uart (.read 2)) (.uart (.bytes [1, 2])) rfl
  exact ⟨_, one, rfl, hone, htells⟩

end Lemnos.Drivers
