import Lemnos.Drivers.Generic

namespace Lemnos.Drivers

open Lemnos.Core Bus DriverSdk Library.Frames

inductive Credit where
  | operations (name : String)
  | bytesRead
  | bytesWritten

namespace Credit

def of : Credit → StandardRequest → StandardResponse → ℕ
  | .operations name, request, _ => if request.name = name then 1 else 0
  | .bytesRead, request, response => bytesReadBy request response
  | .bytesWritten, request, _ => bytesWrittenBy request

def ofCall (credit : Credit) (call : BoundCall) (answer : BoundAnswer) : ℕ :=
  (served call answer).elim 0 fun one => credit.of one.1 one.2

end Credit

/-- A counter of the statistics, with the telemetry key under which a state snapshot reports it. -/
structure Counter (interface : InterfaceKind) where
  key : String
  value : Stats interface → UInt64
  credit : Credit

def counters : (interface : InterfaceKind) → List (Counter interface)
  | .gpio =>
    [⟨"read_ops", GpioStats.readOps, .operations "gpio.read"⟩,
      ⟨"write_ops", GpioStats.writeOps, .operations "gpio.write"⟩,
      ⟨"configure_ops", GpioStats.configureOps, .operations "gpio.configure"⟩]
  | .pwm =>
    [⟨"enable_ops", PwmStats.enableOps, .operations "pwm.enable"⟩,
      ⟨"configure_ops", PwmStats.configureOps, .operations "pwm.configure"⟩,
      ⟨"set_period_ops", PwmStats.setPeriodOps, .operations "pwm.set_period"⟩,
      ⟨"set_duty_cycle_ops", PwmStats.setDutyCycleOps, .operations "pwm.set_duty_cycle"⟩]
  | .i2c =>
    [⟨"read_ops", I2cStats.readOps, .operations "i2c.read"⟩,
      ⟨"write_ops", I2cStats.writeOps, .operations "i2c.write"⟩,
      ⟨"write_read_ops", I2cStats.writeReadOps, .operations "i2c.write_read"⟩,
      ⟨"transaction_ops", I2cStats.transactionOps, .operations "i2c.transaction"⟩,
      ⟨"bytes_read", I2cStats.bytesRead, .bytesRead⟩,
      ⟨"bytes_written", I2cStats.bytesWritten, .bytesWritten⟩]
  | .spi =>
    [⟨"transfer_ops", SpiStats.transferOps, .operations "spi.transfer"⟩,
      ⟨"write_ops", SpiStats.writeOps, .operations "spi.write"⟩,
      ⟨"bytes_read", SpiStats.bytesRead, .bytesRead⟩,
      ⟨"bytes_written", SpiStats.bytesWritten, .bytesWritten⟩]
  | .uart =>
    [⟨"read_ops", UartStats.readOps, .operations "uart.read"⟩,
      ⟨"write_ops", UartStats.writeOps, .operations "uart.write"⟩,
      ⟨"flush_ops", UartStats.flushOps, .operations "uart.flush"⟩,
      ⟨"bytes_read", UartStats.bytesRead, .bytesRead⟩,
      ⟨"bytes_written", UartStats.bytesWritten, .bytesWritten⟩]
  | .usb =>
    [⟨"control_ops", UsbStats.controlOps, .operations "usb.control_transfer"⟩,
      ⟨"bulk_read_ops", UsbStats.bulkReadOps, .operations "usb.bulk_read"⟩,
      ⟨"bulk_write_ops", UsbStats.bulkWriteOps, .operations "usb.bulk_write"⟩,
      ⟨"interrupt_read_ops", UsbStats.interruptReadOps, .operations "usb.interrupt_read"⟩,
      ⟨"interrupt_write_ops", UsbStats.interruptWriteOps, .operations "usb.interrupt_write"⟩,
      ⟨"claim_ops", UsbStats.claimOps, .operations "usb.claim_interface"⟩,
      ⟨"release_ops", UsbStats.releaseOps, .operations "usb.release_interface"⟩,
      ⟨"bytes_read", UsbStats.bytesRead, .bytesRead⟩,
      ⟨"bytes_written", UsbStats.bytesWritten, .bytesWritten⟩]

theorem gpio_book_counts {request : GpioRequest} {response : GpioResponse}
    (answers : GpioAnswers request response) (stats : GpioStats) :
    ∀ counter ∈ counters .gpio, counter.value (GpioBoundDevice.book request response stats) =
      counter.value stats + UInt64.ofNat (counter.credit.of (.gpio request) (.gpio response)) := by
  cases answers <;>
    simp [counters, GpioBoundDevice.book, GpioStats.recordRead, GpioStats.recordWrite,
      GpioStats.recordConfigure, Credit.of, StandardRequest.name, GpioRequest.name]

theorem pwm_book_counts {request : PwmRequest} {response : PwmResponse}
    (answers : PwmAnswers request response) (stats : PwmStats) :
    ∀ counter ∈ counters .pwm, counter.value (PwmBoundDevice.book request stats) =
      counter.value stats + UInt64.ofNat (counter.credit.of (.pwm request) (.pwm response)) := by
  cases answers <;>
    simp [counters, PwmBoundDevice.book, PwmStats.recordEnable, PwmStats.recordSetPeriod,
      PwmStats.recordConfigure, PwmStats.recordSetDutyCycle, Credit.of, StandardRequest.name, PwmRequest.name]

theorem i2c_book_counts {request : I2cRequest} {response : I2cResponse}
    (answers : I2cAnswers request response) (stats : I2cStats) :
    ∀ counter ∈ counters .i2c, counter.value (I2cBoundDevice.book request response stats) =
      counter.value stats + UInt64.ofNat (counter.credit.of (.i2c request) (.i2c response)) := by
  cases answers <;>
    simp [counters, I2cBoundDevice.book, I2cStats.recordRead, I2cStats.recordWrite, I2cStats.recordWriteRead,
      I2cStats.recordTransaction, recordBytesReadOperation, recordBytesWrittenCountOperation, bytesReadBy,
      bytesWrittenBy, Credit.of, StandardRequest.name, I2cRequest.name]

theorem spi_book_counts {request : SpiRequest} {response : SpiResponse}
    (answers : SpiAnswers request response) (stats : SpiStats) :
    ∀ counter ∈ counters .spi, counter.value (SpiBoundDevice.book request response stats) =
      counter.value stats + UInt64.ofNat (counter.credit.of (.spi request) (.spi response)) := by
  cases answers <;>
    simp [counters, SpiBoundDevice.book, SpiStats.recordTransfer, SpiStats.recordWrite,
      recordBytesReadOperation, recordBytesWrittenSliceOperation, recordBytesWrittenCountOperation, bytesReadBy,
      bytesWrittenBy, Credit.of, StandardRequest.name, SpiRequest.name]

theorem uart_book_counts {request : UartRequest} {response : UartResponse}
    (answers : UartAnswers request response) (stats : UartStats) :
    ∀ counter ∈ counters .uart, counter.value (UartBoundDevice.book request response stats) =
      counter.value stats + UInt64.ofNat (counter.credit.of (.uart request) (.uart response)) := by
  cases answers <;>
    simp [counters, UartBoundDevice.book, UartStats.recordRead, UartStats.recordWrite, UartStats.recordFlush,
      recordBytesReadOperation, recordBytesWrittenSliceOperation, recordBytesWrittenCountOperation, bytesReadBy,
      bytesWrittenBy, Credit.of, StandardRequest.name, UartRequest.name]

theorem usb_control_counts (transfer : UsbControlTransfer) (bytes : List UInt8) (stats : UsbStats) :
    ∀ counter ∈ counters .usb, counter.value (UsbBoundDevice.recordControl transfer bytes stats) =
      counter.value stats + UInt64.ofNat (counter.credit.of (.usb (.control transfer)) (.usb (.bytes bytes))) := by
  cases hdirection : transfer.setup.direction <;>
    simp [counters, UsbBoundDevice.recordControl, hdirection, UsbStats.recordControlRead,
      UsbStats.recordControlWrite, recordBytesReadOperation, recordBytesWrittenSliceOperation,
      recordBytesWrittenCountOperation, bytesReadBy, bytesWrittenBy, Credit.of, StandardRequest.name,
      UsbRequest.name]

theorem usb_book_counts {request : UsbRequest} {response : UsbResponse}
    (answers : UsbAnswers request response) (stats : UsbStats) :
    ∀ counter ∈ counters .usb, counter.value (UsbBoundDevice.book request response stats) =
      counter.value stats + UInt64.ofNat (counter.credit.of (.usb request) (.usb response)) := by
  by_cases hcontrol : ∃ transfer, request = .control transfer
  · obtain ⟨transfer, rfl⟩ := hcontrol
    cases answers
    exact usb_control_counts transfer _ stats
  · cases answers with
    | control transfer bytes => exact absurd ⟨transfer, rfl⟩ hcontrol
    | _ =>
      simp [counters, UsbBoundDevice.book, UsbStats.recordBulkRead, UsbStats.recordBulkWrite,
        UsbStats.recordInterruptRead, UsbStats.recordInterruptWrite, UsbStats.recordClaim,
        UsbStats.recordRelease, recordBytesReadOperation, recordBytesWrittenSliceOperation,
        recordBytesWrittenCountOperation, bytesReadBy, bytesWrittenBy, Credit.of, StandardRequest.name,
        UsbRequest.name]

theorem enter_counts {interface : InterfaceKind} {counter : Counter interface} (h : counter ∈ counters interface)
    {call : BoundCall} {answer : BoundAnswer} (hfits : Fits interface call answer) (stats : Stats interface) :
    counter.value (enter interface call answer stats) =
      counter.value stats + UInt64.ofNat (counter.credit.ofCall call answer) := by
  cases hfits with
  | response valid own answers =>
    cases own
    cases answers with
    | gpio answers => exact gpio_book_counts answers stats counter h
    | pwm answers => exact pwm_book_counts answers stats counter h
    | i2c answers => exact i2c_book_counts answers stats counter h
    | spi answers => exact spi_book_counts answers stats counter h
    | uart answers => exact uart_book_counts answers stats counter h
    | usb answers => exact usb_book_counts answers stats counter h
  | state snapshot => exact (UInt64.add_zero _).symm
  | closed => exact (UInt64.add_zero _).symm

variable {S : Type}

def Shows {interface : InterfaceKind} (stats : Stats interface) (snapshot : DeviceStateSnapshot) : Prop :=
  ∀ counter ∈ counters interface, snapshot.telemetry.lookup counter.key = some (.u64 (counter.value stats))

theorem gpio_shows (session : GpioSession S) (stats : GpioStats) (configuration : GpioLineConfiguration)
    (level : GpioLevel) : @Shows .gpio stats (GpioBoundDevice.describe session stats configuration level) := by
  simp [Shows, counters, GpioBoundDevice.describe, lookup_insertValue]

theorem pwm_shows (arithmetic : DutyCycleArithmetic) (session : PwmSession S) (stats : PwmStats)
    (configuration : PwmConfiguration) :
    @Shows .pwm stats (PwmBoundDevice.describe arithmetic session stats configuration) := by
  simp [Shows, counters, PwmBoundDevice.describe, PwmBoundDevice.withAddress_books, lookup_insertValue]

theorem i2c_shows (session : I2cSession S) (stats : I2cStats) :
    @Shows .i2c stats (I2cBoundDevice.describe session stats) := by
  simp [Shows, counters, I2cBoundDevice.describe, I2cBoundDevice.withAddress_books, withByteTelemetry, lookup_insertValue]

theorem spi_shows (session : SpiSession S) (stats : SpiStats) (configuration : SpiConfiguration) :
    @Shows .spi stats (SpiBoundDevice.describe session stats configuration) := by
  simp [Shows, counters, SpiBoundDevice.describe, SpiBoundDevice.withAddress_books, withByteTelemetry, lookup_insertValue]

theorem uart_shows (session : UartSession S) (stats : UartStats) (configuration : UartConfiguration) :
    @Shows .uart stats (UartBoundDevice.describe session stats configuration) := by
  simp [Shows, counters, UartBoundDevice.describe, UartBoundDevice.withAddress_books, withByteTelemetry, lookup_insertValue]

theorem usb_shows (session : UsbSession S) (stats : UsbStats) :
    @Shows .usb stats (UsbBoundDevice.describe session stats) := by
  simp [Shows, counters, UsbBoundDevice.describe, UsbBoundDevice.withAddress_books, withByteTelemetry, lookup_insertValue]

theorem reports_state (arithmetic : DutyCycleArithmetic) (interface : InterfaceKind)
    (session : Session S interface) :
    Reports SessionBound.stats Shows (state arithmetic interface session) := by
  cases interface with
  | gpio =>
    refine .after (keepsStats_io _) fun configuration => .after (keepsStats_io _) fun level => .get_pure ?_
    exact fun bound => gpio_shows session bound.stats configuration level
  | pwm =>
    refine .after (keepsStats_io _) fun configuration => .get_pure ?_
    exact fun bound => pwm_shows arithmetic session bound.stats configuration
  | i2c => exact .get_pure fun bound => i2c_shows session bound.stats
  | spi =>
    refine .after (keepsStats_io _) fun configuration => .get_pure ?_
    exact fun bound => spi_shows session bound.stats configuration
  | uart =>
    refine .after (keepsStats_io _) fun configuration => .get_pure ?_
    exact fun bound => uart_shows session bound.stats configuration
  | usb => exact .get_pure fun bound => usb_shows session bound.stats

theorem initial_counters (interface : InterfaceKind) :
    ∀ counter ∈ counters interface, counter.value (Stats.initial interface) = 0 := by
  cases interface <;> simp [counters, Stats.initial]

def freshlyBound (interface : InterfaceKind) (driverId : String) (world : S) : SessionBound S (Stats interface) :=
  { driverId, session := world, stats := Stats.initial interface }

def runCalls (arithmetic : DutyCycleArithmetic) {interface : InterfaceKind} (session : Session S interface)
    (calls : List BoundCall) (bound : SessionBound S (Stats interface)) :
    List (BoundCall × BoundAnswer) × SessionBound S (Stats interface) :=
  attempts (perform arithmetic interface session) calls bound

theorem runCalls_fits (arithmetic : DutyCycleArithmetic) {interface : InterfaceKind}
    (session : Session S interface) (calls : List BoundCall) (bound : SessionBound S (Stats interface)) :
    ∀ done ∈ (runCalls arithmetic session calls bound).1, Fits interface done.1 done.2 :=
  attempts_yield (yields_perform arithmetic interface session) calls bound

theorem runCalls_counts (arithmetic : DutyCycleArithmetic) {interface : InterfaceKind}
    (session : Session S interface) (calls : List BoundCall) (bound : SessionBound S (Stats interface))
    {counter : Counter interface} (h : counter ∈ counters interface) :
    counter.value (runCalls arithmetic session calls bound).2.stats = counter.value bound.stats +
      UInt64.ofNat ((runCalls arithmetic session calls bound).1.map fun done =>
        counter.credit.ofCall done.1 done.2).sum := by
  have hview : (runCalls arithmetic session calls bound).2.stats =
      (runCalls arithmetic session calls bound).1.foldl
        (fun stats done => enter interface done.1 done.2 stats) bound.stats :=
    attempts_view (books_perform arithmetic interface session) calls bound
  have hcredit : ∀ call answer stats, Fits interface call answer →
      counter.value (enter interface call answer stats) =
        counter.value stats + UInt64.ofNat (counter.credit.ofCall call answer) :=
    fun call answer stats hfits => enter_counts h hfits stats
  rw [hview]
  exact foldl_counter hcredit _ (runCalls_fits arithmetic session calls bound) bound.stats

theorem snapshot_reports_what_was_served (arithmetic : DutyCycleArithmetic) (interface : InterfaceKind)
    (session : Session S interface) (driverId : String) (world : S) (calls : List BoundCall)
    (counter : Counter interface) (hcounter : counter ∈ counters interface) (snapshot : DeviceStateSnapshot)
    (after : SessionBound S (Stats interface))
    (hstate : (state arithmetic interface session).exec
      (runCalls arithmetic session calls (freshlyBound interface driverId world)).2 = (.ok snapshot, after)) :
    snapshot.telemetry.lookup counter.key = some (.u64 (UInt64.ofNat
      ((runCalls arithmetic session calls (freshlyBound interface driverId world)).1.map fun done =>
        counter.credit.ofCall done.1 done.2).sum)) := by
  have hshows := reports_state arithmetic interface session _ snapshot after hstate counter hcounter
  rw [hshows, runCalls_counts arithmetic session calls _ hcounter, freshlyBound,
    initial_counters interface counter hcounter,
    UInt64.zero_add]

def loopbackCalls : List BoundCall :=
  [.execute (.standard (.uart (.write [1, 2, 3]))), .state, .execute (.standard (.gpio .read)),
    .execute (.standard (.uart (.read 2)))]

def loopbackRun : List (BoundCall × BoundAnswer) × SessionBound (List UInt8) (Stats .uart) :=
  @runCalls _ zeroRatios .uart loopback loopbackCalls (freshlyBound .uart uartDriver.id [])

theorem loopback_reports_bytes_read : ∃ snapshot,
    ((state zeroRatios .uart loopback).exec loopbackRun.2).1 = .ok snapshot ∧
      snapshot.telemetry.lookup "bytes_read" = some (.u64 2) :=
  ⟨_, rfl, snapshot_reports_what_was_served zeroRatios .uart loopback uartDriver.id [] loopbackCalls
    ⟨"bytes_read", UartStats.bytesRead, .bytesRead⟩ (by simp [counters]) _ _ rfl⟩

end Lemnos.Drivers
