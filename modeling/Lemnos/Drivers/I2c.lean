import Lemnos.Drivers.Answers
import Lemnos.DriverSdk.Device

namespace Lemnos.Drivers

open Lemnos.Core Bus DriverSdk Library.Frames

structure I2cStats where
  readOps : UInt64 := 0
  writeOps : UInt64 := 0
  writeReadOps : UInt64 := 0
  transactionOps : UInt64 := 0
  bytesRead : UInt64 := 0
  bytesWritten : UInt64 := 0
  lastOperation : Option OperationRecord := none

namespace I2cStats

def recordRead (bytes : List UInt8) (summary : String) (stats : I2cStats) : I2cStats :=
  let (lastOperation, bytesRead) := recordBytesReadOperation stats.bytesRead "i2c.read" summary bytes
  { stats with readOps := stats.readOps + 1, bytesRead, lastOperation }

def recordWrite (written : ℕ) (summary : String) (stats : I2cStats) : I2cStats :=
  let (lastOperation, bytesWritten) :=
    recordBytesWrittenCountOperation stats.bytesWritten "i2c.write" summary written
  { stats with writeOps := stats.writeOps + 1, bytesWritten, lastOperation }

def recordWriteRead (written : ℕ) (read : List UInt8) (summary : String) (stats : I2cStats) : I2cStats :=
  let (lastOperation, bytesRead) := recordBytesReadOperation stats.bytesRead "i2c.write_read" summary read
  { stats with
    writeReadOps := stats.writeReadOps + 1
    bytesWritten := stats.bytesWritten + UInt64.ofNat written
    bytesRead
    lastOperation }

def recordTransaction (operations written read : ℕ) (summary : String) (stats : I2cStats) : I2cStats :=
  { stats with
    transactionOps := stats.transactionOps + 1
    bytesWritten := stats.bytesWritten + UInt64.ofNat written
    bytesRead := stats.bytesRead + UInt64.ofNat read
    lastOperation := recordOutputOperation "i2c.transaction" summary (.u64 (UInt64.ofNat operations)) }

end I2cStats

structure TransactionTotals where
  results : List I2cTransactionResult := []
  bytesWritten : ℕ := 0
  bytesRead : ℕ := 0

def TransactionTotals.collect (totals : TransactionTotals) : I2cOperation × List UInt8 → TransactionTotals
  | (.read _, raw) =>
    { totals with results := totals.results ++ [.read raw], bytesRead := totals.bytesRead + raw.length }
  | (.write bytes, _) =>
    { totals with
      results := totals.results ++ [.write (UInt32.ofNat bytes.length)]
      bytesWritten := totals.bytesWritten + bytes.length }

namespace TransactionTotals

def resultOf : I2cOperation × List UInt8 → I2cTransactionResult
  | (.read _, raw) => .read raw
  | (.write bytes, _) => .write (UInt32.ofNat bytes.length)

theorem collect_eq (totals : TransactionTotals) (entry : I2cOperation × List UInt8) :
    totals.collect entry =
      { results := totals.results ++ [resultOf entry]
        bytesWritten := totals.bytesWritten + I2cOperation.bytesWritten entry.1
        bytesRead := totals.bytesRead + I2cTransactionResult.bytesRead (resultOf entry) } := by
  obtain ⟨operation, raw⟩ := entry
  cases operation <;> rfl

theorem foldl_collect (entries : List (I2cOperation × List UInt8)) (totals : TransactionTotals) :
    entries.foldl collect totals =
      { results := totals.results ++ entries.map resultOf
        bytesWritten :=
          totals.bytesWritten + (entries.map fun entry => I2cOperation.bytesWritten entry.1).sum
        bytesRead :=
          totals.bytesRead + (entries.map fun entry => I2cTransactionResult.bytesRead (resultOf entry)).sum } := by
  induction entries generalizing totals with
  | nil => simp
  | cons entry entries ih =>
    rw [List.foldl_cons, ih, collect_eq]
    simp [Nat.add_assoc]

theorem answered_zip {operations : List I2cOperation} {rawResults : List (List UInt8)}
    (h : rawResults.length = operations.length) :
    List.Forall₂ OperationAnswered operations ((operations.zip rawResults).map resultOf) := by
  induction operations generalizing rawResults with
  | nil => exact .nil
  | cons operation operations ih =>
    cases rawResults with
    | nil => cases h
    | cons raw rawResults =>
      have hrest := ih (Nat.succ.inj h)
      cases operation with
      | read length => exact .cons (.read length raw) hrest
      | write bytes => exact .cons (.write bytes) hrest

end TransactionTotals

abbrev I2cBoundDevice (S : Type) := SessionBound S I2cStats

namespace I2cBoundDevice

variable {S : Type} (session : I2cSession S)

def withAddress (device : DeviceDescriptor) (state : DeviceStateSnapshot) : DeviceStateSnapshot :=
  match device.address with
  | some (.i2cDevice bus address) =>
    let state := state.withConfig "bus" (.u64 bus.toUInt64)
    let state := state.withConfig "address" (.u64 address.toUInt64)
    state.withConfig "address_hex" (.string ("0x" ++ DeviceAddress.hex 2 address.toNat))
  | _ => state

theorem withAddress_books (device : DeviceDescriptor) (state : DeviceStateSnapshot) :
    (withAddress device state).telemetry = state.telemetry ∧
      (withAddress device state).lastOperation = state.lastOperation := by
  unfold withAddress
  split <;> exact ⟨rfl, rfl⟩

def describe (stats : I2cStats) : DeviceStateSnapshot :=
  let state : DeviceStateSnapshot := { deviceId := session.device.id }
  let state := state.withLifecycle .idle
  let state := state.withTelemetry "read_ops" (.u64 stats.readOps)
  let state := state.withTelemetry "write_ops" (.u64 stats.writeOps)
  let state := state.withTelemetry "write_read_ops" (.u64 stats.writeReadOps)
  let state := state.withTelemetry "transaction_ops" (.u64 stats.transactionOps)
  let state := withByteTelemetry state stats.bytesRead stats.bytesWritten
  withAddress session.device (withLastOperation state stats.lastOperation)

def snapshotState : DriverCall S I2cStats DeviceStateSnapshot := do
  let bound ← get
  pure (describe session bound.stats)

def mismatch (driverId : String) (results operations : ℕ) : DriverError :=
  .invariantViolation driverId session.device.id s!"backend returned {results} results for {operations} operations"

def executeI2cRequest : I2cRequest → DriverCall S I2cStats I2cResponse
  | .read length => do
    let bytes ← io session.device (session.read length)
    modifyStats (.recordRead bytes s!"read {bytes.length} bytes")
    pure (.bytes bytes)
  | .write bytes => do
    io session.device (session.write bytes)
    modifyStats (.recordWrite bytes.length s!"wrote {bytes.length} bytes")
    pure .applied
  | .writeRead write readLength => do
    let bytes ← io session.device (session.writeRead write readLength)
    modifyStats (.recordWriteRead write.length bytes
      s!"wrote {write.length} bytes and read {bytes.length} bytes")
    pure (.bytes bytes)
  | .transaction operations => do
    let rawResults ← io session.device (session.transaction operations)
    let bound ← get
    if rawResults.length ≠ operations.length then
      throw (mismatch session bound.driverId rawResults.length operations.length)
    let totals := (operations.zip rawResults).foldl .collect ({} : TransactionTotals)
    modifyStats (.recordTransaction operations.length totals.bytesWritten totals.bytesRead
      (s!"executed {operations.length} transaction operations ({totals.bytesWritten} bytes written, " ++
        s!"{totals.bytesRead} bytes read)"))
    pure (.transaction totals.results)

def variant : StandardVariant I2cRequest I2cResponse where
  interface := .i2c
  wrap := .i2c
  request
    | .i2c request => some request
    | _ => none
  response := .i2c
  wrap_request := by
    intro standard selected h
    cases standard <;> cases h
    rfl
  wrap_interface selected := rfl

def execute : InteractionRequest → DriverCall S I2cStats InteractionResponse :=
  executeStandardRequest variant session.device (executeI2cRequest session)

def transactionSummary (operations written read : ℕ) : String :=
  s!"executed {operations} transaction operations ({written} bytes written, " ++ s!"{read} bytes read)"

def book : I2cRequest → I2cResponse → I2cStats → I2cStats
  | .read _, .bytes bytes => .recordRead bytes s!"read {bytes.length} bytes"
  | .write bytes, _ => .recordWrite bytes.length s!"wrote {bytes.length} bytes"
  | .writeRead write _, .bytes bytes =>
    .recordWriteRead write.length bytes s!"wrote {write.length} bytes and read {bytes.length} bytes"
  | .transaction operations, .transaction results =>
    let written := (operations.map I2cOperation.bytesWritten).sum
    let read := (results.map I2cTransactionResult.bytesRead).sum
    .recordTransaction operations.length written read (transactionSummary operations.length written read)
  | _, _ => id

theorem zip_bytesWritten {operations : List I2cOperation} {rawResults : List (List UInt8)}
    (h : rawResults.length = operations.length) :
    (operations.zip rawResults).map (fun entry => I2cOperation.bytesWritten entry.1) =
      operations.map I2cOperation.bytesWritten := by
  have hfst : (operations.zip rawResults).map Prod.fst = operations := List.map_fst_zip (by omega)
  conv_rhs => rw [← hfst]
  rw [List.map_map]
  rfl

theorem books_executeI2cRequest (request : I2cRequest) :
    Books SessionBound.stats (executeI2cRequest session request) (book request) := by
  cases request with
  | read length => exact books_io _ fun bytes => books_modifyStats fun stats => rfl
  | write bytes => exact books_io _ fun done => books_modifyStats fun stats => rfl
  | writeRead write readLength => exact books_io _ fun bytes => books_modifyStats fun stats => rfl
  | transaction operations =>
    refine books_io _ fun rawResults => .after keeps_get fun bound => ?_
    by_cases hlength : rawResults.length = operations.length
    · simp only [ne_eq, hlength, not_true_eq_false, if_false]
      refine books_modifyStats fun stats => ?_
      rw [TransactionTotals.foldl_collect, zip_bytesWritten hlength]
      simp only [book, Nat.zero_add, List.nil_append, List.map_map, Function.comp_def]
      rfl
    · simp only [ne_eq, hlength, not_false_eq_true, if_true]
      exact .throw_bind _ _

theorem yields_executeI2cRequest (request : I2cRequest) :
    Yields (I2cAnswers request) (executeI2cRequest session request) := by
  cases request with
  | read length => exact .after fun bytes => .after fun done => .pure (.read length bytes)
  | write bytes => exact .after fun done => .after fun done => .pure (.write bytes)
  | writeRead write readLength =>
    exact .after fun bytes => .after fun done => .pure (.writeRead write readLength bytes)
  | transaction operations =>
    refine .after fun rawResults => .after fun bound => ?_
    by_cases hlength : rawResults.length = operations.length
    · simp only [ne_eq, hlength, not_true_eq_false, if_false]
      refine .after fun done => .pure (.transaction ?_)
      rw [TransactionTotals.foldl_collect]
      exact TransactionTotals.answered_zip hlength
    · simp only [ne_eq, hlength, not_false_eq_true, if_true]
      exact .throw_bind _ _

end I2cBoundDevice

def i2cDriver : GenericSessionDriver where
  id := "lemnos.i2c.generic"
  summary := "Generic I2C driver bundle"
  interface := .i2c
  kinds := [.i2cDevice]
  expected := "i2c-device"
  access := .shared
  interactions := ["i2c.read", "i2c.write", "i2c.write_read", "i2c.transaction"]

end Lemnos.Drivers
