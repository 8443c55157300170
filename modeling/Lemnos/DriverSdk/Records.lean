import Lemnos.Core.Configured
import Lemnos.Core.Payload

namespace Lemnos.Core

namespace DeviceStateSnapshot

def withLifecycle (state : DeviceStateSnapshot) (lifecycle : DeviceLifecycleState) : DeviceStateSnapshot :=
  { state with lifecycle }

def withConfig (state : DeviceStateSnapshot) (key : String) (value : Value) : DeviceStateSnapshot :=
  { state with realizedConfig := insertValue key value state.realizedConfig }

def withTelemetry (state : DeviceStateSnapshot) (key : String) (value : Value) : DeviceStateSnapshot :=
  { state with telemetry := insertValue key value state.telemetry }

def withConfigured {α : Type} (state : DeviceStateSnapshot) (key : String) (value : Option α)
    (name : α → Value) : DeviceStateSnapshot :=
  value.elim state fun value => state.withConfig key (name value)

section Fields

variable {α : Type} (state : DeviceStateSnapshot) (key : String) (value : Value)

@[simp] theorem telemetry_withLifecycle (lifecycle : DeviceLifecycleState) :
    (state.withLifecycle lifecycle).telemetry = state.telemetry := rfl

@[simp] theorem telemetry_withConfig : (state.withConfig key value).telemetry = state.telemetry := rfl

@[simp] theorem telemetry_withTelemetry :
    (state.withTelemetry key value).telemetry = insertValue key value state.telemetry := rfl

@[simp] theorem telemetry_withConfigured (value : Option α) (name : α → Value) :
    (state.withConfigured key value name).telemetry = state.telemetry := by
  cases value <;> rfl

@[simp] theorem lastOperation_withLifecycle (lifecycle : DeviceLifecycleState) :
    (state.withLifecycle lifecycle).lastOperation = state.lastOperation := rfl

@[simp] theorem lastOperation_withConfig :
    (state.withConfig key value).lastOperation = state.lastOperation := rfl

@[simp] theorem lastOperation_withTelemetry :
    (state.withTelemetry key value).lastOperation = state.lastOperation := rfl

@[simp] theorem lastOperation_withConfigured (value : Option α) (name : α → Value) :
    (state.withConfigured key value name).lastOperation = state.lastOperation := by
  cases value <;> rfl

end Fields

end DeviceStateSnapshot

theorem lookup_entry (k key : String) (value : Value) (values : ValueMap) :
    ((key, value) :: values).lookup k = if k = key then some value else values.lookup k := by
  rw [List.lookup_cons]
  by_cases hk : k = key
  · rw [if_pos hk, beq_iff_eq.mpr hk]
  · rw [if_neg hk, beq_eq_false_iff_ne.mpr hk]

theorem lookup_insertValue (key : String) (value : Value) (values : ValueMap) (k : String) :
    (insertValue key value values).lookup k = if k = key then some value else values.lookup k := by
  induction values with
  | nil => exact lookup_entry k key value []
  | cons entry values ih =>
    obtain ⟨key', value'⟩ := entry
    rw [insertValue]
    cases hcompare : compare key key' with
    | lt => exact lookup_entry k key value _
    | eq =>
      have hkey : key = key' := Std.LawfulEqOrd.eq_of_compare hcompare
      simp only [lookup_entry, ← hkey]
      split <;> rfl
    | gt =>
      have hne : key ≠ key' := by
        rintro rfl
        simp at hcompare
      simp only [lookup_entry, ih]
      by_cases hk : k = key'
      · rw [if_pos hk, if_pos hk, if_neg (hk ▸ hne.symm)]
      · rw [if_neg hk, if_neg hk]

end Lemnos.Core

namespace Lemnos.DriverSdk

open Lemnos.Core

def succeededOperation (interaction summary : String) : OperationRecord :=
  { interaction, status := .succeeded, summary := some summary }

def succeededOperationWithOutput (interaction summary : String) (output : Value) : OperationRecord :=
  { succeededOperation interaction summary with output := some output }

def withLastOperation (state : DeviceStateSnapshot) (lastOperation : Option OperationRecord) :
    DeviceStateSnapshot :=
  match lastOperation with
  | some lastOperation => { state with lastOperation := some lastOperation }
  | none => state

@[simp] theorem telemetry_withLastOperation (state : DeviceStateSnapshot) (operation : Option OperationRecord) :
    (withLastOperation state operation).telemetry = state.telemetry := by
  cases operation <;> rfl

@[simp] theorem lastOperation_withLastOperation (state : DeviceStateSnapshot)
    (operation : Option OperationRecord) :
    (withLastOperation state operation).lastOperation = operation.or state.lastOperation := by
  cases operation <;> rfl

def maxRetainedOutputBytes : ℕ := 64

def boundedBytesOutput (bytes : List UInt8) : Value :=
  if bytes.length ≤ maxRetainedOutputBytes then .bytes bytes
  else
    let map : ValueMap := insertValue "kind" (.string "bytes-preview") []
    let map := insertValue "len" (.u64 (UInt64.ofNat bytes.length)) map
    let map := insertValue "retained_len" (.u64 (UInt64.ofNat maxRetainedOutputBytes)) map
    let map := insertValue "truncated" (.bool true) map
    let map := insertValue "preview" (.bytes (bytes.take maxRetainedOutputBytes)) map
    .map map

def recordOperation (interaction summary : String) : Option OperationRecord :=
  some (succeededOperation interaction summary)

def recordOutputOperation (interaction summary : String) (output : Value) : Option OperationRecord :=
  some (succeededOperationWithOutput interaction summary output)

def recordBytesReadOperation (bytesRead : UInt64) (interaction summary : String) (bytes : List UInt8) :
    Option OperationRecord × UInt64 :=
  (recordOutputOperation interaction summary (boundedBytesOutput bytes),
    bytesRead + UInt64.ofNat bytes.length)

def recordBytesWrittenCountOperation (bytesWritten : UInt64) (interaction summary : String)
    (bytesWrittenCount : ℕ) : Option OperationRecord × UInt64 :=
  (recordOutputOperation interaction summary (.u64 (UInt64.ofNat bytesWrittenCount)),
    bytesWritten + UInt64.ofNat bytesWrittenCount)

def recordBytesWrittenSliceOperation (bytesWritten : UInt64) (interaction summary : String)
    (bytes : List UInt8) : Option OperationRecord × UInt64 :=
  recordBytesWrittenCountOperation bytesWritten interaction summary bytes.length

def withByteTelemetry (state : DeviceStateSnapshot) (bytesRead bytesWritten : UInt64) : DeviceStateSnapshot :=
  (state.withTelemetry "bytes_read" (.u64 bytesRead)).withTelemetry "bytes_written" (.u64 bytesWritten)

end Lemnos.DriverSdk
