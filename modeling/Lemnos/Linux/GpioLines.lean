import Lemnos.Core.Request
import Lemnos.Library.Frames
import Mathlib.Logic.Function.Basic

namespace Lemnos.Linux

open Lemnos.Core Library.Frames

structure LineId where
  chip : ℕ
  offset : UInt32
  deriving DecidableEq

structure LineFlags where
  direction : GpioDirection
  activeLow : Bool := false
  openDrain : Bool := false
  openSource : Bool := false
  deriving DecidableEq

structure LineState where
  flags : LineFlags
  level : GpioLevel
  deriving DecidableEq

structure LineHandle where
  line : LineId
  flags : LineFlags
  initial : UInt8
  deriving DecidableEq

def levelOf (value : UInt8) : GpioLevel := if value = 0 then .low else .high

def LineHandle.requested (handle : LineHandle) (state : LineState) : LineState where
  flags := handle.flags
  level := if handle.flags.direction = .output then levelOf handle.initial else state.level

/-- How a line stands after the settings that are queried of it were requested again, with no initial level. -/
def LineState.reopened (state : LineState) : LineState :=
  match state.flags.direction with
  | .output => { state with level := .low }
  | .input => { state with flags := { state.flags with openDrain := false, openSource := false } }

def LineState.Neutral (state : LineState) : Prop :=
  match state.flags.direction with
  | .output => state.level = .low
  | .input => state.flags.openDrain = false ∧ state.flags.openSource = false

namespace LineState

variable (state : LineState)

theorem reopened_neutral : state.reopened.Neutral := by
  obtain ⟨⟨direction, activeLow, openDrain, openSource⟩, level⟩ := state
  cases direction
  · exact ⟨rfl, rfl⟩
  · rfl

theorem reopened_eq_iff : state.reopened = state ↔ state.Neutral := by
  constructor
  · intro h
    rw [← h]
    exact state.reopened_neutral
  · obtain ⟨⟨direction, activeLow, openDrain, openSource⟩, level⟩ := state
    intro h
    cases direction with
    | input =>
      obtain ⟨rfl, rfl⟩ := h
      rfl
    | output =>
      cases h
      rfl

end LineState

inductive GpioCall where
  | openChip (devnode : String)
  | getLine (line : LineId)
  | lineInfo (line : LineId)
  | request (handle : LineHandle)
  | getValue (line : LineId)
  | setValue (line : LineId) (value : UInt8)
  | read (path : String)
  | write (path text : String)
  | exists (path : String)
  | fileType (devnode : String)
  deriving DecidableEq

/-- What the system around the sessions answers to a call after the calls made before; an error as it renders.
A line request is answered knowing whether a live handle holds the line. -/
structure GpioHost where
  chip : List GpioCall → String → Except String ℕ
  getLine : List GpioCall → LineId → Except String Unit
  lineInfo : List GpioCall → LineId → Except String Unit
  request : List GpioCall → LineHandle → Bool → Except String Unit
  getValue : List GpioCall → LineId → Except String UInt8
  setValue : List GpioCall → LineId → UInt8 → Except String Unit
  read : List GpioCall → String → Except String (Option String)
  write : List GpioCall → String → String → Except String Unit
  exists_ : List GpioCall → String → Bool
  isCharDevice : List GpioCall → String → Bool

structure GpioKernel where
  lines : LineId → LineState
  live : List LineId := []
  calls : List GpioCall := []

namespace GpioKernel

def called (call : GpioCall) (kernel : GpioKernel) : GpioKernel :=
  { kernel with calls := kernel.calls ++ [call] }

def grant (handle : LineHandle) (kernel : GpioKernel) : GpioKernel :=
  { kernel with
    lines := Function.update kernel.lines handle.line (handle.requested (kernel.lines handle.line))
    live := handle.line :: kernel.live }

def drive (line : LineId) (value : UInt8) (kernel : GpioKernel) : GpioKernel :=
  { kernel with
    lines := Function.update kernel.lines line { kernel.lines line with level := levelOf value } }

def drop (handle : LineHandle) (kernel : GpioKernel) : GpioKernel :=
  { kernel with live := kernel.live.erase handle.line }

end GpioKernel

def ask {E α : Type} (call : GpioCall) (answer : List GpioCall → Except E α) : Effect GpioKernel E α := do
  let kernel ← get
  modify (GpioKernel.called call)
  MonadExcept.ofExcept (answer kernel.calls)

theorem exec_ask {E α : Type} (call : GpioCall) (answer : List GpioCall → Except E α) (kernel : GpioKernel) :
    (ask call answer).exec kernel = (answer kernel.calls, kernel.called call) := by
  unfold ask
  rw [exec_bind_of_ok (exec_get kernel), exec_bind_of_ok (exec_modify _ kernel), exec_ofExcept]

def IgnoresCalls {γ : Type} (view : GpioKernel → γ) : Prop :=
  ∀ call kernel, view (GpioKernel.called call kernel) = view kernel

theorem ignoresCalls_lines : IgnoresCalls GpioKernel.lines := fun _ _ => rfl

theorem ignoresCalls_live : IgnoresCalls GpioKernel.live := fun _ _ => rfl

theorem keeps_ask {E α γ : Type} {view : GpioKernel → γ} (h : IgnoresCalls view)
    (call : GpioCall) (answer : List GpioCall → Except E α) : Keeps view (ask call answer) := by
  intro kernel
  rw [exec_ask]
  exact h call kernel

namespace GpioHost

variable (host : GpioHost)

def openChip (devnode : String) : Effect GpioKernel String ℕ :=
  ask (.openChip devnode) (fun calls => host.chip calls devnode)

def chipLine (line : LineId) : Effect GpioKernel String LineId := do
  ask (.getLine line) (fun calls => host.getLine calls line)
  return line

def info (line : LineId) : Effect GpioKernel String LineFlags := do
  ask (.lineInfo line) (fun calls => host.lineInfo calls line)
  return ((← get).lines line).flags

def requestLine (handle : LineHandle) : Effect GpioKernel String LineHandle := do
  let kernel ← get
  ask (.request handle) (fun calls => host.request calls handle (kernel.live.contains handle.line))
  modify (GpioKernel.grant handle)
  return handle

def value (handle : LineHandle) : Effect GpioKernel String UInt8 :=
  ask (.getValue handle.line) (fun calls => host.getValue calls handle.line)

def setLineValue (handle : LineHandle) (value : UInt8) : Effect GpioKernel String Unit := do
  ask (.setValue handle.line value) (fun calls => host.setValue calls handle.line value)
  modify (GpioKernel.drive handle.line value)

def readText (path : String) : Effect GpioKernel String (Option String) :=
  ask (.read path) (fun calls => host.read calls path)

def writeText (path text : String) : Effect GpioKernel String Unit :=
  ask (.write path text) (fun calls => host.write calls path text)

def pathExists {E : Type} (path : String) : Effect GpioKernel E Bool :=
  ask (.exists path) (fun calls => .ok (host.exists_ calls path))

def charDevice {E : Type} (devnode : String) : Effect GpioKernel E Bool :=
  ask (.fileType devnode) (fun calls => .ok (host.isCharDevice calls devnode))

theorem exec_info (line : LineId) (kernel : GpioKernel) :
    (host.info line).exec kernel =
      ((host.lineInfo kernel.calls line).map fun _ => (kernel.lines line).flags,
        kernel.called (.lineInfo line)) := by
  rw [info, exec_bind, exec_ask]
  cases host.lineInfo kernel.calls line <;> rfl

theorem exec_requestLine (handle : LineHandle) (kernel : GpioKernel) :
    (host.requestLine handle).exec kernel =
      match host.request kernel.calls handle (kernel.live.contains handle.line) with
      | .error error => (.error error, kernel.called (.request handle))
      | .ok () => (.ok handle, (kernel.called (.request handle)).grant handle) := by
  rw [requestLine, exec_bind_of_ok (exec_get kernel), exec_bind, exec_ask]
  cases host.request kernel.calls handle (kernel.live.contains handle.line) <;> rfl

section Frames

variable {γ : Type} {view : GpioKernel → γ} (h : IgnoresCalls view)

include h

theorem keeps_chipLine (line : LineId) : Keeps view (host.chipLine line) :=
  (keeps_ask h _ _).bind fun _ => .pure line

theorem keeps_setLineValue (hdrive : ∀ line value kernel, view (kernel.drive line value) = view kernel)
    (handle : LineHandle) (value : UInt8) : Keeps view (host.setLineValue handle value) :=
  (keeps_ask h _ _).bind fun _ => .update (hdrive handle.line value)

end Frames

end GpioHost

end Lemnos.Linux
