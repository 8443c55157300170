import Lemnos.Bus.Calls

namespace Lemnos.Linux

open Lemnos.Core Bus Library.Frames

structure TransportSession (τ : Type) where
  device : DeviceDescriptor
  metadata : SessionMetadata
  transport : τ

/-- What implements a transport trait, with its own state: a result for each call of the trait. -/
abbrev Transport (τ C : Type) (R : C → Type) := (call : C) → Effect τ BusError (R call)

namespace TransportSession

variable {τ : Type}

abbrev Call (τ α : Type) := Effect (TransportSession τ) BusError α

def IsOpen (session : TransportSession τ) : Prop := session.metadata.state ≠ .closed

def setMetadata (f : SessionMetadata → SessionMetadata) (session : TransportSession τ) : TransportSession τ :=
  { session with metadata := f session.metadata }

def onTransport {α : Type} (effect : Effect τ BusError α) : Call τ α :=
  effect.within TransportSession.transport (fun transport session => { session with transport })

def ensureOpen (interface operation : String) : Call τ Unit := do
  let session ← get
  MonadExcept.ofExcept (session.metadata.ensureOpen session.device.id interface operation)

def ensureWritable (operation reason : String) : Call τ Unit := do
  let session ← get
  if session.metadata.access.canWrite then return
  throw (.permissionDenied session.device.id operation reason)

def runCall {α : Type} (effect : Effect τ BusError α) : Call τ α := runCallOn setMetadata (onTransport effect)

def close : Call τ Unit := modify (setMetadata .markClosed)

section Guards

variable {C : Type} {R : C → Type} (T : Transport τ C R)

def readingCall (interface operation : String) (call : C) : Call τ (R call) := do
  ensureOpen interface operation
  runCall (T call)

def writingCall (interface operation reason : String) (call : C) : Call τ (R call) := do
  ensureOpen interface operation
  ensureWritable operation reason
  runCall (T call)

/-- The access is looked at first, and then whether the session is open. -/
def grantedCall (interface operation reason : String) (call : C) : Call τ (R call) := do
  ensureWritable operation reason
  readingCall T interface operation call

/-- A query of the transport does not count as a call of the session. -/
def queryCall (interface operation : String) (call : C) : Call τ (R call) := do
  ensureOpen interface operation
  onTransport (T call)

end Guards

theorem exec_ensureOpen (interface operation : String) (session : TransportSession τ) :
    (ensureOpen interface operation).exec session =
      (session.metadata.ensureOpen session.device.id interface operation, session) := by
  rw [ensureOpen, exec_bind_of_ok (exec_get session), exec_ofExcept]

theorem exec_ensureWritable (operation reason : String) (session : TransportSession τ) :
    (ensureWritable operation reason).exec session =
      (if session.metadata.access.canWrite then .ok () else
        .error (.permissionDenied session.device.id operation reason), session) := by
  rw [ensureWritable, exec_bind_of_ok (exec_get session)]
  by_cases hwrite : session.metadata.access.canWrite = true
  · simp only [hwrite, if_true]
    rfl
  · simp only [hwrite]
    rfl

theorem exec_runCall {α : Type} (effect : Effect τ BusError α) (session : TransportSession τ) :
    (runCall effect).exec session =
      let done := effect.exec session.transport
      (done.1, { session with
        metadata := session.metadata.beginCall.finishCall done.1
        transport := done.2 }) := by
  rw [runCall, exec_runCallOn]
  rfl

section Guards

variable {C : Type} {R : C → Type} (T : Transport τ C R)

theorem exec_readingCall (interface operation : String) (call : C) (session : TransportSession τ) :
    (readingCall T interface operation call).exec session =
      if session.metadata.state = .closed then
        (.error (.sessionUnavailable session.device.id
          s!"cannot perform '{operation}' on a closed {interface} session"), session)
      else (runCall (T call)).exec session := by
  rw [readingCall, exec_bind, exec_ensureOpen, SessionMetadata.ensureOpen]
  by_cases hclosed : session.metadata.state = .closed
  · rw [if_pos hclosed, if_pos hclosed]
  · rw [if_neg hclosed, if_neg hclosed]

theorem exec_writingCall (interface operation reason : String) (call : C) (session : TransportSession τ) :
    (writingCall T interface operation reason call).exec session =
      if session.metadata.state = .closed then
        (.error (.sessionUnavailable session.device.id
          s!"cannot perform '{operation}' on a closed {interface} session"), session)
      else if session.metadata.access.canWrite then (runCall (T call)).exec session
      else (.error (.permissionDenied session.device.id operation reason), session) := by
  rw [writingCall, exec_bind, exec_ensureOpen, SessionMetadata.ensureOpen]
  by_cases hclosed : session.metadata.state = .closed
  · rw [if_pos hclosed, if_pos hclosed]
  · rw [if_neg hclosed, if_neg hclosed]
    simp only
    rw [exec_bind, exec_ensureWritable]
    by_cases hwrite : session.metadata.access.canWrite = true
    · rw [if_pos hwrite, if_pos hwrite]
    · rw [if_neg hwrite, if_neg hwrite]

end Guards

end TransportSession

end Lemnos.Linux
