import Lemnos.Bus.LifeCycle
import Lemnos.Linux.I2c
import Lemnos.Linux.Sessions

namespace Lemnos.Linux

open Lemnos.Core Bus Library.Frames

structure Recorded (τ C : Type) where
  transport : τ
  calls : List C := []

def Recorded.called {τ C : Type} (call : C) (recorded : Recorded τ C) : Recorded τ C :=
  { recorded with calls := recorded.calls ++ [call] }

def recorded {τ C : Type} {R : C → Type} (T : Transport τ C R) : Transport (Recorded τ C) C R :=
  fun call => do
  modify (Recorded.called call)
  (T call).within Recorded.transport (fun transport recorded => { recorded with transport })

def I2cTransportCall.Outbound : I2cTransportCall → Prop
  | readInto _ | read _ => False
  | write _ | writeReadInto .. | writeRead .. => True
  | transaction operations => operations.any isWrite = true

def SpiTransportCall.Outbound : SpiTransportCall → Prop
  | transfer _ | write _ | configure _ => True
  | configuration => False

def UartTransportCall.Outbound : UartTransportCall → Prop
  | readInto _ | read _ | configuration => False
  | write _ | flush | configure _ => True

def UsbSessionCall.Outbound : UsbSessionCall → Prop
  | controlTransfer transfer => transfer.setup.direction = .output
  | bulkReadInto .. | bulkRead .. | interruptReadInto .. | interruptRead .. => False
  | bulkWrite .. | interruptWrite _ | claimInterface .. | releaseInterface _ => True

def UsbTransportCall.Outbound : UsbTransportCall → Prop
  | call c => c.Outbound
  | close => False

namespace TransportSession

variable {τ C : Type}

def calls (session : TransportSession (Recorded τ C)) : List C := session.transport.calls

def system (τ : Type) {C Request : Type} {Result : Request → Type}
    (method : (request : Request) → Call (Recorded τ C) (Result request)) (close : Call (Recorded τ C) Unit)
    (Outbound : C → Prop) (ActsOnClose : Prop) : SessionSystem where
  State := TransportSession (Recorded τ C)
  Operation := C
  Request := Request
  World := τ
  metadata := TransportSession.metadata
  log := calls
  method request := ⟨Result request, method request⟩
  close := close
  others transport session := { session with transport := { session.transport with transport } }
  Outbound := Outbound
  ActsOnClose _ := ActsOnClose
  GivesBack _ _ := False

theorem ensuresOpen (interface operation : String) :
    EnsuresOpen TransportSession.metadata (ensureOpen interface operation : Call τ Unit) :=
  .of_exec (exec_ensureOpen interface operation)

theorem ensuresWritable (operation reason : String) :
    EnsuresWritable TransportSession.metadata (ensureWritable operation reason : Call τ Unit) :=
  .of_exec (exec_ensureWritable operation reason)

theorem keepsAccess_onTransport {α : Type} (effect : Effect τ BusError α) :
    Keeps (fun session : TransportSession τ => session.metadata.access) (onTransport effect) :=
  fun _ => rfl

theorem keepsAccess_runCall {α : Type} (effect : Effect τ BusError α) :
    Keeps (fun session : TransportSession τ => session.metadata.access) (runCall effect) :=
  keepsAccess_runCallOn (fun _ _ => rfl) (keepsAccess_onTransport effect)

section Calls

variable {R : C → Type} (T : Transport τ C R) {Outbound p : C → Prop} {call : C}

theorem exec_onTransport_recorded (call : C) (session : TransportSession (Recorded τ C)) :
    ((onTransport (recorded T call)).exec session).2.calls = session.calls ++ [call] := by
  rw [onTransport, exec_within, recorded, exec_bind_of_ok (exec_modify _ _), exec_within]
  rfl

theorem logs_onTransport (h : p call) : Logs calls p (onTransport (recorded T call)) :=
  .entry (exec_onTransport_recorded T call) h

theorem logs_runCall (h : p call) : Logs calls p (runCall (recorded T call)) :=
  @logs_runCallOn _ _ _ _ setMetadata (fun _ _ => rfl) _ _ (logs_onTransport T h)

theorem guarded_readingCall (interface operation : String) (h : ¬Outbound call) :
    Guarded TransportSession.metadata calls Outbound (readingCall (recorded T) interface operation call) :=
  .reading (ensuresOpen interface operation) (keepsAccess_runCall _) (logs_runCall T h)

theorem guarded_queryCall (interface operation : String) (h : ¬Outbound call) :
    Guarded TransportSession.metadata calls Outbound (queryCall (recorded T) interface operation call) :=
  .reading (ensuresOpen interface operation) (keepsAccess_onTransport _) (logs_onTransport T h)

theorem guarded_writingCall (interface operation reason : String) (call : C) :
    Guarded TransportSession.metadata calls Outbound
      (writingCall (recorded T) interface operation reason call) :=
  .writing (ensuresOpen interface operation) (ensuresWritable operation reason) (keepsAccess_runCall _)

theorem guarded_grantedCall (interface operation reason : String) (call : C) :
    Guarded TransportSession.metadata calls Outbound
      (grantedCall (recorded T) interface operation reason call) :=
  .granted (ensuresWritable operation reason) (ensuresOpen interface operation) (keepsAccess_runCall _)

theorem guarded_writingWhen {c : Prop} [Decidable c] (interface operation reason : String) (h : Outbound call → c) :
    Guarded TransportSession.metadata calls Outbound
      (if c then writingCall (recorded T) interface operation reason call
        else readingCall (recorded T) interface operation call) := by
  by_cases hc : c
  · rw [if_pos hc]
    exact guarded_writingCall T interface operation reason call
  · rw [if_neg hc]
    exact guarded_readingCall T interface operation fun hout => hc (h hout)

end Calls

theorem closing_close {Outbound : C → Prop} {GivesBack : TransportSession (Recorded τ C) → C → Prop} :
    Closing TransportSession.metadata calls Outbound (fun _ => False) GivesBack close where
  closed _ _ := rfl
  failed _ hfailed := absurd rfl hfailed
  silent _ _ := rfl
  acts _ hacts := hacts.elim

theorem disciplined_system {Request : Type} {Result : Request → Type}
    {method : (request : Request) → Call (Recorded τ C) (Result request)} {Outbound : C → Prop}
    (h : ∀ request, Guarded TransportSession.metadata calls Outbound (method request)) :
    (system τ method close Outbound False).Disciplined where
  guarded := h
  closing := closing_close
  others_metadata _ _ := rfl
  others_log _ _ := rfl

end TransportSession

open TransportSession

section Methods

variable {τ : Type}

def LinuxI2cSession.method (T : I2cTransport τ) : (call : I2cTransportCall) → Call τ call.Result
  | .readInto length => readInto T length
  | .read length => read T length
  | .write bytes => write T bytes
  | .writeReadInto written length => writeReadInto T written length
  | .writeRead written readLength => writeRead T written readLength
  | .transaction operations => transaction T operations

def LinuxI2cControllerSession.method (T : I2cControllerTransport τ) (address : UInt16) :
    (call : I2cTransportCall) → Call τ call.Result
  | .readInto length => readInto T address length
  | .read length => read T address length
  | .write bytes => write T address bytes
  | .writeReadInto written length => writeReadInto T address written length
  | .writeRead written readLength => writeRead T address written readLength
  | .transaction operations => transaction T address operations

def LinuxSpiSession.method (T : SpiTransport τ) : (call : SpiTransportCall) → Call τ call.Result
  | .transfer written => transfer T written
  | .write bytes => write T bytes
  | .configure target => configure T target
  | .configuration => configuration T

def LinuxUartSession.method (T : UartTransport τ) : (call : UartTransportCall) → Call τ call.Result
  | .readInto length => readInto T length
  | .read maxBytes => read T maxBytes
  | .write bytes => write T bytes
  | .flush => flush T
  | .configure target => configure T target
  | .configuration => configuration T

def UsbTransportSession.method (T : UsbTransport τ) : (call : UsbSessionCall) → Call τ call.Result
  | .controlTransfer transfer => controlTransfer T transfer
  | .bulkReadInto endpoint length timeoutMs => bulkReadInto T endpoint length timeoutMs
  | .bulkRead endpoint length timeoutMs => bulkRead T endpoint length timeoutMs
  | .bulkWrite endpoint bytes timeoutMs => bulkWrite T endpoint bytes timeoutMs
  | .interruptReadInto endpoint length timeoutMs => interruptReadInto T endpoint length timeoutMs
  | .interruptRead endpoint length timeoutMs => interruptRead T endpoint length timeoutMs
  | .interruptWrite transfer => interruptWrite T transfer
  | .claimInterface interfaceNumber alternateSetting => claimInterface T interfaceNumber alternateSetting
  | .releaseInterface interfaceNumber => releaseInterface T interfaceNumber

theorem LinuxI2cSession.guarded_method (T : I2cTransport τ) (call : I2cTransportCall) :
    Guarded TransportSession.metadata calls I2cTransportCall.Outbound (method (recorded T) call) := by
  cases call with
  | readInto length => exact guarded_readingCall T _ _ not_false
  | read length => exact guarded_readingCall T _ _ not_false
  | write bytes => exact guarded_writingCall T _ _ _ _
  | writeReadInto written length => exact guarded_writingCall T _ _ _ _
  | writeRead written readLength => exact guarded_writingCall T _ _ _ _
  | transaction operations => exact guarded_writingWhen T _ _ _ id

theorem LinuxI2cControllerSession.guarded_method (T : I2cControllerTransport τ) (address : UInt16)
    (call : I2cTransportCall) :
    Guarded TransportSession.metadata calls (fun call => call.2.Outbound) (method (recorded T) address call) := by
  cases call with
  | readInto length => exact guarded_readingCall T _ _ not_false
  | read length => exact guarded_readingCall T _ _ not_false
  | write bytes => exact guarded_writingCall T _ _ _ _
  | writeReadInto written length => exact guarded_writingCall T _ _ _ _
  | writeRead written readLength => exact guarded_writingCall T _ _ _ _
  | transaction operations => exact guarded_writingWhen T _ _ _ id

theorem LinuxSpiSession.guarded_method (T : SpiTransport τ) (call : SpiTransportCall) :
    Guarded TransportSession.metadata calls SpiTransportCall.Outbound (method (recorded T) call) := by
  cases call with
  | transfer written => exact guarded_grantedCall T _ _ _ _
  | write bytes => exact guarded_grantedCall T _ _ _ _
  | configure target => exact guarded_grantedCall T _ _ _ _
  | configuration => exact guarded_queryCall T _ _ not_false

theorem LinuxUartSession.guarded_method (T : UartTransport τ) (call : UartTransportCall) :
    Guarded TransportSession.metadata calls UartTransportCall.Outbound (method (recorded T) call) := by
  cases call with
  | readInto length => exact guarded_readingCall T _ _ not_false
  | read maxBytes => exact guarded_readingCall T _ _ not_false
  | write bytes => exact guarded_grantedCall T _ _ _ _
  | flush => exact guarded_grantedCall T _ _ _ _
  | configure target => exact guarded_grantedCall T _ _ _ _
  | configuration => exact guarded_queryCall T _ _ not_false

theorem UsbTransportSession.guarded_method (T : UsbTransport τ) (call : UsbSessionCall) :
    Guarded TransportSession.metadata calls UsbTransportCall.Outbound (method (recorded T) call) := by
  cases call with
  | controlTransfer transfer => exact guarded_writingWhen T _ _ _ id
  | bulkReadInto endpoint length timeoutMs => exact guarded_readingCall T _ _ not_false
  | bulkRead endpoint length timeoutMs => exact guarded_readingCall T _ _ not_false
  | bulkWrite endpoint bytes timeoutMs => exact guarded_writingCall T _ _ _ _
  | interruptReadInto endpoint length timeoutMs => exact guarded_readingCall T _ _ not_false
  | interruptRead endpoint length timeoutMs => exact guarded_readingCall T _ _ not_false
  | interruptWrite transfer => exact guarded_writingCall T _ _ _ _
  | claimInterface interfaceNumber alternateSetting => exact guarded_writingCall T _ _ _ _
  | releaseInterface interfaceNumber => exact guarded_writingCall T _ _ _ _

theorem UsbTransportSession.closing (T : UsbTransport τ)
    {GivesBack : TransportSession (Recorded τ UsbTransportCall) → UsbTransportCall → Prop} :
    Closing TransportSession.metadata calls UsbTransportCall.Outbound (fun _ => True) GivesBack
      (close (recorded T)) := by
  apply Closing.of_giveBack
  · exact fun _ _ => rfl
  · exact fun _ _ => rfl
  · exact fun _ => rfl
  · exact fun _ hnot => absurd trivial hnot
  · exact fun session _ => ⟨.close, exec_onTransport_recorded T .close session, False.elim⟩

theorem UsbTransportSession.disciplined (T : UsbTransport τ) :
    (system τ (method (recorded T)) (close (recorded T)) UsbTransportCall.Outbound True).Disciplined where
  guarded := guarded_method T
  closing := closing T
  others_metadata _ _ := rfl
  others_log _ _ := rfl

end Methods

end Lemnos.Linux
