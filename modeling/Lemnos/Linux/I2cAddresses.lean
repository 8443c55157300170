import Lemnos.Library.Grants
import Lemnos.Library.Logs
import Lemnos.Linux.TransportLifeCycle

namespace Lemnos.Linux

open Lemnos.Core Bus Library.Frames Library.Grants LinuxI2cDevice

def I2cDeviceCall.chosenAddress : I2cDeviceCall → Option UInt16
  | .new _ address => some address
  | .setSlaveAddress address => some address
  | _ => none

theorem I2cDeviceCall.chosenAddress_of_isTransfer {call : I2cDeviceCall} (h : call.isTransfer = true) :
    call.chosenAddress = none := by
  cases call with
  | new devnode address => cases h
  | setSlaveAddress address => cases h
  | _ => rfl

/-- The address that the kernel has for the handle after the calls. A call that fails leaves it as it was. -/
def slaveAddress (host : I2cHost) (calls : List I2cDeviceCall) : Option UInt16 :=
  chosen (fun earlier call => (host earlier call).isOk) I2cDeviceCall.chosenAddress calls

def TransfersAt (host : I2cHost) (address : UInt16) (earlier made : List I2cDeviceCall) : Prop :=
  ∀ front call rest, made = front ++ call :: rest → call.isTransfer = true →
    slaveAddress host (earlier ++ front) = some address

section Device

variable {host : I2cHost} {deviceId : DeviceId}

abbrev OnlyTransfers {E α : Type} (effect : Io E α) : Prop :=
  Logs LinuxI2cDevice.calls (fun call => call.isTransfer = true) effect

theorem onlyTransfers_call {made : I2cDeviceCall} (h : made.isTransfer = true) :
    OnlyTransfers (call host made) := by
  apply Logs.entry
  · intro device
    rw [exec_call]
  · exact h

theorem onlyTransfers_smbusWriteByteDataFrom (register : UInt8) (index : ℕ) (values : List UInt8) :
    OnlyTransfers (smbusWriteByteDataFrom host register index values) := by
  induction values generalizing index with
  | nil => exact .pure ()
  | cons value values ih => exact .bind (onlyTransfers_call rfl) fun _ => ih (index + 1)

theorem onlyTransfers_smbusWriteFallback (bytes : List UInt8) :
    OnlyTransfers (smbusWriteFallback host bytes) := by
  rcases bytes with _ | ⟨first, _ | ⟨second, _ | ⟨third, rest⟩⟩⟩
  · exact .pure ()
  · exact .bind (onlyTransfers_call rfl) fun _ => .pure ()
  · exact .bind (onlyTransfers_call rfl) fun _ => .pure ()
  · simp only [smbusWriteFallback]
    refine .ite (fun _ => ?_) fun _ => onlyTransfers_smbusWriteByteDataFrom first 0 _
    apply Logs.bind (Logs.attempt (onlyTransfers_call rfl))
    intro result
    cases result with
    | ok answer => exact .pure ()
    | error error =>
      exact .ite (fun _ => onlyTransfers_smbusWriteByteDataFrom first 0 _) fun _ => .throw error

theorem onlyTransfers_smbusReadByteDataFrom (register : UInt8) (offset remaining : ℕ) :
    OnlyTransfers (smbusReadByteDataFrom host register offset remaining) := by
  induction remaining generalizing offset with
  | zero => exact .pure []
  | succ remaining ih =>
    exact .bind (onlyTransfers_call rfl) fun _ => .bind (ih (offset + 1)) fun _ => .pure _

theorem onlyTransfers_smbusReadRegisterDataSequence (register : UInt8) (readLength : UInt32) :
    OnlyTransfers (smbusReadRegisterDataSequence host register readLength) := by
  have hbytes := @onlyTransfers_smbusReadByteDataFrom host register 0 readLength.toNat
  unfold smbusReadRegisterDataSequence
  refine .ite (fun _ => .pure []) fun _ => .ite (fun _ => ?_) fun _ => hbytes
  apply Logs.bind (Logs.attempt (onlyTransfers_call rfl))
  intro result
  cases result with
  | ok answer => exact .pure answer
  | error error => exact hbytes

theorem onlyTransfers_smbusWriteReadFallback (write : List UInt8) (readLength : UInt32) :
    OnlyTransfers (smbusWriteReadFallback host write readLength) := by
  rcases write with _ | ⟨register, _ | ⟨second, rest⟩⟩
  · exact .throw _
  · exact onlyTransfers_smbusReadRegisterDataSequence register readLength
  · exact .throw _

theorem onlyTransfers_linuxI2cReadInto (length : ℕ) : OnlyTransfers (linuxI2cReadInto host deviceId length) :=
  .ite (fun _ => .throw _) fun _ => .bind (.adapt (onlyTransfers_call rfl) _) fun _ => .pure _

theorem onlyTransfers_linuxI2cRead (length : UInt32) : OnlyTransfers (linuxI2cRead host deviceId length) :=
  .ite (fun _ => .throw _) fun _ => onlyTransfers_linuxI2cReadInto length.toNat

theorem onlyTransfers_linuxI2cWrite (bytes : List UInt8) : OnlyTransfers (linuxI2cWrite host deviceId bytes) := by
  refine .ite (fun _ => .throw _) fun _ => ?_
  apply Logs.bind (Logs.attempt (onlyTransfers_call rfl))
  intro result
  cases result with
  | ok answer => exact .pure ()
  | error error =>
    exact .ite (fun _ => .adapt (onlyTransfers_smbusWriteFallback bytes) _) fun _ => .throw _

theorem onlyTransfers_checkedFallback (write : List UInt8) (length : ℕ) :
    OnlyTransfers (checkedFallback host write length) :=
  .bind (onlyTransfers_smbusWriteReadFallback write _) fun _ => .ite (fun _ => .throw _) fun _ => .pure _

theorem onlyTransfers_linuxI2cWriteReadInto (write : List UInt8) (length : ℕ) :
    OnlyTransfers (linuxI2cWriteReadInto host deviceId write length) := by
  refine .ite (fun _ => .throw _) fun _ => .ite (fun _ => .throw _) fun _ => ?_
  apply Logs.bind (Logs.attempt (onlyTransfers_call rfl))
  intro result
  cases result with
  | ok answer => exact .pure _
  | error error =>
    exact .ite (fun _ => .adapt (onlyTransfers_checkedFallback write length) _) fun _ => .throw _

theorem onlyTransfers_linuxI2cWriteRead (write : List UInt8) (readLength : UInt32) :
    OnlyTransfers (linuxI2cWriteRead host deviceId write readLength) :=
  .ite (fun _ => .throw _) fun _ => .ite (fun _ => .throw _) fun _ =>
    onlyTransfers_linuxI2cWriteReadInto write readLength.toNat

theorem onlyTransfers_linuxI2cOperations (operations : List I2cOperation) :
    OnlyTransfers (linuxI2cOperations host deviceId operations) := by
  induction operations with
  | nil => exact .pure []
  | cons operation operations ih =>
    refine .bind ?_ fun _ => .bind ih fun _ => .pure _
    cases operation with
    | read length => exact onlyTransfers_linuxI2cRead length
    | write bytes => exact .bind (onlyTransfers_linuxI2cWrite bytes) fun _ => .pure []

theorem onlyTransfers_linuxI2cCall (call : I2cTransportCall) :
    OnlyTransfers (linuxI2cCall host deviceId call) := by
  cases call with
  | readInto length => exact onlyTransfers_linuxI2cReadInto length
  | read length => exact onlyTransfers_linuxI2cRead length
  | write bytes => exact onlyTransfers_linuxI2cWrite bytes
  | writeReadInto write length => exact onlyTransfers_linuxI2cWriteReadInto write length
  | writeRead write readLength => exact onlyTransfers_linuxI2cWriteRead write readLength
  | transaction operations =>
    exact .ite (fun _ => .throw _) fun _ => onlyTransfers_linuxI2cOperations operations

end Device

section Address

variable {host : I2cHost} {address : UInt16} {earlier made : List I2cDeviceCall} {choice : I2cDeviceCall}

theorem slaveAddress_of_granted {answer : List UInt8} (hchoice : choice.chosenAddress = some address)
    (h : host earlier choice = .ok answer) : slaveAddress host (earlier ++ [choice]) = some address := by
  rw [slaveAddress, chosen_append_singleton, h, hchoice]
  rfl

theorem slaveAddress_of_refused {error : LinuxI2cError} (h : host earlier choice = .error error) :
    slaveAddress host (earlier ++ [choice]) = slaveAddress host earlier := by
  rw [slaveAddress, chosen_append_singleton, h]
  rfl

theorem slaveAddress_of_transfers (h : ∀ call ∈ made, call.isTransfer = true) :
    slaveAddress host (earlier ++ made) = slaveAddress host earlier :=
  chosen_append_of_none fun call hcall => I2cDeviceCall.chosenAddress_of_isTransfer (h call hcall)

theorem transfersAt_append {choices transfers : List I2cDeviceCall}
    (hchoices : ∀ call ∈ choices, call.isTransfer = false)
    (htransfers : ∀ call ∈ transfers, call.isTransfer = true)
    (hselected : transfers = [] ∨ slaveAddress host (earlier ++ choices) = some address) :
    TransfersAt host address earlier (choices ++ transfers) := by
  intro front call rest hsplit htransfer
  have hnot : call ∉ choices := by
    intro hin
    have hfalse := hchoices call hin
    rw [htransfer] at hfalse
    cases hfalse
  rcases List.append_eq_append_iff.mp hsplit with ⟨between, rfl, hlater⟩ | ⟨between, rfl, hlater⟩
  · have hbetween : ∀ other ∈ between, other.isTransfer = true := by
      intro other hother
      apply htransfers
      rw [hlater]
      exact List.mem_append_left _ hother
    rw [← List.append_assoc, slaveAddress_of_transfers hbetween]
    rcases hselected with rfl | hselected
    · exact absurd hlater.symm (List.append_ne_nil_of_right_ne_nil between (List.cons_ne_nil call rest))
    · exact hselected
  · cases between with
    | nil =>
      rw [List.append_nil] at hselected
      rcases hselected with rfl | hselected
      · cases hlater
      · exact hselected
    | cons other between =>
      cases hlater
      exact absurd (List.mem_append_right front List.mem_cons_self) hnot

end Address

namespace LinuxKernelI2cControllerTransport

variable {host : I2cHost} {transport : LinuxKernelI2cControllerTransport}

def Remembers (host : I2cHost) (transport : LinuxKernelI2cControllerTransport) : Prop :=
  transport.opened = true → transport.currentAddress = slaveAddress host transport.device.calls

def SelectedAt (host : I2cHost) (address : UInt16) (transport : LinuxKernelI2cControllerTransport) : Prop :=
  transport.opened = true ∧ slaveAddress host transport.device.calls = some address

structure Selects (host : I2cHost) (address : UInt16) (before : LinuxKernelI2cControllerTransport)
    (after : BusResult Unit × LinuxKernelI2cControllerTransport) : Prop where
  remembers : Remembers host after.2
  choices : ∃ made, after.2.device.calls = before.device.calls ++ made ∧
    ∀ call ∈ made, call.isTransfer = false
  selected : after.1 = .ok () → SelectedAt host address after.2

theorem selects_selectAddress (h : Remembers host transport) {choice : I2cDeviceCall} {address : UInt16}
    (hchoice : choice.chosenAddress = some address) (operation : String) :
    Selects host address transport ((selectAddress host choice address operation).exec transport) := by
  have htransfer : ∀ call ∈ [choice], call.isTransfer = false := by
    intro call hcall
    rw [List.mem_singleton.mp hcall]
    by_contra htrue
    rw [I2cDeviceCall.chosenAddress_of_isTransfer (Bool.eq_true_of_not_eq_false htrue)] at hchoice
    cases hchoice
  unfold selectAddress onDevice
  rw [exec_bind_of_ok (exec_get transport), exec_bind, exec_within, exec_adapt, exec_call]
  cases hanswer : host transport.device.calls choice with
  | error error =>
    refine ⟨?_, ⟨[choice], rfl, htransfer⟩, fun hok => by cases hok⟩
    intro hopened
    exact (h hopened).trans (slaveAddress_of_refused hanswer).symm
  | ok answer =>
    have haddress := slaveAddress_of_granted hchoice hanswer
    exact ⟨fun _ => haddress.symm, ⟨[choice], rfl, htransfer⟩, fun _ => ⟨rfl, haddress⟩⟩

theorem selects_ensureAddress (h : Remembers host transport) (address : UInt16) (operation : String) :
    Selects host address transport ((ensureAddress host address operation).exec transport) := by
  unfold ensureAddress
  rw [exec_bind_of_ok (exec_get transport)]
  by_cases hopened : transport.opened = true
  · rw [if_neg (by simp [hopened])]
    by_cases hsame : transport.currentAddress = some address
    · rw [if_neg (not_not.mpr hsame)]
      have haddress := (h hopened).symm.trans hsame
      exact ⟨h, ⟨[], (List.append_nil _).symm, by simp⟩, fun _ => ⟨hopened, haddress⟩⟩
    · rw [if_pos hsame]
      exact selects_selectAddress h rfl operation
  · rw [if_pos (by simp [hopened])]
    exact selects_selectAddress h rfl operation

theorem transport_spec (h : Remembers host transport) (address : UInt16) (call : I2cTransportCall) :
    let after := ((LinuxKernelI2cControllerTransport.transport host (address, call)).exec transport).2
    Remembers host after ∧ ∃ made, after.device.calls = transport.device.calls ++ made ∧
      TransfersAt host address transport.device.calls made := by
  obtain ⟨hremembers, ⟨choices, hchoices, hnone⟩, hselected⟩ :=
    selects_ensureAddress h address (operationName call)
  simp only [LinuxKernelI2cControllerTransport.transport]
  rw [exec_bind]
  cases hexec : (ensureAddress host address (operationName call)).exec transport with
  | mk result selected =>
    rw [hexec] at hremembers hchoices hselected
    cases result with
    | error error =>
      refine ⟨hremembers, choices, hchoices, ?_⟩
      rw [← List.append_nil choices]
      exact transfersAt_append hnone (by simp) (.inl rfl)
    | ok done =>
      obtain ⟨hopened, haddress⟩ := hselected rfl
      obtain ⟨transfers, htransfers, hall⟩ :=
        @onlyTransfers_linuxI2cCall host selected.ownerId call selected.device
      simp only [exec_bind_of_ok (exec_get selected), onDevice, exec_within]
      refine ⟨?_, choices ++ transfers, ?_, ?_⟩
      · intro hstill
        refine (hremembers hopened).trans ?_
        change _ = slaveAddress host ((linuxI2cCall host selected.ownerId call).exec selected.device).2.calls
        rw [htransfers, slaveAddress_of_transfers hall]
      · rw [htransfers, hchoices, List.append_assoc]
      · apply transfersAt_append hnone hall
        rw [← hchoices]
        exact .inr haddress

end LinuxKernelI2cControllerTransport

inductive I2cControllerRequest where
  | call (address : UInt16) (call : I2cTransportCall)
  | close

namespace I2cControllerRequest

open LinuxKernelI2cControllerTransport

abbrev Session := TransportSession LinuxKernelI2cControllerTransport

def exec (host : I2cHost) (session : Session) : I2cControllerRequest → Session
  | .call address made =>
    ((LinuxI2cControllerSession.method (LinuxKernelI2cControllerTransport.transport host) address made).exec
      session).2
  | .close => (TransportSession.close.exec session).2

end I2cControllerRequest

section Session

variable {τ : Type} {C : Type} {R : C → Type}

theorem TransportSession.readingCall_transport (T : Transport τ C R) (interface operation : String) (call : C)
    (session : TransportSession τ) :
    ((readingCall T interface operation call).exec session).2.transport = session.transport ∨
      ((readingCall T interface operation call).exec session).2.transport =
        ((T call).exec session.transport).2 := by
  rw [exec_readingCall, exec_runCall]
  split
  · exact .inl rfl
  · exact .inr rfl

theorem TransportSession.writingCall_transport (T : Transport τ C R) (interface operation reason : String)
    (call : C) (session : TransportSession τ) :
    ((writingCall T interface operation reason call).exec session).2.transport = session.transport ∨
      ((writingCall T interface operation reason call).exec session).2.transport =
        ((T call).exec session.transport).2 := by
  rw [exec_writingCall, exec_runCall]
  split
  · exact .inl rfl
  · split
    · exact .inr rfl
    · exact .inl rfl

theorem LinuxI2cControllerSession.method_transport (T : I2cControllerTransport τ) (address : UInt16)
    (call : I2cTransportCall) (session : TransportSession τ) :
    ((method T address call).exec session).2.transport = session.transport ∨
      ((method T address call).exec session).2.transport = ((T (address, call)).exec session.transport).2 := by
  cases call with
  | readInto length => exact TransportSession.readingCall_transport T _ _ _ session
  | read length => exact TransportSession.readingCall_transport T _ _ _ session
  | write bytes => exact TransportSession.writingCall_transport T _ _ _ _ session
  | writeReadInto write length => exact TransportSession.writingCall_transport T _ _ _ _ session
  | writeRead write readLength => exact TransportSession.writingCall_transport T _ _ _ _ session
  | transaction operations =>
    unfold method transaction
    by_cases hwrites : operations.any isWrite = true
    · simp only [if_pos hwrites]
      exact TransportSession.writingCall_transport T _ _ _ _ session
    · simp only [if_neg hwrites]
      exact TransportSession.readingCall_transport T _ _ _ session

end Session

namespace I2cControllerRequest

open LinuxKernelI2cControllerTransport

variable {host : I2cHost} {session : Session}

/-- One request: what it makes of transfers, it makes at the address that it is for. -/
structure ServedAt (host : I2cHost) (session : Session) (request : I2cControllerRequest) (after : Session) :
    Prop where
  remembers : Remembers host after.transport
  transfers : ∃ made, after.transport.device.calls = session.transport.device.calls ++ made ∧
    ∀ address call, request = .call address call →
      TransfersAt host address session.transport.device.calls made

theorem exec_spec (h : Remembers host session.transport) (request : I2cControllerRequest) :
    ServedAt host session request (request.exec host session) := by
  have hnothing : ∀ address, TransfersAt host address session.transport.device.calls [] := by
    intro address front call rest hsplit
    exact absurd hsplit.symm (List.append_ne_nil_of_right_ne_nil front (List.cons_ne_nil call rest))
  cases request with
  | close => exact ⟨h, [], (List.append_nil _).symm, fun address call heq => by cases heq⟩
  | call address call =>
    obtain ⟨hremembers, made, hmade, htransfers⟩ := transport_spec h address call
    rcases LinuxI2cControllerSession.method_transport (LinuxKernelI2cControllerTransport.transport host) address
      call session with hsame | hserved
    · refine ⟨?_, [], ?_, ?_⟩
      · rw [exec, hsame]
        exact h
      · rw [exec, hsame, List.append_nil]
      · intro other _ _
        exact hnothing other
    · refine ⟨?_, made, ?_, ?_⟩
      · rw [exec, hserved]
        exact hremembers
      · rw [exec, hserved, hmade]
      · rintro _ _ ⟨⟩
        exact htransfers

theorem exec_remembers (h : Remembers host session.transport) (requests : List I2cControllerRequest) :
    Remembers host (requests.foldl (exec host) session).transport := by
  induction requests generalizing session with
  | nil => exact h
  | cons request requests ih => exact ih (exec_spec h request).remembers

end I2cControllerRequest

theorem transfers_at_requested_address (host : I2cHost) (device : DeviceDescriptor) (metadata : SessionMetadata)
    (devnode : String) (requests : List I2cControllerRequest) (address : UInt16) (call : I2cTransportCall) :
    let session := requests.foldl (I2cControllerRequest.exec host)
      { device, metadata, transport := { ownerId := device.id, devnode } }
    let after := (I2cControllerRequest.call address call).exec host session
    ∃ made, after.transport.device.calls = session.transport.device.calls ++ made ∧
      TransfersAt host address session.transport.device.calls made := by
  intro session after
  have hfresh : LinuxKernelI2cControllerTransport.Remembers host { ownerId := device.id, devnode } :=
    fun hopened => by cases hopened
  have hremembers : LinuxKernelI2cControllerTransport.Remembers host session.transport :=
    I2cControllerRequest.exec_remembers hfresh requests
  obtain ⟨-, made, hmade, htransfers⟩ := I2cControllerRequest.exec_spec hremembers (.call address call)
  exact ⟨made, hmade, htransfers address call rfl⟩

end Lemnos.Linux
