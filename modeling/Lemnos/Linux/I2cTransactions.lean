import Lemnos.Linux.I2c

namespace Lemnos.Linux

open Lemnos.Core Bus Library.Frames LinuxI2cDevice

def Valid : I2cOperation → Prop
  | .read length => length ≠ 0
  | .write bytes => bytes ≠ []

instance : DecidablePred Valid := fun operation =>
  match operation with
  | .read length => inferInstanceAs (Decidable (length ≠ 0))
  | .write bytes => inferInstanceAs (Decidable (bytes ≠ []))

def RejectedAsInvalid {α : Type} (result : BusResult α) : Prop :=
  ∃ deviceId operation reason, result = .error (.invalidRequest deviceId operation reason)

def LinuxI2cDevice.performed (device : LinuxI2cDevice) : List I2cDeviceCall :=
  device.calls.filter I2cDeviceCall.isTransfer

section Kernel

variable {host : I2cHost} {deviceId : DeviceId}

theorem exec_linuxI2cOperation_of_invalid {operation : I2cOperation} (h : ¬Valid operation)
    (device : LinuxI2cDevice) :
    RejectedAsInvalid ((linuxI2cOperation host deviceId operation).exec device).1 ∧
      ((linuxI2cOperation host deviceId operation).exec device).2 = device := by
  cases operation with
  | read length =>
    obtain rfl : length = 0 := not_not.mp h
    exact ⟨⟨_, _, _, rfl⟩, rfl⟩
  | write bytes =>
    obtain rfl : bytes = [] := not_not.mp h
    exact ⟨⟨_, _, _, rfl⟩, rfl⟩

theorem exec_linuxI2cRead {length : UInt32} (h : length ≠ 0) (device : LinuxI2cDevice) :
    (linuxI2cRead host deviceId length).exec device =
      (((host device.calls (.read length.toNat)).mapError fun error =>
          transportI2cFailure deviceId "i2c.read" s!"Linux I2C read failed: {error.text}").map (filled length.toNat),
        ⟨device.calls ++ [.read length.toNat]⟩) := by
  have hlength : length.toNat ≠ 0 := fun hzero => h (UInt32.toNat_inj.mp hzero)
  rw [linuxI2cRead, if_neg h]
  change (linuxI2cReadInto host deviceId length.toNat).exec device = _
  rw [linuxI2cReadInto, if_neg hlength]
  change Effect.exec (_ >>= fun bytes => pure (filled length.toNat bytes)) device = _
  rw [exec_bind_pure, exec_adapt, exec_call]

theorem exec_linuxI2cWrite_of_ok {bytes answer : List UInt8} (h : bytes ≠ []) {device : LinuxI2cDevice}
    (hanswer : host device.calls (.write bytes) = .ok answer) :
    (linuxI2cWrite host deviceId bytes).exec device = (.ok (), ⟨device.calls ++ [.write bytes]⟩) := by
  rw [linuxI2cWrite, if_neg h]
  change Effect.exec ((call host (.write bytes)).attempt >>= _) device = _
  rw [exec_bind_of_ok (exec_attempt _ _), exec_call, hanswer]
  rfl

theorem linuxI2cOperation_not_rejected {operation : I2cOperation} (h : Valid operation)
    (device : LinuxI2cDevice) :
    ¬RejectedAsInvalid ((linuxI2cOperation host deviceId operation).exec device).1 := by
  rintro ⟨_, _, _, hrejected⟩
  cases operation with
  | read length =>
    rw [linuxI2cOperation, exec_linuxI2cRead h] at hrejected
    cases hanswer : host device.calls (.read length.toNat) <;> rw [hanswer] at hrejected <;> cases hrejected
  | write bytes =>
    rw [linuxI2cOperation, exec_bind_pure] at hrejected
    cases hanswer : host device.calls (.write bytes) with
    | ok answer =>
      rw [exec_linuxI2cWrite_of_ok h hanswer] at hrejected
      cases hrejected
    | error error =>
      rw [linuxI2cWrite, if_neg h] at hrejected
      change ((Effect.exec ((call host (.write bytes)).attempt >>= _) device).1).map _ = _ at hrejected
      rw [exec_bind_of_ok (exec_attempt _ _), exec_call, hanswer] at hrejected
      simp only at hrejected
      split at hrejected
      · rw [exec_adapt] at hrejected
        generalize (smbusWriteFallback host bytes).exec _ = fallback at hrejected
        obtain ⟨result, after⟩ := fallback
        cases result <;> cases hrejected
      · cases hrejected

theorem rejectedAsInvalid_map {α β : Type} (f : α → β) (result : BusResult α) :
    RejectedAsInvalid (result.map f) ↔ RejectedAsInvalid result := by
  cases result <;> simp [RejectedAsInvalid, Except.map]

theorem linuxI2cOperations_not_rejected {operations : List I2cOperation}
    (h : ∀ operation ∈ operations, Valid operation)
    (device : LinuxI2cDevice) :
    ¬RejectedAsInvalid ((linuxI2cOperations host deviceId operations).exec device).1 := by
  induction operations generalizing device with
  | nil =>
    rintro ⟨_, _, _, hrejected⟩
    cases hrejected
  | cons operation operations ih =>
    have hfirst :=
      @linuxI2cOperation_not_rejected host deviceId operation (h operation List.mem_cons_self) device
    cases hexec : (linuxI2cOperation host deviceId operation).exec device with
    | mk result after =>
      rw [hexec] at hfirst
      cases result with
      | error error =>
        rw [linuxI2cOperations, exec_bind_of_error hexec]
        rintro ⟨_, _, _, hrejected⟩
        cases hrejected
        exact hfirst ⟨_, _, _, rfl⟩
      | ok bytes =>
        rw [linuxI2cOperations, exec_bind_of_ok hexec, exec_bind_pure, rejectedAsInvalid_map]
        exact ih (fun later hlater => h later (List.mem_cons_of_mem _ hlater)) after

def answeringBus : I2cHost := fun _ _ => .ok []

theorem exec_operation_of_answered {operation : I2cOperation} (h : Valid operation)
    (device : LinuxI2cDevice) :
    ∃ result call, call.isTransfer = true ∧
      (linuxI2cOperation answeringBus deviceId operation).exec device =
      (.ok result, ⟨device.calls ++ [call]⟩) := by
  cases operation with
  | read length =>
    refine ⟨filled length.toNat [], .read length.toNat, rfl, ?_⟩
    rw [linuxI2cOperation, exec_linuxI2cRead h]
    rfl
  | write bytes =>
    refine ⟨[], .write bytes, rfl, ?_⟩
    have hwrite := @exec_linuxI2cWrite_of_ok answeringBus deviceId bytes [] h device rfl
    rw [linuxI2cOperation, exec_bind_of_ok hwrite]
    rfl

theorem operations_performed_before_rejection {operations : List I2cOperation}
    (h : ∃ operation ∈ operations, ¬Valid operation) (device : LinuxI2cDevice) :
    let after := (linuxI2cOperations answeringBus deviceId operations).exec device
    RejectedAsInvalid after.1 ∧ ∃ made : List I2cDeviceCall, after.2.calls = device.calls ++ made ∧
      (∀ call ∈ made, call.isTransfer = true) ∧
      (made = [] ↔ ∃ operation rest, operations = operation :: rest ∧ ¬Valid operation) := by
  induction operations generalizing device with
  | nil => simp at h
  | cons operation operations ih =>
    by_cases hvalid : Valid operation
    · have hlater : ∃ later ∈ operations, ¬Valid later := by
        obtain ⟨later, hlater, hinvalid⟩ := h
        rcases List.mem_cons.mp hlater with rfl | hlater
        · exact (hinvalid hvalid).elim
        · exact ⟨later, hlater, hinvalid⟩
      obtain ⟨result, call, htransfer, hexec⟩ := @exec_operation_of_answered deviceId operation hvalid device
      obtain ⟨hrejected, made, hmade, htransfers, -⟩ := ih hlater ⟨device.calls ++ [call]⟩
      rw [linuxI2cOperations, exec_bind_of_ok hexec, exec_bind_pure]
      simp only [rejectedAsInvalid_map]
      refine ⟨hrejected, call :: made, ?_, ?_, ?_⟩
      · rw [hmade, List.append_assoc]
        rfl
      · intro other hother
        rcases List.mem_cons.mp hother with rfl | hother
        · exact htransfer
        · exact htransfers other hother
      · simp [hvalid]
    · have hfirst := @exec_linuxI2cOperation_of_invalid answeringBus deviceId operation hvalid device
      rw [linuxI2cOperations, exec_bind]
      cases hexec : (linuxI2cOperation answeringBus deviceId operation).exec device with
      | mk result after =>
        rw [hexec] at hfirst
        obtain ⟨⟨_, _, _, hrejected⟩, hsame⟩ := hfirst
        cases hrejected
        cases hsame
        exact ⟨⟨_, _, _, rfl⟩, [], by simp, by simp, by simp [hvalid]⟩

def RejectedUpFront (operations : List I2cOperation) : Prop :=
  (∀ operation ∈ operations, Valid operation) ∨ ∃ operation rest, operations = operation :: rest ∧
    ¬Valid operation

theorem linuxI2cTransaction_of_nonempty {operations : List I2cOperation} (h : operations ≠ []) :
    linuxI2cTransaction host deviceId operations = linuxI2cOperations host deviceId operations := by
  rw [linuxI2cTransaction, if_neg h]

theorem exec_transaction_of_rejectedUpFront {operations : List I2cOperation} (h : RejectedUpFront operations)
    {device : LinuxI2cDevice}
    (hrejected : RejectedAsInvalid ((linuxI2cTransaction host deviceId operations).exec device).1) :
    ((linuxI2cTransaction host deviceId operations).exec device).2 = device := by
  by_cases hempty : operations = []
  · rw [hempty]
    rfl
  · rw [linuxI2cTransaction_of_nonempty hempty] at hrejected ⊢
    rcases h with hvalid | ⟨operation, rest, rfl, hinvalid⟩
    · exact (linuxI2cOperations_not_rejected hvalid device hrejected).elim
    · have hfirst := @exec_linuxI2cOperation_of_invalid host deviceId operation hinvalid device
      cases hexec : (linuxI2cOperation host deviceId operation).exec device with
      | mk result after =>
        rw [hexec] at hfirst
        obtain ⟨⟨_, _, _, hresult⟩, hsame⟩ := hfirst
        cases hresult
        cases hsame
        rw [linuxI2cOperations, exec_bind_of_error hexec]

theorem performed_append (device : LinuxI2cDevice) {made : List I2cDeviceCall}
    (h : ∀ call ∈ made, call.isTransfer = true) :
    LinuxI2cDevice.performed ⟨device.calls ++ made⟩ = device.performed ++ made := by
  rw [performed, performed, List.filter_append, List.filter_eq_self.mpr h]

/-- Otherwise there is a bus on which the transaction is rejected after it performed something. -/
theorem exec_transaction_of_not_rejectedUpFront {operations : List I2cOperation}
    (h : ¬RejectedUpFront operations)
    (deviceId : DeviceId) (device : LinuxI2cDevice) :
    let after := (linuxI2cTransaction answeringBus deviceId operations).exec device
    RejectedAsInvalid after.1 ∧ after.2.performed ≠ device.performed := by
  simp only [RejectedUpFront, not_or, not_forall] at h
  obtain ⟨⟨operation, hmem, hinvalid⟩, hfirst⟩ := h
  rw [linuxI2cTransaction_of_nonempty (List.ne_nil_of_mem hmem)]
  obtain ⟨hrejected, made, hmade, htransfers, hnothing⟩ :=
    @operations_performed_before_rejection deviceId operations ⟨operation, hmem, hinvalid⟩ device
  have hafter : (linuxI2cOperations answeringBus deviceId operations).exec device =
      (((linuxI2cOperations answeringBus deviceId operations).exec device).1, ⟨device.calls ++ made⟩) := by
    rw [← hmade]
  refine ⟨hrejected, ?_⟩
  rw [hafter]
  simp only [performed_append device htransfers, ne_eq, List.append_right_eq_self]
  exact fun hempty => hfirst (hnothing.mp hempty)

end Kernel

section Sessions

open TransportSession

variable {τ C : Type} {R : C → Type}

theorem exec_guarded_cases (T : Transport τ C R) (interface operation reason : String) (writes : Bool)
    (call : C)
    (session : TransportSession τ) :
    let after := Effect.exec (if writes then writingCall T interface operation reason call
      else readingCall T interface operation call) session
    (¬RejectedAsInvalid after.1 ∧ after.2 = session) ∨
      (after.1 = ((T call).exec session.transport).1 ∧
        after.2.transport = ((T call).exec session.transport).2) := by
  have hrefused {error : BusError} (h : ∀ deviceId operation reason,
    error ≠ .invalidRequest deviceId operation reason) :
      ¬RejectedAsInvalid (.error error : BusResult (R call)) := by
    rintro ⟨_, _, _, hrejected⟩
    cases hrejected
    exact h _ _ _ rfl
  cases writes with
  | true =>
    simp only [if_true]
    rw [exec_writingCall]
    split
    · exact .inl ⟨hrefused (by simp), rfl⟩
    · split
      · rw [exec_runCall]
        exact .inr ⟨rfl, rfl⟩
      · exact .inl ⟨hrefused (by simp), rfl⟩
  | false =>
    simp only [Bool.false_eq_true, if_false]
    rw [exec_readingCall]
    split
    · exact .inl ⟨hrefused (by simp), rfl⟩
    · rw [exec_runCall]
      exact .inr ⟨rfl, rfl⟩

theorem exec_guarded_of_open (T : Transport τ C R) (interface operation reason : String) (writes : Bool)
    (call : C)
    (session : TransportSession τ) (hopen : session.IsOpen) (hwrite : session.metadata.access.canWrite = true) :
    let after := Effect.exec (if writes then writingCall T interface operation reason call
      else readingCall T interface operation call) session
    after.1 = ((T call).exec session.transport).1 ∧
      after.2.transport = ((T call).exec session.transport).2 := by
  cases writes with
  | true =>
    simp only [if_true]
    rw [exec_writingCall, if_neg hopen, if_pos hwrite, exec_runCall]
    exact ⟨rfl, rfl⟩
  | false =>
    simp only [Bool.false_eq_true, if_false]
    rw [exec_readingCall, if_neg hopen, exec_runCall]
    exact ⟨rfl, rfl⟩

variable (operations : List I2cOperation)

def DeviceRejectsUntouched : Prop :=
  ∀ host (session : TransportSession LinuxKernelI2cTransport),
    let after := (LinuxI2cSession.transaction (LinuxKernelI2cTransport.transport host) operations).exec session
    RejectedAsInvalid after.1 → after.2.transport.device.performed = session.transport.device.performed

def ControllerRejectsUntouched : Prop :=
  ∀ host address (session : TransportSession LinuxKernelI2cControllerTransport),
    let after := (LinuxI2cControllerSession.transaction (LinuxKernelI2cControllerTransport.transport host) address
      operations).exec session
    RejectedAsInvalid after.1 → after.2.transport.device.performed = session.transport.device.performed

theorem exec_kernelTransport (host : I2cHost) (call : I2cTransportCall)
    (transport : LinuxKernelI2cTransport) :
    (LinuxKernelI2cTransport.transport host call).exec transport =
      let done := (linuxI2cCall host transport.deviceId call).exec transport.device
      (done.1, { transport with device := done.2 }) := by
  rw [LinuxKernelI2cTransport.transport, exec_bind_of_ok (exec_get transport), exec_within]

theorem deviceRejectsUntouched_iff : DeviceRejectsUntouched operations ↔ RejectedUpFront operations := by
  constructor
  · intro h
    by_contra hlate
    let session : TransportSession LinuxKernelI2cTransport :=
      { device := gpioLineDescriptor, metadata := { access := .exclusive, state := .idle },
        transport := { deviceId := gpioLine } }
    obtain ⟨hresult, htransport⟩ := exec_guarded_of_open (LinuxKernelI2cTransport.transport answeringBus) "I2C"
      "i2c.transaction" "session access is read-only" (operations.any isWrite) (.transaction operations) session
      (by simp [TransportSession.IsOpen, session]) rfl
    rw [exec_kernelTransport] at hresult htransport
    obtain ⟨hrejected, hperformed⟩ := exec_transaction_of_not_rejectedUpFront hlate gpioLine {}
    have hkept := h answeringBus session
    unfold LinuxI2cSession.transaction at hkept
    simp only [hresult, htransport] at hkept
    exact hperformed (hkept hrejected)
  · intro h host session after hrejected
    rcases exec_guarded_cases (LinuxKernelI2cTransport.transport host) "I2C" "i2c.transaction"
      "session access is read-only" (operations.any isWrite) (.transaction operations) session with
      ⟨hallowed, -⟩ | ⟨hresult, htransport⟩
    · exact (hallowed hrejected).elim
    · rw [exec_kernelTransport] at hresult htransport
      rw [show after.1 = _ from hresult] at hrejected
      rw [show after.2.transport = _ from htransport]
      exact congrArg performed (exec_transaction_of_rejectedUpFront h hrejected)

theorem classifyControllerAddressError_not_rejected {α : Type} (ownerId : DeviceId) (devnode : String)
    (address : UInt16) (operation : String) (error : LinuxI2cError) :
    ¬RejectedAsInvalid
      (.error (classifyControllerAddressError ownerId devnode address operation error) : BusResult α) := by
  rintro ⟨_, _, _, hrejected⟩
  unfold classifyControllerAddressError at hrejected
  simp only [Except.error.injEq] at hrejected
  split at hrejected
  · cases hrejected
  · split at hrejected
    · cases hrejected
    · split at hrejected <;> cases hrejected

theorem exec_selectAddress (host : I2cHost) {choice : I2cDeviceCall} (hchoice : choice.isTransfer = false)
    (address : UInt16) (operation : String) (transport : LinuxKernelI2cControllerTransport) :
    let after := (LinuxKernelI2cControllerTransport.selectAddress host choice address operation).exec transport
    ¬RejectedAsInvalid after.1 ∧ after.2.device.performed = transport.device.performed ∧
      (host = answeringBus → after.1 = .ok ()) := by
  have hperformed : LinuxI2cDevice.performed ⟨transport.device.calls ++ [choice]⟩ = transport.device.performed :=
    by
    simp [performed, List.filter_append, hchoice]
  unfold LinuxKernelI2cControllerTransport.selectAddress LinuxKernelI2cControllerTransport.onDevice
  rw [exec_bind_of_ok (exec_get transport), exec_bind, exec_within, exec_adapt, exec_call]
  cases hanswer : host transport.device.calls choice with
  | error error =>
    refine ⟨classifyControllerAddressError_not_rejected _ _ _ _ error, hperformed, ?_⟩
    rintro rfl
    cases hanswer
  | ok answer =>
    refine ⟨?_, hperformed, fun _ => rfl⟩
    rintro ⟨_, _, _, hrejected⟩
    cases hrejected

theorem exec_ensureAddress (host : I2cHost) (address : UInt16) (operation : String)
    (transport : LinuxKernelI2cControllerTransport) :
    let after := (LinuxKernelI2cControllerTransport.ensureAddress host address operation).exec transport
    ¬RejectedAsInvalid after.1 ∧ after.2.device.performed = transport.device.performed ∧
      (host = answeringBus → after.1 = .ok ()) := by
  unfold LinuxKernelI2cControllerTransport.ensureAddress
  rw [exec_bind_of_ok (exec_get transport)]
  split
  · exact exec_selectAddress host rfl address operation transport
  · split
    · exact exec_selectAddress host rfl address operation transport
    · refine ⟨?_, rfl, fun _ => rfl⟩
      rintro ⟨_, _, _, hrejected⟩
      cases hrejected

theorem exec_controllerTransport (host : I2cHost) (address : UInt16) (call : I2cTransportCall)
    (transport : LinuxKernelI2cControllerTransport) :
    let chosen := (LinuxKernelI2cControllerTransport.ensureAddress host address
      (LinuxKernelI2cControllerTransport.operationName call)).exec transport
    let after := (LinuxKernelI2cControllerTransport.transport host (address, call)).exec transport
    (chosen.1 = .ok () ∧ after.1 = ((linuxI2cCall host chosen.2.ownerId call).exec chosen.2.device).1 ∧
      after.2.device = ((linuxI2cCall host chosen.2.ownerId call).exec chosen.2.device).2) ∨
    (chosen.1 ≠ .ok () ∧ after.1.isOk = false ∧ (RejectedAsInvalid after.1 → RejectedAsInvalid chosen.1) ∧
      after.2 = chosen.2) := by
  intro chosen
  unfold LinuxKernelI2cControllerTransport.transport
  cases hchosen : (LinuxKernelI2cControllerTransport.ensureAddress host address
    (LinuxKernelI2cControllerTransport.operationName call)).exec transport with
  | mk result transport' =>
    have hchosen' : chosen = (result, transport') := hchosen
    rw [hchosen']
    cases result with
    | error error =>
      simp only
      rw [exec_bind_of_error hchosen]
      refine .inr ⟨by simp, rfl, ?_, rfl⟩
      rintro ⟨_, _, _, hrejected⟩
      cases hrejected
      exact ⟨_, _, _, rfl⟩
    | ok selected =>
      simp only
      rw [exec_bind_of_ok hchosen, exec_bind_of_ok (exec_get _), LinuxKernelI2cControllerTransport.onDevice,
        exec_within]
      exact .inl ⟨trivial, rfl, rfl⟩

theorem controllerRejectsUntouched_iff :
    ControllerRejectsUntouched operations ↔ RejectedUpFront operations := by
  constructor
  · intro h
    by_contra hlate
    let session : TransportSession LinuxKernelI2cControllerTransport :=
      { device := gpioLineDescriptor, metadata := { access := .exclusive, state := .idle },
        transport := { ownerId := gpioLine, devnode := "/dev/i2c-1" } }
    obtain ⟨hresult, htransport⟩ :=
      exec_guarded_of_open (LinuxKernelI2cControllerTransport.transport answeringBus)
      "I2C controller" "i2c.transaction" "session access is read-only" (operations.any isWrite)
      (0, .transaction operations) session (by simp [TransportSession.IsOpen, session]) rfl
    obtain ⟨-, hsame, hgranted⟩ := exec_ensureAddress answeringBus 0 "i2c.transaction" session.transport
    rcases exec_controllerTransport answeringBus 0 (.transaction operations) session.transport with
      ⟨-, hafter, hdevice⟩ | ⟨hrefused, -⟩
    · obtain ⟨hrejected, hperformed⟩ := exec_transaction_of_not_rejectedUpFront hlate _ _
      rw [hafter] at hresult
      have hkept := h answeringBus 0 session
      unfold LinuxI2cControllerSession.transaction at hkept
      simp only [hresult, htransport, hdevice] at hkept
      exact hperformed ((hkept hrejected).trans hsame.symm)
    · exact hrefused (hgranted rfl)
  · intro h host address session after hrejected
    rcases exec_guarded_cases (LinuxKernelI2cControllerTransport.transport host) "I2C controller" "i2c.transaction"
      "session access is read-only" (operations.any isWrite) (address, .transaction operations) session with
      ⟨hallowed, -⟩ | ⟨hresult, htransport⟩
    · exact (hallowed hrejected).elim
    · rw [show after.1 = _ from hresult] at hrejected
      rw [show after.2.transport = _ from htransport]
      obtain ⟨hallowed, hsame, -⟩ := exec_ensureAddress host address "i2c.transaction" session.transport
      rcases exec_controllerTransport host address (.transaction operations) session.transport with
        ⟨-, hafter, hdevice⟩ | ⟨-, -, hrefused, hdevice⟩
      · rw [hafter] at hrejected
        rw [hdevice]
        exact (congrArg performed (exec_transaction_of_rejectedUpFront h hrejected)).trans hsame
      · exact (hallowed (hrefused hrejected)).elim

theorem rejected_transaction_untouched_iff :
    (DeviceRejectsUntouched operations ↔ RejectedUpFront operations) ∧
      (ControllerRejectsUntouched operations ↔ RejectedUpFront operations) :=
  ⟨deviceRejectsUntouched_iff operations, controllerRejectsUntouched_iff operations⟩

theorem late_rejection_writes_register :
    let session : TransportSession LinuxKernelI2cTransport :=
      { device := gpioLineDescriptor, metadata := { access := .exclusive, state := .idle },
        transport := { deviceId := gpioLine } }
    let after := (LinuxI2cSession.transaction (LinuxKernelI2cTransport.transport answeringBus)
      [.write [0x10, 0xff], .read 0]).exec session
    after.1 = .error (.invalidRequest gpioLine "i2c.read" "read length must be greater than zero") ∧
      after.2.transport.device.performed = [.write [0x10, 0xff]] := by
  decide

end Sessions

end Lemnos.Linux
