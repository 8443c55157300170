import Lemnos.Drivers.I2c
import Lemnos.Library.Books
import Lemnos.Mock.LifeCycle

/-! What a mock device is behind its sessions: a machine of its own, that answers one request after the other. -/

namespace Lemnos.Mock

open Lemnos.Core Bus Library.Frames Library.OrderedMap

section Configurations

def GpioLineConfiguration.Sound (configuration : GpioLineConfiguration) : Prop :=
  ¬(configuration.direction = .input ∧ configuration.initialLevel.isSome)

def PwmConfiguration.Sound (configuration : PwmConfiguration) : Prop :=
  configuration.periodNs ≠ 0 ∧ configuration.dutyCycleNs ≤ configuration.periodNs

def SpiConfiguration.Sound (configuration : SpiConfiguration) : Prop :=
  configuration.maxFrequencyHz ≠ some 0 ∧ configuration.bitsPerWord ≠ some 0

def UartConfiguration.Sound (configuration : UartConfiguration) : Prop := configuration.baudRate ≠ 0

instance (configuration : GpioLineConfiguration) : Decidable (GpioLineConfiguration.Sound configuration) :=
  inferInstanceAs (Decidable (¬_))

instance (configuration : PwmConfiguration) : Decidable (PwmConfiguration.Sound configuration) :=
  inferInstanceAs (Decidable (_ ∧ _))

instance (configuration : SpiConfiguration) : Decidable (SpiConfiguration.Sound configuration) :=
  inferInstanceAs (Decidable (_ ∧ _))

instance (configuration : UartConfiguration) : Decidable (UartConfiguration.Sound configuration) :=
  inferInstanceAs (Decidable (_ ≠ _))

end Configurations

namespace MockGpioLineState

def answer : GpioRequest → MockGpioLineState → Option (GpioResponse × MockGpioLineState)
  | .read, line => some (.level line.level, line)
  | .write level, line =>
    if line.configuration.direction = .output then some (.applied, { line with level }) else none
  | .configure configuration, line =>
    if GpioLineConfiguration.Sound configuration then
      some (.applied, { line with level := configuration.initialLevel.getD line.level, configuration })
    else none
  | .getConfiguration, line => some (.configuration line.configuration, line)

end MockGpioLineState

namespace MockPwmChannelState

def answer : PwmRequest → MockPwmChannelState → Option (PwmResponse × MockPwmChannelState)
  | .enable enabled, channel =>
    some (.applied, { channel with configuration := { channel.configuration with enabled } })
  | .configure configuration, channel =>
    if PwmConfiguration.Sound configuration then some (.applied, { channel with configuration }) else none
  | .setPeriod periodNs, channel =>
    if periodNs = 0 ∨ periodNs < channel.configuration.dutyCycleNs then none
    else some (.applied, { channel with configuration := { channel.configuration with periodNs } })
  | .setDutyCycle dutyCycleNs, channel =>
    if channel.configuration.periodNs < dutyCycleNs then none
    else some (.applied, { channel with configuration := { channel.configuration with dutyCycleNs } })
  | .getConfiguration, channel => some (.configuration channel.configuration, channel)

end MockPwmChannelState

namespace MockI2cDeviceState

/-- The registers from the pointer on, which moves past them. -/
def readBytes (length : UInt32) (device : MockI2cDeviceState) : List UInt8 × MockI2cDeviceState :=
  ((List.range length.toNat).map fun index => device.memory.getD (device.pointer + index) 0,
    { device with pointer := device.pointer + length.toNat })

/-- The first byte of a write is the register that it starts at. -/
def wroteBytes : List UInt8 → MockI2cDeviceState → Option MockI2cDeviceState
  | [], _ => none
  | [offset], device => some { device with pointer := offset.toNat }
  | offset :: bytes, device =>
    some
      { device with
        memory := overwrite device.memory offset.toNat bytes
        pointer := offset.toNat + bytes.length }

def transact : List I2cOperation → MockI2cDeviceState → Option (List (List UInt8) × MockI2cDeviceState)
  | [], device => some ([], device)
  | .read length :: operations, device => do
    let (results, left) ← transact operations (device.readBytes length).2
    pure ((device.readBytes length).1 :: results, left)
  | .write bytes :: operations, device => do
    let written ← device.wroteBytes bytes
    let (results, left) ← transact operations written
    pure ([] :: results, left)

def answer : I2cRequest → MockI2cDeviceState → Option (I2cResponse × MockI2cDeviceState)
  | .read length, device => some (.bytes (device.readBytes length).1, (device.readBytes length).2)
  | .write bytes, device => (device.wroteBytes bytes).map fun written => (.applied, written)
  | .writeRead write readLength, device =>
    (device.wroteBytes write).map fun written =>
      let (bytes, left) := readBytes readLength { written with pointer := (write.headD 0).toNat }
      (.bytes bytes, left)
  | .transaction operations, device =>
    (device.transact operations).map fun (results, left) =>
      (.transaction ((operations.zip results).map Drivers.TransactionTotals.resultOf), left)

end MockI2cDeviceState

namespace MockSpiDeviceState

def answer : SpiRequest → MockSpiDeviceState → Option (SpiResponse × MockSpiDeviceState)
  | .transfer write, device =>
    some (.bytes (device.transferResponses[write]?.getD (List.replicate write.length 0)),
      { device with lastWrite := write })
  | .write bytes, device => some (.applied, { device with lastWrite := bytes })
  | .configure configuration, device =>
    if SpiConfiguration.Sound configuration then some (.applied, { device with configuration }) else none
  | .getConfiguration, device => some (.configuration device.configuration, device)

end MockSpiDeviceState

namespace MockUartPortState

def answer : UartRequest → MockUartPortState → Option (UartResponse × MockUartPortState)
  | .read maxBytes, port =>
    some (.bytes (port.rxBuffer.take maxBytes.toNat), { port with rxBuffer := port.rxBuffer.drop maxBytes.toNat })
  | .write bytes, port => some (.applied, { port with txBuffer := port.txBuffer ++ bytes })
  | .configure configuration, port =>
    if UartConfiguration.Sound configuration then some (.applied, { port with configuration }) else none
  | .flush, port => some (.applied, port)
  | .getConfiguration, port => some (.configuration port.configuration, port)

end MockUartPortState

namespace MockUsbDeviceState

/-- What a read of the given length takes from the first of the queued packets. -/
def packet (queue : List (List UInt8)) (length : UInt32) : List UInt8 :=
  (queue.head?.getD (List.replicate length.toNat 0)).take length.toNat

def answer : UsbRequest → MockUsbDeviceState → Option (UsbResponse × MockUsbDeviceState)
  | .control transfer, device =>
    some (.bytes ((device.controlResponses.lookup (.of transfer)).getD []),
      if transfer.setup.direction = .output then { device with lastControlOut := some transfer } else device)
  | .bulkRead endpoint length _, device =>
    let queue := device.bulkInResponses[endpoint]?.getD []
    some (.bytes (packet queue length),
      { device with bulkInResponses := device.bulkInResponses.insert endpoint queue.tail })
  | .bulkWrite endpoint bytes _, device =>
    some (.applied, { device with lastBulkWrites := device.lastBulkWrites.insert endpoint bytes })
  | .interruptRead endpoint length _, device =>
    let queue := device.interruptInResponses[endpoint]?.getD []
    some (.bytes (packet queue length),
      { device with interruptInResponses := device.interruptInResponses.insert endpoint queue.tail })
  | .interruptWrite transfer, device =>
    some (.applied,
      { device with lastInterruptWrites := device.lastInterruptWrites.insert transfer.endpoint transfer.bytes })
  | .claimInterface number alternateSetting, device =>
    if number ∈ device.interfaceNumbers then
      some (.interfaceClaimed number alternateSetting,
        { device with claimedInterfaces := device.claimedInterfaces.insert number alternateSetting })
    else none
  | .releaseInterface number, device =>
    some (.interfaceReleased number, { device with claimedInterfaces := device.claimedInterfaces.erase number })

end MockUsbDeviceState

structure Table.Lawful {σ : Type} (table : Table σ) : Prop where
  entries_store : ∀ entries hardware, table.entries (table.store entries hardware) = entries
  entries_faults : ∀ hardware faults, table.entries { hardware with faults } = table.entries hardware

def Table.Apart {σ τ : Type} (table : Table σ) (other : Table τ) : Prop :=
  ∀ entries hardware, table.entries (other.store entries hardware) = table.entries hardware

section Methods

variable {σ α : Type} {table : Table σ} {key : DeviceId}

def Table.at (table : Table σ) (key : DeviceId) (hardware : MockHardwareState) : Option σ :=
  (table.entries hardware)[key]?

/-- What a session sees of an entry, which may be the one that it calls. -/
def MockOpened.at (table : Table σ) (key : DeviceId) (opened : MockOpened) : DeviceId × Option σ :=
  (opened.device, table.at key opened.hardware)

/-- An entry moves by the answer that it gives, if it is the one that is asked, and stays as it is if not. -/
structure Moves (own : Prop) (answer : σ → α → σ → Prop) (before : Option σ) (a : α) (after : Option σ) : Prop where
  answers : own → ∀ state, before = some state → ∃ state', answer state a state' ∧ after = some state'
  gone : own → before = none → after = none
  other : ¬ own → after = before

theorem moves_of_same {own : Prop} {answer : σ → α → σ → Prop} {before : Option σ} {a : α}
    (h : own → ∀ state, before = some state → answer state a state) : Moves own answer before a before :=
  ⟨fun hown state hstate => ⟨state, h hown state hstate, hstate⟩, fun _ hnone => hnone, fun _ => rfl⟩

theorem Moves.imp {β : Type} {own : Prop} {answer : σ → α → σ → Prop} {answer' : σ → β → σ → Prop}
    {before after : Option σ} {a : α} {b : β} (h : Moves own answer before a after)
    (himp : ∀ state state', answer state a state' → answer' state b state') : Moves own answer' before b after where
  answers hown state hstate := by
    obtain ⟨state', hanswer, hafter⟩ := h.answers hown state hstate
    exact ⟨state', himp state state' hanswer, hafter⟩
  gone := h.gone
  other := h.other

/-- What a session's call does to an entry: it moves the entry if it is its own. -/
def Asked (own : DeviceId → Prop) (answer : σ → α → σ → Prop) (before : DeviceId × Option σ) (a : α)
    (after : DeviceId × Option σ) : Prop :=
  after.1 = before.1 ∧ Moves (own before.1) answer before.2 a after.2

theorem Asked.imp {β : Type} {own : DeviceId → Prop} {answer : σ → α → σ → Prop} {answer' : σ → β → σ → Prop}
    {before after : DeviceId × Option σ} {a : α} {b : β} (h : Asked own answer before a after)
    (himp : ∀ state state', answer state a state' → answer' state b state') : Asked own answer' before b after :=
  ⟨h.1, h.2.imp himp⟩

theorem Asked.same {own : DeviceId → Prop} {answer : σ → α → σ → Prop} {before after : DeviceId × Option σ} {a : α}
    (h : Asked own answer before a after) (hsame : ∀ state state', answer state a state' → state' = state) :
    after = before := by
  obtain ⟨hdevice, hmoves⟩ := h
  refine Prod.ext hdevice ?_
  by_cases hown : own before.1
  · cases hstate : before.2 with
    | none => exact hmoves.gone hown hstate
    | some state =>
      obtain ⟨state', hanswer, hafter⟩ := hmoves.answers hown state hstate
      rw [hafter, hsame state state' hanswer]
  · exact hmoves.other hown

theorem keeps_takeInjectedError (h : table.Lawful) (deviceId : DeviceId) (operation : String) :
    Keeps (table.at key) (takeInjectedError deviceId operation) := by
  intro hardware
  have hsame : ∀ faults, table.at key { hardware with faults } = table.at key hardware :=
    fun faults => congrArg (fun entries : BTreeMap DeviceId σ => entries[key]?) (h.entries_faults hardware faults)
  cases hnext : hardware.faults.next deviceId operation with
  | none => rw [exec_takeInjectedError_of_none hnext]
  | some queue =>
    rw [exec_takeInjectedError_of_some hnext]
    exact hsame _

theorem keeps_stateOf {τ : Type} (other : Table τ) (owner : DeviceId) (missing : BusError) :
    Keeps (table.at key) (other.stateOf owner missing) := by
  intro hardware
  rw [exec_stateOf]

theorem exec_run {check : DeviceId → SessionAccess → BusResult Unit} {operation : String}
    {body : DeviceId → HardwareCall α} {opened : MockOpened}
    (h : check opened.device opened.metadata.access = .ok ()) :
    (MockMethod.run check operation body).call.exec opened =
      let done := (takeInjectedError opened.device operation >>= fun _ => body opened.device).exec opened.hardware
      (done.1, { opened with
        hardware := done.2
        metadata := opened.metadata.beginCall.finishCall done.1 }) := by
  have hcheck : (MonadExcept.ofExcept (check opened.device opened.metadata.access) :
      SessionCall Unit).exec opened = (.ok (), opened) := by
    rw [exec_ofExcept, h]
  rw [MockMethod.call, exec_bind_of_ok (exec_get opened), exec_bind_of_ok hcheck, exec_runCall]

theorem settles_run (hlawful : table.Lawful) {check : DeviceId → SessionAccess → BusResult Unit}
    {operation : String} {body : DeviceId → HardwareCall α}
    {own : DeviceId → Prop} {answer : σ → α → σ → Prop}
    (h : ∀ device access, check device access = .ok () →
      Settles (table.at key) (body device) (Moves (own device) answer)) :
    Settles (MockOpened.at table key) (MockMethod.run check operation body).call (Asked own answer) where
  ok opened a opened' hexec := by
    cases hcheck : check opened.device opened.metadata.access with
    | error error =>
      rw [exec_run_of_error hcheck] at hexec
      cases hexec
    | ok accepted =>
      have hbody : Settles (table.at key) (takeInjectedError opened.device operation >>= fun _ => body opened.device)
          (Moves (own opened.device) answer) := .after (keeps_takeInjectedError hlawful _ _) fun _ => h _ _ hcheck
      rw [exec_run hcheck] at hexec
      obtain ⟨hresult, hopened⟩ := Prod.mk.inj hexec
      rw [← hopened]
      exact ⟨rfl, hbody.ok opened.hardware a _ (Prod.ext hresult rfl)⟩
  error opened error opened' hexec := by
    cases hcheck : check opened.device opened.metadata.access with
    | error error =>
      rw [exec_run_of_error hcheck] at hexec
      cases hexec
      rfl
    | ok accepted =>
      have hbody : Settles (table.at key) (takeInjectedError opened.device operation >>= fun _ => body opened.device)
          (Moves (own opened.device) answer) := .after (keeps_takeInjectedError hlawful _ _) fun _ => h _ _ hcheck
      rw [exec_run hcheck] at hexec
      obtain ⟨hresult, hopened⟩ := Prod.mk.inj hexec
      rw [← hopened]
      exact Prod.ext rfl (hbody.error opened.hardware error _ (Prod.ext hresult rfl))

theorem yields_run {check : DeviceId → SessionAccess → BusResult Unit} {operation : String}
    {body : DeviceId → HardwareCall α} {p : α → Prop} (h : ∀ device, Yields p (body device)) :
    Yields p (MockMethod.run check operation body).call := by
  intro opened a opened' hexec
  cases hcheck : check opened.device opened.metadata.access with
  | error error =>
    rw [exec_run_of_error hcheck] at hexec
    cases hexec
  | ok accepted =>
    have hbody : Yields p (takeInjectedError opened.device operation >>= fun _ => body opened.device) :=
      .after fun done => h opened.device
    rw [exec_run hcheck] at hexec
    exact hbody opened.hardware a _ (Prod.ext (Prod.mk.inj hexec).1 rfl)

theorem settles_observe (hlawful : table.Lawful) (operation : String) (read : σ → α) :
    Settles (MockOpened.at table key) (MockMethod.observe operation table read).call
      (Asked (· = key) fun state a state' => state' = state ∧ a = read state) := by
  have hsame : ∀ (opened : MockOpened) (faults : MockFaultRegistry), MockOpened.at table key
      { opened with hardware := { opened.hardware with faults } } = MockOpened.at table key opened := by
    intro opened faults
    exact Prod.ext rfl (congrArg (fun entries : BTreeMap DeviceId σ => entries[key]?)
      (hlawful.entries_faults opened.hardware faults))
  constructor
  · intro opened a opened' hexec
    rw [exec_observe] at hexec
    cases hnext : opened.hardware.faults.next opened.device operation with
    | some queue =>
      rw [hnext] at hexec
      cases hexec
    | none =>
      rw [hnext] at hexec
      cases hstate : (table.entries opened.hardware)[opened.device]? with
      | none =>
        rw [hstate] at hexec
        cases hexec
      | some state =>
        rw [hstate] at hexec
        cases hexec
        refine ⟨rfl, moves_of_same ?_⟩
        intro hkey state' hstate'
        have hentry : (table.entries opened.hardware)[opened.device]? = some state' := by
          rw [show opened.device = key from hkey]
          exact hstate'
        cases hstate.symm.trans hentry
        exact ⟨rfl, rfl⟩
  · intro opened error opened' hexec
    rw [exec_observe] at hexec
    cases hnext : opened.hardware.faults.next opened.device operation with
    | some queue =>
      rw [hnext] at hexec
      cases hexec
      exact hsame opened _
    | none =>
      rw [hnext] at hexec
      cases hstate : (table.entries opened.hardware)[opened.device]? with
      | none =>
        rw [hstate] at hexec
        cases hexec
        rfl
      | some state =>
        rw [hstate] at hexec
        cases hexec

theorem settles_stateOf (owner : DeviceId) (missing : BusError) (read : σ → α) :
    Settles (table.at key) (table.stateOf owner missing >>= fun state => pure (read state))
      (Moves (owner = key) fun state a state' => state' = state ∧ a = read state) where
  ok hardware a hardware' hexec := by
    rw [exec_bind_pure, exec_stateOf] at hexec
    cases hstate : (table.entries hardware)[owner]? with
    | none =>
      rw [hstate] at hexec
      cases hexec
    | some state =>
      rw [hstate] at hexec
      cases hexec
      apply moves_of_same
      rintro rfl state' hstate'
      cases hstate.symm.trans hstate'
      exact ⟨rfl, rfl⟩
  error hardware error hardware' hexec := by
    rw [exec_bind_pure, exec_stateOf] at hexec
    obtain ⟨-, rfl⟩ := Prod.mk.inj hexec
    rfl

theorem settles_withStateMut (hlawful : table.Lawful) {owner : DeviceId} {missing : BusError}
    {update : Effect σ BusError α} {answer : σ → α → σ → Prop}
    (h : ∀ state, (∃ error, update.exec state = (.error error, state)) ∨
      ∃ a state', update.exec state = (.ok a, state') ∧ answer state a state') :
    Settles (table.at key) (table.withStateMut owner missing update) (Moves (owner = key) answer) := by
  have hexec : ∀ hardware state, (table.entries hardware)[owner]? = some state →
      (table.withStateMut owner missing update).exec hardware = ((update.exec state).1,
        table.store ((table.entries hardware).insert owner (update.exec state).2) hardware) := by
    intro hardware state hstate
    have hread : (table.stateOf owner missing).exec hardware = (.ok state, hardware) := by
      rw [exec_stateOf, hstate]
    rw [Table.withStateMut, exec_bind_of_ok hread, exec_within]
  have hmissing : ∀ hardware, (table.entries hardware)[owner]? = none →
      (table.withStateMut owner missing update).exec hardware = (.error missing, hardware) := by
    intro hardware hstate
    rw [Table.withStateMut]
    apply exec_bind_of_error
    rw [exec_stateOf, hstate]
  have hentry : ∀ hardware state', table.at key (table.store ((table.entries hardware).insert owner state') hardware) =
      if key = owner then some state' else table.at key hardware := by
    intro hardware state'
    rw [Table.at, hlawful.entries_store, BTreeMap.getElem?_insert_eq]
    rfl
  constructor
  · intro hardware a hardware' hdone
    cases hstate : (table.entries hardware)[owner]? with
    | none =>
      rw [hmissing hardware hstate] at hdone
      cases hdone
    | some state =>
      rw [hexec hardware state hstate] at hdone
      rcases h state with ⟨error, herror⟩ | ⟨b, state', hok, hanswer⟩
      · rw [herror] at hdone
        cases hdone
      · rw [hok] at hdone
        cases hdone
        rw [hentry]
        refine ⟨?_, ?_, ?_⟩
        · rintro rfl before hbefore
          cases hstate.symm.trans hbefore
          exact ⟨state', hanswer, if_pos rfl⟩
        · rintro rfl hnone
          cases hstate.symm.trans hnone
        · exact fun hother => if_neg (Ne.symm hother)
  · intro hardware error hardware' hdone
    cases hstate : (table.entries hardware)[owner]? with
    | none =>
      rw [hmissing hardware hstate] at hdone
      cases hdone
      rfl
    | some state =>
      rw [hexec hardware state hstate] at hdone
      rcases h state with ⟨error, herror⟩ | ⟨b, state', hok, hanswer⟩
      · rw [herror] at hdone
        cases hdone
        rw [hentry]
        by_cases hkey : key = owner
        · rw [if_pos hkey, Table.at, hkey, hstate]
        · rw [if_neg hkey]
      · rw [hok] at hdone
        cases hdone

theorem keeps_withStateMut {τ : Type} {other : Table τ} (h : table.Apart other) (owner : DeviceId)
    (missing : BusError) (update : Effect τ BusError α) :
    Keeps (table.at key) (other.withStateMut owner missing update) := by
  refine .bind (keeps_stateOf other owner missing) fun state => ?_
  intro hardware
  rw [exec_within]
  exact congrArg (fun entries : BTreeMap DeviceId σ => entries[key]?) (h _ hardware)

theorem keeps_run (hlawful : table.Lawful) {check : DeviceId → SessionAccess → BusResult Unit} {operation : String}
    {body : DeviceId → HardwareCall α} (h : ∀ device, Keeps (table.at key) (body device)) :
    Keeps (MockOpened.at table key) (MockMethod.run check operation body).call := by
  have hsettles : Settles (MockOpened.at table key) (MockMethod.run check operation body).call
      (Asked (fun _ => False) fun _ _ _ => False) :=
    settles_run hlawful fun device _ _ => .of_keeps (h device) fun _ _ => moves_of_same fun hfalse => hfalse.elim
  exact hsettles.keeps fun v a v' hasked => hasked.same fun _ _ hfalse => hfalse.elim

theorem keeps_observe (hlawful : table.Lawful) {τ : Type} (other : Table τ) (operation : String) (read : τ → α) :
    Keeps (MockOpened.at table key) (MockMethod.observe operation other read).call := by
  refine .bind keeps_get fun opened => ?_
  intro before
  have hbody : Keeps (table.at key) (takeInjectedError opened.device operation >>= fun _ =>
      other.stateOf opened.device (.disconnected opened.device) >>= fun state => pure (read state)) :=
    .bind (keeps_takeInjectedError hlawful _ _) fun _ => .bind (keeps_stateOf other _ _) fun state => .pure _
  rw [MockOpened.onHardware, exec_within]
  exact Prod.ext rfl (hbody before.hardware)

end Methods

end Lemnos.Mock
