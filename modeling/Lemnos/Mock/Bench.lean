import Lemnos.Library.Machines
import Lemnos.Mock.Backends
import Lemnos.Mock.Faults
import Lemnos.Mock.Spared

/-! A bench: bound devices on mock hardware that they share, called in any order while errors are injected. -/

namespace Lemnos.Mock

open Lemnos.Core Bus DriverSdk Drivers Library.Frames Library.Machines Library.OrderedMap

structure BoundMock where
  interface : InterfaceKind
  driverId : String
  session : MockSession
  stats : Stats interface

def MockSession.target (session : MockSession) : InterfaceKind → DeviceId
  | .usb => session.owner
  | _ => session.device.id

structure Served where
  interface : InterfaceKind
  target : DeviceId
  request : StandardRequest
  response : StandardResponse

namespace BoundMock

def onto (hardware : MockHardwareState) (bound : BoundMock) : SessionBound MockOpened (Stats bound.interface) where
  driverId := bound.driverId
  session := { hardware, device := bound.session.device.id, metadata := bound.session.metadata }
  stats := bound.stats

def perform (arithmetic : DutyCycleArithmetic) (call : BoundCall) (bound : BoundMock) :
    DriverCall MockOpened (Stats bound.interface) BoundAnswer :=
  Drivers.perform arithmetic bound.interface
    (mockSession bound.session.device bound.session.owner bound.interface) call

def left (bound : BoundMock) (after : SessionBound MockOpened (Stats bound.interface)) : BoundMock :=
  { bound with session := { bound.session with metadata := after.session.metadata }, stats := after.stats }

end BoundMock

def BoundMock.served (bound : BoundMock) (call : BoundCall) (result : Except DriverError BoundAnswer) : List Served :=
  ((result.toOption.bind (Drivers.served call)).map fun one =>
    ⟨bound.interface, bound.session.target bound.interface, one.1, one.2⟩).toList

structure Bench where
  hardware : MockHardwareState
  bound : List BoundMock

inductive BenchAction where
  | bind (interface : InterfaceKind) (device : DeviceDescriptor)
  | perform (index : ℕ) (call : BoundCall)
  | fault (call : FaultCall)

namespace Bench

variable (arithmetic : DutyCycleArithmetic)

def bind (interface : InterfaceKind) (device : DeviceDescriptor) (bench : Bench) : Bench :=
  let binding : Effect MockHardwareState DriverError (SessionBound MockSession (Stats interface)) :=
    (driverFor interface).bind (Stats.initial interface) device MockHardware.bindContext
  let (result, hardware) := binding.exec bench.hardware
  let bound := result.toOption.map fun bound => ⟨interface, bound.driverId, bound.session, bound.stats⟩
  { hardware, bound := bench.bound ++ bound.toList }

def perform (index : ℕ) (call : BoundCall) (bench : Bench) : List Served × Bench :=
  match bench.bound[index]? with
  | none => ([], bench)
  | some bound =>
    let (result, after) := (bound.perform arithmetic call).exec (bound.onto bench.hardware)
    (bound.served call result, { hardware := after.session.hardware, bound := bench.bound.set index (bound.left after) })

def act : BenchAction → Bench → List Served × Bench
  | .bind interface device, bench => ([], bench.bind interface device)
  | .perform index call, bench => bench.perform arithmetic index call
  | .fault call, bench =>
    ([], { bench with hardware := { bench.hardware with faults := (call.exec bench.hardware.faults).2 } })

end Bench

def Served.at (interface : InterfaceKind) (key : DeviceId) (served : Served) :
    Option (StandardRequest × StandardResponse) :=
  if served.interface = interface ∧ served.target = key then some (served.request, served.response) else none

/-- A transaction that I2C sessions carry out to its end. -/
def Whole (interface : InterfaceKind) (operations : List I2cOperation) : Prop :=
  interface = .i2c → .write [] ∉ operations

def BenchAction.Whole (interface : InterfaceKind) : BenchAction → Prop
  | .perform _ call => call.Whole (Mock.Whole interface)
  | _ => True

theorem BenchAction.whole_of_ne {interface : InterfaceKind} (h : interface ≠ .i2c) (action : BenchAction) :
    action.Whole interface := by
  cases action with
  | perform index call => exact fun _ _ hi2c => absurd hi2c h
  | _ => trivial

section Replaying

variable {σ : Type} {interface : InterfaceKind} {key : DeviceId}

def MockSession.Targets (session : MockSession) (key : DeviceId) : InterfaceKind → DeviceId → Prop
  | .usb, _ => session.owner = key
  | _, device => device = key

theorem settled_own (session : MockSession) (interface : InterfaceKind) (key : DeviceId) :
    Settled (MockOpened.at (deviceTable interface) key) (Responds (session.Targets key interface) (answer interface))
      (Whole interface) interface (mockSession session.device session.owner interface) := by
  cases interface with
  | gpio => exact settled_gpio session.device key
  | pwm => exact settled_pwm session.device key
  | i2c =>
    have hsettled := settled_i2c session.device key
    exact { hsettled with transaction := fun operations hwhole => hsettled.transaction operations (hwhole rfl) }
  | spi => exact settled_spi session.device key
  | uart => exact settled_uart session.device key
  | usb => exact settled_usb session.device key session.owner

theorem deviceTable_apart {interface other : InterfaceKind} (h : other ≠ interface) :
    (deviceTable interface).Apart (deviceTable other) := by
  intro entries hardware
  cases interface <;> cases other <;> first | rfl | exact absurd rfl h

theorem settled_other {table : Table σ} (hlawful : table.Lawful) {other : InterfaceKind}
    (hapart : table.Apart (deviceTable other)) {whole : List I2cOperation → Prop} (session : MockSession)
    (key : DeviceId) : Settled (MockOpened.at table key) Unmoved whole other
      (mockSession session.device session.owner other) := by
  cases other with
  | gpio => exact spared_gpio hlawful session.device hapart
  | pwm => exact spared_pwm hlawful session.device hapart
  | i2c => exact spared_i2c hlawful session.device hapart
  | spi => exact spared_spi hlawful session.device hapart
  | uart => exact spared_uart hlawful session.device hapart
  | usb => exact spared_usb hlawful session.device session.owner hapart

theorem keeps_close {γ : Type} {view : MockOpened → γ}
    (hview : ∀ opened, view (opened.setMetadata .markClosed) = view opened) (session : MockSession)
    (interface : InterfaceKind) :
    Keeps view (Session.bus interface (mockSession session.device session.owner interface)).close := by
  intro opened
  cases interface <;> exact hview opened

theorem targets_iff (session : MockSession) (key : DeviceId) (interface : InterfaceKind) :
    session.Targets key interface session.device.id ↔ session.target interface = key := by
  cases interface <;> rfl

theorem replaysAt_of_moves {own : Prop} {request : StandardRequest} {response : StandardResponse}
    {machine : StandardRequest → σ → Option (StandardResponse × σ)} {before after : Option σ}
    (h : Moves own (fun state response state' => machine request state = some (response, state')) before response
      after) (hown : own) : ReplaysAt machine [(request, response)] before after where
  present state hstate := by
    obtain ⟨state', hanswer, hafter⟩ := h.answers hown state hstate
    exact ⟨state', hafter, .cons hanswer (.nil state')⟩
  absent := h.gone hown

theorem replaysAt_of_eq {machine : StandardRequest → σ → Option (StandardResponse × σ)}
    {log : List (StandardRequest × StandardResponse)} {before after : Option σ} (hlog : log = [])
    (h : after = before) : ReplaysAt machine log before after := by
  rw [hlog, h]
  exact .refl before

theorem served_own (bound : BoundMock) (call : BoundCall) (result : Except DriverError BoundAnswer) :
    (bound.served call result).filterMap (Served.at bound.interface key) =
      if bound.session.target bound.interface = key then (result.toOption.bind (Drivers.served call)).toList
      else [] := by
  rw [BoundMock.served]
  cases result.toOption.bind (Drivers.served call) with
  | none =>
    split <;> rfl
  | some one =>
    rw [Option.map_some, Option.toList_some, List.filterMap_cons, Served.at]
    by_cases hkey : bound.session.target bound.interface = key <;> simp [hkey]

theorem served_other {bound : BoundMock} (h : bound.interface ≠ interface) (call : BoundCall)
    (result : Except DriverError BoundAnswer) :
    (bound.served call result).filterMap (Served.at interface key) = [] := by
  apply List.filterMap_eq_nil_iff.mpr
  intro served hserved
  obtain ⟨one, -, rfl⟩ := Option.map_eq_some_iff.mp (Option.mem_toList.mp hserved)
  exact if_neg fun heq => h heq.1

theorem replays_perform_own (arithmetic : DutyCycleArithmetic) (bound : BoundMock) {call : BoundCall}
    (hwhole : call.Whole (Whole bound.interface)) (hardware : MockHardwareState) :
    let done := (bound.perform arithmetic call).exec (bound.onto hardware)
    ReplaysAt (answer bound.interface) ((bound.served call done.1).filterMap (Served.at bound.interface key))
      ((deviceTable bound.interface).at key hardware)
      ((deviceTable bound.interface).at key done.2.session.hardware) := by
  intro done
  have hsettles := settles_perform arithmetic (settled_own bound.session bound.interface key)
    (keeps_close (fun _ => rfl) bound.session bound.interface) hwhole
  rw [served_own]
  cases hdone : done.1 with
  | error error =>
    have hsame := hsettles.error (bound.onto hardware) error done.2 (Prod.ext hdone rfl)
    exact replaysAt_of_eq (ite_self []) (congrArg Prod.snd hsame)
  | ok given =>
    have hperformed := hsettles.ok (bound.onto hardware) given done.2 (Prod.ext hdone rfl)
    rw [Performed] at hperformed
    simp only [Except.toOption, Option.bind_some]
    cases hserved : Drivers.served call given with
    | none =>
      rw [hserved] at hperformed
      exact replaysAt_of_eq (ite_self []) (congrArg Prod.snd hperformed)
    | some one =>
      rw [hserved] at hperformed
      have htargets := targets_iff bound.session key bound.interface
      by_cases hkey : bound.session.target bound.interface = key
      · rw [if_pos hkey]
        exact replaysAt_of_moves hperformed.2 (htargets.mpr hkey)
      · rw [if_neg hkey]
        exact replaysAt_of_eq rfl (hperformed.2.other fun hown => hkey (htargets.mp hown))

theorem keeps_perform_other (arithmetic : DutyCycleArithmetic) {table : Table σ} (hlawful : table.Lawful)
    (bound : BoundMock) (hapart : table.Apart (deviceTable bound.interface)) (call : BoundCall) (key : DeviceId)
    (hardware : MockHardwareState) :
    table.at key ((bound.perform arithmetic call).exec (bound.onto hardware)).2.session.hardware =
      table.at key hardware := by
  have hsettled : Settled (MockOpened.at table key) Unmoved (fun _ => True) bound.interface
      (mockSession bound.session.device bound.session.owner bound.interface) :=
    settled_other hlawful hapart bound.session key
  have hkeeps := keepsWorld_perform arithmetic hsettled (keeps_close (fun _ => rfl) bound.session bound.interface)
    (fun _ _ => trivial : call.Whole fun _ => True)
  exact congrArg Prod.snd (hkeeps (bound.onto hardware))

theorem replays_perform_other (arithmetic : DutyCycleArithmetic) (bound : BoundMock) (h : bound.interface ≠ interface)
    (call : BoundCall) (hardware : MockHardwareState) :
    let done := (bound.perform arithmetic call).exec (bound.onto hardware)
    ReplaysAt (answer interface) ((bound.served call done.1).filterMap (Served.at interface key))
      ((deviceTable interface).at key hardware) ((deviceTable interface).at key done.2.session.hardware) := by
  intro done
  have hkeeps := keeps_perform_other arithmetic (deviceTable_lawful interface) bound (deviceTable_apart h) call key
  exact replaysAt_of_eq (served_other h call done.1) (hkeeps hardware)

theorem keeps_openSession {table : Table σ} (hlawful : table.Lawful) (opening : InterfaceKind)
    (device : DeviceDescriptor) (access : SessionAccess) :
    Keeps (table.at key) (MockHardware.openSession opening device access) := by
  have hkeeps : ∀ {τ : Type} (other : Table τ) (opened : τ → MockSession),
      Keeps (table.at key) (takeInjectedError device.id "open" >>= fun _ =>
        other.stateOf device.id (MockHardware.unsupportedDevice device.id) >>= fun state => pure (opened state)) :=
    fun other opened => .bind (keeps_takeInjectedError hlawful _ _) fun _ =>
      .bind (keeps_stateOf other _ _) fun state => .pure _
  cases opening <;> exact hkeeps _ _

theorem keeps_bind {table : Table σ} (hlawful : table.Lawful) (opening : InterfaceKind) (device : DeviceDescriptor)
    (bench : Bench) : table.at key (bench.bind opening device).hardware = table.at key bench.hardware := by
  have hkeeps : Keeps (table.at key)
      ((driverFor opening).bind (Stats.initial opening) device MockHardware.bindContext) :=
    .bind (.ofExcept _) fun _ => .bind (.adapt (keeps_openSession hlawful _ _ _) _) fun session => .pure _
  exact hkeeps bench.hardware

theorem replays_act (arithmetic : DutyCycleArithmetic) {action : BenchAction} (hwhole : action.Whole interface)
    (bench : Bench) : ReplaysAt (answer interface)
      ((Bench.act arithmetic action bench).1.filterMap (Served.at interface key))
      ((deviceTable interface).at key bench.hardware)
      ((deviceTable interface).at key (Bench.act arithmetic action bench).2.hardware) := by
  cases action with
  | bind opening device =>
    exact replaysAt_of_eq rfl (keeps_bind (deviceTable_lawful interface) opening device bench)
  | perform index call =>
    rw [Bench.act, Bench.perform]
    cases bench.bound[index]? with
    | none => exact .refl _
    | some bound =>
      by_cases hother : bound.interface = interface
      · subst hother
        exact replays_perform_own arithmetic bound hwhole bench.hardware
      · exact replays_perform_other arithmetic bound hother call bench.hardware
  | fault call =>
    exact replaysAt_of_eq rfl (congrArg (fun entries : BTreeMap DeviceId (Device interface) => entries[key]?)
      ((deviceTable_lawful interface).entries_faults bench.hardware _))

end Replaying

end Lemnos.Mock
