import Mathlib.Data.UInt
import Lemnos.Drivers.Telemetry
import Lemnos.Mock.BenchRuns

/-! The counters of all drivers that are bound to a device, and what the device has. -/

namespace Lemnos.Mock

open Lemnos.Core Bus DriverSdk Drivers Library.Frames Library.Machines Library.OrderedMap

variable {interface : InterfaceKind} (arithmetic : DutyCycleArithmetic) (counter : Counter interface) (key : DeviceId)

def BoundMock.count (bound : BoundMock) : UInt64 :=
  if h : bound.interface = interface then
    if bound.session.target bound.interface = key then counter.value (h ▸ bound.stats) else 0
  else 0

def Bench.count (bench : Bench) : UInt64 := (bench.bound.map (BoundMock.count counter key)).sum

def creditOf (log : List (StandardRequest × StandardResponse)) : ℕ :=
  (log.map fun one => counter.credit.of one.1 one.2).sum

theorem creditOf_append (log more : List (StandardRequest × StandardResponse)) :
    creditOf counter (log ++ more) = creditOf counter log + creditOf counter more := by
  simp [creditOf]

variable {counter}

theorem sum_set {α : Type} {f : α → UInt64} {l : List α} {index : ℕ} {a b : α} {more : UInt64}
    (h : l[index]? = some a) (hmore : f b = f a + more) : ((l.set index b).map f).sum = (l.map f).sum + more := by
  induction l generalizing index with
  | nil => cases h
  | cons first l ih =>
    cases index with
    | zero =>
      cases h
      rw [List.set_cons_zero, List.map_cons, List.map_cons, List.sum_cons, List.sum_cons, hmore, UInt64.add_assoc,
        UInt64.add_assoc, UInt64.add_comm more]
    | succ index =>
      rw [List.set_cons_succ, List.map_cons, List.map_cons, List.sum_cons, List.sum_cons, ih h, UInt64.add_assoc]

theorem count_own {bound : BoundMock} {counter : Counter bound.interface} :
    bound.count counter key =
      if bound.session.target bound.interface = key then counter.value bound.stats else 0 := dif_pos rfl

theorem count_other {bound : BoundMock} (h : bound.interface ≠ interface) : bound.count counter key = 0 := dif_neg h

theorem value_perform (bound : BoundMock) {counter : Counter bound.interface}
    (hcounter : counter ∈ counters bound.interface) (call : BoundCall) (hardware : MockHardwareState) :
    let done := (bound.perform arithmetic call).exec (bound.onto hardware)
    counter.value done.2.stats = counter.value bound.stats +
      UInt64.ofNat (creditOf counter (done.1.toOption.bind (Drivers.served call)).toList) := by
  intro done
  have hbooks := books_perform arithmetic bound.interface
    (mockSession bound.session.device bound.session.owner bound.interface) call
  have hyields := yields_perform arithmetic bound.interface
    (mockSession bound.session.device bound.session.owner bound.interface) call
  cases hdone : done.1 with
  | error error =>
    rw [hbooks.error (bound.onto hardware) error done.2 (Prod.ext hdone rfl)]
    exact (UInt64.add_zero _).symm
  | ok given =>
    have hfits := hyields (bound.onto hardware) given done.2 (Prod.ext hdone rfl)
    rw [hbooks.ok (bound.onto hardware) given done.2 (Prod.ext hdone rfl), enter_counts hcounter hfits]
    simp only [Except.toOption, Option.bind_some, Credit.ofCall]
    cases Drivers.served call given with
    | none => rfl
    | some one => simp [creditOf, BoundMock.onto]

theorem count_perform (hcounter : counter ∈ counters interface) (bound : BoundMock) (call : BoundCall)
    (hardware : MockHardwareState) :
    let done := (bound.perform arithmetic call).exec (bound.onto hardware)
    (bound.left done.2).count counter key = bound.count counter key +
      UInt64.ofNat (creditOf counter (servedAt interface key (bound.served call done.1))) := by
  intro done
  by_cases hother : bound.interface = interface
  · subst hother
    have hleft : (bound.left done.2).count counter key =
        if bound.session.target bound.interface = key then counter.value done.2.stats else 0 := dif_pos rfl
    rw [hleft, count_own, servedAt, served_own]
    by_cases hkey : bound.session.target bound.interface = key
    · rw [if_pos hkey, if_pos hkey, if_pos hkey]
      exact value_perform arithmetic bound hcounter call hardware
    · rw [if_neg hkey, if_neg hkey, if_neg hkey]
      rfl
  · have hleft : (bound.left done.2).count counter key = 0 := count_other key hother
    rw [hleft, count_other key hother, servedAt, served_other hother]
    rfl

theorem count_fresh (hcounter : counter ∈ counters interface) (opening : InterfaceKind) (driverId : String)
    (session : MockSession) :
    BoundMock.count counter key ⟨opening, driverId, session, Stats.initial opening⟩ = 0 := by
  by_cases hother : opening = interface
  · subst hother
    have hinitial := initial_counters opening counter hcounter
    exact (@count_own key ⟨opening, driverId, session, Stats.initial opening⟩ counter).trans (by
      rw [hinitial, ite_self])
  · exact count_other key hother

theorem count_bind (hcounter : counter ∈ counters interface) (opening : InterfaceKind) (device : DeviceDescriptor)
    (bench : Bench) : (bench.bind opening device).count counter key = bench.count counter key := by
  have hinitial : Yields (fun bound => bound.stats = Stats.initial opening)
      ((driverFor opening).bind (Stats.initial opening) device MockHardware.bindContext) :=
    .after fun _ => .after fun session => .pure rfl
  rw [Bench.count, Bench.bind]
  cases hexec : ((driverFor opening).bind (Stats.initial opening) device MockHardware.bindContext).exec
      bench.hardware with
  | mk result hardware =>
    cases result with
    | error error =>
      simp only [Except.toOption, Option.map_none, Option.toList_none, List.append_nil]
      rfl
    | ok bound =>
      have hfresh := count_fresh key hcounter opening bound.driverId bound.session
      simp only [Except.toOption, Option.map_some, Option.toList_some, List.map_append, List.sum_append,
        List.map_cons, List.map_nil, List.sum_cons, List.sum_nil, hinitial bench.hardware bound hardware hexec, hfresh]
      exact UInt64.add_zero _

theorem count_act (hcounter : counter ∈ counters interface) (action : BenchAction) (bench : Bench) :
    (Bench.act arithmetic action bench).2.count counter key = bench.count counter key +
      UInt64.ofNat (creditOf counter (servedAt interface key (Bench.act arithmetic action bench).1)) := by
  cases action with
  | bind opening device =>
    have hbind : (bench.bind opening device).count counter key = bench.count counter key :=
      count_bind key hcounter opening device bench
    rw [Bench.act, hbind]
    exact (UInt64.add_zero _).symm
  | perform index call =>
    rw [Bench.act, Bench.perform]
    cases hbound : bench.bound[index]? with
    | none => exact (UInt64.add_zero _).symm
    | some bound => exact sum_set hbound (count_perform arithmetic key hcounter bound call bench.hardware)
  | fault call => exact (UInt64.add_zero _).symm

theorem count_run (hcounter : counter ∈ counters interface) (actions : List BenchAction) (bench : Bench) :
    (Bench.run arithmetic actions bench).2.count counter key = bench.count counter key +
      UInt64.ofNat (creditOf counter (servedAt interface key (Bench.run arithmetic actions bench).1)) := by
  induction actions generalizing bench with
  | nil => exact (UInt64.add_zero _).symm
  | cons action actions ih =>
    have hrest := ih (Bench.act arithmetic action bench).2
    have hfirst := count_act arithmetic key hcounter action bench
    have hlog : servedAt interface key (Bench.run arithmetic (action :: actions) bench).1 =
        servedAt interface key (Bench.act arithmetic action bench).1 ++
          servedAt interface key (Bench.run arithmetic actions (Bench.act arithmetic action bench).2).1 :=
      List.filterMap_append
    rw [hlog, creditOf_append, UInt64.ofNat_add, ← UInt64.add_assoc, ← hfirst]
    exact hrest

section Uart

def bytesReadCounter : Counter .uart := ⟨"bytes_read", UartStats.bytesRead, .bytesRead⟩

def bytesWrittenCounter : Counter .uart := ⟨"bytes_written", UartStats.bytesWritten, .bytesWritten⟩

theorem uart_credits {request : UartRequest} {port port' : MockUartPortState} {response : UartResponse}
    (h : port.answer request = some (response, port')) :
    bytesReadBy (.uart request) (.uart response) = (bytesRead (.uart request) (.uart response)).length ∧
      bytesWrittenBy (.uart request) = (bytesWritten (.uart request) (.uart response)).length := by
  cases request with
  | configure configuration =>
    obtain ⟨-, heq⟩ := Option.ite_none_right_eq_some.mp h
    cases heq
    exact ⟨rfl, rfl⟩
  | _ =>
    cases h
    exact ⟨rfl, rfl⟩

theorem replays_credits {log : List (StandardRequest × StandardResponse)} {port port' : MockUartPortState}
    (h : Replays (answer .uart) log port port') :
    creditOf bytesReadCounter log = (log.flatMap fun one => bytesRead one.1 one.2).length ∧
      creditOf bytesWrittenCounter log = (log.flatMap fun one => bytesWritten one.1 one.2).length := by
  have hlog := h.answered (fun request response =>
    bytesReadBy request response = (bytesRead request response).length ∧
      bytesWrittenBy request = (bytesWritten request response).length) (by
    intro request port response port' hanswer
    obtain ⟨asked, given, rfl, rfl, hport⟩ := uart_of_answer hanswer
    exact uart_credits hport)
  rw [List.length_flatMap, List.length_flatMap]
  exact ⟨congrArg List.sum (List.map_congr_left fun one hone => (hlog one hone).1),
    congrArg List.sum (List.map_congr_left fun one hone => (hlog one hone).2)⟩

theorem counters_agree_with_port (actions : List BenchAction) (bench : Bench) (key : DeviceId)
    {port : MockUartPortState} (h : bench.hardware.uartPorts[key]? = some port) :
    let after := (Bench.run arithmetic actions bench).2
    ∃ port', after.hardware.uartPorts[key]? = some port' ∧
      port'.rxBuffer.length ≤ port.rxBuffer.length ∧ port.txBuffer.length ≤ port'.txBuffer.length ∧
      after.count bytesReadCounter key = bench.count bytesReadCounter key +
        UInt64.ofNat (port.rxBuffer.length - port'.rxBuffer.length) ∧
      after.count bytesWrittenCounter key = bench.count bytesWrittenCounter key +
        UInt64.ofNat (port'.txBuffer.length - port.txBuffer.length) := by
  intro after
  have hwhole : ∀ action ∈ actions, action.Whole .uart := fun action _ => action.whole_of_ne (by decide)
  obtain ⟨port', hport', hreplays⟩ := (replays_run arithmetic hwhole bench key).present port h
  obtain ⟨hrx, htx⟩ := replays_uart hreplays
  obtain ⟨hread, hwritten⟩ := replays_credits hreplays
  have hrx := congrArg List.length hrx
  have htx := congrArg List.length htx
  rw [List.length_append, ← hread] at hrx
  rw [List.length_append, ← hwritten] at htx
  have hreadMem : bytesReadCounter ∈ counters .uart := by simp [bytesReadCounter, counters]
  have hwrittenMem : bytesWrittenCounter ∈ counters .uart := by simp [bytesWrittenCounter, counters]
  have hreadCount := count_run arithmetic key hreadMem actions bench
  have hwrittenCount := count_run arithmetic key hwrittenMem actions bench
  refine ⟨port', hport', by omega, by omega, ?_, ?_⟩
  · rw [hrx, Nat.add_sub_cancel]
    exact hreadCount
  · rw [htx, Nat.add_sub_cancel_left]
    exact hwrittenCount

theorem loopback_counters_agree :
    let after := (Bench.run zeroRatios loopbackActions loopbackBench).2
    ∃ port', after.hardware.uartPorts[loopbackDevice.id]? = some port' ∧
      port'.rxBuffer.length ≤ 2 ∧ 0 ≤ port'.txBuffer.length ∧
      after.count bytesReadCounter loopbackDevice.id = loopbackBench.count bytesReadCounter loopbackDevice.id +
        UInt64.ofNat (2 - port'.rxBuffer.length) ∧
      after.count bytesWrittenCounter loopbackDevice.id = loopbackBench.count bytesWrittenCounter loopbackDevice.id +
        UInt64.ofNat (port'.txBuffer.length - 0) :=
  counters_agree_with_port zeroRatios loopbackActions loopbackBench loopbackDevice.id loopback_port

end Uart

end Lemnos.Mock
