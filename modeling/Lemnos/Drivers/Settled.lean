import Lemnos.Drivers.Generic

/-! What the requests do to the world behind a session, from what the calls of the session do to it. -/

namespace Lemnos.Drivers

open Lemnos.Core Bus DriverSdk Library.Frames

variable {S γ : Type} (view : S → γ) (relation : StandardRequest → γ → StandardResponse → γ → Prop)

/-- The calls that serve the requests of the interface do to the world what the relation says. -/
structure GpioSettled (session : GpioSession S) : Prop where
  readLevel : Settles view session.readLevel fun v level v' =>
    v' = v ∧ relation (.gpio .read) v (.gpio (.level level)) v'
  writeLevel : ∀ level, Settles view (session.writeLevel level) fun v _ v' =>
    relation (.gpio (.write level)) v (.gpio .applied) v'
  configureLine : ∀ configuration, Settles view (session.configureLine configuration) fun v _ v' =>
    relation (.gpio (.configure configuration)) v (.gpio .applied) v'
  configuration : Settles view session.configuration fun v configuration v' =>
    v' = v ∧ relation (.gpio .getConfiguration) v (.gpio (.configuration configuration)) v'

structure PwmSettled (session : PwmSession S) : Prop where
  setEnabled : ∀ enabled, Settles view (session.setEnabled enabled) fun v _ v' =>
    relation (.pwm (.enable enabled)) v (.pwm .applied) v'
  setPeriodNs : ∀ periodNs, Settles view (session.setPeriodNs periodNs) fun v _ v' =>
    relation (.pwm (.setPeriod periodNs)) v (.pwm .applied) v'
  setDutyCycleNs : ∀ dutyCycleNs, Settles view (session.setDutyCycleNs dutyCycleNs) fun v _ v' =>
    relation (.pwm (.setDutyCycle dutyCycleNs)) v (.pwm .applied) v'
  configure : ∀ configuration, Settles view (session.configure configuration) fun v _ v' =>
    relation (.pwm (.configure configuration)) v (.pwm .applied) v'
  configuration : Settles view session.configuration fun v configuration v' =>
    v' = v ∧ relation (.pwm .getConfiguration) v (.pwm (.configuration configuration)) v'

/-- A transaction may fail halfway, and leave more behind than its results tell. -/
structure I2cSettled (whole : List I2cOperation → Prop) (session : I2cSession S) : Prop where
  read : ∀ length, Settles view (session.read length) fun v bytes v' =>
    relation (.i2c (.read length)) v (.i2c (.bytes bytes)) v'
  write : ∀ bytes, Settles view (session.write bytes) fun v _ v' =>
    relation (.i2c (.write bytes)) v (.i2c .applied) v'
  writeRead : ∀ write readLength, Settles view (session.writeRead write readLength) fun v bytes v' =>
    relation (.i2c (.writeRead write readLength)) v (.i2c (.bytes bytes)) v'
  transaction : ∀ operations, whole operations → Settles view (session.transaction operations) fun v rawResults v' =>
    relation (.i2c (.transaction operations)) v
      (.i2c (.transaction ((operations.zip rawResults).map TransactionTotals.resultOf))) v'
  results : ∀ operations, Yields (fun rawResults => rawResults.length = operations.length)
    (session.transaction operations)

structure SpiSettled (session : SpiSession S) : Prop where
  transfer : ∀ write, Settles view (session.transfer write) fun v bytes v' =>
    relation (.spi (.transfer write)) v (.spi (.bytes bytes)) v'
  write : ∀ bytes, Settles view (session.write bytes) fun v _ v' =>
    relation (.spi (.write bytes)) v (.spi .applied) v'
  configure : ∀ configuration, Settles view (session.configure configuration) fun v _ v' =>
    relation (.spi (.configure configuration)) v (.spi .applied) v'
  configuration : Settles view session.configuration fun v configuration v' =>
    v' = v ∧ relation (.spi .getConfiguration) v (.spi (.configuration configuration)) v'

structure UartSettled (session : UartSession S) : Prop where
  read : ∀ maxBytes, Settles view (session.read maxBytes) fun v bytes v' =>
    relation (.uart (.read maxBytes)) v (.uart (.bytes bytes)) v'
  write : ∀ bytes, Settles view (session.write bytes) fun v _ v' =>
    relation (.uart (.write bytes)) v (.uart .applied) v'
  flush : Settles view session.flush fun v _ v' => relation (.uart .flush) v (.uart .applied) v'
  configure : ∀ configuration, Settles view (session.configure configuration) fun v _ v' =>
    relation (.uart (.configure configuration)) v (.uart .applied) v'
  configuration : Settles view session.configuration fun v configuration v' =>
    v' = v ∧ relation (.uart .getConfiguration) v (.uart (.configuration configuration)) v'

structure UsbSettled (session : UsbSession S) : Prop where
  controlTransfer : ∀ transfer, Settles view (session.controlTransfer transfer) fun v bytes v' =>
    relation (.usb (.control transfer)) v (.usb (.bytes bytes)) v'
  bulkRead : ∀ endpoint length timeoutMs, Settles view (session.bulkRead endpoint length timeoutMs) fun v bytes v' =>
    relation (.usb (.bulkRead endpoint length timeoutMs)) v (.usb (.bytes bytes)) v'
  bulkWrite : ∀ endpoint bytes timeoutMs, Settles view (session.bulkWrite endpoint bytes timeoutMs) fun v _ v' =>
    relation (.usb (.bulkWrite endpoint bytes timeoutMs)) v (.usb .applied) v'
  interruptRead : ∀ endpoint length timeoutMs,
    Settles view (session.interruptRead endpoint length timeoutMs) fun v bytes v' =>
      relation (.usb (.interruptRead endpoint length timeoutMs)) v (.usb (.bytes bytes)) v'
  interruptWrite : ∀ transfer, Settles view (session.interruptWrite transfer) fun v _ v' =>
    relation (.usb (.interruptWrite transfer)) v (.usb .applied) v'
  claimInterface : ∀ number alternateSetting,
    Settles view (session.claimInterface number alternateSetting) fun v _ v' =>
      relation (.usb (.claimInterface number alternateSetting)) v (.usb (.interfaceClaimed number alternateSetting)) v'
  releaseInterface : ∀ number, Settles view (session.releaseInterface number) fun v _ v' =>
    relation (.usb (.releaseInterface number)) v (.usb (.interfaceReleased number)) v'

def Settled (whole : List I2cOperation → Prop) : (interface : InterfaceKind) → Session S interface → Prop
  | .gpio, session => GpioSettled view relation session
  | .pwm, session => PwmSettled view relation session
  | .i2c, session => I2cSettled view relation whole session
  | .spi, session => SpiSettled view relation session
  | .uart, session => UartSettled view relation session
  | .usb, session => UsbSettled view relation session

variable {view relation}

theorem settles_executeGpioRequest {session : GpioSession S} (h : GpioSettled view relation session)
    (request : GpioRequest) :
    Settles (onWorld view) (GpioBoundDevice.executeGpioRequest session request)
      fun v response v' => relation (.gpio request) v (.gpio response) v' := by
  cases request with
  | read => exact settles_noted (h.readLevel.imp fun v level v' hread => hread.2)
  | write level => exact settles_noted (h.writeLevel level)
  | configure configuration => exact settles_noted (h.configureLine configuration)
  | getConfiguration => exact settles_unnoted (h.configuration.imp fun v configuration v' hread => hread.2)

theorem settles_executePwmRequest {session : PwmSession S} (h : PwmSettled view relation session)
    (request : PwmRequest) :
    Settles (onWorld view) (PwmBoundDevice.executePwmRequest session request)
      fun v response v' => relation (.pwm request) v (.pwm response) v' := by
  cases request with
  | enable enabled => exact settles_noted (h.setEnabled enabled)
  | configure configuration => exact settles_noted (h.configure configuration)
  | setPeriod periodNs => exact settles_noted (h.setPeriodNs periodNs)
  | setDutyCycle dutyCycleNs => exact settles_noted (h.setDutyCycleNs dutyCycleNs)
  | getConfiguration => exact settles_unnoted (h.configuration.imp fun v configuration v' hread => hread.2)

theorem settles_executeI2cRequest {whole : List I2cOperation → Prop} {session : I2cSession S}
    (h : I2cSettled view relation whole session) {request : I2cRequest}
    (hwhole : ∀ operations, request = .transaction operations → whole operations) :
    Settles (onWorld view) (I2cBoundDevice.executeI2cRequest session request)
      fun v response v' => relation (.i2c request) v (.i2c response) v' := by
  cases request with
  | read length => exact settles_noted (h.read length)
  | write bytes => exact settles_noted (h.write bytes)
  | writeRead write readLength => exact settles_noted (h.writeRead write readLength)
  | transaction operations =>
    have hcall := (h.transaction operations (hwhole operations rfl)).yields (h.results operations)
    refine (settles_io hcall).answer ?_ fun v rawResults v' hsettled => hsettled.2
    rintro rawResults v bound ⟨hlength, -⟩
    let totals := (operations.zip rawResults).foldl .collect ({} : TransactionTotals)
    let stats : I2cStats := bound.stats.recordTransaction operations.length totals.bytesWritten totals.bytesRead
      (I2cBoundDevice.transactionSummary operations.length totals.bytesWritten totals.bytesRead)
    refine ⟨{ bound with stats }, ?_, rfl⟩
    have hresults : totals.results = (operations.zip rawResults).map TransactionTotals.resultOf := by
      simp only [totals, TransactionTotals.foldl_collect, List.nil_append]
    rw [exec_bind_of_ok (exec_get bound), if_neg (not_not_intro hlength), ← hresults]
    rfl

theorem settles_executeSpiRequest {session : SpiSession S} (h : SpiSettled view relation session)
    (request : SpiRequest) :
    Settles (onWorld view) (SpiBoundDevice.executeSpiRequest session request)
      fun v response v' => relation (.spi request) v (.spi response) v' := by
  cases request with
  | transfer write => exact settles_noted (h.transfer write)
  | write bytes => exact settles_noted (h.write bytes)
  | configure configuration => exact settles_unnoted (h.configure configuration)
  | getConfiguration => exact settles_unnoted (h.configuration.imp fun v configuration v' hread => hread.2)

theorem settles_executeUartRequest {session : UartSession S} (h : UartSettled view relation session)
    (request : UartRequest) :
    Settles (onWorld view) (UartBoundDevice.executeUartRequest session request)
      fun v response v' => relation (.uart request) v (.uart response) v' := by
  cases request with
  | read maxBytes => exact settles_noted (h.read maxBytes)
  | write bytes => exact settles_noted (h.write bytes)
  | configure configuration => exact settles_unnoted (h.configure configuration)
  | flush => exact settles_noted h.flush
  | getConfiguration => exact settles_unnoted (h.configuration.imp fun v configuration v' hread => hread.2)

theorem settles_executeUsbRequest {session : UsbSession S} (h : UsbSettled view relation session)
    (request : UsbRequest) :
    Settles (onWorld view) (UsbBoundDevice.executeUsbRequest session request)
      fun v response v' => relation (.usb request) v (.usb response) v' := by
  cases request with
  | control transfer => exact settles_noted (h.controlTransfer transfer)
  | bulkRead endpoint length timeoutMs => exact settles_noted (h.bulkRead endpoint length timeoutMs)
  | bulkWrite endpoint bytes timeoutMs => exact settles_noted (h.bulkWrite endpoint bytes timeoutMs)
  | interruptRead endpoint length timeoutMs => exact settles_noted (h.interruptRead endpoint length timeoutMs)
  | interruptWrite transfer => exact settles_noted (h.interruptWrite transfer)
  | claimInterface number alternateSetting => exact settles_noted (h.claimInterface number alternateSetting)
  | releaseInterface number => exact settles_noted (h.releaseInterface number)

section Calls

variable {whole : List I2cOperation → Prop} {interface : InterfaceKind} {session : Session S interface}

/-- A request that was served has done to the world what the relation says, and no other call anything. -/
def Performed (relation : StandardRequest → γ → StandardResponse → γ → Prop) (call : BoundCall) (v : γ)
    (answer : BoundAnswer) (v' : γ) : Prop :=
  (served call answer).elim (v' = v) fun one => relation one.1 v one.2 v'

def BoundCall.Whole (whole : List I2cOperation → Prop) (call : BoundCall) : Prop :=
  ∀ operations, call = .execute (.standard (.i2c (.transaction operations))) → whole operations

theorem settles_execute (h : Settled view relation whole interface session) {request : InteractionRequest}
    (hwhole : BoundCall.Whole whole (.execute request)) :
    Settles (onWorld view) (execute interface session request) fun v response v' =>
      Performed relation (.execute request) v (.response response) v' := by
  cases interface with
  | gpio =>
    apply settles_executeStandardRequest
    rintro selected rfl
    exact settles_executeGpioRequest h selected
  | pwm =>
    apply settles_executeStandardRequest
    rintro selected rfl
    exact settles_executePwmRequest h selected
  | i2c =>
    apply settles_executeStandardRequest
    rintro selected rfl
    apply settles_executeI2cRequest h
    rintro operations rfl
    exact hwhole operations rfl
  | spi =>
    apply settles_executeStandardRequest
    rintro selected rfl
    exact settles_executeSpiRequest h selected
  | uart =>
    apply settles_executeStandardRequest
    rintro selected rfl
    exact settles_executeUartRequest h selected
  | usb =>
    apply settles_executeStandardRequest
    rintro selected rfl
    exact settles_executeUsbRequest h selected

theorem keepsWorld_state (arithmetic : DutyCycleArithmetic) (h : Settled view relation whole interface session) :
    Keeps (onWorld view) (state arithmetic interface session) := by
  have hread : ∀ {α T : Type} {device : DeviceDescriptor} {call : Effect S BusError α} {p : γ → α → γ → Prop},
      Settles view call (fun v a v' => v' = v ∧ p v a v') →
      Keeps (onWorld view) (io device call : DriverCall S T α) :=
    fun h => (settles_io h).keeps fun v a v' hsame => hsame.1
  cases interface with
  | gpio =>
    exact .bind (hread (GpioSettled.configuration h)) fun configuration =>
      .bind (hread (GpioSettled.readLevel h)) fun level => .bind keeps_get fun bound => .pure _
  | pwm => exact .bind (hread (PwmSettled.configuration h)) fun configuration => .bind keeps_get fun bound => .pure _
  | i2c => exact .bind keeps_get fun bound => .pure _
  | spi => exact .bind (hread (SpiSettled.configuration h)) fun configuration => .bind keeps_get fun bound => .pure _
  | uart =>
    exact .bind (hread (UartSettled.configuration h)) fun configuration => .bind keeps_get fun bound => .pure _
  | usb => exact .bind keeps_get fun bound => .pure _

theorem settles_perform (arithmetic : DutyCycleArithmetic) (h : Settled view relation whole interface session)
    (hclose : Keeps view (Session.bus interface session).close) {call : BoundCall}
    (hwhole : call.Whole whole) :
    Settles (onWorld view) (perform arithmetic interface session call) (Performed relation call) := by
  cases call with
  | execute request => exact (settles_execute h hwhole).map fun v response v' hsettled => hsettled
  | state => exact .after (keepsWorld_state arithmetic h) fun snapshot => .pure fun v => rfl
  | close =>
    have hkeeps : Keeps (onWorld view) (closeSession (Session.bus interface session) :
        DriverCall S (Stats interface) Unit) := by
      intro bound
      rw [closeSession, exec_io]
      exact hclose bound.session
    exact .after hkeeps fun closed => .pure fun v => rfl

theorem keepsWorld_perform (arithmetic : DutyCycleArithmetic)
    (h : Settled view (fun _ v _ v' => v' = v) whole interface session)
    (hclose : Keeps view (Session.bus interface session).close) {call : BoundCall} (hwhole : call.Whole whole) :
    Keeps (onWorld view) (perform arithmetic interface session call) := by
  refine (settles_perform arithmetic h hclose hwhole).keeps fun v given v' hperformed => ?_
  rw [Performed] at hperformed
  cases hserved : served call given with
  | none => rwa [hserved] at hperformed
  | some one => rwa [hserved] at hperformed

end Calls

end Lemnos.Drivers
