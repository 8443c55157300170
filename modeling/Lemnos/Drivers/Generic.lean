import Lemnos.Drivers.Gpio
import Lemnos.Drivers.I2c
import Lemnos.Drivers.Pwm
import Lemnos.Drivers.Spi
import Lemnos.Drivers.Uart
import Lemnos.Drivers.Usb

/-! The bound devices of the six generic drivers, and what any run of calls leaves in their books. -/

namespace Lemnos.Drivers

open Lemnos.Core Bus DriverSdk Library.Frames

def driverFor : InterfaceKind → GenericSessionDriver
  | .gpio => gpioDriver
  | .pwm => pwmDriver
  | .i2c => i2cDriver
  | .spi => spiDriver
  | .uart => uartDriver
  | .usb => usbDriver

def Session (S : Type) : InterfaceKind → Type
  | .gpio => GpioSession S
  | .pwm => PwmSession S
  | .i2c => I2cSession S
  | .spi => SpiSession S
  | .uart => UartSession S
  | .usb => UsbSession S

def Stats : InterfaceKind → Type
  | .gpio => GpioStats
  | .pwm => PwmStats
  | .i2c => I2cStats
  | .spi => SpiStats
  | .uart => UartStats
  | .usb => UsbStats

def Stats.initial : (interface : InterfaceKind) → Stats interface
  | .gpio => ({} : GpioStats)
  | .pwm => ({} : PwmStats)
  | .i2c => ({} : I2cStats)
  | .spi => ({} : SpiStats)
  | .uart => ({} : UartStats)
  | .usb => ({} : UsbStats)

variable {S : Type}

def Session.bus : (interface : InterfaceKind) → Session S interface → BusSession S
  | .gpio, session => GpioSession.toBusSession session
  | .pwm, session => PwmSession.toBusSession session
  | .i2c, session => I2cSession.toBusSession session
  | .spi, session => SpiSession.toBusSession session
  | .uart, session => UartSession.toBusSession session
  | .usb, session => UsbSession.toBusSession session

def execute : (interface : InterfaceKind) → Session S interface → InteractionRequest →
    DriverCall S (Stats interface) InteractionResponse
  | .gpio, session => GpioBoundDevice.execute session
  | .pwm, session => PwmBoundDevice.execute session
  | .i2c, session => I2cBoundDevice.execute session
  | .spi, session => SpiBoundDevice.execute session
  | .uart, session => UartBoundDevice.execute session
  | .usb, session => UsbBoundDevice.execute session

def state (arithmetic : DutyCycleArithmetic) : (interface : InterfaceKind) → Session S interface →
    DriverCall S (Stats interface) DeviceStateSnapshot
  | .gpio, session => GpioBoundDevice.snapshotState session
  | .pwm, session => PwmBoundDevice.snapshotState arithmetic session
  | .i2c, session => I2cBoundDevice.snapshotState session
  | .spi, session => SpiBoundDevice.snapshotState session
  | .uart, session => UartBoundDevice.snapshotState session
  | .usb, session => UsbBoundDevice.snapshotState session

inductive BoundCall where
  | execute (request : InteractionRequest)
  | state
  | close

inductive BoundAnswer where
  | response (response : InteractionResponse)
  | state (snapshot : DeviceStateSnapshot)
  | closed

def perform (arithmetic : DutyCycleArithmetic) (interface : InterfaceKind) (session : Session S interface) :
    BoundCall → DriverCall S (Stats interface) BoundAnswer
  | .execute request => execute interface session request >>= fun response => pure (.response response)
  | .state => state arithmetic interface session >>= fun snapshot => pure (.state snapshot)
  | .close => closeSession (Session.bus interface session) >>= fun _ => pure .closed

def book : (interface : InterfaceKind) → StandardRequest → StandardResponse → Stats interface → Stats interface
  | .gpio, .gpio request, .gpio response => GpioBoundDevice.book request response
  | .pwm, .pwm request, .pwm _ => PwmBoundDevice.book request
  | .i2c, .i2c request, .i2c response => I2cBoundDevice.book request response
  | .spi, .spi request, .spi response => SpiBoundDevice.book request response
  | .uart, .uart request, .uart response => UartBoundDevice.book request response
  | .usb, .usb request, .usb response => UsbBoundDevice.book request response
  | _, _, _ => id

def served : BoundCall → BoundAnswer → Option (StandardRequest × StandardResponse)
  | .execute (.standard request), .response (.standard response) => some (request, response)
  | _, _ => none

def enter (interface : InterfaceKind) (call : BoundCall) (answer : BoundAnswer) (stats : Stats interface) :
    Stats interface :=
  (served call answer).elim stats fun one => book interface one.1 one.2 stats

inductive Fits (interface : InterfaceKind) : BoundCall → BoundAnswer → Prop where
  | response {request : StandardRequest} {response : StandardResponse} (valid : request.validate = .ok ())
    (own : request.interface = interface) (answers : Answers request response) :
    Fits interface (.execute (.standard request)) (.response (.standard response))
  | state (snapshot : DeviceStateSnapshot) : Fits interface .state (.state snapshot)
  | closed : Fits interface .close .closed

theorem books_execute (interface : InterfaceKind) (session : Session S interface) (request : InteractionRequest) :
    Books SessionBound.stats (execute interface session request) fun response =>
      enter interface (.execute request) (.response response) := by
  cases interface with
  | gpio =>
    apply books_executeStandardRequest
    exact GpioBoundDevice.books_executeGpioRequest session
  | pwm =>
    apply books_executeStandardRequest
    exact PwmBoundDevice.books_executePwmRequest session
  | i2c =>
    apply books_executeStandardRequest
    exact I2cBoundDevice.books_executeI2cRequest session
  | spi =>
    apply books_executeStandardRequest
    exact SpiBoundDevice.books_executeSpiRequest session
  | uart =>
    apply books_executeStandardRequest
    exact UartBoundDevice.books_executeUartRequest session
  | usb =>
    apply books_executeStandardRequest
    exact UsbBoundDevice.books_executeUsbRequest session

theorem keepsStats_closeSession {T : Type} (session : BusSession S) :
    Keeps SessionBound.stats (closeSession session : DriverCall S T Unit) := keepsStats_io session.close

theorem keepsStats_state (arithmetic : DutyCycleArithmetic) (interface : InterfaceKind)
    (session : Session S interface) : Keeps SessionBound.stats (state arithmetic interface session) := by
  cases interface with
  | gpio =>
    exact .bind (keepsStats_io _) fun configuration => .bind (keepsStats_io _) fun level =>
      .bind keeps_get fun bound => .pure _
  | pwm => exact .bind (keepsStats_io _) fun configuration => .bind keeps_get fun bound => .pure _
  | i2c => exact .bind keeps_get fun bound => .pure _
  | spi => exact .bind (keepsStats_io _) fun configuration => .bind keeps_get fun bound => .pure _
  | uart => exact .bind (keepsStats_io _) fun configuration => .bind keeps_get fun bound => .pure _
  | usb => exact .bind keeps_get fun bound => .pure _

theorem books_perform (arithmetic : DutyCycleArithmetic) (interface : InterfaceKind)
    (session : Session S interface) (call : BoundCall) :
    Books SessionBound.stats (perform arithmetic interface session call) (enter interface call) := by
  cases call with
  | execute request => exact (books_execute interface session request).map fun stats response stats' h => h
  | state => exact .after (keepsStats_state arithmetic interface session) fun snapshot => .pure fun stats => rfl
  | close =>
    exact .after (keepsStats_closeSession (Session.bus interface session)) fun closed => .pure fun stats => rfl

theorem yields_execute (interface : InterfaceKind) (session : Session S interface) (request : InteractionRequest) :
    Yields (fun response => Fits interface (.execute request) (.response response))
      (execute interface session request) := by
  cases interface with
  | gpio =>
    apply yields_executeStandardRequest
    intro selected hvalid bound answer bound' hexec
    have hanswers := GpioBoundDevice.yields_executeGpioRequest session selected bound answer bound' hexec
    exact .response hvalid rfl (.gpio hanswers)
  | pwm =>
    apply yields_executeStandardRequest
    intro selected hvalid bound answer bound' hexec
    have hanswers := PwmBoundDevice.yields_executePwmRequest session selected bound answer bound' hexec
    exact .response hvalid rfl (.pwm hanswers)
  | i2c =>
    apply yields_executeStandardRequest
    intro selected hvalid bound answer bound' hexec
    have hanswers := I2cBoundDevice.yields_executeI2cRequest session selected bound answer bound' hexec
    exact .response hvalid rfl (.i2c hanswers)
  | spi =>
    apply yields_executeStandardRequest
    intro selected hvalid bound answer bound' hexec
    have hanswers := SpiBoundDevice.yields_executeSpiRequest session selected bound answer bound' hexec
    exact .response hvalid rfl (.spi hanswers)
  | uart =>
    apply yields_executeStandardRequest
    intro selected hvalid bound answer bound' hexec
    have hanswers := UartBoundDevice.yields_executeUartRequest session selected bound answer bound' hexec
    exact .response hvalid rfl (.uart hanswers)
  | usb =>
    apply yields_executeStandardRequest
    intro selected hvalid bound answer bound' hexec
    have hanswers := UsbBoundDevice.yields_executeUsbRequest session selected bound answer bound' hexec
    exact .response hvalid rfl (.usb hanswers)

theorem yields_perform (arithmetic : DutyCycleArithmetic) (interface : InterfaceKind)
    (session : Session S interface) (call : BoundCall) :
    Yields (Fits interface call) (perform arithmetic interface session call) := by
  cases call with
  | execute request => exact .map (yields_execute interface session request)
  | state => exact .after fun snapshot => .pure (.state snapshot)
  | close => exact .after fun done => .pure .closed

end Lemnos.Drivers
