import Lemnos.Core.Request
import Lemnos.Linux.Session

namespace Lemnos.Linux

open Lemnos.Core Bus Library.Frames

inductive SpiTransportCall where
  | transfer (write : List UInt8)
  | write (bytes : List UInt8)
  | configure (configuration : SpiConfiguration)
  | configuration
  deriving DecidableEq

abbrev SpiTransportCall.Result : SpiTransportCall → Type
  | transfer _ => List UInt8
  | write _ | configure _ => Unit
  | configuration => SpiConfiguration

inductive UartTransportCall where
  | readInto (length : ℕ)
  | read (maxBytes : UInt32)
  | write (bytes : List UInt8)
  | flush
  | configure (configuration : UartConfiguration)
  | configuration
  deriving DecidableEq

abbrev UartTransportCall.Result : UartTransportCall → Type
  | readInto _ | read _ => List UInt8
  | write _ | flush | configure _ => Unit
  | configuration => UartConfiguration

inductive UsbSessionCall where
  | controlTransfer (transfer : UsbControlTransfer)
  | bulkReadInto (endpoint : UInt8) (length : ℕ) (timeoutMs : Option UInt32)
  | bulkRead (endpoint : UInt8) (length : UInt32) (timeoutMs : Option UInt32)
  | bulkWrite (endpoint : UInt8) (bytes : List UInt8) (timeoutMs : Option UInt32)
  | interruptReadInto (endpoint : UInt8) (length : ℕ) (timeoutMs : Option UInt32)
  | interruptRead (endpoint : UInt8) (length : UInt32) (timeoutMs : Option UInt32)
  | interruptWrite (transfer : UsbInterruptTransfer)
  | claimInterface (interfaceNumber : UInt8) (alternateSetting : Option UInt8)
  | releaseInterface (interfaceNumber : UInt8)
  deriving DecidableEq

abbrev UsbSessionCall.Result : UsbSessionCall → Type
  | controlTransfer _ | bulkReadInto .. | bulkRead .. | interruptReadInto .. | interruptRead .. => List UInt8
  | bulkWrite .. | interruptWrite _ | claimInterface .. | releaseInterface _ => Unit

inductive UsbTransportCall where
  | call (call : UsbSessionCall)
  | close
  deriving DecidableEq

abbrev UsbTransportCall.Result : UsbTransportCall → Type
  | call c => c.Result
  | close => Unit

abbrev SpiTransport (τ : Type) := Transport τ SpiTransportCall SpiTransportCall.Result

abbrev UartTransport (τ : Type) := Transport τ UartTransportCall UartTransportCall.Result

abbrev UsbTransport (τ : Type) := Transport τ UsbTransportCall UsbTransportCall.Result

open TransportSession

namespace LinuxSpiSession

variable {τ : Type} (T : SpiTransport τ)

def transfer (write : List UInt8) : Call τ (List UInt8) :=
  grantedCall T "SPI" "spi.transfer" "session access is read-only" (.transfer write)

def write (bytes : List UInt8) : Call τ Unit :=
  grantedCall T "SPI" "spi.write" "session access is read-only" (.write bytes)

def configure (configuration : SpiConfiguration) : Call τ Unit :=
  grantedCall T "SPI" "spi.configure" "session access does not allow configuration changes"
    (.configure configuration)

def configuration : Call τ SpiConfiguration := queryCall T "SPI" "spi.get_configuration" .configuration

end LinuxSpiSession

namespace LinuxUartSession

variable {τ : Type} (T : UartTransport τ)

def readInto (length : ℕ) : Call τ (List UInt8) := readingCall T "UART" "uart.read" (.readInto length)

def read (maxBytes : UInt32) : Call τ (List UInt8) := readingCall T "UART" "uart.read" (.read maxBytes)

def write (bytes : List UInt8) : Call τ Unit :=
  grantedCall T "UART" "uart.write" "session access is read-only" (.write bytes)

def flush : Call τ Unit := grantedCall T "UART" "uart.flush" "session access is read-only" .flush

def configure (configuration : UartConfiguration) : Call τ Unit :=
  grantedCall T "UART" "uart.configure" "session access does not allow configuration changes"
    (.configure configuration)

def configuration : Call τ UartConfiguration := queryCall T "UART" "uart.get_configuration" .configuration

end LinuxUartSession

/-! The session of USB devices, over any transport. -/

namespace UsbTransportSession

variable {τ : Type} (T : UsbTransport τ)

def controlTransfer (transfer : UsbControlTransfer) : Call τ (List UInt8) :=
  if transfer.setup.direction = .output then
    writingCall T "USB" "usb.control_transfer" "session access is read-only for outbound control transfers"
      (.call (.controlTransfer transfer))
  else readingCall T "USB" "usb.control_transfer" (.call (.controlTransfer transfer))

def bulkReadInto (endpoint : UInt8) (length : ℕ) (timeoutMs : Option UInt32) : Call τ (List UInt8) :=
  readingCall T "USB" "usb.bulk_read" (.call (.bulkReadInto endpoint length timeoutMs))

def bulkRead (endpoint : UInt8) (length : UInt32) (timeoutMs : Option UInt32) : Call τ (List UInt8) :=
  readingCall T "USB" "usb.bulk_read" (.call (.bulkRead endpoint length timeoutMs))

def bulkWrite (endpoint : UInt8) (bytes : List UInt8) (timeoutMs : Option UInt32) : Call τ Unit :=
  writingCall T "USB" "usb.bulk_write" "session access is read-only" (.call (.bulkWrite endpoint bytes timeoutMs))

def interruptReadInto (endpoint : UInt8) (length : ℕ) (timeoutMs : Option UInt32) : Call τ (List UInt8) :=
  readingCall T "USB" "usb.interrupt_read" (.call (.interruptReadInto endpoint length timeoutMs))

def interruptRead (endpoint : UInt8) (length : UInt32) (timeoutMs : Option UInt32) : Call τ (List UInt8) :=
  readingCall T "USB" "usb.interrupt_read" (.call (.interruptRead endpoint length timeoutMs))

def interruptWrite (transfer : UsbInterruptTransfer) : Call τ Unit :=
  writingCall T "USB" "usb.interrupt_write" "session access is read-only" (.call (.interruptWrite transfer))

def claimInterface (interfaceNumber : UInt8) (alternateSetting : Option UInt8) : Call τ Unit :=
  writingCall T "USB" "usb.claim_interface" "session access does not allow interface claims"
    (.call (.claimInterface interfaceNumber alternateSetting))

def releaseInterface (interfaceNumber : UInt8) : Call τ Unit :=
  writingCall T "USB" "usb.release_interface" "session access does not allow interface release"
    (.call (.releaseInterface interfaceNumber))

def close : Call τ Unit := do
  onTransport (T .close)
  TransportSession.close

end UsbTransportSession

end Lemnos.Linux
