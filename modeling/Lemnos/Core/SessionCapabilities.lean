import Lemnos.Core.Configured

namespace Lemnos.Core

/-! The capabilities of the devices that backends open sessions for; mock devices and discovered ones have the same. -/

theorem gpioRead_valid : validateIdentifier "capability id" "gpio.read" = .ok () := by decide

theorem gpioConfigure_valid : validateIdentifier "capability id" "gpio.configure" = .ok () := by decide

theorem gpioGetConfiguration_valid : validateIdentifier "capability id" "gpio.get_configuration" = .ok () := by decide

def gpioSessionCapabilities : List (CapabilityId × CapabilityAccess) :=
  [(⟨"gpio.read", gpioRead_valid⟩, .READ), (⟨"gpio.write", by decide⟩, .WRITE),
    (⟨"gpio.configure", gpioConfigure_valid⟩, .CONFIGURE), (⟨"gpio.get_configuration", gpioGetConfiguration_valid⟩, .READ)]

def pwmSessionCapabilities : List (CapabilityId × CapabilityAccess) :=
  [(⟨"pwm.enable", by decide⟩, .WRITE), (⟨"pwm.configure", by decide⟩, .CONFIGURE),
    (⟨"pwm.set_period", by decide⟩, .CONFIGURE), (⟨"pwm.set_duty_cycle", by decide⟩, .CONFIGURE),
    (⟨"pwm.get_configuration", by decide⟩, .READ)]

def uartSessionCapabilities : List (CapabilityId × CapabilityAccess) :=
  [(⟨"uart.read", by decide⟩, .READ), (⟨"uart.write", by decide⟩, .WRITE),
    (⟨"uart.configure", by decide⟩, .CONFIGURE), (⟨"uart.flush", by decide⟩, .WRITE),
    (⟨"uart.get_configuration", by decide⟩, .READ)]

end Lemnos.Core
