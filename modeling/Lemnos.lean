import Lemnos.AsyncRuntime.BindExclusion
import Lemnos.AsyncRuntime.Closing
import Lemnos.AsyncRuntime.Consistency
import Lemnos.AsyncRuntime.Freshness
import Lemnos.AsyncRuntime.Sequential
import Lemnos.AsyncRuntime.Shutdown
import Lemnos.AsyncRuntime.Unbind
import Lemnos.Core.ConfiguredLinks
import Lemnos.Discovery.ConfiguredRuns
import Lemnos.Discovery.Workers
import Lemnos.Drivers.LastOperation
import Lemnos.Linux.Exports
import Lemnos.Linux.GpioConfigure
import Lemnos.Linux.GpioOwnership
import Lemnos.Linux.HotplugReports
import Lemnos.Linux.I2cAddresses
import Lemnos.Linux.I2cFallback
import Lemnos.Linux.I2cTransactions
import Lemnos.Linux.LifeCycle
import Lemnos.Linux.PwmFailures
import Lemnos.Linux.Rescans
import Lemnos.Linux.Usb
import Lemnos.Linux.UsbSiblings
import Lemnos.Mock.BenchTelemetry
import Lemnos.Mock.I2cRegisters
import Lemnos.Mock.Refreshes
import Lemnos.Runtime.DegradedRefresh
import Lemnos.Runtime.FailureStreaks
import Lemnos.Runtime.IndexCoverage
import Lemnos.Runtime.Mirror
import Lemnos.Runtime.Refusal
import Lemnos.Runtime.RetainedPayload
import Lemnos.Runtime.WatchFrame
import Lemnos.Runtime.WatchScope
