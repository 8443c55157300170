import Lemnos.Core.SessionCapabilities
import Lemnos.Drivers.Generic
import Lemnos.Linux.UsbDescriptors

namespace Lemnos.Linux

open Lemnos.Core Discovery Drivers

/-! How the probes describe what they find, and what is the same in all of their reports. -/

def probeFailed (probe path action : String) (error : IoError) : DiscoveryError :=
  .probeFailed probe s!"{action} at '{path}': {error.display}"

def readOf {α : Type} (what subject path : String) (reading : Except IoError α) : Except String α :=
  reading.mapError fun error => s!"failed to read {what} for {subject} at '{path}': {error.display}"

def withLinuxDriver (driver : String) (builder : DeviceDescriptor) : DeviceDescriptor :=
  withText "linux.driver" driver builder

def withFlag (key : String) (flag : Bool) (builder : DeviceDescriptor) : DeviceDescriptor :=
  builder.withProperty key (.bool flag)

/-- A device without the file is degraded. -/
def withOrDegraded {α : Type} (value : Option α) (f : α → DeviceDescriptor → DeviceDescriptor)
    (builder : DeviceDescriptor) : DeviceDescriptor :=
  value.elim (withHealth .degraded builder) fun value => f value builder

def buildDescriptor (id : String) (kind : DeviceKind) (starting building : String)
    (describe : DeviceDescriptor → DeviceDescriptor) : Except String DeviceDescriptor := do
  let builder ← (DeviceDescriptor.builderForKind id kind).mapError fun error =>
    s!"failed to start {starting}: {error}"
  (describe builder).build.mapError fun error => s!"failed to build {building}: {error}"

def record (discovery : ProbeDiscovery) : Except String DeviceDescriptor → ProbeDiscovery
  | .ok device => { discovery with devices := discovery.devices ++ [device] }
  | .error note => { discovery with notes := discovery.notes ++ [note] }

def recordChip (chip : Except String DeviceDescriptor)
    (line : DeviceId → UInt32 → Except String DeviceDescriptor) (count : UInt32) (discovery : ProbeDiscovery) :
    ProbeDiscovery :=
  match chip with
  | .error _ => record discovery chip
  | .ok device => (List.range count.toNat).foldl
    (fun discovery offset => record discovery (line device.id (UInt32.ofNat offset))) (record discovery chip)

def discoverEntries {σ : Type} (probe root action : String) (listed : Except IoError (List String))
    (visit : σ → String → String → DiscoveryResult σ) (start : σ) : DiscoveryResult σ := do
  let entries ← listed.mapError (probeFailed probe root action)
  entries.foldlM (fun state path => (fileName path).elim (.ok state) (visit state path)) start

def parsePrefixedU32 (value start : String) : Option UInt32 :=
  (value.toList.dropPrefix? start.toList).bind fun digits => parseU32 (String.ofList digits)

section Essence

def essence (device : DeviceDescriptor) :
    DeviceId × InterfaceKind × DeviceKind × Option DeviceAddress × List DeviceLink × Option String :=
  (device.id, device.interface, device.kind, device.address, device.links, device.matchHints.driverHint)

def Neutral (f : DeviceDescriptor → DeviceDescriptor) : Prop := ∀ builder, essence (f builder) = essence builder

@[simp] theorem neutral_withText (key text : String) : Neutral (withText key text) := fun _ => rfl

@[simp] theorem neutral_withNumber (key : String) (number : UInt64) : Neutral (withNumber key number) := fun _ => rfl

@[simp] theorem neutral_withLabel (key value : String) : Neutral fun builder => builder.withLabel key value :=
  fun _ => rfl

@[simp] theorem neutral_withDevnode (devnode : String) : Neutral (withDevnode devnode) := fun _ => rfl

@[simp] theorem neutral_withDriver (driver : String) : Neutral (withDriver driver) := fun _ => rfl

@[simp] theorem neutral_withLinuxDriver (driver : String) : Neutral (withLinuxDriver driver) := fun _ => rfl

@[simp] theorem neutral_withModalias (modalias : String) : Neutral (withModalias modalias) := fun _ => rfl

theorem Neutral.withText {f : DeviceDescriptor → DeviceDescriptor} (h : Neutral f) (key text : String) :
    Neutral fun builder => withText key text (f builder) := fun builder => h builder

variable {α : Type} {f : α → DeviceDescriptor → DeviceDescriptor} (builder : DeviceDescriptor) (value : Option α)

@[simp] theorem essence_whenRead (h : ∀ a, Neutral (f a)) : essence (whenRead value f builder) = essence builder := by
  cases value with
  | none => rfl
  | some a => exact h a builder

@[simp] theorem essence_withOrDegraded (h : ∀ a, Neutral (f a)) :
    essence (withOrDegraded value f builder) = essence builder := by
  cases value with
  | none => rfl
  | some a => exact h a builder

end Essence

end Lemnos.Linux
