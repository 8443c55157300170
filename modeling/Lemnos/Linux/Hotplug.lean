import Lemnos.Discovery.Inventory
import Lemnos.Library.Frames
import Lemnos.Linux.Files

namespace Lemnos.Linux

open Lemnos.Core Discovery Library.Frames Library.OrderedMap

inductive ClassRoot where
  | gpio
  | led
  | pwm
  | hwmon
  | i2cClass
  | i2cDevices
  | spiDevices
  | tty
  | usbDevices
  deriving DecidableEq

theorem ClassRoot.ctorIdx_injective {a b : ClassRoot} (h : a.ctorIdx = b.ctorIdx) : a = b := by
  cases a <;> cases b <;> first | rfl | cases h

inductive WatchPath where
  | root (root : ClassRoot)
  | pwmEntry (name : String)
  deriving DecidableEq

namespace WatchPath

def rank : WatchPath → ℕ
  | .root r => r.ctorIdx + 1
  | .pwmEntry _ => 0

def entryName : WatchPath → String
  | root _ => ""
  | pwmEntry name => name

def order : WatchPath → WatchPath → Ordering := compareLex (compareOn rank) (compareOn entryName)

instance : Ord WatchPath := ⟨order⟩

instance : Std.TransOrd WatchPath :=
  inferInstanceAs (Std.TransCmp (compareLex (compareOn rank) (compareOn entryName)))

theorem eq_of_rank_eq {a b : WatchPath} (hrank : a.rank = b.rank) (hname : a.entryName = b.entryName) :
    a = b := by
  cases a with
  | root a =>
    cases b with
    | root b => exact congrArg root (ClassRoot.ctorIdx_injective (Nat.succ.inj hrank))
    | pwmEntry name => exact absurd hrank (Nat.succ_ne_zero _)
  | pwmEntry name =>
    cases b with
    | root b => exact absurd hrank.symm (Nat.succ_ne_zero _)
    | pwmEntry other => exact congrArg pwmEntry hname

instance : Std.LawfulEqOrd WatchPath where
  eq_of_compare {a b} h := by
    have hboth : (compareOn rank a b).then (compareOn entryName a b) = .eq := h
    rw [Ordering.then_eq_eq] at hboth
    exact eq_of_rank_eq (Std.LawfulEqOrd.eq_of_compare hboth.1) (Std.LawfulEqOrd.eq_of_compare hboth.2)

def Watchable : WatchPath → Prop
  | root _ => True
  | pwmEntry name => name.startsWith "pwmchip" = true

def path (paths : LinuxPaths) : WatchPath → String
  | root .gpio => paths.gpioClassRoot
  | root .led => paths.ledClassRoot
  | root .pwm => paths.pwmClassRoot
  | root .hwmon => paths.hwmonClassRoot
  | root .i2cClass => paths.i2cClassRoot
  | root .i2cDevices => paths.i2cDevicesRoot
  | root .spiDevices => paths.spiDevicesRoot
  | root .tty => paths.ttyClassRoot
  | root .usbDevices => paths.usbDevicesRoot
  | pwmEntry name => joinPath paths.pwmClassRoot name

end WatchPath

inductive IoError where
  | notFound
  | invalidInput
  | wouldBlock
  | other (message : String)
  deriving DecidableEq

def IoError.display : IoError → String
  | notFound => "No such file or directory (os error 2)"
  | invalidInput => "Invalid argument (os error 22)"
  | wouldBlock => "Resource temporarily unavailable (os error 11)"
  | other message => message

inductive EventMask where
  | qOverflow
  | ignored
  | touched
  deriving DecidableEq

structure InotifyEvent where
  wd : ℕ
  mask : EventMask
  name : Option String := none
  deriving DecidableEq

def InotifyEvent.size (event : InotifyEvent) : ℕ :=
  16 + match event.name with
    | none => 0
    | some name => (name.utf8ByteSize + 16) / 16 * 16

def takeFitting (space : ℕ) : List InotifyEvent → List InotifyEvent
  | [] => []
  | event :: queue => if event.size ≤ space then event :: takeFitting (space - event.size) queue else []

/-- The directories that exist, each with a number of its own, and the watches on them. A path stands for the
same directory as long as the number stays. -/
structure HotplugKernel where
  dirs : BTreeMap WatchPath ℕ := ∅
  nextDir : ℕ := 0
  watches : BTreeMap WatchPath ℕ := ∅
  nextWatch : ℕ := 1
  queue : List InotifyEvent := []

inductive DirChange where
  | create (path : WatchPath)
  | remove (path : WatchPath)
  | touch (wd : ℕ) (name : Option String)
  | overflow
  deriving DecidableEq

namespace HotplugKernel

def pwmEntries (kernel : HotplugKernel) : List String :=
  kernel.dirs.keys.filterMap fun path =>
    match path with
    | .root _ => none
    | .pwmEntry name => some name

def CanCreate (kernel : HotplugKernel) : WatchPath → Prop
  | .root root => .root root ∉ kernel.dirs
  | .pwmEntry name => .pwmEntry name ∉ kernel.dirs ∧ .root .pwm ∈ kernel.dirs

instance (kernel : HotplugKernel) : DecidablePred kernel.CanCreate
  | .root _ => inferInstanceAs (Decidable (_ ∉ kernel.dirs))
  | .pwmEntry _ => inferInstanceAs (Decidable (_ ∉ kernel.dirs ∧ _ ∈ kernel.dirs))

def enqueue (event : InotifyEvent) (kernel : HotplugKernel) : HotplugKernel :=
  { kernel with queue := kernel.queue ++ [event] }

def endWatch (path : WatchPath) (kernel : HotplugKernel) : HotplugKernel :=
  match kernel.watches[path]? with
  | none => kernel
  | some wd => { kernel with watches := kernel.watches.erase path }.enqueue ⟨wd, .ignored, none⟩

def removeDir (path : WatchPath) (kernel : HotplugKernel) : HotplugKernel :=
  if path = .root .pwm ∧ kernel.pwmEntries ≠ [] then kernel
  else { kernel with dirs := kernel.dirs.erase path }.endWatch path

def change (kernel : HotplugKernel) : DirChange → HotplugKernel
  | .create path =>
    if kernel.CanCreate path then
      { kernel with
        dirs := kernel.dirs.insert path kernel.nextDir
        nextDir := kernel.nextDir + 1 }
    else kernel
  | .remove path => kernel.removeDir path
  | .touch wd name => kernel.enqueue ⟨wd, .touched, name⟩
  | .overflow => kernel.enqueue ⟨0, .qOverflow, none⟩

def initInotify (kernel : HotplugKernel) : Except IoError Unit × HotplugKernel :=
  (.ok (), { kernel with watches := ∅, nextWatch := 1, queue := [] })

def readDir (kernel : HotplugKernel) : Except IoError (List String) × HotplugKernel :=
  (if .root .pwm ∈ kernel.dirs then .ok kernel.pwmEntries else .error .notFound, kernel)

/-- A directory that is watched already keeps its watch. -/
def addWatch (path : WatchPath) (kernel : HotplugKernel) : Except IoError ℕ × HotplugKernel :=
  if path ∈ kernel.dirs then
    match kernel.watches[path]? with
    | some wd => (.ok wd, kernel)
    | none => (.ok kernel.nextWatch, { kernel with
        watches := kernel.watches.insert path kernel.nextWatch
        nextWatch := kernel.nextWatch + 1 })
  else (.error .notFound, kernel)

def removeWatch (wd : ℕ) (kernel : HotplugKernel) : Except IoError Unit × HotplugKernel :=
  match kernel.watches.toList.find? (fun watch => watch.2 = wd) with
  | some watch => (.ok (), kernel.endWatch watch.1)
  | none => (.error .invalidInput, kernel)

def readEvents (bufferSize : ℕ) (kernel : HotplugKernel) :
    Except IoError (List InotifyEvent) × HotplugKernel :=
  if kernel.queue = [] then (.error .wouldBlock, kernel)
  else
    let events := takeFitting bufferSize kernel.queue
    if events = [] then (.error .invalidInput, kernel)
    else (.ok events, { kernel with queue := kernel.queue.drop events.length })

end HotplugKernel

structure WatchRegistration where
  path : WatchPath
  interfaces : List InterfaceKind
  dynamic : Bool
  deriving DecidableEq

structure LinuxHotplugWatcher where
  paths : LinuxPaths := {}
  watchedPaths : BTreeMap WatchPath ℕ := ∅
  registrations : BTreeMap ℕ WatchRegistration := ∅

/-- What happens before the next system call, and the error if that call can fail and is refused. -/
structure Interlude where
  changes : List DirChange := []
  refused : Option String := none

structure Hotplug where
  kernel : HotplugKernel := {}
  watcher : LinuxHotplugWatcher := {}
  interludes : List Interlude := []

def watcherName : String := "linux.hotplug"

def defaultEventBufferSize : ℕ := 16 * 1024

def watchError (error : IoError) : DiscoveryError := .watchFailed watcherName error.display

namespace Hotplug

def meanwhile (s : Hotplug) : Hotplug :=
  match s.interludes with
  | [] => s
  | interlude :: rest =>
    { s with kernel := interlude.changes.foldl HotplugKernel.change s.kernel, interludes := rest }

def refused (s : Hotplug) : Option String := s.interludes.head?.bind Interlude.refused

def systemCall {α : Type} (call : HotplugKernel → Except IoError α × HotplugKernel) : Effect Hotplug IoError α :=
  do
  let refused := (← get).refused
  modify meanwhile
  match refused with
  | some message => throw (.other message)
  | none => do
    let (result, kernel) := call (← get).kernel
    modify fun s => { s with kernel }
    MonadExcept.ofExcept result

def pathExists {E : Type} (path : WatchPath) : Effect Hotplug E Bool := do
  modify meanwhile
  return (← get).kernel.dirs.contains path

end Hotplug

abbrev HotplugCall (α : Type) := Effect Hotplug DiscoveryError α

namespace LinuxHotplugWatcher

def register (path : WatchPath) (descriptor : ℕ) (registration : WatchRegistration)
    (watcher : LinuxHotplugWatcher) : LinuxHotplugWatcher :=
  { watcher with
    watchedPaths := watcher.watchedPaths.insert path descriptor
    registrations := watcher.registrations.insert descriptor registration }

def forget (path : WatchPath) (descriptor : ℕ) (watcher : LinuxHotplugWatcher) : LinuxHotplugWatcher :=
  { watcher with
    watchedPaths := watcher.watchedPaths.erase path
    registrations := watcher.registrations.erase descriptor }

def addWatch (path : WatchPath) (interfaces : List InterfaceKind) (dynamic : Bool) : HotplugCall Unit := do
  if (← get).watcher.watchedPaths.contains path then return
  if !(← Hotplug.pathExists path) then return
  let descriptor ← ExceptT.adapt watchError (Hotplug.systemCall (HotplugKernel.addWatch path))
  modify fun s => { s with watcher := s.watcher.register path descriptor ⟨path, interfaces, dynamic⟩ }

def addStaticWatch (root : ClassRoot) (interface : InterfaceKind) : HotplugCall Unit :=
  addWatch (.root root) [interface] false

def removeWatch (path : WatchPath) : HotplugCall Unit := do
  match (← get).watcher.watchedPaths[path]? with
  | none => return
  | some descriptor => do
    modify fun s => { s with watcher := s.watcher.forget path descriptor }
    match ← (Hotplug.systemCall (HotplugKernel.removeWatch descriptor)).attempt with
    | .ok () | .error .notFound | .error .invalidInput => return
    | .error error => throw (watchError error)

def readDirSorted : HotplugCall (List String) := do
  match ← (Hotplug.systemCall HotplugKernel.readDir).attempt with
  | .ok entries => return entries
  | .error .notFound => return []
  | .error error => throw (watchError error)

def currentChipPaths : List String → HotplugCall (List WatchPath)
  | [] => return []
  | name :: entries => do
    let isDir ← Hotplug.pathExists (.pwmEntry name)
    let rest ← currentChipPaths entries
    return if isDir && name.startsWith "pwmchip" then .pwmEntry name :: rest else rest

def staleChipPaths (watcher : LinuxHotplugWatcher) (currentChipPaths : List WatchPath) : List WatchPath :=
  (watcher.registrations.toList.map Prod.snd).filterMap fun registration =>
    if registration.dynamic && registration.interfaces = [.pwm] && registration.path ∉ currentChipPaths then
      some registration.path
    else none

def syncPwmChipWatches : HotplugCall Unit := do
  let entries ← readDirSorted
  let currentChipPaths ← currentChipPaths entries
  let staleChipPaths := staleChipPaths (← get).watcher currentChipPaths
  staleChipPaths.forM removeWatch
  currentChipPaths.forM fun chipPath => addWatch chipPath [.pwm] true

def staticWatches : List (ClassRoot × InterfaceKind) :=
  [(.gpio, .gpio), (.led, .gpio), (.pwm, .pwm), (.hwmon, .pwm), (.i2cClass, .i2c), (.i2cDevices, .i2c),
    (.spiDevices, .spi), (.tty, .uart), (.usbDevices, .usb)]

def new (paths : LinuxPaths) : HotplugCall Unit := do
  ExceptT.adapt watchError (Hotplug.systemCall HotplugKernel.initInotify)
  modify fun s => { s with watcher := { paths } }
  staticWatches.forM fun (root, interface) => addStaticWatch root interface
  syncPwmChipWatches

def allInterfaces : List InterfaceKind := [.gpio, .pwm, .i2c, .spi, .uart, .usb]

def eventPath (root : String) : Option String → String
  | some name => joinPath root name
  | none => root

structure Touched where
  interfaces : BTreeSet InterfaceKind := ∅
  paths : BTreeSet String := ∅
  needsPwmResync : Bool := false

def handleEvent : Touched × LinuxHotplugWatcher → InotifyEvent → Touched × LinuxHotplugWatcher
  | (touched, watcher), event =>
    if event.mask = .qOverflow then
      ({ touched with interfaces := touched.interfaces.insertMany allInterfaces }, watcher)
    else
      match watcher.registrations[event.wd]? with
      | none => (touched, watcher)
      | some registration =>
        ({ interfaces := touched.interfaces.insertMany registration.interfaces
           paths := touched.paths.insert (eventPath (registration.path.path watcher.paths) event.name)
           needsPwmResync := touched.needsPwmResync || registration.interfaces.contains .pwm },
         if event.mask = .ignored then watcher.forget registration.path event.wd else watcher)

def handleEvents (events : List InotifyEvent) : HotplugCall Touched := do
  let (touched, watcher) := events.foldl handleEvent ({}, (← get).watcher)
  modify fun s => { s with watcher }
  return touched

def poll : HotplugCall (List InventoryWatchEvent) := do
  syncPwmChipWatches
  match ← (Hotplug.systemCall (HotplugKernel.readEvents defaultEventBufferSize)).attempt with
  | .error .wouldBlock => return []
  | .error error => throw (watchError error)
  | .ok events => do
    if events.isEmpty then return []
    let touched ← handleEvents events
    if touched.needsPwmResync then syncPwmChipWatches
    if touched.interfaces.isEmpty && touched.paths.isEmpty then return []
    return [⟨watcherName, touched.interfaces.toList, touched.paths.toList⟩]

end LinuxHotplugWatcher

end Lemnos.Linux
