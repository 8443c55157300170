import Lemnos.Linux.HotplugPolls

namespace Lemnos.Linux

open Lemnos.Core Discovery Library.Frames Library.OrderedMap Library.Runs HotplugKernel LinuxHotplugWatcher

namespace LinuxHotplugWatcher

def Touching (watcher : LinuxHotplugWatcher) (events : List InotifyEvent) (interface : InterfaceKind) : Prop :=
  ∃ event ∈ events, event.mask ≠ .qOverflow ∧
    ∃ registration, watcher.registrations[event.wd]? = some registration ∧ interface ∈ registration.interfaces

variable {watcher : LinuxHotplugWatcher} {touched : Touched} {event : InotifyEvent} {events : List InotifyEvent}
  {interface : InterfaceKind} {registration : WatchRegistration}

theorem touching_singleton : watcher.Touching [event] interface ↔ event.mask ≠ .qOverflow ∧
    ∃ registration, watcher.registrations[event.wd]? = some registration ∧
      interface ∈ registration.interfaces := by
  simp [Touching]

theorem touching_append {later : List InotifyEvent} : watcher.Touching (events ++ later) interface ↔
    watcher.Touching events interface ∨ watcher.Touching later interface := by
  simp only [Touching, List.mem_append, or_and_right, exists_or]

theorem handleEvent_of_overflow (h : event.mask = .qOverflow) : handleEvent (touched, watcher) event =
    ({ touched with interfaces := touched.interfaces.insertMany allInterfaces }, watcher) := by
  rw [handleEvent, if_pos h]

theorem handleEvent_of_unregistered (h : event.mask ≠ .qOverflow)
    (hnone : watcher.registrations[event.wd]? = none) :
    handleEvent (touched, watcher) event = (touched, watcher) := by
  rw [handleEvent, if_neg h, hnone]

theorem handleEvent_of_registered (h : event.mask ≠ .qOverflow)
    (hregistered : watcher.registrations[event.wd]? = some registration) :
    handleEvent (touched, watcher) event =
      ({ interfaces := touched.interfaces.insertMany registration.interfaces
         paths := touched.paths.insert (eventPath (registration.path.path watcher.paths) event.name)
         needsPwmResync := touched.needsPwmResync || registration.interfaces.contains .pwm },
       if event.mask = .ignored then watcher.forget registration.path event.wd else watcher) := by
  rw [handleEvent, if_neg h, hregistered]

theorem not_touching_of_overflow (h : event.mask = .qOverflow) : ¬watcher.Touching [event] interface :=
  fun htouching => (touching_singleton.mp htouching).1 h

theorem not_touching_of_unregistered (hnone : watcher.registrations[event.wd]? = none) :
    ¬watcher.Touching [event] interface := by
  intro htouching
  obtain ⟨-, registration, hregistered, -⟩ := touching_singleton.mp htouching
  rw [hnone] at hregistered
  cases hregistered

theorem touching_of_registered (h : event.mask ≠ .qOverflow)
    (hregistered : watcher.registrations[event.wd]? = some registration) :
    watcher.Touching [event] interface ↔ interface ∈ registration.interfaces := by
  rw [touching_singleton, hregistered]
  simp [h]

theorem mem_insertMany {set : BTreeSet InterfaceKind} {interfaces : List InterfaceKind} :
    interface ∈ set.insertMany interfaces ↔ interface ∈ set ∨ interface ∈ interfaces := by
  rw [Std.ExtTreeSet.mem_insertMany_list, List.contains_iff_mem]

theorem handleEvent_interfaces (h : interface ∈ touched.interfaces ∨ watcher.Touching [event] interface) :
    interface ∈ (handleEvent (touched, watcher) event).1.interfaces := by
  by_cases hoverflow : event.mask = .qOverflow
  · rw [handleEvent_of_overflow hoverflow]
    exact mem_insertMany.mpr (.inl (h.resolve_right (not_touching_of_overflow hoverflow)))
  · cases hregistered : watcher.registrations[event.wd]? with
    | none =>
      rw [handleEvent_of_unregistered hoverflow hregistered]
      exact h.resolve_right (not_touching_of_unregistered hregistered)
    | some registration =>
      rw [handleEvent_of_registered hoverflow hregistered]
      rw [touching_of_registered hoverflow hregistered] at h
      exact mem_insertMany.mpr h

theorem handleEvent_needsPwmResync : (handleEvent (touched, watcher) event).1.needsPwmResync = true ↔
    touched.needsPwmResync = true ∨ watcher.Touching [event] .pwm := by
  by_cases hoverflow : event.mask = .qOverflow
  · rw [handleEvent_of_overflow hoverflow]
    exact (or_iff_left (not_touching_of_overflow hoverflow)).symm
  · cases hregistered : watcher.registrations[event.wd]? with
    | none =>
      rw [handleEvent_of_unregistered hoverflow hregistered]
      exact (or_iff_left (not_touching_of_unregistered hregistered)).symm
    | some registration =>
      rw [handleEvent_of_registered hoverflow hregistered, touching_of_registered hoverflow hregistered,
        Bool.or_eq_true, List.contains_iff_mem]

theorem touching_cons : watcher.Touching (event :: events) interface ↔ watcher.Touching [event] interface ∨
    (handleEvent (touched, watcher) event).2.Touching events interface := by
  rw [← List.singleton_append, touching_append]
  by_cases hoverflow : event.mask = .qOverflow
  · rw [handleEvent_of_overflow hoverflow]
  · cases hregistered : watcher.registrations[event.wd]? with
    | none => rw [handleEvent_of_unregistered hoverflow hregistered]
    | some registration =>
      rw [handleEvent_of_registered hoverflow hregistered, touching_of_registered hoverflow hregistered]
      by_cases hignored : event.mask = .ignored
      · simp only [if_pos hignored]
        have hkept : ∀ {wd : ℕ} {found : WatchRegistration},
            (watcher.forget registration.path event.wd).registrations[wd]? = some found ↔
              wd ≠ event.wd ∧ watcher.registrations[wd]? = some found :=
          BTreeMap.getElem?_erase_eq_some watcher.registrations
        constructor
        · rintro (hmem | ⟨later, hlater, hmask, found, hfound, hmem⟩)
          · exact .inl hmem
          · by_cases hsame : later.wd = event.wd
            · rw [hsame, hregistered] at hfound
              cases hfound
              exact .inl hmem
            · exact .inr ⟨later, hlater, hmask, found, hkept.mpr ⟨hsame, hfound⟩, hmem⟩
        · rintro (hmem | ⟨later, hlater, hmask, found, hfound, hmem⟩)
          · exact .inl hmem
          · exact .inr ⟨later, hlater, hmask, found, (hkept.mp hfound).2, hmem⟩
      · simp only [if_neg hignored]

theorem handled_interfaces (h : interface ∈ touched.interfaces ∨ watcher.Touching events interface) :
    interface ∈ (events.foldl handleEvent (touched, watcher)).1.interfaces := by
  induction events generalizing touched watcher with
  | nil =>
    rcases h with hmem | ⟨event, hevent, -⟩
    · exact hmem
    · cases hevent
  | cons event events ih =>
    apply ih
    rw [@touching_cons watcher touched event events, ← or_assoc] at h
    exact h.imp_left handleEvent_interfaces

theorem handled_needsPwmResync : (events.foldl handleEvent (touched, watcher)).1.needsPwmResync = true ↔
    touched.needsPwmResync = true ∨ watcher.Touching events .pwm := by
  induction events generalizing touched watcher with
  | nil => simp [Touching]
  | cons event events ih =>
    rw [List.foldl_cons, ih, handleEvent_needsPwmResync, or_assoc, @touching_cons watcher touched event events]

end LinuxHotplugWatcher

namespace Hotplug

def RemovalAnswered (path : WatchPath) (s : Hotplug) : Prop :=
  s.watcher.watchedPaths[path]? ≠ none → s.refused = none

/-- A chip that is not watched, and that is there when that is checked, is still there when the kernel is asked
to watch it, and the kernel does not refuse. -/
def WatchAnswered (path : WatchPath) (s : Hotplug) : Prop :=
  s.watcher.watchedPaths[path]? = none → path ∈ s.meanwhile.kernel.dirs →
    s.meanwhile.refused = none ∧ path ∈ s.meanwhile.meanwhile.kernel.dirs

structure ChipsAnswered (current : List WatchPath) (s : Hotplug) : Prop where
  removals : ∀ before path after, staleChipPaths s.watcher current = before ++ path :: after →
    RemovalAnswered path ((before.forM removeWatch).exec s).2
  watches : ∀ before path after, current = before ++ path :: after →
    WatchAnswered path ((before.forM fun chipPath => addWatch chipPath [.pwm] true).exec
      (((staleChipPaths s.watcher current).forM removeWatch).exec s).2).2

structure SyncAnswered (s : Hotplug) : Prop where
  listing : s.refused = none
  chips : ∀ entries current listed seen, readDirSorted.exec s = (.ok entries, listed) →
    (currentChipPaths entries).exec listed = (.ok current, seen) → ChipsAnswered current seen

variable {s : Hotplug} {path : WatchPath}

theorem exec_systemCall_of_refused {α : Type} {call : HotplugKernel → Except IoError α × HotplugKernel}
    {message : String} (h : s.refused = some message) :
    (systemCall call).exec s = (.error (.other message), s.meanwhile) := by
  rw [exec_systemCall, h]

theorem exec_systemCall_of_granted {α : Type} {call : HotplugKernel → Except IoError α × HotplugKernel}
    (h : s.refused = none) : (systemCall call).exec s =
      ((call s.meanwhile.kernel).1, { s.meanwhile with kernel := (call s.meanwhile.kernel).2 }) := by
  rw [exec_systemCall, h]

theorem readDirSorted_ok_iff : (∃ entries listed, readDirSorted.exec s = (.ok entries, listed)) ↔
    s.refused = none := by
  rw [readDirSorted, exec_bind_of_ok (exec_attempt _ _)]
  cases hrefused : s.refused with
  | some message =>
    rw [exec_systemCall_of_refused hrefused]
    refine iff_of_false ?_ (Option.some_ne_none message)
    rintro ⟨entries, listed, h⟩
    cases h
  | none =>
    rw [exec_systemCall_of_granted hrefused, HotplugKernel.readDir]
    refine iff_of_true ?_ rfl
    by_cases hroot : .root .pwm ∈ s.meanwhile.kernel.dirs
    · rw [if_pos hroot]
      exact ⟨_, _, rfl⟩
    · rw [if_neg hroot]
      exact ⟨_, _, rfl⟩

theorem currentChipPaths_ok (entries : List String) (s : Hotplug) :
    ∃ current seen, (currentChipPaths entries).exec s = (.ok current, seen) := by
  induction entries generalizing s with
  | nil => exact ⟨[], s, rfl⟩
  | cons name entries ih =>
    obtain ⟨rest, seen, hrest⟩ := ih s.meanwhile
    rw [currentChipPaths, exec_bind_of_ok (exec_pathExists _ s), exec_bind_of_ok hrest]
    exact ⟨_, seen, rfl⟩

theorem removeWatch_answer (wd : ℕ) (kernel : HotplugKernel) :
    (kernel.removeWatch wd).1 = .ok () ∨ (kernel.removeWatch wd).1 = .error .invalidInput := by
  rw [HotplugKernel.removeWatch]
  split
  · exact .inl rfl
  · exact .inr rfl

theorem removeWatch_ok_iff :
    ((LinuxHotplugWatcher.removeWatch path).exec s).1 = .ok ⟨⟩ ↔ RemovalAnswered path s := by
  rw [LinuxHotplugWatcher.removeWatch, exec_bind_of_ok (exec_get s), RemovalAnswered]
  cases hwatched : s.watcher.watchedPaths[path]? with
  | none => exact iff_of_true rfl fun h => absurd rfl h
  | some descriptor =>
    have hforget := @exec_modify Hotplug DiscoveryError
      (fun s => { s with watcher := s.watcher.forget path descriptor }) s
    have hsame : ({ s with watcher := s.watcher.forget path descriptor } : Hotplug).refused = s.refused := rfl
    simp only [exec_bind_of_ok hforget, exec_bind_of_ok (exec_attempt _ _)]
    cases hrefused : s.refused with
    | some message =>
      rw [exec_systemCall_of_refused (hsame.trans hrefused)]
      refine iff_of_false (fun h => nomatch h) ?_
      exact fun h => Option.some_ne_none message (h (Option.some_ne_none descriptor))
    | none =>
      rw [exec_systemCall_of_granted (hsame.trans hrefused)]
      refine iff_of_true ?_ fun _ => rfl
      rcases removeWatch_answer descriptor
        ({ s with watcher := s.watcher.forget path descriptor } : Hotplug).meanwhile.kernel with hanswer | hanswer
      · rw [hanswer]
        rfl
      · rw [hanswer]
        rfl

theorem addWatch_ok_iff {interfaces : List InterfaceKind} {dynamic : Bool} :
    ((LinuxHotplugWatcher.addWatch path interfaces dynamic).exec s).1 = .ok ⟨⟩ ↔ WatchAnswered path s := by
  rw [LinuxHotplugWatcher.addWatch, exec_bind_of_ok (exec_get s), WatchAnswered, ← BTreeMap.not_mem_iff]
  by_cases hwatched : path ∈ s.watcher.watchedPaths
  · rw [if_pos (Std.ExtTreeMap.mem_iff_contains.mp hwatched)]
    exact iff_of_true rfl fun h => absurd hwatched h
  · rw [if_neg (mt Std.ExtTreeMap.mem_iff_contains.mpr hwatched), exec_bind_of_ok (exec_pathExists path s)]
    by_cases hthere : path ∈ s.meanwhile.kernel.dirs
    · have hasked : ∀ {p : Prop}, (path ∉ s.watcher.watchedPaths → path ∈ s.meanwhile.kernel.dirs → p) ↔ p :=
        ⟨fun h => h hwatched hthere, fun h _ _ => h⟩
      rw [hasked, Std.ExtTreeMap.mem_iff_contains.mp hthere, Bool.not_true, if_neg Bool.false_ne_true,
        exec_bind, exec_adapt]
      cases hrefused : s.meanwhile.refused with
      | some message =>
        rw [exec_systemCall_of_refused hrefused]
        exact iff_of_false (fun h => by cases h) fun h => by cases h.1
      | none =>
        rw [exec_systemCall_of_granted hrefused, HotplugKernel.addWatch]
        by_cases hstill : path ∈ s.meanwhile.meanwhile.kernel.dirs
        · refine iff_of_true ?_ ⟨rfl, hstill⟩
          rw [if_pos hstill]
          cases s.meanwhile.meanwhile.kernel.watches[path]? with
          | none => rfl
          | some wd => rfl
        · rw [if_neg hstill]
          exact iff_of_false (fun h => by cases h) fun h => hstill h.2
    · rw [Std.ExtTreeMap.mem_iff_contains, Bool.not_eq_true] at hthere
      rw [hthere]
      refine iff_of_true rfl fun _ h => ?_
      rw [Std.ExtTreeMap.mem_iff_contains, hthere] at h
      cases h

theorem syncPwmChipWatches_ok_iff : (syncPwmChipWatches.exec s).1 = .ok ⟨⟩ ↔ SyncAnswered s := by
  have hloops : ∀ current seen, ((do
      let staleChipPaths := staleChipPaths (← get).watcher current
      staleChipPaths.forM LinuxHotplugWatcher.removeWatch
      current.forM fun chipPath => LinuxHotplugWatcher.addWatch chipPath [.pwm] true : HotplugCall Unit).exec
        seen).1 = .ok ⟨⟩ ↔ ChipsAnswered current seen := by
    intro current seen
    rw [exec_bind_of_ok (exec_get seen), exec_bind_ok_iff]
    have hremovals := @exec_forM_ok_iff _ _ _ (staleChipPaths seen.watcher current)
      LinuxHotplugWatcher.removeWatch seen
    constructor
    · rintro ⟨_, cleared, hcleared, hwatches⟩
      have hstate : (((staleChipPaths seen.watcher current).forM LinuxHotplugWatcher.removeWatch).exec seen).2 =
        cleared := congrArg Prod.snd hcleared
      refine ⟨?_, ?_⟩
      · intro before path after hsplit
        exact removeWatch_ok_iff.mp (hremovals.mp (congrArg Prod.fst hcleared) before path after hsplit)
      · intro before path after hsplit
        rw [hstate]
        exact addWatch_ok_iff.mp (exec_forM_ok_iff.mp hwatches before path after hsplit)
    · intro h
      refine ⟨⟨⟩, _, Prod.ext (hremovals.mpr ?_) rfl, exec_forM_ok_iff.mpr ?_⟩
      · exact fun before path after hsplit => removeWatch_ok_iff.mpr (h.removals before path after hsplit)
      · exact fun before path after hsplit => addWatch_ok_iff.mpr (h.watches before path after hsplit)
  rw [syncPwmChipWatches, exec_bind_ok_iff]
  constructor
  · rintro ⟨entries, listed, hlisted, h⟩
    refine ⟨readDirSorted_ok_iff.mp ⟨entries, listed, hlisted⟩, ?_⟩
    intro entries' current listed' seen hlisted' hcurrent
    rw [hlisted'] at hlisted
    cases hlisted
    rw [exec_bind_of_ok hcurrent] at h
    exact (hloops current seen).mp h
  · intro h
    obtain ⟨entries, listed, hlisted⟩ := readDirSorted_ok_iff.mpr h.listing
    obtain ⟨current, seen, hcurrent⟩ := currentChipPaths_ok entries listed
    refine ⟨entries, listed, hlisted, ?_⟩
    rw [exec_bind_of_ok hcurrent]
    exact (hloops current seen).mpr (h.chips entries current listed seen hlisted hcurrent)

/-- The events a poll that begins in `s` reads, and the state it is in when it has read them. -/
def received (s : Hotplug) : Option (List InotifyEvent × Hotplug) :=
  match syncPwmChipWatches.exec s with
  | (.error _, _) => none
  | (.ok ⟨⟩, synced) =>
    match (systemCall (HotplugKernel.readEvents defaultEventBufferSize)).exec synced with
    | (.error _, _) => none
    | (.ok events, reading) => some (events, reading)

def handled (events : List InotifyEvent) (s : Hotplug) : Hotplug :=
  { s with watcher := (events.foldl handleEvent ({}, s.watcher)).2 }

def Touches (s : Hotplug) (interface : InterfaceKind) : Prop :=
  ∃ events reading, s.received = some (events, reading) ∧ reading.watcher.Touching events interface

def Reports (s : Hotplug) (interface : InterfaceKind) : Prop :=
  ∃ reports, (LinuxHotplugWatcher.poll.exec s).1 = .ok reports ∧
    ∃ report ∈ reports, interface ∈ report.interfaces

/-- Once a poll that begins in `s` has read an event of a watch that stands for PWM, nothing it asks for is
refused any more. -/
def ResyncAnswered (s : Hotplug) : Prop :=
  ∀ events reading, s.received = some (events, reading) → reading.watcher.Touching events .pwm →
    (reading.handled events).SyncAnswered

variable {events : List InotifyEvent} {reading : Hotplug} {interface : InterfaceKind}

theorem received_eq_some_iff : s.received = some (events, reading) ↔
    ∃ synced, syncPwmChipWatches.exec s = (.ok ⟨⟩, synced) ∧
      (systemCall (HotplugKernel.readEvents defaultEventBufferSize)).exec synced = (.ok events, reading) := by
  rw [received]
  rcases syncPwmChipWatches.exec s with ⟨_ | _, synced⟩
  · simp
  · rcases hread : (systemCall (HotplugKernel.readEvents defaultEventBufferSize)).exec synced with ⟨_ | _, _⟩
    · simp [hread]
    · simp [hread]

theorem exec_poll_of_touching (hreceived : s.received = some (events, reading))
    (htouching : reading.watcher.Touching events interface) :
    ∃ touched : Touched, interface ∈ touched.interfaces ∧
      (touched.needsPwmResync = true ↔ reading.watcher.Touching events .pwm) ∧
      LinuxHotplugWatcher.poll.exec s = (do
        if touched.needsPwmResync then syncPwmChipWatches
        return [⟨watcherName, touched.interfaces.toList, touched.paths.toList⟩] :
        HotplugCall (List InventoryWatchEvent)).exec (reading.handled events) := by
  obtain ⟨synced, hsync, hread⟩ := received_eq_some_iff.mp hreceived
  have hnonempty : events.isEmpty = false := by
    obtain ⟨event, hevent, -⟩ := htouching
    rw [List.isEmpty_eq_false_iff]
    exact List.ne_nil_of_mem hevent
  obtain ⟨touched, htouched⟩ : ∃ touched, touched = (events.foldl handleEvent ({}, reading.watcher)).1 := ⟨_, rfl⟩
  have hinterface : interface ∈ touched.interfaces := by
    rw [htouched]
    exact handled_interfaces (.inr htouching)
  have hresync : touched.needsPwmResync = true ↔ reading.watcher.Touching events .pwm := by
    rw [htouched, handled_needsPwmResync]
    exact or_iff_right Bool.false_ne_true
  have hsome : (touched.interfaces.isEmpty && touched.paths.isEmpty) = false := by
    have hnotEmpty : touched.interfaces ≠ ∅ := by
      rintro hempty
      rw [hempty] at hinterface
      exact Std.ExtTreeSet.not_mem_empty hinterface
    rw [Std.ExtTreeSet.isEmpty_eq_false_iff.mpr hnotEmpty, Bool.false_and]
  have hevents : (handleEvents events).exec reading = (.ok touched, reading.handled events) := by
    rw [htouched]
    rfl
  refine ⟨touched, hinterface, hresync, ?_⟩
  rw [LinuxHotplugWatcher.poll, exec_bind_of_ok hsync, exec_bind_of_ok (exec_attempt _ _), hread]
  simp only [hnonempty, Bool.false_eq_true, if_false]
  rw [exec_bind_of_ok hevents]
  simp only [hsome, Bool.false_eq_true, if_false]

theorem reports_iff (h : s.Touches interface) : s.Reports interface ↔ s.ResyncAnswered := by
  obtain ⟨events, reading, hreceived, htouching⟩ := h
  obtain ⟨touched, hinterface, hresync, hpoll⟩ := exec_poll_of_touching hreceived htouching
  have hanswered : s.ResyncAnswered ↔ (reading.watcher.Touching events .pwm →
      (reading.handled events).SyncAnswered) := by
    refine ⟨fun h => h events reading hreceived, ?_⟩
    intro h events' reading' hreceived'
    rw [hreceived'] at hreceived
    cases hreceived
    exact h
  have hreport :
      ∃ report ∈ [(⟨watcherName, touched.interfaces.toList, touched.paths.toList⟩ : InventoryWatchEvent)],
      interface ∈ report.interfaces :=
    ⟨_, List.mem_singleton_self _, Std.ExtTreeSet.mem_toList.mpr hinterface⟩
  rw [Reports, hpoll, hanswered, ← hresync, ← syncPwmChipWatches_ok_iff]
  by_cases hneeds : touched.needsPwmResync = true
  · rw [if_pos hneeds, imp_iff_right hneeds]
    constructor
    · rintro ⟨reports, hok, -⟩
      obtain ⟨_, done, hsynced, -⟩ := exec_bind_ok_iff.mp hok
      exact congrArg Prod.fst hsynced
    · intro hok
      exact ⟨_, exec_bind_ok_iff.mpr ⟨⟨⟩, _, Prod.ext hok rfl, rfl⟩, hreport⟩
  · rw [if_neg hneeds]
    exact iff_of_true ⟨_, rfl, hreport⟩ fun h => absurd h hneeds

end Hotplug

namespace HotplugOp

open Hotplug

def AllReported (ops : List HotplugOp) (s : Hotplug) : Prop :=
  ∀ before interludes after polled, ops = before ++ .poll interludes :: after →
    run step before s = some polled → ∀ interface, ({ polled with interludes } : Hotplug).Touches interface →
      ∃ between again later reporting, .poll interludes :: after = between ++ .poll again :: later ∧
        run step between polled = some reporting ∧
        ({ reporting with interludes := again } : Hotplug).Reports interface

def Answered : HotplugOp → Hotplug → Prop
  | dirs _, _ => True
  | poll interludes, s => ({ s with interludes } : Hotplug).ResyncAnswered

theorem poll_answered_of_allReported {interludes : List Interlude} {before : List HotplugOp} {s polled : Hotplug}
    (h : AllReported (before ++ [.poll interludes]) s) (hrun : run step before s = some polled) :
    Answered (.poll interludes) polled := by
  intro events reading hreceived hpwm
  have htouches : ({ polled with interludes } : Hotplug).Touches .pwm := ⟨events, reading, hreceived, hpwm⟩
  obtain ⟨between, again, later, reporting, hsplit, hbetween, hreports⟩ :=
    h before interludes [] polled rfl hrun .pwm htouches
  cases between with
  | nil =>
    cases hsplit
    cases hbetween
    exact (reports_iff htouches).mp hreports events reading hreceived hpwm
  | cons op between =>
    have hlength := congrArg List.length hsplit
    simp at hlength

theorem runs_report_iff {ops : List HotplugOp} {s : Hotplug} :
    (∀ kept later, ops = kept ++ later → AllReported kept s) ↔ Along step Answered ops s := by
  rw [along_iff_split]
  constructor
  · intro h before op after polled hsplit hrun
    cases op with
    | dirs change => trivial
    | poll interludes =>
      refine poll_answered_of_allReported (h _ after ?_) hrun
      rw [hsplit, List.append_assoc, List.singleton_append]
  · intro h kept later hkept before interludes after polled hsplit hrun interface htouches
    refine ⟨[], interludes, after, polled, rfl, rfl, (reports_iff htouches).mpr ?_⟩
    apply h before (.poll interludes) (after ++ later) polled _ hrun
    rw [hkept, hsplit, List.append_assoc, List.cons_append]

end HotplugOp

namespace Hotplug

def listingRefused : List Interlude := [{}, {}, {}, { refused := some "Too many open files (os error 24)" }]

def chipAnnounced : Hotplug :=
  { chipSetUp with
    kernel := chipSetUp.kernel.change (.touch 1 (some "pwmchip1"))
    interludes := listingRefused }

def chipMissed : Hotplug := (LinuxHotplugWatcher.poll.exec chipAnnounced).2

def chipAdded : List HotplugOp := [.dirs (.touch 1 (some "pwmchip1")), .poll listingRefused]

def chipRead : Hotplug :=
  ((systemCall (HotplugKernel.readEvents defaultEventBufferSize)).exec (syncPwmChipWatches.exec chipAnnounced).2).2

theorem chipAnnounced_received :
    chipAnnounced.received = some ([⟨1, .touched, some "pwmchip1"⟩], chipRead) := by
  with_unfolding_all rfl

theorem chipMissed_idle :
    LinuxHotplugWatcher.poll.exec { chipMissed with interludes := [] } = (.ok [], chipMissed) := by
  with_unfolding_all rfl

theorem polls_after_chipMissed (later : ℕ) :
    run HotplugOp.step (List.replicate later (.poll [])) chipMissed = some chipMissed := by
  induction later with
  | zero => rfl
  | succ later ih =>
    have hstep : HotplugOp.step (.poll []) chipMissed = some chipMissed := by
      rw [HotplugOp.step, chipMissed_idle]
    rw [List.replicate_succ, run, hstep]
    exact ih

theorem event_of_failed_poll_is_lost : ((new {}).exec (before chipHistory [])).1 = .ok () ∧
    ∀ later, ¬HotplugOp.AllReported (chipAdded ++ List.replicate later (.poll [])) chipSetUp := by
  refine ⟨by decide +kernel, ?_⟩
  intro later h
  have htouches : chipAnnounced.Touches .pwm :=
    ⟨_, chipRead, chipAnnounced_received, _, List.mem_singleton_self _, by decide, ⟨.root .pwm, [.pwm], false⟩,
      by decide +kernel, by decide⟩
  obtain ⟨between, again, rest, reporting, hsplit, hrun, reports, hreports, report, hmem, -⟩ :=
    h [.dirs (.touch 1 (some "pwmchip1"))] listingRefused (List.replicate later (.poll [])) _ rfl rfl .pwm
      htouches
  cases between with
  | nil =>
    cases hsplit
    cases hrun
    have hfailed : (LinuxHotplugWatcher.poll.exec chipAnnounced).1 =
        .error (watchError (.other "Too many open files (os error 24)")) := by decide +kernel
    exact nomatch hreports.symm.trans hfailed
  | cons op between =>
    obtain ⟨rfl, hpolls⟩ := List.cons_eq_cons.mp hsplit
    obtain ⟨-, hbetween, hrest⟩ := List.append_eq_replicate_iff.mp hpolls.symm
    have hidle : chipMissed = reporting := by
      rw [hbetween] at hrun
      exact Option.some.inj ((polls_after_chipMissed _).symm.trans hrun)
    have hagain : again = [] := by
      have hpoll := List.eq_of_mem_replicate (hrest ▸ List.mem_cons_self)
      exact HotplugOp.poll.inj hpoll
    rw [hagain, ← hidle] at hreports
    have hnothing : reports = [] := Except.ok.inj (hreports.symm.trans (congrArg Prod.fst chipMissed_idle))
    rw [hnothing] at hmem
    cases hmem

end Hotplug

end Lemnos.Linux
