import Lemnos.Linux.HotplugCoverage

namespace Lemnos.Linux

open Lemnos.Core Discovery Library.Frames Library.OrderedMap Library.Runs HotplugKernel LinuxHotplugWatcher

namespace LinuxHotplugWatcher

def Inverse (watcher : LinuxHotplugWatcher) : Prop :=
  InverseMaps watcher.watchedPaths watcher.registrations WatchRegistration.path

/-- What handling events does to the registrations, and when the chip directories stay as they are. -/
structure Handled (events : List InotifyEvent) (start done : Touched × LinuxHotplugWatcher) : Prop where
  inverse : done.2.Inverse
  registrations_iff : ∀ {wd : ℕ} {registration : WatchRegistration},
    done.2.registrations[wd]? = some registration ↔
      start.2.registrations[wd]? = some registration ∧ ¬EndedIn events wd
  resync : done.1.needsPwmResync = false → start.1.needsPwmResync = false ∧
    ∀ {wd : ℕ} {registration : WatchRegistration}, start.2.registrations[wd]? = some registration →
      EndedIn events wd → .pwm ∉ registration.interfaces

variable {start middle done : Touched × LinuxHotplugWatcher} {event : InotifyEvent} {events : List InotifyEvent}

theorem Handled.of_same (h : start.2.Inverse) (hsame : done.2 = start.2)
    (hresync : done.1.needsPwmResync = false → start.1.needsPwmResync = false)
    (hlive : ∀ {wd : ℕ} {registration : WatchRegistration},
      start.2.registrations[wd]? = some registration → ¬EndedIn events wd) : Handled events start done where
  inverse := by
    rw [hsame]
    exact h
  registrations_iff := by
    intro wd registration
    rw [hsame]
    exact ⟨fun hregistered => ⟨hregistered, hlive hregistered⟩, And.left⟩
  resync := fun hdone => ⟨hresync hdone, fun hregistered hended => absurd hended (hlive hregistered)⟩

theorem handled_event (h : start.2.Inverse) (event : InotifyEvent) :
    Handled [event] start (handleEvent start event) := by
  obtain ⟨touched, watcher⟩ := start
  have hended : ∀ {wd : ℕ}, EndedIn [event] wd ↔ event.wd = wd ∧ event.mask = .ignored := endedIn_singleton
  rw [handleEvent]
  by_cases hoverflow : event.mask = .qOverflow
  · rw [if_pos hoverflow]
    refine Handled.of_same h rfl id ?_
    intro wd registration _ hnow
    rw [(hended.mp hnow).2] at hoverflow
    cases hoverflow
  · rw [if_neg hoverflow]
    cases hregistered : watcher.registrations[event.wd]? with
    | none =>
      apply Handled.of_same h rfl id
      intro wd registration hfound hnow
      rw [← (hended.mp hnow).1] at hfound
      change watcher.registrations[event.wd]? = some registration at hfound
      rw [hregistered] at hfound
      cases hfound
    | some registration =>
      have hresync : ∀ {touchedBefore interfaces : Bool}, (touchedBefore || interfaces) = false →
          touchedBefore = false ∧ interfaces = false := fun h => Bool.or_eq_false_iff.mp h
      by_cases hignored : event.mask = .ignored
      · simp only [if_pos hignored]
        have hwatched := (h registration.path event.wd).mpr ⟨registration, hregistered, rfl⟩
        refine ⟨InverseMaps.erase h hwatched, ?_, ?_⟩
        · intro wd found
          change (watcher.registrations.erase event.wd)[wd]? = some found ↔ _
          rw [BTreeMap.getElem?_erase_eq_some, hended]
          constructor
          · rintro ⟨hwd, hfound⟩
            exact ⟨hfound, fun hnow => hwd hnow.1.symm⟩
          · rintro ⟨hfound, hkept⟩
            exact ⟨fun hwd => hkept ⟨hwd.symm, hignored⟩, hfound⟩
        · intro hdone
          refine ⟨(hresync hdone).1, ?_⟩
          intro wd found hfound hnow hpwm
          rw [← (hended.mp hnow).1] at hfound
          change watcher.registrations[event.wd]? = some found at hfound
          rw [hregistered] at hfound
          cases hfound
          have hcontains := (hresync hdone).2
          rw [List.contains_iff_mem.mpr hpwm] at hcontains
          cases hcontains
      · simp only [if_neg hignored]
        refine Handled.of_same h rfl (fun hdone => (hresync hdone).1) ?_
        intro wd found _ hnow
        exact hignored (hended.mp hnow).2

theorem Handled.trans (h : Handled [event] start middle) (h' : Handled events middle done) :
    Handled (event :: events) start done := by
  have hcons : ∀ {wd : ℕ}, EndedIn (event :: events) wd ↔ EndedIn [event] wd ∨ EndedIn events wd :=
    @endedIn_append [event] events
  refine ⟨h'.inverse, ?_, ?_⟩
  · intro wd registration
    rw [h'.registrations_iff, h.registrations_iff, hcons, not_or, and_assoc]
  · intro hresync
    obtain ⟨hmiddle, hlater⟩ := h'.resync hresync
    obtain ⟨hstart, hfirst⟩ := h.resync hmiddle
    refine ⟨hstart, ?_⟩
    intro wd registration hregistered hended
    by_cases hnow : EndedIn [event] wd
    · exact hfirst hregistered hnow
    · exact hlater (h.registrations_iff.mpr ⟨hregistered, hnow⟩) ((hcons.mp hended).resolve_left hnow)

theorem handled_events (events : List InotifyEvent) (h : start.2.Inverse) :
    Handled events start (events.foldl handleEvent start) := by
  induction events generalizing start with
  | nil =>
    apply Handled.of_same h rfl id
    rintro wd registration - ⟨event, hmem, -⟩
    cases hmem
  | cons event events ih =>
    have hfirst := handled_event h event
    exact hfirst.trans (ih hfirst.inverse)

end LinuxHotplugWatcher

namespace Hotplug

def batch (s : Hotplug) : List InotifyEvent := takeFitting defaultEventBufferSize s.kernel.queue

def consumed (s : Hotplug) (watcher : LinuxHotplugWatcher) : Hotplug :=
  { s with
    kernel := { s.kernel with queue := s.kernel.queue.drop s.batch.length }
    watcher }

variable {s : Hotplug} {done : Touched × LinuxHotplugWatcher} {batch : List InotifyEvent} {path : WatchPath}
  {dir : ℕ}

theorem queue_eq (s : Hotplug) : s.batch ++ s.kernel.queue.drop s.batch.length = s.kernel.queue := by
  obtain ⟨rest, hrest⟩ := takeFitting_prefix defaultEventBufferSize s.kernel.queue
  change s.batch ++ rest = s.kernel.queue at hrest
  rw [← hrest, List.drop_left]

theorem endedIn_queue_iff {wd : ℕ} :
    EndedIn s.kernel.queue wd ↔ EndedIn s.batch wd ∨ EndedIn (s.kernel.queue.drop s.batch.length) wd := by
  rw [← endedIn_append, queue_eq]

theorem Consistent.consume (h : s.Consistent) (hdone : Handled s.batch ({}, s.watcher) done) :
    (s.consumed done.2).Consistent := by
  have hlater : ∀ {wd : ℕ}, EndedIn (s.kernel.queue.drop s.batch.length) wd → EndedIn s.kernel.queue wd :=
    fun hended => endedIn_queue_iff.mpr (.inr hended)
  have hstill : ∀ {wd : ℕ} {registration : WatchRegistration},
      done.2.registrations[wd]? = some registration → s.watcher.registrations[wd]? = some registration :=
    fun hregistered => (hdone.registrations_iff.mp hregistered).1
  refine ⟨?_, hdone.inverse, fun hr => h.sound (hstill hr), fun hr => h.registered_lt (hstill hr),
    fun hr => h.live_at (hstill hr), ?_⟩
  · exact { h.wellFormed with
      ended_lt := fun hended => h.wellFormed.ended_lt (hlater hended)
      ended_dead := fun hended => h.wellFormed.ended_dead (hlater hended) }
  · intro wd registration hregistered
    obtain ⟨hbefore, hkept⟩ := hdone.registrations_iff.mp hregistered
    rcases h.pending hbefore with hlive | hended
    · exact .inl hlive
    · exact .inr ((endedIn_queue_iff.mp hended).resolve_left hkept)

theorem Tracks.consume (h : s.Tracks batch path dir) (hdone : Handled s.batch ({}, s.watcher) done) :
    (s.consumed done.2).Tracks [] path dir where
  consistent := h.consistent.consume hdone
  dir_lt := h.dir_lt
  queued := List.nil_prefix
  held := by
    intro hdir wd hwatched
    obtain ⟨registration, hregistered, hat⟩ := (hdone.inverse path wd).mp hwatched
    obtain ⟨hbefore, hkept⟩ := hdone.registrations_iff.mp hregistered
    have hwatchedBefore := (h.consistent.inverse path wd).mpr ⟨registration, hbefore, hat⟩
    rcases h.held hdir hwatchedBefore with hlive | hended
    · exact .inl hlive
    · exact absurd (hended.of_subset fun event hevent => h.queued.subset hevent) hkept

/-- Unless the batch drops the registration at the path, the directory stays covered. -/
theorem Covers.consume (h : s.Covers batch path dir) (hdone : Handled s.batch ({}, s.watcher) done)
    (hkept : ∀ {wd : ℕ} {registration : WatchRegistration}, s.kernel.dirs[path]? = some dir →
      s.watcher.registrations[wd]? = some registration → registration.path = path → ¬EndedIn s.batch wd) :
    (s.consumed done.2).Covers [] path dir where
  toTracks := h.toTracks.consume hdone
  present := by
    intro hdir
    obtain ⟨wd, hwatched⟩ := Option.ne_none_iff_exists'.mp (h.present hdir)
    obtain ⟨registration, hregistered, hat⟩ := (h.consistent.inverse path wd).mp hwatched
    have hstill := hdone.registrations_iff.mpr ⟨hregistered, hkept hdir hregistered hat⟩
    have hagain := (hdone.inverse path wd).mpr ⟨registration, hstill, hat⟩
    change done.2.watchedPaths[path]? ≠ none
    rw [hagain]
    exact Option.some_ne_none wd

theorem Covers.consume_of_live (h : s.Covers [] path dir) (hdone : Handled s.batch ({}, s.watcher) done) :
    (s.consumed done.2).Covers [] path dir := by
  apply h.consume hdone
  intro wd registration hdir hregistered hat hended
  have hwatched := (h.consistent.inverse path wd).mpr ⟨registration, hregistered, hat⟩
  rcases h.held hdir hwatched with hlive | ⟨event, hmem, -⟩
  · exact h.consistent.wellFormed.ended_dead (endedIn_queue_iff.mpr (.inl hended)) hlive
  · cases hmem

theorem Covers.consume_chip {name : String} (h : s.Covers batch (.pwmEntry name) dir)
    (hdone : Handled s.batch ({}, s.watcher) done) (hresync : done.1.needsPwmResync = false) :
    (s.consumed done.2).Covers [] (.pwmEntry name) dir := by
  apply h.consume hdone
  intro wd registration _ hregistered hat hended
  exact (hdone.resync hresync).2 hregistered hended ((h.consistent.sound hregistered).entry_pwm hat)

def ReadOutcome (pre : Hotplug → Prop) : Except IoError (List InotifyEvent) → Hotplug → Prop
  | .ok events, s =>
    events ≠ [] ∧ ∃ before, pre before ∧ events = before.batch ∧ s = before.consumed before.watcher
  | .error .wouldBlock, s => pre s ∧ s.kernel.queue = []
  | .error _, s => pre s

theorem readEvents_spec {pre failed : Hotplug → Prop} (hmeanwhile : ∀ s, pre s → pre s.meanwhile) :
    Triple pre ((systemCall (HotplugKernel.readEvents defaultEventBufferSize)).attempt : HotplugCall _)
      (ReadOutcome pre) failed := by
  apply Triple.attempt
  apply systemCall_spec
  · exact hmeanwhile
  · exact fun s message hs => hs
  · intro s hs
    rw [readEvents]
    by_cases hempty : s.kernel.queue = []
    · rw [if_pos hempty]
      exact ⟨hs, hempty⟩
    · rw [if_neg hempty]
      by_cases hnone : takeFitting defaultEventBufferSize s.kernel.queue = []
      · rw [if_pos hnone]
        exact hs
      · rw [if_neg hnone]
        exact ⟨hnone, s, hs, rfl, rfl⟩

theorem handleEvents_spec {pre failed : Hotplug → Prop} {post : Touched → Hotplug → Prop}
    {events : List InotifyEvent} (hconsistent : ∀ s, pre s → s.Consistent)
    (h : ∀ s done, pre s → Handled s.batch ({}, s.watcher) done → post done.1 (s.consumed done.2)) :
    Triple (ReadOutcome pre (.ok events)) (handleEvents events) post failed := by
  rintro s ⟨-, before, hpre, rfl, rfl⟩
  exact h before _ hpre (handled_events _ (hconsistent before hpre).inverse)

/-- A poll from what its parts do: the first synchronisation, the handling of the events, and the second
synchronisation if these call for it. -/
theorem poll_spec {start synced handled goal failed : Hotplug → Prop} (hextends : Extends synced)
    (hsync : Triple start syncPwmChipWatches (fun _ => synced) failed)
    (hidle : ∀ s, synced s → s.kernel.queue = [] → goal s)
    (hhandle : ∀ s done, synced s → Handled s.batch ({}, s.watcher) done →
      handled (s.consumed done.2) ∧ (done.1.needsPwmResync = false → goal (s.consumed done.2)))
    (hresync : Triple handled syncPwmChipWatches (fun _ => goal) failed)
    (hfailed : ∀ s, synced s → failed s) : Triple start poll (fun _ => goal) failed := by
  apply hsync.bind
  intro _
  apply (@readEvents_spec synced failed fun _ hs => hextends.meanwhile hs).bind
  intro result
  cases result with
  | error error =>
    cases error with
    | wouldBlock => exact Triple.pure fun s hs => hidle s hs.1 hs.2
    | notFound => exact Triple.throw hfailed
    | invalidInput => exact Triple.throw hfailed
    | other message => exact Triple.throw hfailed
  | ok events =>
    by_cases hnone : events.isEmpty = true
    · simp only [if_pos hnone]
      exact Triple.pure fun s hs => absurd (List.isEmpty_iff.mp hnone) hs.1
    · simp only [if_neg hnone]
      have hhandled : Triple (ReadOutcome synced (.ok events)) (handleEvents events)
          (fun touched s => handled s ∧ (touched.needsPwmResync = false → goal s)) failed :=
        handleEvents_spec (fun _ hs => hextends.consistent hs) hhandle
      apply hhandled.bind
      intro touched
      have hreport : Triple goal
          (if touched.interfaces.isEmpty && touched.paths.isEmpty then pure []
            else pure [⟨watcherName, touched.interfaces.toList, touched.paths.toList⟩] :
            HotplugCall (List InventoryWatchEvent)) (fun _ => goal) failed := by
        split
        · exact Triple.pure fun _ hs => hs
        · exact Triple.pure fun _ hs => hs
      by_cases hneeds : touched.needsPwmResync = true
      · simp only [if_pos hneeds]
        apply (hresync.consequence (fun _ hs => hs.1) (fun _ _ hs => hs) fun _ hs => hs).bind
        exact fun _ => hreport
      · simp only [if_neg hneeds]
        exact hreport.consequence (fun _ hs => hs.2 (Bool.not_eq_true _ ▸ hneeds)) (fun _ _ hs => hs)
          fun _ hs => hs

theorem maintains_poll_consistent : Maintains Consistent poll :=
  poll_spec steady_consistent.toExtends (maintains_syncPwmChipWatches steady_consistent) (fun _ hs _ => hs)
    (fun _ _ hs hdone => ⟨hs.consume hdone, fun _ => hs.consume hdone⟩)
    (maintains_syncPwmChipWatches steady_consistent) fun _ hs => hs

theorem maintains_poll_root (root : ClassRoot) (dir : ℕ) : Maintains (Covers [] (.root root) dir) poll := by
  have hsync := maintains_syncPwmChipWatches (steady_covers_root [] root dir)
  exact poll_spec (extends_covers [] (.root root) dir) hsync (fun _ hs _ => hs)
    (fun _ _ hs hdone => ⟨hs.consume_of_live hdone, fun _ => hs.consume_of_live hdone⟩) hsync fun _ hs => hs

theorem syncPwmChipWatches_covers (batch : List InotifyEvent) {name : String} (dir : ℕ)
    (hchip : (WatchPath.pwmEntry name).Watchable) :
    Triple (Tracks batch (.pwmEntry name) dir) syncPwmChipWatches
      (fun _ => Covers batch (.pwmEntry name) dir) (fun _ => True) := by
  have hsync := syncPwmChipWatches_spec (steady_tracks batch (.pwmEntry name) dir)
    (fades_tracks batch (.pwmEntry name) dir)
    fun kernel hdir => ⟨(BTreeMap.mem_iff_exists kernel.dirs _).mpr ⟨dir, hdir⟩, hchip⟩
  exact hsync.consequence (fun _ hs => hs) (fun _ _ hs => ⟨hs.1, hs.2⟩) fun _ _ => trivial

theorem poll_covers_chip (batch : List InotifyEvent) {name : String} (dir : ℕ)
    (hchip : (WatchPath.pwmEntry name).Watchable) :
    Triple (Tracks batch (.pwmEntry name) dir) poll (fun _ => Covers [] (.pwmEntry name) dir)
      (fun _ => True) := by
  have hfirst := syncPwmChipWatches_covers batch dir hchip
  have hsecond := syncPwmChipWatches_covers [] dir hchip
  apply poll_spec (extends_covers batch (.pwmEntry name) dir) hfirst
  · intro s hs hempty
    have hnone := hs.queued
    rw [hempty, takeFitting, List.prefix_nil] at hnone
    rw [← hnone]
    exact hs
  · exact fun s done hs hdone => ⟨hs.toTracks.consume hdone, hs.consume_chip hdone⟩
  · exact hsecond
  · exact fun _ _ => trivial

theorem Consistent.fresh (h : s.kernel.WellFormed) (paths : LinuxPaths) :
    ({ s with watcher := { paths } } : Hotplug).Consistent := by
  have hnone : ∀ {wd : ℕ} {registration : WatchRegistration},
      (∅ : BTreeMap ℕ WatchRegistration)[wd]? ≠ some registration := by simp
  exact {
    wellFormed := h
    inverse := InverseMaps.empty _
    sound := fun hregistered => absurd hregistered hnone
    registered_lt := fun hregistered => absurd hregistered hnone
    live_at := fun hregistered => absurd hregistered hnone
    pending := fun hregistered => absurd hregistered hnone }

theorem new_spec {inv goal : Hotplug → Prop} {born : ℕ} (paths : LinuxPaths)
    (hfresh : ∀ s, s.Consistent → born ≤ s.kernel.nextDir → s.watcher.watchedPaths = ∅ → inv s)
    (hstatic : Triple inv (staticWatches.forM fun (root, interface) => addStaticWatch root interface)
      (fun _ => goal) fun _ => True) (hgoal : Steady goal) :
    Triple (fun s => s.kernel.WellFormed ∧ born ≤ s.kernel.nextDir) (new paths) (fun _ => goal)
      fun _ => True := by
  have hinit : Triple (fun s => s.kernel.WellFormed ∧ born ≤ s.kernel.nextDir)
      (systemCall HotplugKernel.initInotify)
      (fun _ s => s.kernel.WellFormed ∧ born ≤ s.kernel.nextDir) fun _ => True := by
    apply systemCall_spec
    · rintro s ⟨hwf, hborn⟩
      rw [meanwhile]
      cases s.interludes with
      | nil => exact ⟨hwf, hborn⟩
      | cons interlude rest =>
        have hev := @evolves_changes (fun _ => False) interlude.changes s.kernel
        exact ⟨hwf.changes interlude.changes, Nat.le_trans hborn hev.nextDir_le⟩
    · exact fun _ _ _ => trivial
    · exact fun s hs => ⟨wellFormed_initInotify hs.1, hs.2⟩
  apply (hinit.adapt watchError).bind
  intro _
  have hempty : Triple (fun s => s.kernel.WellFormed ∧ born ≤ s.kernel.nextDir)
      (modify fun s => { s with watcher := { paths } } : HotplugCall PUnit) (fun _ => inv) fun _ => True :=
    Triple.update fun s hs => hfresh _ (Consistent.fresh hs.1 paths) hs.2 rfl
  apply hempty.bind
  intro _
  apply hstatic.bind
  intro _
  exact (maintains_syncPwmChipWatches hgoal).consequence (fun _ hs => hs) (fun _ _ hs => hs) fun _ _ => trivial

theorem sound_static (root : ClassRoot) (interface : InterfaceKind) :
    WatchRegistration.Sound ⟨.root root, [interface], false⟩ where
  dynamic_entry := fun hdynamic => nomatch hdynamic
  entry_pwm := fun hentry => nomatch hentry

theorem new_consistent (paths : LinuxPaths) :
    Triple (fun s => s.kernel.WellFormed) (new paths) (fun _ => Consistent) fun _ => True := by
  have hloop := Triple.forM fun (watch : ClassRoot × InterfaceKind) (_ : watch ∈ staticWatches) =>
    maintains_addWatch steady_consistent.toExtends (sound_static watch.1 watch.2)
  have hnew := @new_spec Consistent Consistent 0 paths (fun s hs _ _ => hs)
    (hloop.consequence (fun _ hs => hs) (fun _ _ hs => hs) fun _ _ => trivial) steady_consistent
  exact hnew.consequence (fun s hs => ⟨hs, Nat.zero_le _⟩) (fun _ _ hs => hs) fun _ _ => trivial

theorem new_covers_root (paths : LinuxPaths) (root : ClassRoot) {dir born : ℕ} (hdir : dir < born) :
    Triple (fun s => s.kernel.WellFormed ∧ born ≤ s.kernel.nextDir) (new paths)
      (fun _ => Covers [] (.root root) dir) fun _ => True := by
  have hextends := (steady_tracks [] (.root root) dir).toExtends
  obtain ⟨interface, hmem⟩ : ∃ interface, (root, interface) ∈ staticWatches := by
    cases root <;> simp [staticWatches]
  have hreach : Triple (Tracks [] (.root root) dir) (addStaticWatch root interface)
      (fun _ => Covers [] (.root root) dir) (Tracks [] (.root root) dir) :=
    (addWatch_spec hextends (sound_static root interface)).consequence (fun _ hs => hs)
      (fun _ s hs => ⟨hs.1, fun hthere => hs.2 ((BTreeMap.mem_iff_exists _ _).mpr ⟨dir, hthere⟩)⟩) fun _ hs => hs
  have hloop := Triple.forM_reaches hmem
    (fun watch _ => maintains_addWatch hextends (sound_static watch.1 watch.2))
    (fun watch _ => maintains_addWatch (extends_covers [] (.root root) dir) (sound_static watch.1 watch.2))
    hreach fun _ hs => hs.toTracks
  apply new_spec paths _ (hloop.consequence (fun _ hs => hs) (fun _ _ hs => hs) fun _ _ => trivial)
    (steady_covers_root [] root dir)
  intro s hs hborn hempty
  refine ⟨hs, Nat.lt_of_lt_of_le hdir hborn, List.nil_prefix, ?_⟩
  intro _ wd hwatched
  rw [hempty] at hwatched
  simp at hwatched

end Hotplug

inductive HotplugOp where
  | dirs (change : DirChange)
  | poll (interludes : List Interlude)

namespace Hotplug

def before (history : List DirChange) (interludes : List Interlude) : Hotplug where
  kernel := history.foldl HotplugKernel.change {}
  interludes := interludes

/-- What a poll needs to find: no class directory that was created, or created again, after the time when
`born` was the next number, and no chip directory that was created again while the end of its former watch is
left for a later poll. -/
structure PollReady (born : ℕ) (s : Hotplug) : Prop where
  roots : ∀ root dir, s.kernel.dirs[WatchPath.root root]? = some dir → dir < born
  chips : ∀ name wd, .pwmEntry name ∈ s.kernel.dirs →
    s.watcher.watchedPaths[WatchPath.pwmEntry name]? = some wd → EndedIn s.kernel.queue wd → EndedIn s.batch wd

def Watches (s : Hotplug) (path : WatchPath) : Prop :=
  ∃ wd, s.watcher.watchedPaths[path]? = some wd ∧ s.kernel.watches[path]? = some wd

theorem wellFormed_before (history : List DirChange) (interludes : List Interlude) :
    (before history interludes).kernel.WellFormed := by
  apply WellFormed.changes
  apply WellFormed.of_unwatched
  · intro path dir hdir
    simp at hdir
  · intro name hentry
    simp at hentry
  · rfl
  · rfl

theorem Covers.watches {s : Hotplug} {path : WatchPath} {dir : ℕ} (h : s.Covers [] path dir)
    (hdir : s.kernel.dirs[path]? = some dir) : s.Watches path := by
  obtain ⟨wd, hwatched⟩ := Option.ne_none_iff_exists'.mp (h.present hdir)
  rcases h.held hdir hwatched with hlive | ⟨event, hmem, -⟩
  · exact ⟨wd, hwatched, hlive⟩
  · cases hmem

end Hotplug

namespace HotplugOp

open Hotplug

def step : HotplugOp → Hotplug → Option Hotplug
  | dirs change, s => some { s with kernel := s.kernel.change change }
  | poll interludes, s => some (LinuxHotplugWatcher.poll.exec { s with interludes }).2

/-- What stays along a run: the watcher is consistent and covers the class directories it found. -/
structure Running (born : ℕ) (s : Hotplug) : Prop where
  consistent : s.Consistent
  covers : ∀ root dir, dir < born → s.Covers [] (.root root) dir

variable {born : ℕ} {s s' : Hotplug}

theorem Running.interludes (h : Running born s) (interludes : List Interlude) :
    Running born { s with interludes } where
  consistent := h.consistent.evolve h.consistent.wellFormed (Evolves.refl (fun _ => False) s.kernel)
  covers := fun root dir hdir =>
    (h.covers root dir hdir).evolve h.consistent.wellFormed (Evolves.refl (fun _ => False) s.kernel) False.elim

theorem Running.poll (h : Running born s) : Running born (LinuxHotplugWatcher.poll.exec s).2 := by
  have hkept : ∀ {inv : Hotplug → Prop}, Maintains inv LinuxHotplugWatcher.poll → inv s →
      inv (LinuxHotplugWatcher.poll.exec s).2 := by
    intro inv hmaintains hs
    have houtcome := hmaintains s hs
    revert houtcome
    cases (LinuxHotplugWatcher.poll.exec s).1 with
    | ok events => exact id
    | error error => exact id
  exact ⟨hkept maintains_poll_consistent h.consistent,
    fun root dir hdir => hkept (maintains_poll_root root dir) (h.covers root dir hdir)⟩

theorem step_running (op : HotplugOp) (s s' : Hotplug) (h : Running born s) (hstep : op.step s = some s') :
    Running born s' := by
  cases op with
  | dirs change =>
    cases hstep
    have hwf := h.consistent.wellFormed.change change
    have hev := @evolves_change (fun _ => False) s.kernel change
    exact ⟨h.consistent.evolve hwf hev, fun root dir hdir => (h.covers root dir hdir).evolve hwf hev False.elim⟩
  | poll interludes =>
    cases hstep
    exact (h.interludes interludes).poll

theorem new_running {paths : LinuxPaths} {history : List DirChange} {interludes : List Interlude}
    (hnew : (new paths).exec (before history interludes) = (.ok (), s)) :
    Running (before history interludes).kernel.nextDir s where
  consistent := (new_consistent paths).of_ok (wellFormed_before history interludes) hnew
  covers := fun root _ hdir =>
    (new_covers_root paths root hdir).of_ok ⟨wellFormed_before history interludes, Nat.le_refl _⟩ hnew

/-- After every successful poll of every run the two maps are inverse, and if the poll found the directories
ready, what it found and what is still there is watched. -/
theorem poll_covers {paths : LinuxPaths} {history : List DirChange} {earlier interludes : List Interlude}
    {ops : List HotplugOp} {events : List InventoryWatchEvent} {set began done : Hotplug}
    (hnew : (new paths).exec (before history earlier) = (.ok (), set)) (hrun : run step ops set = some began)
    (hpoll : LinuxHotplugWatcher.poll.exec { began with interludes } = (.ok events, done)) :
    InverseMaps done.watcher.watchedPaths done.watcher.registrations WatchRegistration.path ∧
    (began.PollReady (before history earlier).kernel.nextDir →
      ∀ path dir, path.Watchable → began.kernel.dirs[path]? = some dir → done.kernel.dirs[path]? = some dir →
        done.Watches path) := by
  have hbegan : Running (before history earlier).kernel.nextDir { began with interludes } :=
    (run_invariant (fun op s s' h hs => step_running op s s' h hs) (new_running hnew) hrun).interludes interludes
  have hdone : Running (before history earlier).kernel.nextDir done := by
    have hafter := hbegan.poll
    rw [hpoll] at hafter
    exact hafter
  refine ⟨hdone.consistent.inverse, ?_⟩
  intro hready path dir hwatchable hfound hthere
  cases path with
  | root root => exact (hdone.covers root dir (hready.roots root dir hfound)).watches hthere
  | pwmEntry name =>
    have htracks : ({ began with interludes } : Hotplug).Tracks began.batch (.pwmEntry name) dir := by
      refine ⟨hbegan.consistent, hbegan.consistent.wellFormed.dirs_lt hfound, List.prefix_refl _, ?_⟩
      intro _ wd hwatched
      obtain ⟨registration, hregistered, hat⟩ := (hbegan.consistent.inverse _ wd).mp hwatched
      rcases hbegan.consistent.pending hregistered with hlive | hended
      · rw [hat] at hlive
        exact .inl hlive
      · have hmem : .pwmEntry name ∈ began.kernel.dirs := (BTreeMap.mem_iff_exists _ _).mpr ⟨dir, hfound⟩
        exact .inr (hready.chips name wd hmem hwatched hended)
    exact ((poll_covers_chip began.batch dir hwatchable).of_ok htracks hpoll).watches hthere

end HotplugOp

namespace Hotplug

def chip : WatchPath := .pwmEntry "pwmchip0"

def chipHistory : List DirChange := [.create (.root .pwm), .create chip]

def chipSetUp : Hotplug := ((new {}).exec (before chipHistory [])).2

def chipSwap : List HotplugOp := [.dirs (.remove chip), .dirs (.create chip)]

def chipSwapped : Hotplug :=
  { chipSetUp with kernel := (chipSetUp.kernel.change (.remove chip)).change (.create chip) }

def chipPolled : Hotplug := (LinuxHotplugWatcher.poll.exec { chipSwapped with interludes := [] }).2

theorem chipSwapped_ready : chipSwapped.PollReady (before chipHistory []).kernel.nextDir where
  roots := by
    have hroots : ∀ root, chipSwapped.kernel.dirs[WatchPath.root root]? = none ∨
        chipSwapped.kernel.dirs[WatchPath.root root]? = some 0 := by
      intro root
      cases root <;> decide +kernel
    intro root dir hdir
    rcases hroots root with hnone | hfirst
    · rw [hnone] at hdir
      cases hdir
    · rw [hfirst] at hdir
      cases hdir
      decide +kernel
  chips := by
    have hfits : chipSwapped.batch = chipSwapped.kernel.queue := by decide +kernel
    intro name wd _ _ hended
    rw [hfits]
    exact hended

theorem recreated_chip_is_watched : chipPolled.Watches chip := by
  have hnew : (new {}).exec (before chipHistory []) = (.ok (), chipSetUp) :=
    Prod.ext (by decide +kernel) rfl
  have hpoll : LinuxHotplugWatcher.poll.exec { chipSwapped with interludes := [] } = (.ok [⟨watcherName, [.pwm],
      ["/sys/class/pwm/pwmchip0"]⟩], chipPolled) :=
    Prod.ext (by decide +kernel) rfl
  have hcovers := (@HotplugOp.poll_covers {} chipHistory [] [] chipSwap _ _ _ _ hnew rfl hpoll).2
  have hchip : chip.Watchable := by
    change "pwmchip0".startsWith "pwmchip" = true
    decide +kernel
  exact hcovers chipSwapped_ready chip 2 hchip (by decide +kernel) (by decide +kernel)

def setUpWithoutI2c : Hotplug := ((new {}).exec (before [] [])).2

def i2cLoaded : Hotplug :=
  { setUpWithoutI2c with kernel := setUpWithoutI2c.kernel.change (.create (.root .i2cClass)) }

def i2cPolled : Hotplug := (LinuxHotplugWatcher.poll.exec i2cLoaded).2

theorem late_class_directory_is_not_watched :
    ((new {}).exec (before [] [])).1 = .ok () ∧
    run HotplugOp.step [.dirs (.create (.root .i2cClass))] setUpWithoutI2c = some i2cLoaded ∧
    (LinuxHotplugWatcher.poll.exec i2cLoaded).1 = .ok [] ∧
    i2cLoaded.kernel.dirs[WatchPath.root .i2cClass]? = some 0 ∧
    i2cPolled.kernel.dirs[WatchPath.root .i2cClass]? = some 0 ∧
    ¬i2cPolled.Watches (.root .i2cClass) := by
  refine ⟨rfl, rfl, rfl, rfl, rfl, ?_⟩
  rintro ⟨wd, hwatched, -⟩
  have hnone : i2cPolled.watcher.watchedPaths[WatchPath.root .i2cClass]? = none := rfl
  rw [hnone] at hwatched
  cases hwatched

end Hotplug

end Lemnos.Linux
