import Lemnos.Library.InverseMaps
import Lemnos.Library.Runs
import Lemnos.Library.Triples
import Lemnos.Linux.HotplugKernel

namespace Lemnos.Linux

open Lemnos.Core Discovery Library.Frames Library.OrderedMap Library.Runs HotplugKernel LinuxHotplugWatcher

structure WatchRegistration.Sound (registration : WatchRegistration) : Prop where
  dynamic_entry : registration.dynamic = true → ∃ name, registration.path = .pwmEntry name
  entry_pwm : ∀ {name : String}, registration.path = .pwmEntry name → .pwm ∈ registration.interfaces

namespace Hotplug

structure Consistent (s : Hotplug) : Prop where
  wellFormed : s.kernel.WellFormed
  inverse : InverseMaps s.watcher.watchedPaths s.watcher.registrations WatchRegistration.path
  sound : ∀ {wd : ℕ} {registration : WatchRegistration},
    s.watcher.registrations[wd]? = some registration → registration.Sound
  registered_lt : ∀ {wd : ℕ} {registration : WatchRegistration},
    s.watcher.registrations[wd]? = some registration → wd < s.kernel.nextWatch
  live_at : ∀ {wd : ℕ} {registration : WatchRegistration} {path : WatchPath},
    s.watcher.registrations[wd]? = some registration → s.kernel.watches[path]? = some wd →
      path = registration.path
  pending : ∀ {wd : ℕ} {registration : WatchRegistration}, s.watcher.registrations[wd]? = some registration →
    s.kernel.watches[registration.path]? = some wd ∨ EndedIn s.kernel.queue wd

/-- While the directory is at the path, what the watcher has registered there is live or is found to have
ended by the events of the batch. -/
structure Tracks (batch : List InotifyEvent) (path : WatchPath) (dir : ℕ) (s : Hotplug) : Prop where
  consistent : s.Consistent
  dir_lt : dir < s.kernel.nextDir
  queued : batch <+: takeFitting defaultEventBufferSize s.kernel.queue
  held : s.kernel.dirs[path]? = some dir → ∀ {wd : ℕ}, s.watcher.watchedPaths[path]? = some wd →
    s.kernel.watches[path]? = some wd ∨ EndedIn batch wd

/-- While the directory is at the path, the watcher has something registered there. -/
structure Covers (batch : List InotifyEvent) (path : WatchPath) (dir : ℕ) (s : Hotplug) : Prop
    extends s.Tracks batch path dir where
  present : s.kernel.dirs[path]? = some dir → s.watcher.watchedPaths[path]? ≠ none

variable {s : Hotplug} {kernel' : HotplugKernel} {gone : ℕ → Prop} {interludes : List Interlude}
  {batch : List InotifyEvent} {path : WatchPath} {dir wd : ℕ} {registration : WatchRegistration}

theorem Consistent.evolve (h : s.Consistent) (hwf : kernel'.WellFormed)
    (hev : Evolves gone s.kernel kernel') :
    ({ s with kernel := kernel', interludes } : Hotplug).Consistent where
  wellFormed := hwf
  inverse := h.inverse
  sound := h.sound
  registered_lt := fun hregistered => Nat.lt_of_lt_of_le (h.registered_lt hregistered) hev.nextWatch_le
  live_at := by
    intro wd registration path hregistered hwatch
    rcases hev.watches_new hwatch with hold | hle
    · exact h.live_at hregistered hold
    · exact absurd (h.registered_lt hregistered) (Nat.not_lt.mpr hle)
  pending := by
    intro wd registration hregistered
    rcases h.pending hregistered with hlive | hended
    · exact hev.watches_ended hlive
    · exact .inr (hended.of_subset fun event hevent => hev.queue_prefix.subset hevent)

theorem Consistent.forget (h : s.Consistent) (hwatched : s.watcher.watchedPaths[path]? = some wd) :
    ({ s with watcher := s.watcher.forget path wd } : Hotplug).Consistent := by
  have hstill : ∀ {descriptor : ℕ} {registration : WatchRegistration},
      (s.watcher.registrations.erase wd)[descriptor]? = some registration →
        s.watcher.registrations[descriptor]? = some registration :=
    fun hregistered => ((BTreeMap.getElem?_erase_eq_some s.watcher.registrations).mp hregistered).2
  exact {
    wellFormed := h.wellFormed
    inverse := h.inverse.erase hwatched
    sound := fun hregistered => h.sound (hstill hregistered)
    registered_lt := fun hregistered => h.registered_lt (hstill hregistered)
    live_at := fun hregistered => h.live_at (hstill hregistered)
    pending := fun hregistered => h.pending (hstill hregistered) }

theorem Consistent.unregistered (h : s.Consistent) (hpath : s.watcher.watchedPaths[path]? = none)
    (hlive : s.kernel.watches[path]? = some wd) : s.watcher.registrations[wd]? = none := by
  cases hregistered : s.watcher.registrations[wd]? with
  | none => rfl
  | some registration =>
    have hat : path = registration.path := h.live_at hregistered hlive
    have hwatched := (h.inverse path wd).mpr ⟨registration, hregistered, hat.symm⟩
    rw [hpath] at hwatched
    cases hwatched

theorem Consistent.register (h : s.Consistent) (hsound : registration.Sound)
    (hpath : s.watcher.watchedPaths[registration.path]? = none)
    (hlive : s.kernel.watches[registration.path]? = some wd) :
    ({ s with watcher := s.watcher.register registration.path wd registration } : Hotplug).Consistent := by
  have hcases : ∀ {descriptor : ℕ} {found : WatchRegistration},
      (s.watcher.registrations.insert wd registration)[descriptor]? = some found →
        (descriptor = wd ∧ found = registration) ∨ s.watcher.registrations[descriptor]? = some found := by
    intro descriptor found hfound
    rw [BTreeMap.getElem?_insert_eq] at hfound
    by_cases hdescriptor : descriptor = wd
    · rw [if_pos hdescriptor] at hfound
      cases hfound
      exact .inl ⟨hdescriptor, rfl⟩
    · rw [if_neg hdescriptor] at hfound
      exact .inr hfound
  refine ⟨h.wellFormed, h.inverse.insert hpath (h.unregistered hpath hlive), ?_, ?_, ?_, ?_⟩
  · intro descriptor found hfound
    rcases hcases hfound with ⟨-, rfl⟩ | hold
    · exact hsound
    · exact h.sound hold
  · intro descriptor found hfound
    rcases hcases hfound with ⟨rfl, -⟩ | hold
    · exact h.wellFormed.watches_lt hlive
    · exact h.registered_lt hold
  · intro descriptor found other hfound hwatch
    rcases hcases hfound with ⟨rfl, rfl⟩ | hold
    · exact h.wellFormed.watches_inj hwatch hlive
    · exact h.live_at hold hwatch
  · intro descriptor found hfound
    rcases hcases hfound with ⟨rfl, rfl⟩ | hold
    · exact .inl hlive
    · exact h.pending hold

theorem Tracks.evolve (h : s.Tracks batch path dir) (hwf : kernel'.WellFormed)
    (hev : Evolves gone s.kernel kernel')
    (hgone : ∀ {wd : ℕ}, gone wd → s.watcher.registrations[wd]? = none) :
    ({ s with kernel := kernel', interludes } : Hotplug).Tracks batch path dir where
  consistent := h.consistent.evolve hwf hev
  dir_lt := Nat.lt_of_lt_of_le h.dir_lt hev.nextDir_le
  queued := h.queued.trans (takeFitting_mono _ hev.queue_prefix)
  held := by
    intro hdir wd hwatched
    rcases h.held (hev.dirs_old hdir h.dir_lt) hwatched with hlive | hended
    · rcases hev.watches_kept hdir h.dir_lt hlive with hlive' | hgone'
      · exact .inl hlive'
      · obtain ⟨registration, hregistered, -⟩ := (h.consistent.inverse path wd).mp hwatched
        rw [hgone hgone'] at hregistered
        cases hregistered
    · exact .inr hended

theorem Covers.evolve (h : s.Covers batch path dir) (hwf : kernel'.WellFormed)
    (hev : Evolves gone s.kernel kernel')
    (hgone : ∀ {wd : ℕ}, gone wd → s.watcher.registrations[wd]? = none) :
    ({ s with kernel := kernel', interludes } : Hotplug).Covers batch path dir where
  toTracks := h.toTracks.evolve hwf hev hgone
  present := fun hdir => h.present (hev.dirs_old hdir h.dir_lt)

theorem Tracks.forget (h : s.Tracks batch path dir) {other : WatchPath}
    (hwatched : s.watcher.watchedPaths[other]? = some wd) :
    ({ s with watcher := s.watcher.forget other wd } : Hotplug).Tracks batch path dir where
  consistent := h.consistent.forget hwatched
  dir_lt := h.dir_lt
  queued := h.queued
  held := by
    intro hdir descriptor hstill
    change (s.watcher.watchedPaths.erase other)[path]? = some descriptor at hstill
    exact h.held hdir ((BTreeMap.getElem?_erase_eq_some s.watcher.watchedPaths).mp hstill).2

theorem Covers.forget (h : s.Covers batch path dir) {other : WatchPath} (hother : path ≠ other)
    (hwatched : s.watcher.watchedPaths[other]? = some wd) :
    ({ s with watcher := s.watcher.forget other wd } : Hotplug).Covers batch path dir where
  toTracks := h.toTracks.forget hwatched
  present := by
    intro hdir
    change (s.watcher.watchedPaths.erase other)[path]? ≠ none
    rw [BTreeMap.getElem?_erase_ne _ hother]
    exact h.present hdir

theorem Tracks.register (h : s.Tracks batch path dir) (hsound : registration.Sound)
    (hpath : s.watcher.watchedPaths[registration.path]? = none)
    (hlive : s.kernel.watches[registration.path]? = some wd) :
    ({ s with watcher := s.watcher.register registration.path wd registration } : Hotplug).Tracks
      batch path dir where
  consistent := h.consistent.register hsound hpath hlive
  dir_lt := h.dir_lt
  queued := h.queued
  held := by
    intro hdir descriptor hwatched
    change (s.watcher.watchedPaths.insert registration.path wd)[path]? = some descriptor at hwatched
    rw [BTreeMap.getElem?_insert_eq] at hwatched
    by_cases hsame : path = registration.path
    · rw [if_pos hsame] at hwatched
      cases hwatched
      rw [hsame]
      exact .inl hlive
    · rw [if_neg hsame] at hwatched
      exact h.held hdir hwatched

theorem register_present (path : WatchPath) (wd : ℕ) (registration : WatchRegistration)
    (watcher : LinuxHotplugWatcher) {other : WatchPath}
    (h : other = path ∨ watcher.watchedPaths[other]? ≠ none) :
    (watcher.register path wd registration).watchedPaths[other]? ≠ none := by
  change (watcher.watchedPaths.insert path wd)[other]? ≠ none
  rw [BTreeMap.getElem?_insert_eq]
  by_cases hother : other = path
  · rw [if_pos hother]
    exact Option.some_ne_none wd
  · rw [if_neg hother]
    exact h.resolve_left hother

theorem Covers.register (h : s.Covers batch path dir) (hsound : registration.Sound)
    (hpath : s.watcher.watchedPaths[registration.path]? = none)
    (hlive : s.kernel.watches[registration.path]? = some wd) :
    ({ s with watcher := s.watcher.register registration.path wd registration } : Hotplug).Covers
      batch path dir where
  toTracks := h.toTracks.register hsound hpath hlive
  present := fun hdir => register_present _ _ _ _ (.inr (h.present hdir))

structure Extends (inv : Hotplug → Prop) : Prop where
  consistent : ∀ {s : Hotplug}, inv s → s.Consistent
  evolve : ∀ {s : Hotplug} {kernel' : HotplugKernel} {interludes : List Interlude}, inv s →
    kernel'.WellFormed → Evolves (fun _ => False) s.kernel kernel' → inv { s with kernel := kernel', interludes }
  register : ∀ {s : Hotplug} {wd : ℕ} {registration : WatchRegistration}, inv s → registration.Sound →
    s.watcher.watchedPaths[registration.path]? = none → s.kernel.watches[registration.path]? = some wd →
    inv { s with watcher := s.watcher.register registration.path wd registration }

structure Steady (inv : Hotplug → Prop) : Prop extends Extends inv where
  forget : ∀ {s : Hotplug} {name : String} {wd : ℕ}, inv s →
    s.watcher.watchedPaths[WatchPath.pwmEntry name]? = some wd →
    inv { s with watcher := s.watcher.forget (.pwmEntry name) wd }
  unwatch : ∀ {s : Hotplug} {wd : ℕ}, inv s → s.watcher.registrations[wd]? = none →
    inv { s with kernel := (s.kernel.removeWatch wd).2 }

theorem steady_consistent : Steady Consistent where
  consistent := id
  evolve := Consistent.evolve
  register := Consistent.register
  forget := Consistent.forget
  unwatch := fun h _ => h.evolve (wellFormed_removeWatch h.wellFormed _) (evolves_removeWatch _ _)

theorem steady_tracks (batch : List InotifyEvent) (path : WatchPath) (dir : ℕ) :
    Steady (Tracks batch path dir) where
  consistent := Tracks.consistent
  evolve := fun h hwf hev => h.evolve hwf hev False.elim
  register := Tracks.register
  forget := fun h hwatched => h.forget hwatched
  unwatch := by
    intro s wd h hwd
    apply h.evolve (wellFormed_removeWatch h.consistent.wellFormed wd) (evolves_removeWatch wd s.kernel)
    rintro live rfl
    exact hwd

theorem extends_covers (batch : List InotifyEvent) (path : WatchPath) (dir : ℕ) :
    Extends (Covers batch path dir) where
  consistent := fun h => h.consistent
  evolve := fun h hwf hev => h.evolve hwf hev False.elim
  register := Covers.register

theorem steady_covers_root (batch : List InotifyEvent) (root : ClassRoot) (dir : ℕ) :
    Steady (Covers batch (.root root) dir) where
  toExtends := extends_covers batch (.root root) dir
  forget := fun h => h.forget WatchPath.noConfusion
  unwatch := by
    intro s wd h hwd
    apply h.evolve (wellFormed_removeWatch h.consistent.wellFormed wd) (evolves_removeWatch wd s.kernel)
    rintro live rfl
    exact hwd

/-- What holds of the directories only as long as it has always held. -/
def Fades (inv : Hotplug → Prop) (there : HotplugKernel → Prop) : Prop :=
  ∀ {s : Hotplug} {gone : ℕ → Prop} {kernel' : HotplugKernel}, inv s → Evolves gone s.kernel kernel' →
    there kernel' → there s.kernel

theorem fades_tracks (batch : List InotifyEvent) (path : WatchPath) (dir : ℕ) :
    Fades (Tracks batch path dir) (fun kernel => kernel.dirs[path]? = some dir) :=
  fun hs hev hdir => hev.dirs_old hdir hs.dir_lt

variable {inv : Hotplug → Prop} {there : HotplugKernel → Prop}

theorem Extends.whileThere (h : Extends inv) (hfades : Fades inv there) (p : Prop) :
    Extends fun s => inv s ∧ (there s.kernel → p) where
  consistent := fun hs => h.consistent hs.1
  evolve := fun hs hwf hev => ⟨h.evolve hs.1 hwf hev, fun hthere => hs.2 (hfades hs.1 hev hthere)⟩
  register := fun hs hsound hpath hlive => ⟨h.register hs.1 hsound hpath hlive, hs.2⟩

theorem Steady.whileThere (h : Steady inv) (hfades : Fades inv there) (p : Prop) :
    Steady fun s => inv s ∧ (there s.kernel → p) where
  toExtends := h.toExtends.whileThere hfades p
  forget := fun hs hwatched => ⟨h.forget hs.1 hwatched, hs.2⟩
  unwatch := fun hs hwd =>
    ⟨h.unwatch hs.1 hwd, fun hthere => hs.2 (hfades hs.1 (evolves_removeWatch _ _) hthere)⟩

theorem Extends.present (h : Extends inv) (hfades : Fades inv there) (path : WatchPath) :
    Extends fun s => inv s ∧ (there s.kernel → s.watcher.watchedPaths[path]? ≠ none) where
  consistent := fun hs => h.consistent hs.1
  evolve := fun hs hwf hev => ⟨h.evolve hs.1 hwf hev, fun hthere => hs.2 (hfades hs.1 hev hthere)⟩
  register := fun hs hsound hpath hlive =>
    ⟨h.register hs.1 hsound hpath hlive, fun hthere => register_present _ _ _ _ (.inr (hs.2 hthere))⟩

theorem exec_systemCall {α : Type} (call : HotplugKernel → Except IoError α × HotplugKernel) (s : Hotplug) :
    (systemCall call).exec s = match s.refused with
      | some message => (.error (.other message), s.meanwhile)
      | none =>
        ((call s.meanwhile.kernel).1, { s.meanwhile with kernel := (call s.meanwhile.kernel).2 }) := by
  rw [systemCall, exec_bind_of_ok (exec_get s), exec_bind_of_ok (exec_modify _ s)]
  cases s.refused with
  | some message => rfl
  | none =>
    rw [exec_bind_of_ok (exec_get _)]
    simp only [exec_bind_of_ok (exec_modify _ _), exec_ofExcept]

theorem exec_pathExists {E : Type} (path : WatchPath) (s : Hotplug) :
    (pathExists path : Effect Hotplug E Bool).exec s =
      (.ok (s.meanwhile.kernel.dirs.contains path), s.meanwhile) := rfl

theorem Extends.meanwhile (h : Extends inv) (hs : inv s) : inv s.meanwhile := by
  rw [Hotplug.meanwhile]
  cases s.interludes with
  | nil => exact hs
  | cons interlude rest =>
    have hwf : s.kernel.WellFormed := (h.consistent hs).wellFormed
    exact h.evolve hs (hwf.changes interlude.changes) (evolves_changes interlude.changes s.kernel)

theorem meanwhile_watcher (s : Hotplug) : s.meanwhile.watcher = s.watcher := by
  rw [meanwhile]
  cases s.interludes with
  | nil => rfl
  | cons interlude rest => rfl

theorem systemCall_spec {α : Type} {call : HotplugKernel → Except IoError α × HotplugKernel}
    {pre : Hotplug → Prop} {post : Except IoError α → Hotplug → Prop}
    (hmeanwhile : ∀ s, pre s → pre s.meanwhile)
    (hrefused : ∀ s message, pre s → post (.error (.other message)) s)
    (hcall : ∀ s, pre s → post (call s.kernel).1 { s with kernel := (call s.kernel).2 }) (s : Hotplug)
    (hs : pre s) : post ((systemCall call).exec s).1 ((systemCall call).exec s).2 := by
  rw [exec_systemCall]
  have hthen := hmeanwhile s hs
  cases s.refused with
  | some message => exact hrefused _ message hthen
  | none => exact hcall _ hthen

theorem triple_addWatch (h : Extends inv) (path : WatchPath) :
    Triple (fun s => inv s ∧ s.watcher.watchedPaths[path]? = none) (systemCall (HotplugKernel.addWatch path))
      (fun wd s => inv s ∧ s.watcher.watchedPaths[path]? = none ∧ s.kernel.watches[path]? = some wd) inv := by
  apply systemCall_spec
  · rintro s ⟨hs, hnew⟩
    rw [meanwhile_watcher]
    exact ⟨h.meanwhile hs, hnew⟩
  · exact fun s message hs => hs.1
  · rintro s ⟨hs, hnew⟩
    have hwf : s.kernel.WellFormed := (h.consistent hs).wellFormed
    have hs' : inv { s with kernel := (s.kernel.addWatch path).2 } :=
      h.evolve hs (wellFormed_addWatch hwf path) (evolves_addWatch path s.kernel)
    change Outcome _ _ (s.kernel.addWatch path).1 _
    cases hresult : (s.kernel.addWatch path).1 with
    | error error => exact hs'
    | ok wd => exact ⟨hs', hnew, addWatch_ok hresult⟩

theorem addWatch_spec (h : Extends inv) {interfaces : List InterfaceKind} {dynamic : Bool}
    (hsound : WatchRegistration.Sound ⟨path, interfaces, dynamic⟩) :
    Triple inv (addWatch path interfaces dynamic)
      (fun _ s => inv s ∧ (path ∈ s.kernel.dirs → s.watcher.watchedPaths[path]? ≠ none)) inv := by
  apply Triple.get_bind
  intro s hs
  by_cases hwatched : s.watcher.watchedPaths.contains path = true
  · rw [if_pos hwatched]
    apply Triple.pure
    rintro _ rfl
    refine ⟨hs, fun _ hnone => ?_⟩
    exact (BTreeMap.not_mem_iff _ _).mpr hnone (Std.ExtTreeMap.mem_iff_contains.mpr hwatched)
  · rw [if_neg hwatched]
    have hnew : s.watcher.watchedPaths[path]? = none := by
      rw [← BTreeMap.not_mem_iff, Std.ExtTreeMap.mem_iff_contains]
      exact hwatched
    have hask : Triple (fun s' => s' = s) (pathExists path : HotplugCall Bool)
        (fun there s' => (inv s' ∧ s'.watcher.watchedPaths[path]? = none) ∧
          there = s'.kernel.dirs.contains path) inv := by
      rintro _ rfl
      rw [exec_pathExists]
      refine ⟨⟨h.meanwhile hs, ?_⟩, rfl⟩
      rw [meanwhile_watcher]
      exact hnew
    apply hask.bind
    intro there
    cases there with
    | false =>
      apply Triple.pure
      rintro s' ⟨⟨hs', -⟩, hthere⟩
      refine ⟨hs', fun hmem => ?_⟩
      rw [Std.ExtTreeMap.mem_iff_contains, ← hthere] at hmem
      cases hmem
    | true =>
      have hadd := (triple_addWatch h path).adapt watchError
      apply (hadd.consequence (fun _ hs' => hs'.1) (fun _ _ hs' => hs') (fun _ hs' => hs')).bind
      intro wd
      apply Triple.update
      rintro s' ⟨hs', hpath, hlive⟩
      exact ⟨h.register hs' hsound hpath hlive, fun _ => register_present _ _ _ _ (.inl rfl)⟩

theorem maintains_addWatch (h : Extends inv) {interfaces : List InterfaceKind} {dynamic : Bool}
    (hsound : WatchRegistration.Sound ⟨path, interfaces, dynamic⟩) :
    Maintains inv (addWatch path interfaces dynamic) :=
  (addWatch_spec h hsound).consequence (fun _ hs => hs) (fun _ _ hs => hs.1) (fun _ hs => hs)

theorem maintains_removeWatch (h : Steady inv) (name : String) :
    Maintains inv (removeWatch (.pwmEntry name)) := by
  apply Triple.get_bind
  intro s hs
  cases hwatched : s.watcher.watchedPaths[WatchPath.pwmEntry name]? with
  | none =>
    apply Triple.pure
    rintro _ rfl
    exact hs
  | some wd =>
    have hforget : Triple (fun s' => s' = s)
        (modify (fun s => { s with watcher := s.watcher.forget (.pwmEntry name) wd }) : HotplugCall PUnit)
        (fun _ s' => inv s' ∧ s'.watcher.registrations[wd]? = none) inv := by
      apply Triple.update
      rintro _ rfl
      exact ⟨h.forget hs hwatched, BTreeMap.getElem?_erase_same _ _⟩
    have hremove : Triple (fun s' => inv s' ∧ s'.watcher.registrations[wd]? = none)
        ((systemCall (HotplugKernel.removeWatch wd)).attempt : HotplugCall _) (fun _ => inv) inv := by
      apply Triple.attempt
      apply @systemCall_spec _ _ _ fun _ => inv
      · rintro s' ⟨hs', hwd⟩
        rw [meanwhile_watcher]
        exact ⟨h.meanwhile hs', hwd⟩
      · exact fun _ _ hs' => hs'.1
      · exact fun _ hs' => h.unwatch hs'.1 hs'.2
    apply hforget.bind
    intro _
    apply hremove.bind
    intro result
    cases result with
    | ok done => exact Triple.pure fun _ hs' => hs'
    | error error =>
      cases error with
      | notFound => exact Triple.pure fun _ hs' => hs'
      | invalidInput => exact Triple.pure fun _ hs' => hs'
      | wouldBlock => exact Triple.throw fun _ hs' => hs'
      | other message => exact Triple.throw fun _ hs' => hs'

theorem readDirSorted_spec (h : Extends inv) :
    Triple inv readDirSorted
      (fun entries s => inv s ∧ ∀ name, .pwmEntry name ∈ s.kernel.dirs → name ∈ entries) inv := by
  have hread : Triple inv ((systemCall HotplugKernel.readDir).attempt : HotplugCall _)
      (fun result s => inv s ∧ ∀ name, .pwmEntry name ∈ s.kernel.dirs →
        (∀ entries, result = .ok entries → name ∈ entries) ∧ result ≠ .error .notFound) inv := by
    apply Triple.attempt
    apply @systemCall_spec _ _ _ fun (result : Except IoError (List String)) s =>
      inv s ∧ ∀ name, .pwmEntry name ∈ s.kernel.dirs →
        (∀ entries, result = .ok entries → name ∈ entries) ∧ result ≠ .error .notFound
    · exact fun _ hs => h.meanwhile hs
    · intro s message hs
      refine ⟨hs, fun name _ => ⟨?_, ?_⟩⟩
      · intro entries hresult
        cases hresult
      · intro hresult
        cases hresult
    · intro s hs
      refine ⟨hs, fun name hname => ?_⟩
      have hroot : WatchPath.root .pwm ∈ s.kernel.dirs := (h.consistent hs).wellFormed.entry_parent hname
      rw [readDir, if_pos hroot]
      refine ⟨?_, ?_⟩
      · intro entries hresult
        cases hresult
        exact mem_pwmEntries.mpr hname
      · intro hresult
        cases hresult
  apply hread.bind
  intro result
  cases result with
  | ok entries => exact Triple.pure fun s hs => ⟨hs.1, fun name hname => (hs.2 name hname).1 entries rfl⟩
  | error error =>
    cases error with
    | notFound => exact Triple.pure fun s hs => ⟨hs.1, fun name hname => absurd rfl (hs.2 name hname).2⟩
    | invalidInput => exact Triple.throw fun _ hs => hs.1
    | wouldBlock => exact Triple.throw fun _ hs => hs.1
    | other message => exact Triple.throw fun _ hs => hs.1

theorem currentChipPaths_spec {name : String} (h : Extends inv) (hfades : Fades inv there)
    (hthere : ∀ kernel, there kernel → .pwmEntry name ∈ kernel.dirs ∧ name.startsWith "pwmchip" = true)
    (entries : List String) :
    Triple inv (currentChipPaths entries)
      (fun current s => (inv s ∧ (there s.kernel → name ∈ entries → .pwmEntry name ∈ current)) ∧
        ∀ path ∈ current, ∃ name, path = .pwmEntry name) inv := by
  induction entries generalizing inv with
  | nil =>
    apply Triple.pure
    intro s hs
    exact ⟨⟨hs, fun _ hname => absurd hname List.not_mem_nil⟩, fun path hpath => absurd hpath List.not_mem_nil⟩
  | cons entry entries ih =>
    have hask : Triple inv (pathExists (.pwmEntry entry) : HotplugCall Bool)
        (fun isDir s => inv s ∧ (there s.kernel → entry = name → isDir = true)) inv := by
      intro s hs
      rw [exec_pathExists]
      refine ⟨h.meanwhile hs, ?_⟩
      rintro hkernel rfl
      exact Std.ExtTreeMap.mem_iff_contains.mp (hthere _ hkernel).1
    apply hask.bind
    intro isDir
    have hrest := ih (h.whileThere hfades (entry = name → isDir = true)) fun hs => hfades hs.1
    apply (hrest.consequence (fun _ hs => hs) (fun _ _ hs => hs) fun _ hs => hs.1).bind
    intro rest
    apply Triple.pure
    rintro s ⟨⟨⟨hs, hisDir⟩, hmem⟩, hentries⟩
    by_cases hlisted : (isDir && entry.startsWith "pwmchip") = true
    · rw [if_pos hlisted]
      refine ⟨⟨hs, fun hkernel hname => ?_⟩, ?_⟩
      · rcases List.mem_cons.mp hname with rfl | hname
        · exact List.mem_cons_self
        · exact List.mem_cons_of_mem _ (hmem hkernel hname)
      · intro path hpath
        rcases List.mem_cons.mp hpath with rfl | hpath
        · exact ⟨entry, rfl⟩
        · exact hentries path hpath
    · rw [if_neg hlisted]
      refine ⟨⟨hs, fun hkernel hname => ?_⟩, hentries⟩
      rcases List.mem_cons.mp hname with rfl | hname
      · apply absurd _ hlisted
        rw [hisDir hkernel rfl, (hthere _ hkernel).2]
        rfl
      · exact hmem hkernel hname

theorem staleChipPaths_entry (h : s.Consistent) {current : List WatchPath}
    (hpath : path ∈ staleChipPaths s.watcher current) : ∃ name, path = .pwmEntry name := by
  obtain ⟨registration, hmem, hstale⟩ := List.mem_filterMap.mp hpath
  obtain ⟨⟨wd, _⟩, hwd, rfl⟩ := List.mem_map.mp hmem
  have hregistered := Std.ExtTreeMap.mem_toList_iff_getElem?_eq_some.mp hwd
  split at hstale
  · rename_i hdynamic
    cases hstale
    rw [Bool.and_eq_true, Bool.and_eq_true] at hdynamic
    exact (h.sound hregistered).dynamic_entry hdynamic.1.1
  · cases hstale

theorem sound_chip (name : String) : WatchRegistration.Sound ⟨.pwmEntry name, [.pwm], true⟩ where
  dynamic_entry := fun _ => ⟨name, rfl⟩
  entry_pwm := fun _ => List.mem_singleton.mpr rfl

theorem syncPwmChipWatches_spec {name : String} (h : Steady inv) (hfades : Fades inv there)
    (hthere : ∀ kernel, there kernel → .pwmEntry name ∈ kernel.dirs ∧ name.startsWith "pwmchip" = true) :
    Triple inv syncPwmChipWatches
      (fun _ s => inv s ∧ (there s.kernel → s.watcher.watchedPaths[WatchPath.pwmEntry name]? ≠ none)) inv := by
  have hread : Triple inv readDirSorted
      (fun entries s => inv s ∧ (there s.kernel → name ∈ entries)) inv :=
    (readDirSorted_spec h.toExtends).consequence (fun _ hs => hs)
      (fun _ s hs => ⟨hs.1, fun hkernel => hs.2 name (hthere s.kernel hkernel).1⟩) fun _ hs => hs
  apply hread.bind
  intro entries
  have hlist := currentChipPaths_spec (h.whileThere hfades (name ∈ entries)).toExtends
    (fun hs => hfades hs.1) hthere entries
  apply (hlist.consequence (fun _ hs => hs) (fun _ _ hs => hs) fun _ hs => hs.1).bind
  intro current
  apply Triple.get_bind
  rintro s ⟨⟨⟨hs, hentries⟩, hcurrent⟩, hentry⟩
  have hloop : Steady fun s' => inv s' ∧ (there s'.kernel → .pwmEntry name ∈ current) :=
    h.whileThere hfades _
  have hstale : Triple (fun s' => s' = s) ((staleChipPaths s.watcher current).forM removeWatch)
      (fun _ s' => inv s' ∧ (there s'.kernel → .pwmEntry name ∈ current)) inv := by
    have hforget : ∀ path ∈ staleChipPaths s.watcher current,
        Maintains (fun s' => inv s' ∧ (there s'.kernel → .pwmEntry name ∈ current)) (removeWatch path) := by
      intro path hpath
      obtain ⟨other, rfl⟩ := staleChipPaths_entry (h.consistent hs) hpath
      exact maintains_removeWatch hloop other
    apply (Triple.forM hforget).consequence
    · rintro _ rfl
      exact ⟨hs, fun hkernel => hcurrent hkernel (hentries hkernel)⟩
    · exact fun _ _ hs' => hs'
    · exact fun _ hs' => hs'.1
  apply hstale.bind
  intro _
  have hadd : ∀ {goal : Hotplug → Prop}, Extends goal → ∀ path ∈ current,
      Maintains goal (addWatch path [.pwm] true) := by
    intro goal hgoal path hpath
    obtain ⟨other, rfl⟩ := hentry path hpath
    exact maintains_addWatch hgoal (sound_chip other)
  by_cases hmem : .pwmEntry name ∈ current
  · have hreach : Triple inv (addWatch (.pwmEntry name) [.pwm] true)
        (fun _ s' => inv s' ∧ (there s'.kernel → s'.watcher.watchedPaths[WatchPath.pwmEntry name]? ≠ none)) inv :=
      (addWatch_spec h.toExtends (sound_chip name)).consequence (fun _ hs' => hs')
        (fun _ s' hs' => ⟨hs'.1, fun hkernel => hs'.2 (hthere s'.kernel hkernel).1⟩) fun _ hs' => hs'
    have hgoal := h.toExtends.present hfades (.pwmEntry name)
    have hloop := Triple.forM_reaches hmem (hadd h.toExtends) (hadd hgoal) hreach fun _ hs' => hs'.1
    exact hloop.consequence (fun _ hs' => hs'.1) (fun _ _ hs' => hs') fun _ hs' => hs'
  · have hgone := Triple.forM (hadd (h.whileThere hfades False).toExtends)
    apply hgone.consequence
    · exact fun _ hs' => ⟨hs'.1, fun hkernel => hmem (hs'.2 hkernel)⟩
    · exact fun _ s' hs' => ⟨hs'.1, fun hkernel => (hs'.2 hkernel).elim⟩
    · exact fun _ hs' => hs'.1

theorem maintains_syncPwmChipWatches (h : Steady inv) : Maintains inv syncPwmChipWatches := by
  have hnever : Fades inv fun _ => False := fun _ _ hkernel => hkernel
  have hsync := @syncPwmChipWatches_spec inv _ "pwmchip0" h hnever fun _ => False.elim
  exact hsync.consequence (fun _ hs => hs) (fun _ _ hs => hs.1) fun _ hs => hs

end Hotplug

end Lemnos.Linux
