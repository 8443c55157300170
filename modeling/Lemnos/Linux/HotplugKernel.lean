import Lemnos.Linux.Hotplug

namespace Lemnos.Linux

open Library.Frames Library.OrderedMap

def EndedIn (events : List InotifyEvent) (wd : ℕ) : Prop :=
  ∃ event ∈ events, event.wd = wd ∧ event.mask = .ignored

theorem EndedIn.of_subset {events events' : List InotifyEvent} {wd : ℕ} (h : EndedIn events wd)
    (hsub : ∀ event ∈ events, event ∈ events') : EndedIn events' wd := by
  obtain ⟨event, hmem, hevent⟩ := h
  exact ⟨event, hsub event hmem, hevent⟩

theorem endedIn_singleton {event : InotifyEvent} {wd : ℕ} :
    EndedIn [event] wd ↔ event.wd = wd ∧ event.mask = .ignored := by
  simp [EndedIn]

theorem endedIn_append {events later : List InotifyEvent} {wd : ℕ} :
    EndedIn (events ++ later) wd ↔ EndedIn events wd ∨ EndedIn later wd := by
  simp only [EndedIn, List.mem_append, or_and_right, exists_or]

theorem takeFitting_prefix (space : ℕ) (queue : List InotifyEvent) : takeFitting space queue <+: queue := by
  induction queue generalizing space with
  | nil => exact List.prefix_refl _
  | cons event queue ih =>
    rw [takeFitting]
    by_cases hfits : event.size ≤ space
    · rw [if_pos hfits]
      exact (List.prefix_cons_inj event).mpr (ih (space - event.size))
    · rw [if_neg hfits]
      exact List.nil_prefix

theorem takeFitting_mono (space : ℕ) {queue later : List InotifyEvent} (h : queue <+: later) :
    takeFitting space queue <+: takeFitting space later := by
  induction queue generalizing space later with
  | nil => exact List.nil_prefix
  | cons event queue ih =>
    obtain ⟨more, rfl⟩ := h
    rw [List.cons_append, takeFitting, takeFitting]
    by_cases hfits : event.size ≤ space
    · rw [if_pos hfits, if_pos hfits]
      exact (List.prefix_cons_inj event).mpr (ih (space - event.size) (List.prefix_append queue more))
    · simp only [if_neg hfits, List.nil_prefix]

namespace HotplugKernel

structure WellFormed (kernel : HotplugKernel) : Prop where
  dirs_lt : ∀ {path : WatchPath} {dir : ℕ}, kernel.dirs[path]? = some dir → dir < kernel.nextDir
  entry_parent : ∀ {name : String}, .pwmEntry name ∈ kernel.dirs → .root .pwm ∈ kernel.dirs
  watches_lt : ∀ {path : WatchPath} {wd : ℕ}, kernel.watches[path]? = some wd → wd < kernel.nextWatch
  watches_mem : ∀ {path : WatchPath} {wd : ℕ}, kernel.watches[path]? = some wd → path ∈ kernel.dirs
  watches_inj : ∀ {path other : WatchPath} {wd : ℕ}, kernel.watches[path]? = some wd →
    kernel.watches[other]? = some wd → path = other
  ended_lt : ∀ {wd : ℕ}, EndedIn kernel.queue wd → wd < kernel.nextWatch
  ended_dead : ∀ {path : WatchPath} {wd : ℕ}, EndedIn kernel.queue wd → kernel.watches[path]? ≠ some wd

/-- What becomes of the directories and watches that are there: only the watches in `gone` end while their
directory stays. -/
structure Evolves (gone : ℕ → Prop) (kernel kernel' : HotplugKernel) : Prop where
  nextDir_le : kernel.nextDir ≤ kernel'.nextDir
  nextWatch_le : kernel.nextWatch ≤ kernel'.nextWatch
  queue_prefix : kernel.queue <+: kernel'.queue
  dirs_old : ∀ {path : WatchPath} {dir : ℕ}, kernel'.dirs[path]? = some dir → dir < kernel.nextDir →
    kernel.dirs[path]? = some dir
  watches_kept : ∀ {path : WatchPath} {dir wd : ℕ}, kernel'.dirs[path]? = some dir → dir < kernel.nextDir →
    kernel.watches[path]? = some wd → kernel'.watches[path]? = some wd ∨ gone wd
  watches_new : ∀ {path : WatchPath} {wd : ℕ}, kernel'.watches[path]? = some wd →
    kernel.watches[path]? = some wd ∨ kernel.nextWatch ≤ wd
  watches_ended : ∀ {path : WatchPath} {wd : ℕ}, kernel.watches[path]? = some wd →
    kernel'.watches[path]? = some wd ∨ EndedIn kernel'.queue wd

variable {kernel kernel' later : HotplugKernel} {gone : ℕ → Prop}

theorem Evolves.of_watches_eq (hwatches : kernel'.watches = kernel.watches)
    (hnext : kernel'.nextWatch = kernel.nextWatch) (hle : kernel.nextDir ≤ kernel'.nextDir)
    (hqueue : kernel.queue <+: kernel'.queue)
    (hdirs : ∀ {path : WatchPath} {dir : ℕ}, kernel'.dirs[path]? = some dir → dir < kernel.nextDir →
      kernel.dirs[path]? = some dir) : Evolves gone kernel kernel' where
  nextDir_le := hle
  nextWatch_le := Nat.le_of_eq hnext.symm
  queue_prefix := hqueue
  dirs_old := hdirs
  watches_kept := by
    intro path dir wd _ _ hwatch
    rw [hwatches]
    exact .inl hwatch
  watches_new := by
    intro path wd hwatch
    rw [hwatches] at hwatch
    exact .inl hwatch
  watches_ended := by
    intro path wd hwatch
    rw [hwatches]
    exact .inl hwatch

theorem Evolves.refl (gone : ℕ → Prop) (kernel : HotplugKernel) : Evolves gone kernel kernel :=
  Evolves.of_watches_eq rfl rfl (Nat.le_refl _) (List.prefix_refl _) fun hdir _ => hdir

theorem Evolves.trans (h : Evolves gone kernel kernel') (h' : Evolves gone kernel' later) :
    Evolves gone kernel later where
  nextDir_le := Nat.le_trans h.nextDir_le h'.nextDir_le
  nextWatch_le := Nat.le_trans h.nextWatch_le h'.nextWatch_le
  queue_prefix := h.queue_prefix.trans h'.queue_prefix
  dirs_old := by
    intro path dir hdir hlt
    exact h.dirs_old (h'.dirs_old hdir (Nat.lt_of_lt_of_le hlt h.nextDir_le)) hlt
  watches_kept := by
    intro path dir wd hdir hlt hwatch
    have hlt' : dir < kernel'.nextDir := Nat.lt_of_lt_of_le hlt h.nextDir_le
    rcases h.watches_kept (h'.dirs_old hdir hlt') hlt hwatch with hwatch' | hgone
    · exact h'.watches_kept hdir hlt' hwatch'
    · exact .inr hgone
  watches_new := by
    intro path wd hwatch
    rcases h'.watches_new hwatch with hwatch' | hle
    · exact h.watches_new hwatch'
    · exact .inr (Nat.le_trans h.nextWatch_le hle)
  watches_ended := by
    intro path wd hwatch
    rcases h.watches_ended hwatch with hwatch' | hended
    · exact h'.watches_ended hwatch'
    · exact .inr (hended.of_subset fun event hevent => h'.queue_prefix.subset hevent)

section Steps

variable {path : WatchPath} {event : InotifyEvent}

theorem wellFormed_enqueue (h : kernel.WellFormed) (hevent : event.mask ≠ .ignored) :
    (kernel.enqueue event).WellFormed := by
  have hended : ∀ {wd : ℕ}, EndedIn (kernel.queue ++ [event]) wd → EndedIn kernel.queue wd := by
    intro wd hwd
    rcases endedIn_append.mp hwd with hold | hnew
    · exact hold
    · exact absurd (endedIn_singleton.mp hnew).2 hevent
  exact { h with
    ended_lt := fun hwd => h.ended_lt (hended hwd)
    ended_dead := fun hwd => h.ended_dead (hended hwd) }

theorem evolves_enqueue (event : InotifyEvent) (kernel : HotplugKernel) :
    Evolves gone kernel (kernel.enqueue event) :=
  Evolves.of_watches_eq rfl rfl (Nat.le_refl _) (List.prefix_append _ _) fun hdir _ => hdir

theorem mem_pwmEntries {name : String} : name ∈ kernel.pwmEntries ↔ .pwmEntry name ∈ kernel.dirs := by
  rw [pwmEntries, List.mem_filterMap]
  constructor
  · rintro ⟨found, hfound, hname⟩
    cases found with
    | root _ => cases hname
    | pwmEntry _ =>
      cases hname
      exact Std.ExtTreeMap.mem_keys.mp hfound
  · intro h
    exact ⟨.pwmEntry name, Std.ExtTreeMap.mem_keys.mpr h, rfl⟩

theorem wellFormed_create (h : kernel.WellFormed) (path : WatchPath) :
    (kernel.change (.create path)).WellFormed := by
  rw [change]
  by_cases hnew : kernel.CanCreate path
  · rw [if_pos hnew]
    refine { h with dirs_lt := ?_, entry_parent := ?_, watches_mem := ?_ }
    · intro other dir hdir
      rw [BTreeMap.getElem?_insert_eq] at hdir
      by_cases hother : other = path
      · rw [if_pos hother] at hdir
        cases hdir
        exact Nat.lt_succ_self _
      · rw [if_neg hother] at hdir
        exact Nat.lt_succ_of_lt (h.dirs_lt hdir)
    · intro name hname
      rw [BTreeMap.mem_insert_iff] at hname ⊢
      rcases hname with rfl | hname
      · exact .inr hnew.2
      · exact .inr (h.entry_parent hname)
    · intro other wd hwatch
      rw [BTreeMap.mem_insert_iff]
      exact .inr (h.watches_mem hwatch)
  · rw [if_neg hnew]
    exact h

theorem evolves_create (path : WatchPath) (kernel : HotplugKernel) :
    Evolves gone kernel (kernel.change (.create path)) := by
  rw [change]
  by_cases hnew : kernel.CanCreate path
  · rw [if_pos hnew]
    have hold : ∀ {other : WatchPath} {dir : ℕ},
        (kernel.dirs.insert path kernel.nextDir)[other]? = some dir → dir < kernel.nextDir →
          kernel.dirs[other]? = some dir := by
      intro other dir hdir hlt
      rw [BTreeMap.getElem?_insert_eq] at hdir
      by_cases hother : other = path
      · rw [if_pos hother] at hdir
        cases hdir
        exact absurd hlt (Nat.lt_irrefl _)
      · rw [if_neg hother] at hdir
        exact hdir
    exact @Evolves.of_watches_eq kernel _ gone rfl rfl (Nat.le_succ _) (List.prefix_refl _) hold
  · rw [if_neg hnew]
    exact Evolves.refl gone kernel

theorem endWatch_of_none (h : kernel.watches[path]? = none) : kernel.endWatch path = kernel := by
  rw [endWatch, h]

theorem endWatch_of_some {wd : ℕ} (h : kernel.watches[path]? = some wd) :
    kernel.endWatch path = { kernel with
      watches := kernel.watches.erase path
      queue := kernel.queue ++ [⟨wd, .ignored, none⟩] } := by
  rw [endWatch, h]
  rfl

theorem wellFormed_endWatch (h : kernel.WellFormed) {dirs : BTreeMap WatchPath ℕ}
    (hdirs : ∀ {other : WatchPath} {dir : ℕ}, dirs[other]? = some dir → kernel.dirs[other]? = some dir)
    (hmem : ∀ {other : WatchPath}, other ≠ path → other ∈ kernel.dirs → other ∈ dirs)
    (hparent : ∀ {name : String}, .pwmEntry name ∈ dirs → .root .pwm ∈ dirs) :
    ({ kernel with dirs }.endWatch path).WellFormed := by
  cases hwatch : kernel.watches[path]? with
  | none =>
    rw [@endWatch_of_none { kernel with dirs } path hwatch]
    refine { h with dirs_lt := fun hdir => h.dirs_lt (hdirs hdir), entry_parent := hparent, watches_mem := ?_ }
    intro other wd hother
    apply hmem
    · rintro rfl
      rw [hwatch] at hother
      cases hother
    · exact h.watches_mem hother
  | some wd =>
    rw [@endWatch_of_some { kernel with dirs } path wd hwatch]
    have hstill : ∀ {other : WatchPath} {live : ℕ}, (kernel.watches.erase path)[other]? = some live →
        other ≠ path ∧ kernel.watches[other]? = some live :=
      fun hlive => (BTreeMap.getElem?_erase_eq_some kernel.watches).mp hlive
    have hended : ∀ {ended : ℕ}, EndedIn (kernel.queue ++ [⟨wd, .ignored, none⟩]) ended →
        EndedIn kernel.queue ended ∨ wd = ended := by
      intro ended hended
      rcases endedIn_append.mp hended with hold | hnew
      · exact .inl hold
      · exact .inr (endedIn_singleton.mp hnew).1
    exact {
      dirs_lt := fun hdir => h.dirs_lt (hdirs hdir)
      entry_parent := hparent
      watches_lt := fun hlive => h.watches_lt (hstill hlive).2
      watches_mem := fun hlive => hmem (hstill hlive).1 (h.watches_mem (hstill hlive).2)
      watches_inj := fun hlive hother => h.watches_inj (hstill hlive).2 (hstill hother).2
      ended_lt := by
        intro ended hmem
        rcases hended hmem with hold | rfl
        · exact h.ended_lt hold
        · exact h.watches_lt hwatch
      ended_dead := by
        intro other ended hmem hlive
        rcases hended hmem with hold | rfl
        · exact h.ended_dead hold (hstill hlive).2
        · exact (hstill hlive).1 (h.watches_inj (hstill hlive).2 hwatch) }

theorem evolves_endWatch {dirs : BTreeMap WatchPath ℕ}
    (hdirs : ∀ {other : WatchPath} {dir : ℕ}, dirs[other]? = some dir → kernel.dirs[other]? = some dir)
    (hgone : ∀ {wd : ℕ}, kernel.watches[path]? = some wd → path ∈ dirs → gone wd) :
    Evolves gone kernel ({ kernel with dirs }.endWatch path) := by
  cases hwatch : kernel.watches[path]? with
  | none =>
    rw [@endWatch_of_none { kernel with dirs } path hwatch]
    exact @Evolves.of_watches_eq kernel _ gone rfl rfl (Nat.le_refl _) (List.prefix_refl _) fun hdir _ =>
      hdirs hdir
  | some wd =>
    rw [@endWatch_of_some { kernel with dirs } path wd hwatch]
    have hother : ∀ {other : WatchPath} {live : ℕ}, kernel.watches[other]? = some live →
        (other = path ∧ live = wd) ∨ (kernel.watches.erase path)[other]? = some live := by
      intro other live hlive
      by_cases hpath : other = path
      · subst hpath
        rw [hwatch] at hlive
        cases hlive
        exact .inl ⟨rfl, rfl⟩
      · exact .inr ((BTreeMap.getElem?_erase_eq_some kernel.watches).mpr ⟨hpath, hlive⟩)
    exact {
      nextDir_le := Nat.le_refl _
      nextWatch_le := Nat.le_refl _
      queue_prefix := List.prefix_append _ _
      dirs_old := fun hdir _ => hdirs hdir
      watches_kept := by
        intro other dir live hdir _ hlive
        rcases hother hlive with ⟨rfl, rfl⟩ | hkept
        · exact .inr (hgone hwatch ((BTreeMap.mem_iff_exists _ _).mpr ⟨dir, hdir⟩))
        · exact .inl hkept
      watches_new := fun hlive => .inl ((BTreeMap.getElem?_erase_eq_some kernel.watches).mp hlive).2
      watches_ended := by
        intro other live hlive
        rcases hother hlive with ⟨rfl, rfl⟩ | hkept
        · exact .inr (endedIn_append.mpr (.inr (endedIn_singleton.mpr ⟨rfl, rfl⟩)))
        · exact .inl hkept }

theorem wellFormed_removeDir (h : kernel.WellFormed) (path : WatchPath) :
    (kernel.removeDir path).WellFormed := by
  rw [removeDir]
  by_cases hfull : path = .root .pwm ∧ kernel.pwmEntries ≠ []
  · rw [if_pos hfull]
    exact h
  · rw [if_neg hfull]
    apply wellFormed_endWatch h fun hdir => ((BTreeMap.getElem?_erase_eq_some kernel.dirs).mp hdir).2
    · intro other hother hmem
      exact (BTreeMap.mem_erase_iff _ _ _).mpr ⟨hother, hmem⟩
    · intro name hname
      have hentry : .pwmEntry name ∈ kernel.dirs := ((BTreeMap.mem_erase_iff _ _ _).mp hname).2
      have hroot : WatchPath.root .pwm ≠ path := by
        intro hpath
        apply hfull
        refine ⟨hpath.symm, ?_⟩
        exact List.ne_nil_of_mem (mem_pwmEntries.mpr hentry)
      exact (BTreeMap.mem_erase_iff _ _ _).mpr ⟨hroot, h.entry_parent hentry⟩

theorem evolves_removeDir (path : WatchPath) (kernel : HotplugKernel) :
    Evolves gone kernel (kernel.removeDir path) := by
  rw [removeDir]
  by_cases hfull : path = .root .pwm ∧ kernel.pwmEntries ≠ []
  · rw [if_pos hfull]
    exact Evolves.refl gone kernel
  · rw [if_neg hfull]
    apply evolves_endWatch fun hdir => ((BTreeMap.getElem?_erase_eq_some kernel.dirs).mp hdir).2
    intro wd _ hmem
    exact absurd rfl ((BTreeMap.mem_erase_iff _ _ _).mp hmem).1

theorem WellFormed.change (h : kernel.WellFormed) (change : DirChange) :
    (kernel.change change).WellFormed := by
  cases change with
  | create path => exact wellFormed_create h path
  | remove path => exact wellFormed_removeDir h path
  | touch wd name => exact wellFormed_enqueue h nofun
  | overflow => exact wellFormed_enqueue h nofun

theorem evolves_change (kernel : HotplugKernel) (change : DirChange) :
    Evolves gone kernel (kernel.change change) := by
  cases change with
  | create path => exact evolves_create path kernel
  | remove path => exact evolves_removeDir path kernel
  | touch wd name => exact evolves_enqueue _ kernel
  | overflow => exact evolves_enqueue _ kernel

theorem WellFormed.changes (h : kernel.WellFormed) (changes : List DirChange) :
    (changes.foldl HotplugKernel.change kernel).WellFormed := by
  induction changes generalizing kernel with
  | nil => exact h
  | cons change changes ih => exact ih (h.change change)

theorem evolves_changes (changes : List DirChange) (kernel : HotplugKernel) :
    Evolves gone kernel (changes.foldl HotplugKernel.change kernel) := by
  induction changes generalizing kernel with
  | nil => exact Evolves.refl gone kernel
  | cons change changes ih => exact (evolves_change kernel change).trans (ih (kernel.change change))

theorem WellFormed.of_unwatched
    (hdirs : ∀ {path : WatchPath} {dir : ℕ}, kernel.dirs[path]? = some dir → dir < kernel.nextDir)
    (hparent : ∀ {name : String}, .pwmEntry name ∈ kernel.dirs → .root .pwm ∈ kernel.dirs)
    (hwatches : kernel.watches = ∅) (hqueue : kernel.queue = []) : kernel.WellFormed := by
  have hnone : ∀ {path : WatchPath} {wd : ℕ}, kernel.watches[path]? ≠ some wd := by simp [hwatches]
  have hquiet : ∀ {wd : ℕ}, ¬EndedIn kernel.queue wd := by simp [hqueue, EndedIn]
  exact {
    dirs_lt := hdirs
    entry_parent := hparent
    watches_lt := fun hwatch => absurd hwatch hnone
    watches_mem := fun hwatch => absurd hwatch hnone
    watches_inj := fun hwatch => absurd hwatch hnone
    ended_lt := fun hended => absurd hended hquiet
    ended_dead := fun hended => absurd hended hquiet }

theorem wellFormed_initInotify (h : kernel.WellFormed) : kernel.initInotify.2.WellFormed :=
  .of_unwatched h.dirs_lt h.entry_parent rfl rfl

theorem wellFormed_addWatch (h : kernel.WellFormed) (path : WatchPath) :
    (kernel.addWatch path).2.WellFormed := by
  rw [addWatch]
  by_cases hmem : path ∈ kernel.dirs
  · rw [if_pos hmem]
    cases hwatch : kernel.watches[path]? with
    | some wd => exact h
    | none =>
      have hcases : ∀ {other : WatchPath} {wd : ℕ},
          (kernel.watches.insert path kernel.nextWatch)[other]? = some wd →
            (other = path ∧ wd = kernel.nextWatch) ∨ kernel.watches[other]? = some wd := by
        intro other wd hwd
        rw [BTreeMap.getElem?_insert_eq] at hwd
        by_cases hother : other = path
        · rw [if_pos hother] at hwd
          cases hwd
          exact .inl ⟨hother, rfl⟩
        · rw [if_neg hother] at hwd
          exact .inr hwd
      refine { h with
        watches_lt := ?_, watches_mem := ?_, watches_inj := ?_, ended_lt := ?_, ended_dead := ?_ }
      · intro other wd hwd
        rcases hcases hwd with ⟨-, rfl⟩ | hold
        · exact Nat.lt_succ_self _
        · exact Nat.lt_succ_of_lt (h.watches_lt hold)
      · intro other wd hwd
        rcases hcases hwd with ⟨rfl, -⟩ | hold
        · exact hmem
        · exact h.watches_mem hold
      · intro other third wd hwd hwd'
        rcases hcases hwd with ⟨rfl, rfl⟩ | hold
        · rcases hcases hwd' with ⟨rfl, -⟩ | hold'
          · rfl
          · exact absurd (h.watches_lt hold') (Nat.lt_irrefl _)
        · rcases hcases hwd' with ⟨rfl, rfl⟩ | hold'
          · exact absurd (h.watches_lt hold) (Nat.lt_irrefl _)
          · exact h.watches_inj hold hold'
      · intro wd hended
        exact Nat.lt_succ_of_lt (h.ended_lt hended)
      · intro other wd hended hwd
        rcases hcases hwd with ⟨-, rfl⟩ | hold
        · exact absurd (h.ended_lt hended) (Nat.lt_irrefl _)
        · exact h.ended_dead hended hold
  · rw [if_neg hmem]
    exact h

theorem evolves_addWatch (path : WatchPath) (kernel : HotplugKernel) :
    Evolves gone kernel (kernel.addWatch path).2 := by
  rw [addWatch]
  by_cases hmem : path ∈ kernel.dirs
  · rw [if_pos hmem]
    cases hwatch : kernel.watches[path]? with
    | some wd => exact Evolves.refl gone kernel
    | none =>
      have hold : ∀ {other : WatchPath} {wd : ℕ}, kernel.watches[other]? = some wd →
          (kernel.watches.insert path kernel.nextWatch)[other]? = some wd := by
        intro other wd hwd
        rw [BTreeMap.getElem?_insert_ne]
        · exact hwd
        · rintro rfl
          rw [hwatch] at hwd
          cases hwd
      refine { Evolves.refl gone kernel with
        nextWatch_le := Nat.le_succ _, watches_kept := ?_, watches_new := ?_, watches_ended := ?_ }
      · exact fun _ _ hwd => .inl (hold hwd)
      · intro other wd hwd
        rw [BTreeMap.getElem?_insert_eq] at hwd
        by_cases hother : other = path
        · rw [if_pos hother] at hwd
          cases hwd
          exact .inr (Nat.le_refl _)
        · rw [if_neg hother] at hwd
          exact .inl hwd
      · exact fun hwd => .inl (hold hwd)
  · rw [if_neg hmem]
    exact Evolves.refl gone kernel

theorem addWatch_ok {wd : ℕ} (h : (kernel.addWatch path).1 = .ok wd) :
    (kernel.addWatch path).2.watches[path]? = some wd := by
  rw [addWatch] at h ⊢
  by_cases hmem : path ∈ kernel.dirs
  · rw [if_pos hmem] at h ⊢
    cases hwatch : kernel.watches[path]? with
    | some live =>
      rw [hwatch] at h
      cases h
      exact hwatch
    | none =>
      rw [hwatch] at h
      cases h
      exact BTreeMap.getElem?_insert_same _ _ _
  · rw [if_neg hmem] at h
    cases h

theorem removeWatch_cases (wd : ℕ) (kernel : HotplugKernel) :
    (kernel.removeWatch wd).2 = kernel ∨ ∃ path, kernel.watches[path]? = some wd ∧
      (kernel.removeWatch wd).2 = kernel.endWatch path := by
  rw [removeWatch]
  cases hfind : kernel.watches.toList.find? (fun watch => watch.2 = wd) with
  | none => exact .inl rfl
  | some watch =>
    have hmem : watch ∈ kernel.watches.toList := List.mem_of_find?_eq_some hfind
    have hwd : watch.2 = wd := by simpa using List.find?_some hfind
    refine .inr ⟨watch.1, ?_, rfl⟩
    rw [← hwd]
    exact Std.ExtTreeMap.mem_toList_iff_getElem?_eq_some.mp hmem

theorem wellFormed_removeWatch (h : kernel.WellFormed) (wd : ℕ) : (kernel.removeWatch wd).2.WellFormed := by
  rcases removeWatch_cases wd kernel with hsame | ⟨path, -, hend⟩
  · rw [hsame]
    exact h
  · rw [hend]
    exact wellFormed_endWatch h id (fun _ hmem => hmem) h.entry_parent

theorem evolves_removeWatch (wd : ℕ) (kernel : HotplugKernel) :
    Evolves (fun live => live = wd) kernel (kernel.removeWatch wd).2 := by
  rcases removeWatch_cases wd kernel with hsame | ⟨path, hwatch, hend⟩
  · rw [hsame]
    exact Evolves.refl _ kernel
  · rw [hend]
    apply @evolves_endWatch kernel _ path kernel.dirs id
    intro live hlive _
    rw [hwatch] at hlive
    cases hlive
    rfl

end Steps

end HotplugKernel

end Lemnos.Linux
