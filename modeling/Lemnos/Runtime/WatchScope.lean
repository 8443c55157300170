import Lemnos.Runtime.Watch

namespace Lemnos

open Lemnos.Core Discovery Library.OrderedMap

variable {config : RuntimeConfig} {context : DiscoveryContext} {probes : List DiscoveryProbe}
  {watchEvents : List InventoryWatchEvent} {interface : InterfaceKind}

def TouchesRequested (context : DiscoveryContext) (watchEvents : List InventoryWatchEvent)
    (interface : InterfaceKind) : Prop :=
  context.wants interface = true ∧ ∃ event ∈ watchEvents, interface ∈ event.interfaces

def ProbeCovers (context : DiscoveryContext) (watchEvents : List InventoryWatchEvent)
    (probe : DiscoveryProbe) : Prop :=
  ∃ interface ∈ probe.interfaces, TouchesRequested context watchEvents interface

theorem mem_touchedInterfaces :
    interface ∈ touchedInterfaces watchEvents ↔ ∃ event ∈ watchEvents, interface ∈ event.interfaces := by
  rw [touchedInterfaces, BTreeSet.mem_collect, List.mem_flatMap]

theorem mem_requestedTouched :
    interface ∈ requestedTouched context (touchedInterfaces watchEvents) ↔
      TouchesRequested context watchEvents interface := by
  rw [TouchesRequested, ← mem_touchedInterfaces, requestedTouched, DiscoveryContext.wants]
  by_cases hall : context.requestedInterfaces.isEmpty = true
  · simp [hall]
  · simp [hall, Std.ExtTreeSet.mem_inter_iff]

theorem mem_probesOf_requestedTouched {probe : DiscoveryProbe} :
    probe ∈ probesOf probes (requestedTouched context (touchedInterfaces watchEvents)) ↔
      probe ∈ probes ∧ ProbeCovers context watchEvents probe := by
  rw [probesOf, List.mem_filter, List.any_eq_true]
  apply and_congr_right'
  constructor
  · rintro ⟨interface, hinterface, hcontains⟩
    exact ⟨interface, hinterface, mem_requestedTouched.mp (Std.ExtTreeSet.contains_iff_mem.mp hcontains)⟩
  · rintro ⟨interface, hinterface, htouched⟩
    exact ⟨interface, hinterface, Std.ExtTreeSet.contains_iff_mem.mpr (mem_requestedTouched.mpr htouched)⟩

theorem requestedTouched_eq_empty
    (h : (requestedTouched context (touchedInterfaces watchEvents)).isEmpty = true) :
    ¬ ∃ interface, TouchesRequested context watchEvents interface := by
  rintro ⟨interface, htouched⟩
  have hmem := mem_requestedTouched.mpr htouched
  rw [Std.ExtTreeSet.isEmpty_iff.mp h] at hmem
  exact Std.ExtTreeSet.not_mem_empty hmem

theorem watchRefreshScope_cases (config : RuntimeConfig) (context : DiscoveryContext)
    (probes : List DiscoveryProbe) (watchEvents : List InventoryWatchEvent) :
    ((∃ probe ∈ probes, ProbeCovers context watchEvents probe) ∧ ∃ interfaces,
      ScopesTo config context probes watchEvents interfaces) ∨
    ((config.watchRefreshMode = .full ∨ ¬ ∃ probe ∈ probes, ProbeCovers context watchEvents probe) ∧
      watchRefreshScope config context probes watchEvents = unscopedRefresh config context probes) := by
  have huncovered : (¬ ∃ interface, TouchesRequested context watchEvents interface) →
      ¬ ∃ probe ∈ probes, ProbeCovers context watchEvents probe := by
    rintro hnone ⟨probe, -, interface, -, htouched⟩
    exact hnone ⟨interface, htouched⟩
  unfold watchRefreshScope
  by_cases hmode : config.watchRefreshMode = .full
  · rw [if_pos hmode, unscopedRefresh, hmode]
    exact .inr ⟨.inl rfl, rfl⟩
  rw [if_neg hmode]
  by_cases htouched : (touchedInterfaces watchEvents).isEmpty = true
  · rw [if_pos htouched]
    refine .inr ⟨.inr (huncovered ?_), rfl⟩
    rintro ⟨interface, -, hevent⟩
    have hmem := mem_touchedInterfaces.mpr hevent
    rw [Std.ExtTreeSet.isEmpty_iff.mp htouched] at hmem
    exact Std.ExtTreeSet.not_mem_empty hmem
  rw [if_neg htouched]
  by_cases hrequested : (requestedTouched context (touchedInterfaces watchEvents)).isEmpty = true
  · rw [if_pos hrequested]
    exact .inr ⟨.inr (huncovered (requestedTouched_eq_empty hrequested)), rfl⟩
  rw [if_neg hrequested]
  cases hprobes : probesOf probes (requestedTouched context (touchedInterfaces watchEvents)) with
  | nil =>
    refine .inr ⟨.inr ?_, rfl⟩
    rintro ⟨probe, hprobe, hcovers⟩
    have hmem := mem_probesOf_requestedTouched.mpr ⟨hprobe, hcovers⟩
    rw [hprobes] at hmem
    exact List.not_mem_nil hmem
  | cons probe rest =>
    have hmem : probe ∈ probesOf probes (requestedTouched context (touchedInterfaces watchEvents)) := by
      rw [hprobes]
      exact List.mem_cons_self
    refine .inl ⟨⟨probe, mem_probesOf_requestedTouched.mp hmem⟩, _, hmode, ?_, rfl, ?_, ?_⟩
    · exact Bool.eq_false_iff.mpr htouched
    · exact Bool.eq_false_iff.mpr hrequested
    · exact List.ne_nil_of_mem hmem

theorem selectProbes_probesOf (h : context.requestedInterfaces.isEmpty = false) :
    selectProbes context (probesOf probes context.requestedInterfaces) = selectProbes context probes := by
  rw [selectProbes, selectProbes, probesOf, List.filterMap_filter]
  congr 1
  funext probe
  by_cases hcovers : probe.interfaces.any context.requestedInterfaces.contains = true
  · rw [if_pos hcovers]
  · have hnone : (selectedInterfaces context probe.interfaces).isEmpty = true := by
      rw [selectedInterfaces, h, List.isEmpty_iff, if_neg Bool.false_ne_true, List.filter_eq_nil_iff]
      intro interface hinterface hwants
      rw [DiscoveryContext.wants, h, Bool.false_or] at hwants
      exact hcovers (List.any_eq_true.mpr ⟨interface, hinterface, hwants⟩)
    rw [if_neg hcovers, selectProbe]
    simp only [if_pos hnone]

theorem unscopedRefresh_eq_some {scope : DiscoveryContext × List DiscoveryProbe}
    (h : unscopedRefresh config context probes = some scope) : scope = (context, probes) := by
  unfold unscopedRefresh at h
  split at h
  · cases h
  · cases h
    rfl
  · cases h
    rfl

theorem watchRefreshScope_sound (config : RuntimeConfig) (context : DiscoveryContext)
    (probes : List DiscoveryProbe) (watchEvents : List InventoryWatchEvent) :
    (∀ scopedContext scopedProbes,
      watchRefreshScope config context probes watchEvents = some (scopedContext, scopedProbes) →
      (scopedContext = context ∧ scopedProbes = probes) ∨
      (scopedContext = { context with requestedInterfaces := scopedContext.requestedInterfaces } ∧
        (∀ interface, interface ∈ scopedContext.requestedInterfaces ↔
          TouchesRequested context watchEvents interface) ∧
        selectProbes scopedContext scopedProbes = selectProbes scopedContext probes)) ∧
    (config.watchRefreshMode = .strictScoped →
      (watchRefreshScope config context probes watchEvents = none ↔
        (¬ ∃ interface, TouchesRequested context watchEvents interface) ∨
          ¬ ∃ probe ∈ probes, ProbeCovers context watchEvents probe)) ∧
    (config.watchRefreshMode ≠ .strictScoped →
      watchRefreshScope config context probes watchEvents ≠ none) := by
  rcases watchRefreshScope_cases config context probes watchEvents with
    ⟨hcovered, interfaces, hscopes⟩ | ⟨huncovered, hunscoped⟩
  · rw [hscopes.watchRefreshScope_eq]
    refine ⟨?_, ?_, ?_⟩
    · rintro scopedContext scopedProbes hscope
      cases hscope
      refine .inr ⟨rfl, ?_, ?_⟩
      · rw [hscopes.interfaces_eq]
        exact fun interface => mem_requestedTouched
      · exact selectProbes_probesOf hscopes.interfaces_nonempty
    · obtain ⟨probe, hprobe, interface, hinterface, htouched⟩ := hcovered
      intro _
      apply iff_of_false
      · exact Option.some_ne_none _
      · rintro (hnone | hnone)
        · exact hnone ⟨interface, htouched⟩
        · exact hnone ⟨probe, hprobe, interface, hinterface, htouched⟩
    · exact fun _ => Option.some_ne_none _
  · rw [hunscoped]
    refine ⟨?_, ?_, ?_⟩
    · intro scopedContext scopedProbes hscope
      have heq := unscopedRefresh_eq_some hscope
      cases heq
      exact .inl ⟨rfl, rfl⟩
    · intro hstrict
      apply iff_of_true
      · rw [unscopedRefresh, hstrict]
      · rcases huncovered with hfull | hnone
        · rw [hstrict] at hfull
          cases hfull
        · exact .inr hnone
    · intro hmode
      rw [unscopedRefresh]
      cases hcase : config.watchRefreshMode with
      | strictScoped => exact absurd hcase hmode
      | fallbackToFull => exact Option.some_ne_none _
      | full => exact Option.some_ne_none _

def gpioAndPwmProbes : List DiscoveryProbe :=
  [⟨"gpio", [.gpio], fun _ => .ok {}⟩, ⟨"pwm", [.pwm], fun _ => .ok {}⟩]

theorem watchRefreshScope_gpio_sound :
    ∃ scope, watchRefreshScope {} {} gpioAndPwmProbes [⟨"hotplug", [.gpio], []⟩] = some scope ∧
      scope.2.length = 1 ∧ selectProbes scope.1 scope.2 = selectProbes scope.1 gpioAndPwmProbes := by
  have hscope : watchRefreshScope {} {} gpioAndPwmProbes [⟨"hotplug", [.gpio], []⟩] =
      some ({ requestedInterfaces := BTreeSet.collect [.gpio] }, gpioAndPwmProbes.take 1) := rfl
  refine ⟨_, hscope, rfl, ?_⟩
  rcases (watchRefreshScope_sound _ _ _ _).1 _ _ hscope with ⟨-, hprobes⟩ | ⟨-, -, hselect⟩
  · exact absurd (congrArg List.length hprobes) (by decide)
  · exact hselect

end Lemnos
