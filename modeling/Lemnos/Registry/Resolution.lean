import Lemnos.Library.Ranking
import Lemnos.Registry.Manifest

namespace Lemnos.Registry

open Lemnos.Core Library.OrderedMap Library.Ranking

structure DriverCandidateSummary where
  driverId : String
  driverSummary : String
  supported : Bool
  priority : DriverPriority
  level : DriverMatchLevel
  score : UInt32
  reasons : List String
  matchedRule : Option ℕ
  deriving DecidableEq

def DriverCandidateSummary.fromCandidate (manifestRef : Driver → DriverManifest) (candidate : DriverCandidate) :
    DriverCandidateSummary where
  driverId := candidate.driverId
  driverSummary := (manifestRef candidate.driver).summary
  supported := candidate.matchResult.isSupported
  priority := (manifestRef candidate.driver).priority
  level := candidate.matchResult.level
  score := candidate.matchResult.score
  reasons := candidate.matchResult.reasons
  matchedRule := candidate.matchResult.matchedRule

structure DriverMatchReport where
  deviceId : DeviceId
  preferredDriverId : Option String
  supported : List DriverCandidateSummary
  rejected : List DriverCandidateSummary

namespace DriverMatchReport

def fromRankedCandidates (manifestRef : Driver → DriverManifest) (deviceId : DeviceId)
    (preferredDriverId : Option String) (ranked : List DriverCandidate) : DriverMatchReport :=
  let summaries := ranked.map (DriverCandidateSummary.fromCandidate manifestRef)
  ⟨deviceId, preferredDriverId, summaries.filter DriverCandidateSummary.supported,
    summaries.filter (fun summary => !summary.supported)⟩

def best (report : DriverMatchReport) : Option DriverCandidateSummary := report.supported.head?

def conflictingTopMatches (report : DriverMatchReport) : List DriverCandidateSummary :=
  match report.best with
  | none => []
  | some best => report.supported.takeWhile (fun candidate =>
      candidate.score = best.score ∧ candidate.level = best.level)

end DriverMatchReport

namespace DriverRegistry

def candidatesFor (registry : DriverRegistry) (device : DeviceDescriptor) : List DriverCandidate :=
  ((registry.rankedCandidates device).filter RankedDriver.isSupported).map RankedDriver.intoCandidate

def matchReport (manifestRef : Driver → DriverManifest) (registry : DriverRegistry) (device : DeviceDescriptor) :
    DriverMatchReport :=
  .fromRankedCandidates manifestRef device.id registry.preferredDrivers[device.id]?
    ((registry.rankedCandidates device).map RankedDriver.intoCandidate)

def bestMatch (registry : DriverRegistry) (device : DeviceDescriptor) : Option DriverCandidate :=
  ((registry.rankedCandidates device).find? RankedDriver.isSupported).map RankedDriver.intoCandidate

end DriverRegistry

instance : Std.TransOrd DriverMatchLevel :=
  inferInstanceAs (Std.TransCmp (compareOn DriverMatchLevel.ctorIdx))

theorem DriverMatchLevel.ctorIdx_injective {a b : DriverMatchLevel} (h : a.ctorIdx = b.ctorIdx) : a = b := by
  cases a <;> cases b <;> first | rfl | cases h

instance : Std.LawfulEqOrd DriverMatchLevel where
  eq_of_compare h := DriverMatchLevel.ctorIdx_injective (Std.LawfulEqOrd.eq_of_compare h)

theorem DriverMatch.compareRank_eq_iff (left right : DriverMatch) :
    left.compareRank right = .eq ↔ left.score = right.score ∧ left.level = right.level := by
  rw [compareRank, Ordering.then_eq_eq, Std.compare_eq_iff_eq, Std.compare_eq_iff_eq]

namespace RankedDriver

def compareMatch (left right : RankedDriver) : Ordering := left.matchResult.compareRank right.matchResult

def id (ranked : RankedDriver) : String := ranked.driver.id

instance : Std.TransCmp compareMatch :=
  inferInstanceAs (Std.TransCmp (compareLex (compareOn (fun ranked : RankedDriver => ranked.matchResult.score))
    (compareOn (fun ranked : RankedDriver => ranked.matchResult.level))))

instance : Std.TransCmp compareRanked :=
  have : Std.TransCmp (fun left right : RankedDriver => compareOn isSupported right left) := .opposite
  have : Std.TransCmp (fun left right : RankedDriver => compareMatch right left) := .opposite
  inferInstanceAs (Std.TransCmp (compareLex
    (compareLex (fun left right : RankedDriver => compareOn isSupported right left)
      (fun left right => compareMatch right left)) (compareOn id)))

theorem compareMatch_eq_iff (left right : RankedDriver) : left.compareMatch right = .eq ↔
    left.matchResult.score = right.matchResult.score ∧ left.matchResult.level = right.matchResult.level :=
  DriverMatch.compareRank_eq_iff _ _

theorem ties_eq (best : RankedDriver) :
    (fun candidate : RankedDriver => decide (candidate.compareMatch best = .eq)) =
    fun candidate => decide (candidate.matchResult.score = best.matchResult.score ∧
      candidate.matchResult.level = best.matchResult.level) := by
  funext candidate
  exact decide_eq_decide.mpr (compareMatch_eq_iff candidate best)

theorem compareRanked_of_supported {left right : RankedDriver} (hleft : left.isSupported = true)
    (hright : right.isSupported = true) : left.compareRanked right = precedence compareMatch id left right := by
  rw [compareRanked, hleft, hright]
  rfl

end RankedDriver

namespace DriverRegistry

variable {registry : DriverRegistry} {device : DeviceDescriptor}

theorem rankedCandidates_sorted (registry : DriverRegistry) (device : DeviceDescriptor) :
    (registry.rankedCandidates device).Pairwise (fun left right => (left.compareRanked right).isLE = true) := by
  have : Std.Total (fun left right : RankedDriver => (left.compareRanked right).isLE = true) := by
    constructor
    intro left right
    by_cases hle : (left.compareRanked right).isLE = true
    · exact .inl hle
    · exact .inr (by rw [Std.OrientedCmp.lt_of_not_isLE hle]; rfl)
  have : IsTrans RankedDriver (fun left right => (left.compareRanked right).isLE = true) :=
    ⟨fun _ _ _ => Std.TransCmp.isLE_trans⟩
  exact List.pairwise_insertionSort _ _

theorem eq_of_compareRanked {drivers : List Driver} (h : (drivers.map Driver.id).Nodup)
    {left right : RankedDriver}
    (hleft : left ∈ drivers.map (fun driver => ⟨driver, driver.matchResult device⟩))
    (hright : right ∈ drivers.map (fun driver => ⟨driver, driver.matchResult device⟩))
    (heq : left.compareRanked right = .eq) : left = right := by
  obtain ⟨driver, hdriver, rfl⟩ := List.mem_map.mp hleft
  obtain ⟨other, hother, rfl⟩ := List.mem_map.mp hright
  have hid : driver.id = other.id := Std.LawfulEqOrd.eq_of_compare (Ordering.then_eq_eq.mp heq).2
  cases List.inj_on_of_nodup_map h hdriver hother hid
  rfl

theorem rankedCandidates_perm (registry : DriverRegistry) (device : DeviceDescriptor) :
    (registry.rankedCandidates device).Perm
      (registry.drivers.map (fun driver => ⟨driver, driver.matchResult device⟩)) :=
  List.perm_insertionSort _ _

theorem rankedCandidates_eq_of_perm (h : (registry.drivers.map Driver.id).Nodup) {drivers : List Driver}
    (hperm : drivers.Perm registry.drivers) :
    ({ registry with drivers } : DriverRegistry).rankedCandidates device = registry.rankedCandidates device := by
  have hsame := hperm.map (fun driver => (⟨driver, driver.matchResult device⟩ : RankedDriver))
  have hnew := rankedCandidates_perm { registry with drivers } device
  have hold := registry.rankedCandidates_perm device
  refine List.Perm.eq_of_pairwise ?_ (rankedCandidates_sorted _ device) (rankedCandidates_sorted _ device)
    ((hnew.trans hsame).trans hold.symm)
  intro left right hleft hright hle hge
  exact eq_of_compareRanked h (hsame.subset (hnew.subset hleft)) (hold.subset hright)
    (Std.OrientedCmp.isLE_antisymm hle hge)

theorem supportedCandidates_strict (h : (registry.drivers.map Driver.id).Nodup) (device : DeviceDescriptor) :
    (registry.supportedCandidates device).Pairwise (fun left right =>
      precedence RankedDriver.compareMatch RankedDriver.id left right = .lt) := by
  have hnodup : (registry.rankedCandidates device).Nodup := by
    refine (rankedCandidates_perm registry device).nodup_iff.mpr ?_
    refine List.Nodup.map_on ?_ (List.Nodup.of_map _ h)
    intro driver _ other _ heq
    exact congrArg RankedDriver.driver heq
  have hstrict :
      (registry.rankedCandidates device).Pairwise (fun left right => left.compareRanked right = .lt) := by
    refine ((rankedCandidates_sorted registry device).and hnodup).imp_of_mem ?_
    rintro left right hleft hright ⟨hle, hne⟩
    have hperm := registry.rankedCandidates_perm device
    have hdiffer : left.compareRanked right ≠ .eq :=
      fun heq => hne (eq_of_compareRanked h (hperm.subset hleft) (hperm.subset hright) heq)
    cases hcompare : left.compareRanked right with
    | lt => rfl
    | eq => exact absurd hcompare hdiffer
    | gt =>
      rw [hcompare] at hle
      cases hle
  refine (hstrict.filter RankedDriver.isSupported).imp_of_mem ?_
  intro left right hleft hright hlt
  rw [← RankedDriver.compareRanked_of_supported (List.mem_filter.mp hleft).2 (List.mem_filter.mp hright).2]
  exact hlt

/-- The driver supports the device, and no driver that does ranks higher. -/
def TopMatch (registry : DriverRegistry) (device : DeviceDescriptor) (driver : Driver) : Prop :=
  driver ∈ registry.drivers ∧ (driver.matchResult device).isSupported = true ∧
    ∀ other ∈ registry.drivers, (other.matchResult device).isSupported = true →
      ((other.matchResult device).compareRank (driver.matchResult device)).isLE = true

def topMatches (registry : DriverRegistry) (device : DeviceDescriptor) : List RankedDriver :=
  topTies RankedDriver.compareMatch (registry.supportedCandidates device)

theorem mem_topMatches (h : (registry.drivers.map Driver.id).Nodup) {ranked : RankedDriver} :
    ranked ∈ registry.topMatches device ↔
      ∃ driver, registry.TopMatch device driver ∧ ranked = ⟨driver, driver.matchResult device⟩ := by
  rw [topMatches, mem_topTies (pairwise_of_strict (supportedCandidates_strict h device))]
  constructor
  · rintro ⟨hmem, hmax⟩
    obtain ⟨driver, hdriver, rfl, hsupported⟩ := mem_supportedCandidates.mp hmem
    refine ⟨driver, ⟨hdriver, hsupported, ?_⟩, rfl⟩
    intro other hother hsupported'
    exact hmax _ (mem_supportedCandidates.mpr ⟨other, hother, rfl, hsupported'⟩)
  · rintro ⟨driver, ⟨hdriver, hsupported, hmax⟩, rfl⟩
    refine ⟨mem_supportedCandidates.mpr ⟨driver, hdriver, rfl, hsupported⟩, ?_⟩
    intro ranked hranked
    obtain ⟨other, hother, rfl, hsupported'⟩ := mem_supportedCandidates.mp hranked
    exact hmax other hother hsupported'

theorem topMatches_ids (h : (registry.drivers.map Driver.id).Nodup) (device : DeviceDescriptor) :
    ((registry.topMatches device).map RankedDriver.id).Pairwise (fun left right => compare left right = .lt) :=
  List.pairwise_map.mpr (topTies_names (supportedCandidates_strict h device))

theorem mem_topMatches_ids (h : (registry.drivers.map Driver.id).Nodup) {driverId : String} :
    driverId ∈ (registry.topMatches device).map RankedDriver.id ↔
      ∃ driver, registry.TopMatch device driver ∧ driver.id = driverId := by
  rw [List.mem_map]
  constructor
  · rintro ⟨ranked, hranked, rfl⟩
    obtain ⟨driver, htop, rfl⟩ := (mem_topMatches h).mp hranked
    exact ⟨driver, htop, rfl⟩
  · rintro ⟨driver, htop, rfl⟩
    exact ⟨_, (mem_topMatches h).mpr ⟨driver, htop, rfl⟩, rfl⟩

theorem resolve_unpreferred (hpreferred : registry.preferredDrivers[device.id]? = none) :
    registry.resolve device =
      match registry.topMatches device with
      | [] => .error (.noMatchingDriver device.id)
      | [best] => .ok best.intoCandidate
      | ties => .error (.conflictingMatches device.id (ties.map RankedDriver.id)) := by
  rw [resolve, hpreferred, topMatches]
  cases registry.supportedCandidates device with
  | nil => rfl
  | cons best others =>
    simp only [topTies, RankedDriver.ties_eq]
    cases others.takeWhile _ with
    | nil => rfl
    | cons second ties => rfl

theorem resolve_preferred {preferred : String}
    (hpreferred : registry.preferredDrivers[device.id]? = some preferred) :
    registry.resolve device =
      match (registry.supportedCandidates device).find? (fun candidate => candidate.driver.id = preferred) with
      | some candidate => .ok candidate.intoCandidate
      | none => .error (.preferredDriverDidNotMatch device.id preferred) := by
  rewrite [resolve, hpreferred]
  rfl

theorem topMatches_eq_nil_iff : registry.topMatches device = [] ↔
    ∀ driver ∈ registry.drivers, (driver.matchResult device).isSupported = false := by
  rw [topMatches, topTies_eq_nil_iff, List.eq_nil_iff_forall_not_mem]
  constructor
  · intro hnone driver hdriver
    by_contra hsupported
    exact hnone _ (mem_supportedCandidates.mpr ⟨driver, hdriver, rfl, by simpa using hsupported⟩)
  · intro hnone ranked hranked
    obtain ⟨driver, hdriver, -, hsupported⟩ := mem_supportedCandidates.mp hranked
    rw [hnone driver hdriver] at hsupported
    cases hsupported

theorem eq_of_increasing {left right : List String}
    (hleft : left.Pairwise (fun first second => compare first second = .lt))
    (hright : right.Pairwise (fun first second => compare first second = .lt))
    (hsame : ∀ driverId, driverId ∈ left ↔ driverId ∈ right) : left = right := by
  have hnodup : ∀ driverIds : List String,
      driverIds.Pairwise (fun first second => compare first second = .lt) → driverIds.Nodup := by
    intro driverIds hsorted
    refine hsorted.imp ?_
    rintro first _ hlt rfl
    rw [Std.compare_self] at hlt
    cases hlt
  refine List.Perm.eq_of_pairwise ?_ hleft hright
    ((List.perm_ext_iff_of_nodup (hnodup left hleft) (hnodup right hright)).mpr hsame)
  intro first second _ _ hlt hgt
  exact absurd hgt (Std.OrientedCmp.not_lt_of_lt hlt)

/-- How a device without a preferred driver is resolved: to the only driver of the highest rank, to the conflict
of those that share it, in order of their ids, or to nothing. -/
structure ResolvesBest (registry : DriverRegistry) (device : DeviceDescriptor) : Prop where
  best : ∀ candidate, registry.resolve device = .ok candidate ↔
    ∃ driver, registry.TopMatch device driver ∧ (∀ other, registry.TopMatch device other → other = driver) ∧
      candidate = ⟨driver, driver.id, driver.matchResult device⟩
  conflicting : ∀ driverIds, registry.resolve device = .error (.conflictingMatches device.id driverIds) ↔
    2 ≤ driverIds.length ∧ driverIds.Pairwise (fun first second => compare first second = .lt) ∧
      ∀ driverId, driverId ∈ driverIds ↔ ∃ driver, registry.TopMatch device driver ∧ driver.id = driverId
  unmatched : registry.resolve device = .error (.noMatchingDriver device.id) ↔
    ∀ driver ∈ registry.drivers, (driver.matchResult device).isSupported = false

section Unpreferred

variable (h : (registry.drivers.map Driver.id).Nodup)
  (hpreferred : registry.preferredDrivers[device.id]? = none)

include h hpreferred

theorem resolve_ok_iff (candidate : DriverCandidate) : registry.resolve device = .ok candidate ↔
    ∃ driver, registry.TopMatch device driver ∧ (∀ other, registry.TopMatch device other → other = driver) ∧
      candidate = ⟨driver, driver.id, driver.matchResult device⟩ := by
  have hmem := fun ranked => @mem_topMatches registry device h ranked
  have hids := topMatches_ids h device
  rw [resolve_unpreferred hpreferred]
  generalize registry.topMatches device = ties at hmem hids
  match ties with
  | [] =>
    refine iff_of_false (by simp) ?_
    rintro ⟨driver, htop, -⟩
    exact List.not_mem_nil ((hmem _).mpr ⟨driver, htop, rfl⟩)
  | [best] =>
    obtain ⟨driver, htop, rfl⟩ := (hmem best).mp List.mem_cons_self
    have honly : ∀ other, registry.TopMatch device other → other = driver := by
      intro other hother
      have hmember := (hmem _).mpr ⟨other, hother, rfl⟩
      exact congrArg RankedDriver.driver (List.mem_singleton.mp hmember)
    constructor
    · intro heq
      cases heq
      exact ⟨driver, htop, honly, rfl⟩
    · rintro ⟨other, hother, -, rfl⟩
      rw [honly other hother]
      rfl
  | best :: second :: ties =>
    refine iff_of_false (by simp) ?_
    rintro ⟨driver, -, honly, -⟩
    obtain ⟨first, hfirst, rfl⟩ := (hmem best).mp List.mem_cons_self
    obtain ⟨other, hother, rfl⟩ := (hmem second).mp (List.mem_cons_of_mem _ List.mem_cons_self)
    have hlt := (List.pairwise_cons.mp hids).1 _ List.mem_cons_self
    rw [honly first hfirst, honly other hother, Std.compare_self] at hlt
    cases hlt

theorem resolve_conflict_iff (driverIds : List String) :
    registry.resolve device = .error (.conflictingMatches device.id driverIds) ↔
      2 ≤ driverIds.length ∧ driverIds.Pairwise (fun first second => compare first second = .lt) ∧
        ∀ driverId, driverId ∈ driverIds ↔ ∃ driver, registry.TopMatch device driver ∧ driver.id = driverId := by
  have hids := topMatches_ids h device
  have hidsMem := fun driverId => @mem_topMatches_ids registry device h driverId
  rw [resolve_unpreferred hpreferred]
  generalize registry.topMatches device = ties at hids hidsMem
  constructor
  · intro heq
    match ties with
    | best :: second :: ties =>
      cases heq
      exact ⟨by simp, hids, hidsMem⟩
  · rintro ⟨hlength, hsorted, hmembers⟩
    have hsame : driverIds = ties.map RankedDriver.id :=
      eq_of_increasing hsorted hids (fun driverId => (hmembers driverId).trans (hidsMem driverId).symm)
    rw [hsame, List.length_map] at hlength
    match ties with
    | best :: second :: ties => rw [hsame]

omit h in
theorem resolve_unmatched_iff : registry.resolve device = .error (.noMatchingDriver device.id) ↔
    ∀ driver ∈ registry.drivers, (driver.matchResult device).isSupported = false := by
  rw [resolve_unpreferred hpreferred, ← topMatches_eq_nil_iff]
  match registry.topMatches device with
  | [] => simp
  | [best] => simp
  | best :: second :: ties => simp

theorem resolvesBest : registry.ResolvesBest device :=
  ⟨resolve_ok_iff h hpreferred, resolve_conflict_iff h hpreferred, resolve_unmatched_iff hpreferred⟩

end Unpreferred

/-- How a device with a preferred driver is resolved: to that driver if it supports the device, else not. -/
structure ResolvesPreferred (registry : DriverRegistry) (device : DeviceDescriptor) (preferred : String) :
    Prop where
  accepted : ∀ candidate, registry.resolve device = .ok candidate ↔
    ∃ driver ∈ registry.drivers, driver.id = preferred ∧ (driver.matchResult device).isSupported = true ∧
      candidate = ⟨driver, driver.id, driver.matchResult device⟩
  refused : registry.resolve device = .error (.preferredDriverDidNotMatch device.id preferred) ↔
    ∀ driver ∈ registry.drivers, driver.id = preferred → (driver.matchResult device).isSupported = false

theorem resolvesPreferred (h : (registry.drivers.map Driver.id).Nodup) {preferred : String}
    (hpreferred : registry.preferredDrivers[device.id]? = some preferred) :
    registry.ResolvesPreferred device preferred := by
  have hresolve := resolve_preferred hpreferred
  cases hfind : (registry.supportedCandidates device).find?
      (fun candidate => candidate.driver.id = preferred) with
  | none =>
    rw [hfind] at hresolve
    have hnone : ∀ driver ∈ registry.drivers, driver.id = preferred →
        (driver.matchResult device).isSupported = false := by
      intro driver hdriver hid
      by_contra hsupported
      have hmissed := List.find?_eq_none.mp hfind _
        (mem_supportedCandidates.mpr ⟨driver, hdriver, rfl, by simpa using hsupported⟩)
      exact hmissed (by simp [hid])
    refine ⟨?_, iff_of_true hresolve hnone⟩
    intro candidate
    rw [hresolve]
    refine iff_of_false (by simp) ?_
    rintro ⟨driver, hdriver, hid, hsupported, -⟩
    rw [hnone driver hdriver hid] at hsupported
    cases hsupported
  | some found =>
    rw [hfind] at hresolve
    obtain ⟨driver, hdriver, rfl, hsupported⟩ :=
      mem_supportedCandidates.mp (List.mem_of_find?_eq_some hfind)
    have hid : driver.id = preferred := by simpa using List.find?_some hfind
    refine ⟨?_, ?_⟩
    · intro candidate
      rw [hresolve]
      constructor
      · intro heq
        cases heq
        exact ⟨driver, hdriver, hid, hsupported, rfl⟩
      · rintro ⟨other, hother, hotherId, -, rfl⟩
        rw [List.inj_on_of_nodup_map h hother hdriver (hotherId.trans hid.symm)]
        rfl
    · rw [hresolve]
      refine iff_of_false (by simp) ?_
      intro hnone
      rw [hnone driver hdriver hid] at hsupported
      cases hsupported

/-- What the ways to ask about a device have in common with what it is resolved to. -/
structure QueriesAgree (manifestRef : Driver → DriverManifest) (registry : DriverRegistry)
    (device : DeviceDescriptor) : Prop where
  supported : (registry.matchReport manifestRef device).supported =
    (registry.candidatesFor device).map (DriverCandidateSummary.fromCandidate manifestRef)
  first : registry.bestMatch device = (registry.candidatesFor device).head?
  resolved : ∀ candidate, registry.resolve device = .ok candidate → registry.bestMatch device = some candidate
  conflicts : ∀ driverIds, registry.resolve device = .error (.conflictingMatches device.id driverIds) →
    (registry.matchReport manifestRef device).conflictingTopMatches.map DriverCandidateSummary.driverId =
      driverIds

theorem candidatesFor_eq : registry.candidatesFor device =
    (registry.supportedCandidates device).map RankedDriver.intoCandidate := rfl

theorem matchReport_supported (manifestRef : Driver → DriverManifest) :
    (registry.matchReport manifestRef device).supported =
      (registry.candidatesFor device).map (DriverCandidateSummary.fromCandidate manifestRef) := by
  simp only [matchReport, DriverMatchReport.fromRankedCandidates, candidatesFor, List.filter_map, List.map_map]
  rfl

theorem bestMatch_eq : registry.bestMatch device = (registry.candidatesFor device).head? := by
  rw [bestMatch, candidatesFor, List.head?_map, List.head?_filter]

theorem conflictingTopMatches_ids (manifestRef : Driver → DriverManifest) :
    (registry.matchReport manifestRef device).conflictingTopMatches.map DriverCandidateSummary.driverId =
      (registry.topMatches device).map RankedDriver.id := by
  rw [DriverMatchReport.conflictingTopMatches, DriverMatchReport.best, matchReport_supported, candidatesFor_eq,
    topMatches]
  cases registry.supportedCandidates device with
  | nil => rfl
  | cons best others =>
    simp only [List.map_cons, List.head?_cons, topTies, RankedDriver.ties_eq]
    rw [List.takeWhile_cons_of_pos (by simp), List.map_cons, List.map_map, List.takeWhile_map, List.map_map]
    rfl

theorem queriesAgree (manifestRef : Driver → DriverManifest)
    (hpreferred : registry.preferredDrivers[device.id]? = none) : registry.QueriesAgree manifestRef device where
  supported := matchReport_supported manifestRef
  first := bestMatch_eq
  resolved := by
    intro candidate hok
    rw [bestMatch_eq, candidatesFor_eq]
    rw [resolve, hpreferred] at hok
    cases hsupported : registry.supportedCandidates device with
    | nil =>
      rw [hsupported] at hok
      cases hok
    | cons best others =>
      simp only [hsupported] at hok
      split at hok
      · cases hok
        rfl
      · cases hok
  conflicts := by
    intro driverIds hconflict
    rw [conflictingTopMatches_ids]
    rw [resolve_unpreferred hpreferred] at hconflict
    split at hconflict
    · cases hconflict
    · cases hconflict
    · cases hconflict
      rfl

theorem resolve_picks_best (manifestRef : Driver → DriverManifest) (registry : DriverRegistry)
    (h : (registry.drivers.map Driver.id).Nodup) (device : DeviceDescriptor) :
    (registry.preferredDrivers[device.id]? = none →
      registry.ResolvesBest device ∧ registry.QueriesAgree manifestRef device) ∧
    (∀ preferred, registry.preferredDrivers[device.id]? = some preferred →
      registry.ResolvesPreferred device preferred) ∧
    ∀ drivers, drivers.Perm registry.drivers →
      ({ registry with drivers } : DriverRegistry).resolve device = registry.resolve device := by
  refine ⟨?_, ?_, ?_⟩
  · intro hpreferred
    exact ⟨resolvesBest h hpreferred, queriesAgree manifestRef hpreferred⟩
  · intro preferred hpreferred
    exact resolvesPreferred h hpreferred
  · intro drivers hperm
    simp only [resolve, supportedCandidates, rankedCandidates_eq_of_perm h hperm]

def exactDriver (id : String) : Driver := { id, matchResult := fun _ => ⟨.exact, 100, [], none⟩ }

def silentManifest (driver : Driver) : DriverManifest := { id := driver.id, summary := "", interfaces := [.gpio] }

theorem resolve_picks_best_tied : ∃ registry : DriverRegistry,
    registry.drivers = [exactDriver "lemnos.gpio", exactDriver "acme.gpio"] ∧
      registry.resolve gpioLineDescriptor =
        .error (.conflictingMatches gpioLine ["acme.gpio", "lemnos.gpio"]) ∧
      registry.ResolvesBest gpioLineDescriptor ∧ registry.QueriesAgree silentManifest gpioLineDescriptor :=
  ⟨{ drivers := [exactDriver "lemnos.gpio", exactDriver "acme.gpio"] }, rfl, by rfl,
    (resolve_picks_best silentManifest { drivers := [exactDriver "lemnos.gpio", exactDriver "acme.gpio"] }
      (by decide) gpioLineDescriptor).1 (by rfl)⟩

end DriverRegistry

end Lemnos.Registry
