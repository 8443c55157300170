import Mathlib.Data.List.Sort
import Lemnos.Core.Descriptor

namespace Lemnos.Registry

open Lemnos.Core Library.OrderedMap

inductive DriverMatchLevel where
  | unsupported
  | fallback
  | generic
  | preferred
  | exact
  deriving DecidableEq

instance : Ord DriverMatchLevel := ⟨compareOn DriverMatchLevel.ctorIdx⟩

structure DriverMatch where
  level : DriverMatchLevel
  score : UInt32
  reasons : List String := []
  matchedRule : Option ℕ := none
  deriving DecidableEq

namespace DriverMatch

def isSupported (result : DriverMatch) : Bool :=
  result.level ≠ .unsupported

def compareRank (left right : DriverMatch) : Ordering :=
  (compare left.score right.score).then (compare left.level right.level)

end DriverMatch

inductive ManifestError where
  | emptyDriverId
  | invalidDriverId (id : String) (invalid : Char)
  | missingInterfaces (id : String)
  | invalidStandardInteraction (id interaction : String) (source : CoreError)
  | invalidCustomInteraction (id interaction : String) (source : CoreError)
  | invalidCapability (id capability : String) (source : CoreError)
  deriving DecidableEq

def ManifestError.display : ManifestError → String
  | emptyDriverId => "driver manifest id cannot be empty"
  | invalidDriverId id invalid => s!"driver manifest id '{id}' contains invalid character '{invalid}'"
  | missingInterfaces id => s!"driver manifest '{id}' must declare at least one interface"
  | invalidStandardInteraction id interaction source =>
    s!"driver manifest '{id}' standard interaction '{interaction}' is invalid: {source}"
  | invalidCustomInteraction id interaction source =>
    s!"driver manifest '{id}' custom interaction '{interaction}' is invalid: {source}"
  | invalidCapability id capability source =>
    s!"driver manifest '{id}' capability '{capability}' is invalid: {source}"

instance : ToString ManifestError := ⟨ManifestError.display⟩

structure Driver where
  id : String
  validateManifest : Except ManifestError Unit := .ok ()
  matchResult : DeviceDescriptor → DriverMatch

structure RankedDriver where
  driver : Driver
  matchResult : DriverMatch

structure DriverCandidate where
  driver : Driver
  driverId : String
  matchResult : DriverMatch

namespace RankedDriver

def isSupported (ranked : RankedDriver) : Bool :=
  ranked.matchResult.isSupported

def intoCandidate (ranked : RankedDriver) : DriverCandidate :=
  ⟨ranked.driver, ranked.driver.id, ranked.matchResult⟩

def compareRanked (left right : RankedDriver) : Ordering :=
  ((compare right.isSupported left.isSupported).then
    (right.matchResult.compareRank left.matchResult)).then (compare left.driver.id right.driver.id)

end RankedDriver

inductive RegistryError where
  | duplicateDriverId (driverId : String)
  | invalidManifest (driverId : String) (source : ManifestError)
  | unknownPreferredDriver (driverId : String)
  | noMatchingDriver (deviceId : DeviceId)
  | preferredDriverDidNotMatch (deviceId : DeviceId) (driverId : String)
  | conflictingMatches (deviceId : DeviceId) (driverIds : List String)
  deriving DecidableEq

abbrev RegistryResult := Except RegistryError

def debugDriverId (driverId : String) : String :=
  "DriverId(" ++ driverId.quote ++ ")"

def debugDriverIds (driverIds : List String) : String :=
  "[" ++ ", ".intercalate (driverIds.map debugDriverId) ++ "]"

def RegistryError.display : RegistryError → String
  | duplicateDriverId driverId => s!"driver '{driverId}' is already registered"
  | invalidManifest driverId source => s!"driver '{driverId}' manifest is invalid: {source}"
  | unknownPreferredDriver driverId => s!"preferred driver '{driverId}' is not registered"
  | noMatchingDriver deviceId => s!"device '{deviceId}' has no matching drivers"
  | preferredDriverDidNotMatch deviceId driverId =>
    s!"preferred driver '{driverId}' does not match device '{deviceId}'"
  | conflictingMatches deviceId driverIds =>
    s!"device '{deviceId}' has conflicting top matches: " ++ debugDriverIds driverIds

structure DriverRegistry where
  drivers : List Driver := []
  preferredDrivers : BTreeMap DeviceId String := ∅

namespace DriverRegistry

def driver (registry : DriverRegistry) (id : String) : Option Driver :=
  registry.drivers.find? (fun driver => driver.id = id)

def register (registry : DriverRegistry) (driver : Driver) : RegistryResult DriverRegistry :=
  if (registry.driver driver.id).isSome then .error (.duplicateDriverId driver.id)
  else
    match driver.validateManifest with
    | .error source => .error (.invalidManifest driver.id source)
    | .ok () => .ok { registry with drivers := registry.drivers ++ [driver] }

def preferDriverForDevice (registry : DriverRegistry) (deviceId : DeviceId) (driverId : String) :
    RegistryResult DriverRegistry :=
  if (registry.driver driverId).isNone then .error (.unknownPreferredDriver driverId)
  else .ok { registry with preferredDrivers := registry.preferredDrivers.insert deviceId driverId }

def clearPreferredDriverForDevice (registry : DriverRegistry) (deviceId : DeviceId) : DriverRegistry :=
  { registry with preferredDrivers := registry.preferredDrivers.erase deviceId }

def rankedCandidates (registry : DriverRegistry) (device : DeviceDescriptor) : List RankedDriver :=
  (registry.drivers.map (fun driver => ⟨driver, driver.matchResult device⟩)).insertionSort
    (fun left right => (left.compareRanked right).isLE)

def supportedCandidates (registry : DriverRegistry) (device : DeviceDescriptor) : List RankedDriver :=
  (registry.rankedCandidates device).filter RankedDriver.isSupported

def resolve (registry : DriverRegistry) (device : DeviceDescriptor) : RegistryResult DriverCandidate :=
  let candidates := registry.supportedCandidates device
  match registry.preferredDrivers[device.id]? with
  | some preferredDriverId =>
    match candidates.find? (fun candidate => candidate.driver.id = preferredDriverId) with
    | some candidate => .ok candidate.intoCandidate
    | none => .error (.preferredDriverDidNotMatch device.id preferredDriverId)
  | none =>
    match candidates with
    | [] => .error (.noMatchingDriver device.id)
    | best :: others =>
      let conflicts := (others.takeWhile (fun candidate =>
        candidate.matchResult.score = best.matchResult.score ∧
          candidate.matchResult.level = best.matchResult.level)).map (fun candidate => candidate.driver.id)
      if conflicts.isEmpty then .ok best.intoCandidate
      else .error (.conflictingMatches device.id (best.driver.id :: conflicts))

theorem mem_supportedCandidates {registry : DriverRegistry} {device : DeviceDescriptor}
    {ranked : RankedDriver} : ranked ∈ registry.supportedCandidates device ↔
      ∃ driver ∈ registry.drivers, ranked = ⟨driver, driver.matchResult device⟩ ∧
        (driver.matchResult device).isSupported = true := by
  simp only [supportedCandidates, rankedCandidates, List.mem_filter, List.mem_insertionSort, List.mem_map]
  constructor
  · rintro ⟨⟨driver, hd, rfl⟩, hs⟩
    exact ⟨driver, hd, rfl, hs⟩
  · rintro ⟨driver, hd, rfl, hs⟩
    exact ⟨⟨driver, hd, rfl⟩, hs⟩

theorem resolve_ok {registry : DriverRegistry} {device : DeviceDescriptor} {candidate : DriverCandidate}
    (h : registry.resolve device = .ok candidate) :
    candidate.driver ∈ registry.drivers ∧ candidate.driverId = candidate.driver.id ∧
      candidate.matchResult = candidate.driver.matchResult device ∧
        candidate.matchResult.isSupported = true := by
  have hranked : ∃ ranked ∈ registry.supportedCandidates device, candidate = ranked.intoCandidate := by
    simp only [resolve] at h
    split at h
    · split at h
      · rename_i hfind
        cases h
        exact ⟨_, List.mem_of_find?_eq_some hfind, rfl⟩
      · cases h
    · split at h
      · cases h
      · rename_i best others hcandidates
        split at h
        · cases h
          exact ⟨best, hcandidates ▸ List.mem_cons_self, rfl⟩
        · cases h
  obtain ⟨ranked, hmem, rfl⟩ := hranked
  obtain ⟨driver, hd, rfl, hs⟩ := mem_supportedCandidates.mp hmem
  exact ⟨hd, rfl, rfl, hs⟩

end DriverRegistry

end Lemnos.Registry
