import Lemnos.Library.FirstBest
import Lemnos.Registry.Drivers

namespace Lemnos.Registry

open Lemnos.Core Library Library.OrderedMap

inductive DriverPriority where
  | fallback
  | generic
  | preferred
  | exact
  deriving DecidableEq

def DriverPriority.baseScore : DriverPriority → UInt32
  | fallback => 25
  | generic => 100
  | preferred => 200
  | exact => 300

theorem DriverPriority.baseScore_le (priority : DriverPriority) : priority.baseScore.toNat ≤ 300 := by
  cases priority <;> decide

abbrev ManifestResult := Except ManifestError

inductive MatchCondition where
  | interface (interface : InterfaceKind)
  | kind (kind : DeviceKind)
  | vendor (vendor : String)
  | model (model : String)
  | revision (revision : String)
  | modalias (modalias : String)
  | compatible (compatible : String)
  | capability (capability : CapabilityId)
  | labelEq (key value : String)
  | propertyEq (key : String) (value : Value)
  | hardwareIdEq (key value : String)
  deriving DecidableEq

namespace MatchCondition

def matchesDevice (device : DeviceDescriptor) : MatchCondition → Bool
  | interface expected => device.interface = expected
  | kind expected => device.kind = expected
  | vendor expected => device.matchHints.vendor = some expected
  | model expected => device.matchHints.model = some expected
  | revision expected => device.matchHints.revision = some expected
  | modalias expected => device.matchHints.modalias = some expected
  | compatible expected => device.matchHints.compatible.any (fun value => value = expected)
  | capability expected => device.capabilities.any (fun value => value.id = expected)
  | labelEq key value => device.labels[key]? = some value
  | propertyEq key value => device.properties.lookup key = some value
  | hardwareIdEq key value => device.matchHints.hardwareIds[key]? = some value

def validate (driverId : String) : MatchCondition → ManifestResult Unit
  | capability expected =>
    match Identifier.new "capability id" expected.asStr with
    | .ok _ => .ok ()
    | .error source => .error (.invalidCapability driverId expected.asStr source)
  | _ => .ok ()

end MatchCondition

structure MatchRule where
  description : Option String := none
  score : UInt32
  allOf : List MatchCondition := []
  anyOf : List MatchCondition := []
  noneOf : List MatchCondition := []
  deriving DecidableEq

namespace MatchRule

def matchesDevice (device : DeviceDescriptor) (rule : MatchRule) : Bool :=
  let allMatch := rule.allOf.all (fun condition => condition.matchesDevice device)
  let anyMatch := rule.anyOf.isEmpty || rule.anyOf.any (fun condition => condition.matchesDevice device)
  let noneMatch := rule.noneOf.all (fun condition => !condition.matchesDevice device)
  allMatch && anyMatch && noneMatch

def validate (driverId : String) (rule : MatchRule) : ManifestResult Unit :=
  (rule.allOf ++ rule.anyOf ++ rule.noneOf).forM (MatchCondition.validate driverId)

end MatchRule

inductive InteractionKind where
  | standard
  | custom
  deriving DecidableEq

structure InteractionManifest where
  id : String
  kind : InteractionKind

def InteractionManifest.validate (driverId : String) (interaction : InteractionManifest) : ManifestResult Unit :=
  match Identifier.new "interaction id" interaction.id, interaction.kind with
  | .ok _, _ => .ok ()
  | .error source, .standard => .error (.invalidStandardInteraction driverId interaction.id source)
  | .error source, .custom => .error (.invalidCustomInteraction driverId interaction.id source)

def validateDriverId (id : String) : ManifestResult Unit :=
  if id.isEmpty then .error .emptyDriverId
  else
    match id.toList.find? (fun c => !(isAsciiAlphanumeric c || ['.', '_', '-', ':', '/'].contains c)) with
    | some invalid => .error (.invalidDriverId id invalid)
    | none => .ok ()

structure ManifestMatch where
  matched : Bool
  priority : DriverPriority
  score : UInt32
  reasons : List String
  matchedRule : Option ℕ
  deriving DecidableEq

def ManifestMatch.unsupported (reason : String) : ManifestMatch := ⟨false, .fallback, 0, [reason], none⟩

structure DriverManifest where
  id : String
  summary : String
  interfaces : List InterfaceKind
  kinds : List DeviceKind := []
  priority : DriverPriority := .generic
  standardInteractions : List InteractionManifest := []
  customInteractions : List InteractionManifest := []
  rules : List MatchRule := []

/-- A build with overflow checks stops at a sum past the word; one without them wraps around. -/
def addScore (overflowChecks : Bool) (score bonus : UInt32) : Option UInt32 :=
  if overflowChecks && UInt32.size ≤ score.toNat + bonus.toNat then none else some (score + bonus)

def bestMatchingRule (device : DeviceDescriptor) :
    List MatchRule → ℕ → Option ℕ × UInt32 → Option ℕ × UInt32
  | [], _, best => best
  | rule :: rules, index, best =>
    let best :=
      if rule.matchesDevice device && (best.1.isNone || rule.score > best.2) then (some index, rule.score)
      else best
    bestMatchingRule device rules (index + 1) best

namespace DriverManifest

def validate (manifest : DriverManifest) : ManifestResult Unit := do
  validateDriverId manifest.id
  if manifest.interfaces.isEmpty then throw (.missingInterfaces manifest.id)
  (manifest.standardInteractions ++ manifest.customInteractions).forM (InteractionManifest.validate manifest.id)
  manifest.rules.forM (MatchRule.validate manifest.id)

def supportsInterface (manifest : DriverManifest) (interface : InterfaceKind) : Bool :=
  manifest.interfaces.contains interface

def matchRules (overflowChecks : Bool) (manifest : DriverManifest) (device : DeviceDescriptor)
    (reasons : List String) (score : UInt32) : Option ManifestMatch :=
  if manifest.rules.isEmpty then some ⟨true, manifest.priority, score, reasons, none⟩
  else
    match (bestMatchingRule device manifest.rules 0 (none, 0)).1 with
    | none => some (.unsupported s!"no manifest rules matched device '{device.id}'")
    | some index =>
      manifest.rules[index]?.bind (fun rule => (addScore overflowChecks score rule.score).map (fun score =>
        ⟨true, manifest.priority, score,
          reasons ++ [rule.description.getD s!"match rule #{index} matched"], some index⟩))

def matchDevice (overflowChecks : Bool) (manifest : DriverManifest) (device : DeviceDescriptor) :
    Option ManifestMatch :=
  if !manifest.supportsInterface device.interface then
    some (.unsupported s!"interface '{device.interface}' not supported by manifest '{manifest.id}'")
  else
    let reasons := [s!"interface '{device.interface}' matched"]
    let score := manifest.priority.baseScore
    if manifest.kinds.isEmpty then manifest.matchRules overflowChecks device reasons score
    else if !manifest.kinds.contains device.kind then
      some (.unsupported s!"device kind '{device.kind}' not supported by manifest '{manifest.id}'")
    else
      (addScore overflowChecks score 25).bind (fun score =>
        manifest.matchRules overflowChecks device (reasons ++ [s!"device kind '{device.kind}' matched"]) score)

end DriverManifest

end Lemnos.Registry
