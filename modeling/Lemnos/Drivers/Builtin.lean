import Mathlib.Data.List.Find
import Lemnos.Drivers.Refusals
import Lemnos.Registry.Resolution
import Lemnos.Registry.Scoring

namespace Lemnos.Registry

def DriverMatchLevel.ofPriority : DriverPriority → DriverMatchLevel
  | .fallback => .fallback
  | .generic => .generic
  | .preferred => .preferred
  | .exact => .exact

def DriverMatch.ofManifestMatch (value : ManifestMatch) : DriverMatch :=
  if !value.matched then
    { level := .unsupported, score := 0, reasons := value.reasons, matchedRule := value.matchedRule }
  else
    { level := .ofPriority value.priority
      score := value.score
      reasons := value.reasons
      matchedRule := value.matchedRule }

theorem DriverMatch.score_le {left right : DriverMatch} (h : (left.compareRank right).isLE = true) :
    left.score ≤ right.score :=
  Std.isLE_compare.mp (Ordering.isLE_left_of_isLE_then h)

theorem DriverMatch.compareRank_of_lt {left right : DriverMatch} (h : left.score < right.score) :
    (left.compareRank right).isLE = true := by
  rw [compareRank, Std.compare_eq_lt.mpr h]
  rfl

end Lemnos.Registry

namespace Lemnos.DriverSdk.GenericSessionDriver

open Lemnos.Core Registry DriverManifest

variable (overflowChecks : Bool) (driver : GenericSessionDriver) (device : DeviceDescriptor)

@[simp] theorem manifest_kinds : driver.manifest.kinds = driver.kinds := rfl

@[simp] theorem manifest_interfaces : driver.manifest.interfaces = [driver.interface] := rfl

/-- The scores of a manifest without rules stay small, so the computation does not panic. -/
theorem matchDevice_isSome : (driver.manifest.matchDevice overflowChecks device).isSome = true := by
  have hbase : driver.manifest.priority.baseScore = 100 := rfl
  have hadd : addScore overflowChecks 100 25 = some 125 := by
    cases overflowChecks <;> decide
  have hrules (reasons : List String) (score : UInt32) :
      (driver.manifest.matchRules overflowChecks device reasons score).isSome = true := rfl
  rw [matchDevice]
  split
  · rfl
  · simp only [hbase, hadd, Option.bind_some]
    split
    · exact hrules _ _
    · split
      · rfl
      · exact hrules _ _

def matchResult : DriverMatch :=
  .ofManifestMatch ((driver.manifest.matchDevice overflowChecks device).get
    (driver.matchDevice_isSome overflowChecks device))

def registered : Driver where
  id := driver.id
  validateManifest := driver.manifest.validate
  matchResult := driver.matchResult overflowChecks

def Handles (device : DeviceDescriptor) : Prop :=
  device.interface = driver.interface ∧ (driver.kinds = [] ∨ device.kind ∈ driver.kinds)

instance : Decidable (driver.Handles device) := inferInstanceAs (Decidable (_ ∧ _))

theorem matchResult_of_handles (h : driver.Handles device) :
    (driver.matchResult overflowChecks device).isSupported = true ∧
      (driver.matchResult overflowChecks device).level = .generic ∧
      (driver.matchResult overflowChecks device).score.toNat = driver.manifest.ownScore := by
  have hsupports : driver.manifest.Supports device := by
    refine ⟨?_, h.2, .inl rfl⟩
    rw [h.1]
    exact List.mem_singleton_self _
  obtain ⟨reasons, score, hscore, hanswer⟩ := @matchDevice_eq overflowChecks device _ hsupports
  have hget : (driver.manifest.matchDevice overflowChecks device).get
      (driver.matchDevice_isSome overflowChecks device) = ⟨true, .generic, score, reasons, none⟩ := by
    simp only [hanswer]
    rfl
  rw [matchResult, hget]
  exact ⟨rfl, rfl, hscore⟩

theorem matchResult_of_not_handles (h : ¬ driver.Handles device) :
    (driver.matchResult overflowChecks device).isSupported = false := by
  have hanswer : ∃ reason,
      driver.manifest.matchDevice overflowChecks device = some (.unsupported reason) := by
    have hlisted : driver.manifest.supportsInterface device.interface =
        decide (device.interface = driver.interface) := by
      simp [supportsInterface]
    by_cases hinterface : device.interface = driver.interface
    · have hkinds : ¬ (driver.kinds = [] ∨ device.kind ∈ driver.kinds) := fun hkinds => h ⟨hinterface, hkinds⟩
      obtain ⟨hsome, hkind⟩ := not_or.mp hkinds
      have hempty : driver.manifest.kinds.isEmpty = false := by simpa using hsome
      have hother : driver.manifest.kinds.contains device.kind = false := by simpa using hkind
      refine ⟨s!"device kind '{device.kind}' not supported by manifest '{driver.manifest.id}'", ?_⟩
      rw [matchDevice, hlisted, decide_eq_true hinterface]
      simp only [hempty, hother]
      rfl
    · refine ⟨s!"interface '{device.interface}' not supported by manifest '{driver.manifest.id}'", ?_⟩
      rw [matchDevice, hlisted, decide_eq_false hinterface]
      rfl
  obtain ⟨reason, hanswer⟩ := hanswer
  have hget : (driver.manifest.matchDevice overflowChecks device).get
      (driver.matchDevice_isSome overflowChecks device) = .unsupported reason := by
    simp only [hanswer, Option.get_some]
  rw [matchResult, hget]
  rfl

end Lemnos.DriverSdk.GenericSessionDriver

namespace Lemnos.Registry.DriverRegistry

open Lemnos.Core

variable {registry : DriverRegistry}

theorem driver_isSome_iff (id : String) :
    (registry.driver id).isSome = true ↔ id ∈ registry.drivers.map Driver.id := by
  simp [driver]

theorem register_of_new {driver : Driver} (hnew : (registry.driver driver.id).isSome = false)
    (hvalid : driver.validateManifest = .ok ()) :
    registry.register driver = .ok { registry with drivers := registry.drivers ++ [driver] } := by
  rw [register, hnew, hvalid]
  rfl

theorem registerAll (drivers : List Driver) (hids : (drivers.map Driver.id).Nodup)
    (hvalid : ∀ driver ∈ drivers, driver.validateManifest = .ok ()) :
    drivers.foldlM register registry =
      (drivers.find? fun driver => (registry.driver driver.id).isSome).elim
        (.ok { registry with drivers := registry.drivers ++ drivers })
        fun driver => .error (.duplicateDriverId driver.id) := by
  induction drivers generalizing registry with
  | nil => simp [pure, Except.pure]
  | cons driver drivers ih =>
    obtain ⟨hfirst, hrest⟩ := List.nodup_cons.mp hids
    rw [List.foldlM_cons]
    cases hknown : (registry.driver driver.id).isSome with
    | true =>
      rw [register, hknown, List.find?_cons, hknown]
      rfl
    | false =>
      have hsame : ∀ other ∈ drivers,
          ((({ registry with drivers := registry.drivers ++ [driver] } : DriverRegistry).driver other.id).isSome =
            (registry.driver other.id).isSome) := by
        intro other hother
        have hne : other.id ≠ driver.id := fun heq => hfirst (heq ▸ List.mem_map_of_mem hother)
        rw [Bool.eq_iff_iff, driver_isSome_iff, driver_isSome_iff]
        simp [hne]
      rw [register_of_new hknown (hvalid driver List.mem_cons_self), List.find?_cons, hknown]
      refine (ih hrest fun other hother => hvalid other (List.mem_cons_of_mem _ hother)).trans ?_
      rw [List.find?_congr hsame, List.append_assoc]
      rfl

theorem resolve_eq_of_topMatch {registered : DriverRegistry} {device : DeviceDescriptor}
    (hids : (registry.drivers.map Driver.id).Nodup) (hids' : (registered.drivers.map Driver.id).Nodup)
    (hpreferred : registry.preferredDrivers[device.id]? = none)
    (hpreferred' : registered.preferredDrivers[device.id]? = none)
    (h : ∀ driver, registered.TopMatch device driver ↔ registry.TopMatch device driver) :
    registered.resolve device = registry.resolve device := by
  have hsorted := List.pairwise_map.mp (topMatches_ids hids device)
  have hsorted' := List.pairwise_map.mp (topMatches_ids hids' device)
  have hmem : ∀ ranked, ranked ∈ registered.topMatches device ↔ ranked ∈ registry.topMatches device := by
    intro ranked
    simp only [mem_topMatches hids, mem_topMatches hids', h]
  have hnodup : ∀ ties : List RankedDriver,
      ties.Pairwise (fun left right => compare left.id right.id = .lt) → ties.Nodup := by
    intro ties hties
    refine hties.imp ?_
    rintro left _ hlt rfl
    rw [Std.compare_self] at hlt
    cases hlt
  have hties : registered.topMatches device = registry.topMatches device := by
    refine List.Perm.eq_of_pairwise ?_ hsorted' hsorted
      ((List.perm_ext_iff_of_nodup (hnodup _ hsorted') (hnodup _ hsorted)).mpr hmem)
    intro left right _ _ hlt hgt
    exact absurd hgt (Std.OrientedCmp.not_lt_of_lt hlt)
  rw [resolve_unpreferred hpreferred, resolve_unpreferred hpreferred', hties]

end Lemnos.Registry.DriverRegistry

namespace Lemnos.BuiltInDriverBundle

open Lemnos.Core Registry DriverSdk Drivers

def driverIds : List String :=
  ["lemnos.gpio.generic", "lemnos.pwm.generic", "lemnos.i2c.generic", "lemnos.spi.generic", "lemnos.uart.generic",
    "lemnos.usb.generic"]

def drivers : List GenericSessionDriver := [gpioDriver, pwmDriver, i2cDriver, spiDriver, uartDriver, usbDriver]

def registerInto (overflowChecks : Bool) (registry : DriverRegistry) : RegistryResult DriverRegistry :=
  (drivers.map (GenericSessionDriver.registered overflowChecks)).foldlM DriverRegistry.register registry

theorem drivers_ids : drivers.map GenericSessionDriver.id = driverIds := rfl

theorem driverIds_nodup : driverIds.Nodup := by decide

theorem interfaces_nodup : (drivers.map GenericSessionDriver.interface).Nodup := by decide

theorem manifest_valid : ∀ driver ∈ drivers, driver.manifest.validate = .ok () := by
  simp only [drivers, List.forall_mem_cons]
  refine ⟨?_, ?_, ?_, ?_, ?_, ?_, fun _ hnone => absurd hnone List.not_mem_nil⟩ <;> rfl

theorem declared : ∀ driver ∈ drivers,
    driver.kinds ≠ [] ∧ (∀ kind ∈ driver.kinds, kind.interface = driver.interface) ∧
      driver.manifest.ownScore = 125 := by
  decide

theorem driverFor_mem (interface : InterfaceKind) : driverFor interface ∈ drivers := by
  cases interface <;> simp [driverFor, drivers]

theorem driverFor_interface (interface : InterfaceKind) : (driverFor interface).interface = interface := by
  cases interface <;> rfl

theorem eq_driverFor {driver : GenericSessionDriver} (hdriver : driver ∈ drivers) :
    driver = driverFor driver.interface :=
  List.inj_on_of_nodup_map interfaces_nodup hdriver (driverFor_mem _) (driverFor_interface _).symm

theorem driverFor_kinds (interface : InterfaceKind) :
    ∀ kind ∈ (driverFor interface).kinds, kind.interface = interface := by
  intro kind hkind
  rw [(declared _ (driverFor_mem interface)).2.1 kind hkind, driverFor_interface]

variable {overflowChecks : Bool} {registry registered : DriverRegistry} {device : DeviceDescriptor}

theorem registered_ids : (drivers.map (GenericSessionDriver.registered overflowChecks)).map Driver.id = driverIds := by
  rw [List.map_map]
  exact drivers_ids

theorem registerInto_eq : registerInto overflowChecks registry =
    ((drivers.map (GenericSessionDriver.registered overflowChecks)).find?
        fun driver => (registry.driver driver.id).isSome).elim
      (.ok { registry with
        drivers := registry.drivers ++ drivers.map (GenericSessionDriver.registered overflowChecks) })
      fun driver => .error (.duplicateDriverId driver.id) := by
  refine DriverRegistry.registerAll _ ?_ ?_
  · rw [registered_ids]
    exact driverIds_nodup
  · intro driver hdriver
    obtain ⟨builtin, hbuiltin, rfl⟩ := List.mem_map.mp hdriver
    exact manifest_valid builtin hbuiltin

theorem registerInto_ok (h : registerInto overflowChecks registry = .ok registered) :
    registered = { registry with
      drivers := registry.drivers ++ drivers.map (GenericSessionDriver.registered overflowChecks) } ∧
      ∀ id ∈ driverIds, id ∉ registry.drivers.map Driver.id := by
  rw [registerInto_eq] at h
  cases hclash : (drivers.map (GenericSessionDriver.registered overflowChecks)).find?
      fun driver => (registry.driver driver.id).isSome with
  | some driver =>
    rw [hclash] at h
    cases h
  | none =>
    rw [hclash] at h
    refine ⟨(Except.ok.inj h).symm, ?_⟩
    intro id hid htaken
    rw [← @registered_ids overflowChecks] at hid
    obtain ⟨driver, hdriver, rfl⟩ := List.mem_map.mp hid
    exact List.find?_eq_none.mp hclash driver hdriver ((DriverRegistry.driver_isSome_iff _).mpr htaken)

theorem registerInto_of_new (hnew : ∀ id ∈ driverIds, id ∉ registry.drivers.map Driver.id) :
    registerInto overflowChecks registry = .ok { registry with
      drivers := registry.drivers ++ drivers.map (GenericSessionDriver.registered overflowChecks) } := by
  have hclash : (drivers.map (GenericSessionDriver.registered overflowChecks)).find?
      (fun driver => (registry.driver driver.id).isSome) = none := by
    apply List.find?_eq_none.mpr
    intro driver hdriver htaken
    have hid : driver.id ∈ driverIds := by
      rw [← @registered_ids overflowChecks]
      exact List.mem_map_of_mem hdriver
    exact hnew driver.id hid ((DriverRegistry.driver_isSome_iff _).mp htaken)
  rw [registerInto_eq, hclash]
  rfl

theorem registered_nodup (h : registerInto overflowChecks registry = .ok registered)
    (hids : (registry.drivers.map Driver.id).Nodup) : (registered.drivers.map Driver.id).Nodup := by
  obtain ⟨rfl, hnew⟩ := registerInto_ok h
  rw [List.map_append, registered_ids, List.nodup_append]
  refine ⟨hids, driverIds_nodup, ?_⟩
  rintro id hid _ hbuiltin rfl
  exact hnew id hbuiltin hid

theorem handles_iff (hvalid : device.validate = .ok ()) {driver : GenericSessionDriver} (hdriver : driver ∈ drivers) :
    driver.Handles device ↔ device.kind ∈ driver.kinds := by
  obtain ⟨hkinds, hinterfaces, -⟩ := declared driver hdriver
  have hown := ((DeviceDescriptor.validate_iff device).mp hvalid).1
  constructor
  · rintro ⟨-, hnone | hkind⟩
    · exact absurd hnone hkinds
    · exact hkind
  · intro hkind
    exact ⟨hown.symm.trans (hinterfaces _ hkind), .inr hkind⟩

theorem supported_iff (h : registerInto overflowChecks registry = .ok registered)
    (hothers : ∀ driver ∈ registry.drivers, (driver.matchResult device).isSupported = false)
    {other : Driver} : other ∈ registered.drivers ∧ (other.matchResult device).isSupported = true ↔
      ∃ driver ∈ drivers, driver.Handles device ∧ other = driver.registered overflowChecks := by
  obtain ⟨rfl, -⟩ := registerInto_ok h
  constructor
  · rintro ⟨hother, hsupported⟩
    rcases List.mem_append.mp hother with hother | hother
    · rw [hothers other hother] at hsupported
      cases hsupported
    · obtain ⟨driver, hdriver, rfl⟩ := List.mem_map.mp hother
      refine ⟨driver, hdriver, ?_, rfl⟩
      by_contra hnot
      rw [show (driver.registered overflowChecks).matchResult device = driver.matchResult overflowChecks device from rfl,
        driver.matchResult_of_not_handles overflowChecks device hnot] at hsupported
      cases hsupported
  · rintro ⟨driver, hdriver, hhandles, rfl⟩
    refine ⟨List.mem_append_right _ (List.mem_map_of_mem hdriver), ?_⟩
    exact (driver.matchResult_of_handles overflowChecks device hhandles).1

theorem topMatch_iff (h : registerInto overflowChecks registry = .ok registered)
    (hothers : ∀ driver ∈ registry.drivers, (driver.matchResult device).isSupported = false)
    {driver : GenericSessionDriver} (hdriver : driver ∈ drivers) (hhandles : driver.Handles device)
    {other : Driver} :
    registered.TopMatch device other ↔ other = driver.registered overflowChecks := by
  have honly : ∀ other, other ∈ registered.drivers ∧ (other.matchResult device).isSupported = true ↔
      other = driver.registered overflowChecks := by
    intro other
    rw [supported_iff h hothers]
    constructor
    · rintro ⟨builtin, hbuiltin, hhandles', rfl⟩
      have hsame : builtin.interface = driver.interface := hhandles'.1.symm.trans hhandles.1
      rw [List.inj_on_of_nodup_map interfaces_nodup hbuiltin hdriver hsame]
    · rintro rfl
      exact ⟨driver, hdriver, hhandles, rfl⟩
  constructor
  · rintro ⟨hother, hsupported, -⟩
    exact (honly other).mp ⟨hother, hsupported⟩
  · rintro rfl
    obtain ⟨hmem, hsupported⟩ := (honly _).mpr rfl
    refine ⟨hmem, hsupported, ?_⟩
    intro other hother hsupported'
    rw [(honly other).mp ⟨hother, hsupported'⟩, DriverMatch.compareRank, Std.compare_self, Std.compare_self]
    rfl

theorem resolve_builtin (hids : (registry.drivers.map Driver.id).Nodup)
    (h : registerInto overflowChecks registry = .ok registered) (hvalid : device.validate = .ok ())
    (hpreferred : registry.preferredDrivers[device.id]? = none)
    (hothers : ∀ driver ∈ registry.drivers, (driver.matchResult device).isSupported = false)
    {driver : GenericSessionDriver} (hdriver : driver ∈ drivers) (hkind : device.kind ∈ driver.kinds) :
    registered.resolve device =
      .ok ⟨driver.registered overflowChecks, driver.id, driver.matchResult overflowChecks device⟩ := by
  have hpreferred' : registered.preferredDrivers[device.id]? = none := by
    rw [(registerInto_ok h).1]
    exact hpreferred
  have hbest := DriverRegistry.resolvesBest (registered_nodup h hids) hpreferred'
  have hhandles := (handles_iff hvalid hdriver).mpr hkind
  refine (hbest.best _).mpr ⟨driver.registered overflowChecks, ?_, ?_, rfl⟩
  · exact (topMatch_iff h hothers hdriver hhandles).mpr rfl
  · exact fun other hother => (topMatch_iff h hothers hdriver hhandles).mp hother

theorem resolve_unmatched (hids : (registry.drivers.map Driver.id).Nodup)
    (h : registerInto overflowChecks registry = .ok registered) (hvalid : device.validate = .ok ())
    (hpreferred : registry.preferredDrivers[device.id]? = none)
    (hothers : ∀ driver ∈ registry.drivers, (driver.matchResult device).isSupported = false)
    (hnone : ∀ driver ∈ drivers, device.kind ∉ driver.kinds) :
    registered.resolve device = .error (.noMatchingDriver device.id) := by
  have hpreferred' : registered.preferredDrivers[device.id]? = none := by
    rw [(registerInto_ok h).1]
    exact hpreferred
  have hbest := DriverRegistry.resolvesBest (registered_nodup h hids) hpreferred'
  apply hbest.unmatched.mpr
  intro other hother
  by_contra hsupported
  obtain ⟨driver, hdriver, hhandles, -⟩ :=
    (supported_iff h hothers).mp ⟨hother, Bool.eq_true_of_not_eq_false hsupported⟩
  exact hnone driver hdriver ((handles_iff hvalid hdriver).mp hhandles)

theorem bundle_resolves (overflowChecks : Bool) (registry registered : DriverRegistry)
    (hids : (registry.drivers.map Driver.id).Nodup)
    (h : registerInto overflowChecks registry = .ok registered) (device : DeviceDescriptor)
    (hvalid : device.validate = .ok ()) (hpreferred : registry.preferredDrivers[device.id]? = none)
    (hothers : ∀ driver ∈ registry.drivers, (driver.matchResult device).isSupported = false) :
    (∀ driver ∈ drivers, device.kind ∈ driver.kinds → registered.resolve device =
      .ok ⟨driver.registered overflowChecks, driver.id, driver.matchResult overflowChecks device⟩) ∧
    ((∀ driver ∈ drivers, device.kind ∉ driver.kinds) →
      registered.resolve device = .error (.noMatchingDriver device.id)) := by
  constructor
  · exact fun driver hdriver hkind => resolve_builtin hids h hvalid hpreferred hothers hdriver hkind
  · exact fun hnone => resolve_unmatched hids h hvalid hpreferred hothers hnone

theorem loopback_resolves : ∃ registered, registerInto true {} = .ok registered ∧
    registered.resolve loopbackDevice =
      .ok ⟨uartDriver.registered true, uartDriver.id, uartDriver.matchResult true loopbackDevice⟩ := by
  have hnew : registerInto true {} = .ok _ := registerInto_of_new fun _ _ => List.not_mem_nil
  have hresolves := bundle_resolves true {} _ List.nodup_nil hnew loopbackDevice (by decide) (by simp)
    fun _ hdriver => absurd hdriver List.not_mem_nil
  exact ⟨_, hnew, hresolves.1 uartDriver (by simp [drivers]) (by decide)⟩

theorem builtin_score {driver : GenericSessionDriver} (hdriver : driver ∈ drivers)
    (hsupported : (driver.matchResult overflowChecks device).isSupported = true) :
    (driver.matchResult overflowChecks device).score.toNat = 125 := by
  by_cases hhandles : driver.Handles device
  · exact (driver.matchResult_of_handles overflowChecks device hhandles).2.2.trans (declared driver hdriver).2.2
  · rw [driver.matchResult_of_not_handles overflowChecks device hhandles] at hsupported
    cases hsupported

theorem bundle_yields (overflowChecks : Bool) (registry registered : DriverRegistry)
    (hids : (registry.drivers.map Driver.id).Nodup)
    (h : registerInto overflowChecks registry = .ok registered) (device : DeviceDescriptor)
    (hpreferred : registry.preferredDrivers[device.id]? = none) (other : Driver) (hother : other ∈ registry.drivers)
    (hsupported : (other.matchResult device).isSupported = true)
    (hscore : 125 < (other.matchResult device).score.toNat) :
    registered.resolve device = registry.resolve device := by
  have hpreferred' : registered.preferredDrivers[device.id]? = none := by
    rw [(registerInto_ok h).1]
    exact hpreferred
  have hmem : ∀ driver, driver ∈ registered.drivers ↔ driver ∈ registry.drivers ∨
      ∃ builtin ∈ drivers, builtin.registered overflowChecks = driver := by
    intro driver
    rw [(registerInto_ok h).1, List.mem_append, List.mem_map]
  have hbelow : ∀ builtin ∈ drivers, (builtin.matchResult overflowChecks device).isSupported = true →
      (builtin.matchResult overflowChecks device).score < (other.matchResult device).score := by
    intro builtin hbuiltin hmatch
    rw [UInt32.lt_iff_toNat_lt, builtin_score hbuiltin hmatch]
    exact hscore
  refine DriverRegistry.resolve_eq_of_topMatch hids (registered_nodup h hids) hpreferred hpreferred' ?_
  intro driver
  constructor
  · rintro ⟨hdriver, hmatch, hmax⟩
    have hover := hmax other ((hmem other).mpr (.inl hother)) hsupported
    refine ⟨?_, hmatch, fun driver' hdriver' => hmax driver' ((hmem driver').mpr (.inl hdriver'))⟩
    rcases (hmem driver).mp hdriver with hdriver | ⟨builtin, hbuiltin, rfl⟩
    · exact hdriver
    · have hle := UInt32.le_iff_toNat_le.mp (DriverMatch.score_le hover)
      have hlt := UInt32.lt_iff_toNat_lt.mp (hbelow builtin hbuiltin hmatch)
      exact absurd hle (Nat.not_le.mpr hlt)
  · rintro ⟨hdriver, hmatch, hmax⟩
    refine ⟨(hmem driver).mpr (.inl hdriver), hmatch, ?_⟩
    intro driver' hdriver' hmatch'
    rcases (hmem driver').mp hdriver' with hdriver' | ⟨builtin, hbuiltin, rfl⟩
    · exact hmax driver' hdriver' hmatch'
    · apply DriverMatch.compareRank_of_lt
      have hle := UInt32.le_iff_toNat_le.mp (DriverMatch.score_le (hmax other hother hsupported))
      have hlt := UInt32.lt_iff_toNat_lt.mp (hbelow builtin hbuiltin hmatch')
      exact UInt32.lt_iff_toNat_lt.mpr (Nat.lt_of_lt_of_le hlt hle)

def loopbackDriver : Driver where
  id := "lemnos.uart.loopback"
  matchResult device := if device.id = loopbackDevice.id then ⟨.exact, 200, [], none⟩ else ⟨.unsupported, 0, [], none⟩

theorem loopback_keeps_its_driver : ∃ registered, registerInto true { drivers := [loopbackDriver] } = .ok registered ∧
    registered.resolve loopbackDevice = DriverRegistry.resolve { drivers := [loopbackDriver] } loopbackDevice := by
  have hnew : registerInto true { drivers := [loopbackDriver] } = .ok _ := registerInto_of_new (by decide)
  exact ⟨_, hnew, bundle_yields true { drivers := [loopbackDriver] } _ (List.nodup_singleton _) hnew loopbackDevice
    (by simp) loopbackDriver List.mem_cons_self (by decide) (by decide)⟩

theorem bundle_binds_what_it_resolves (overflowChecks : Bool) (registry registered : DriverRegistry)
    (h : registerInto overflowChecks registry = .ok registered) (device : DeviceDescriptor)
    (hvalid : device.validate = .ok ()) (candidate : DriverCandidate)
    (hresolve : registered.resolve device = .ok candidate) (hbuiltin : candidate.driverId ∈ driverIds) :
    ∃ driver ∈ drivers, candidate.driverId = driver.id ∧ driver.interface = device.interface ∧
      ∀ {W T : Type} {Opened : InterfaceKind → Type} (initial : T) (context : DriverBindContext W Opened)
        (world : W),
        (driver.bind initial device context).exec world = bindOutcome driver initial device context world ∧
        ∀ other ∈ drivers, other.id ≠ driver.id → (other.bind initial device context).exec world =
          (.error (bindRejectedExpected other.id device other.expected), world) := by
  obtain ⟨rfl, hnew⟩ := registerInto_ok h
  obtain ⟨hmem, hid, hmatch, hsupported⟩ := DriverRegistry.resolve_ok hresolve
  rcases List.mem_append.mp hmem with hold | hnewDriver
  · rw [hid] at hbuiltin
    exact absurd (List.mem_map_of_mem hold) (hnew _ hbuiltin)
  · obtain ⟨driver, hdriver, heq⟩ := List.mem_map.mp hnewDriver
    have hhandles : driver.Handles device := by
      by_contra hnot
      rw [hmatch, ← heq] at hsupported
      exact absurd (driver.matchResult_of_not_handles overflowChecks device hnot)
        (Bool.eq_false_iff.not.mpr (not_not.mpr hsupported))
    refine ⟨driver, hdriver, ?_, hhandles.1.symm, ?_⟩
    · rw [hid, ← heq]
      rfl
    · intro W T Opened initial context world
      refine ⟨exec_bind_accepted driver initial device context ((handles_iff hvalid hdriver).mp hhandles) world, ?_⟩
      intro other hother hne
      refine exec_bind_rejected other initial device context ?_ world
      intro hkind
      have hsame : other.interface = driver.interface :=
        ((handles_iff hvalid hother).mpr hkind).1.symm.trans hhandles.1
      rw [List.inj_on_of_nodup_map interfaces_nodup hother hdriver hsame] at hne
      exact hne rfl

theorem loopback_binds : ∃ driver ∈ drivers, uartDriver.id = driver.id ∧ driver.interface = .uart ∧
    ∀ {W T : Type} {Opened : InterfaceKind → Type} (initial : T) (context : DriverBindContext W Opened) (world : W),
      (driver.bind initial loopbackDevice context).exec world =
        bindOutcome driver initial loopbackDevice context world ∧
      ∀ other ∈ drivers, other.id ≠ driver.id → (other.bind initial loopbackDevice context).exec world =
        (.error (bindRejectedExpected other.id loopbackDevice other.expected), world) := by
  have hnew : registerInto true {} = .ok _ := registerInto_of_new fun _ _ => List.not_mem_nil
  have hempty : (({} : DriverRegistry).drivers.map Driver.id).Nodup := List.nodup_nil
  have hresolve := resolve_builtin hempty hnew (by decide : loopbackDevice.validate = .ok ()) (by simp)
    (fun _ hdriver => absurd hdriver List.not_mem_nil) (by simp [drivers] : uartDriver ∈ drivers) (by decide)
  exact bundle_binds_what_it_resolves true {} _ hnew loopbackDevice (by decide) _ hresolve (by decide)

theorem own_name (request : StandardRequest) :
    ∃ driver ∈ drivers, driver.interface = request.interface ∧ request.name ∈ driver.interactions := by
  cases request with
  | gpio request =>
    exact ⟨gpioDriver, by simp [drivers], rfl,
      by cases request <;> simp [gpioDriver, StandardRequest.name, GpioRequest.name]⟩
  | pwm request =>
    exact ⟨pwmDriver, by simp [drivers], rfl,
      by cases request <;> simp [pwmDriver, StandardRequest.name, PwmRequest.name]⟩
  | i2c request =>
    exact ⟨i2cDriver, by simp [drivers], rfl,
      by cases request <;> simp [i2cDriver, StandardRequest.name, I2cRequest.name]⟩
  | spi request =>
    exact ⟨spiDriver, by simp [drivers], rfl,
      by cases request <;> simp [spiDriver, StandardRequest.name, SpiRequest.name]⟩
  | uart request =>
    exact ⟨uartDriver, by simp [drivers], rfl,
      by cases request <;> simp [uartDriver, StandardRequest.name, UartRequest.name]⟩
  | usb request =>
    exact ⟨usbDriver, by simp [drivers], rfl,
      by cases request <;> simp [usbDriver, StandardRequest.name, UsbRequest.name]⟩

theorem interactions_apart : ∀ driver ∈ drivers, ∀ other ∈ drivers, ∀ id ∈ driver.interactions,
    id ∈ other.interactions → driver.interface = other.interface := by
  decide

theorem interactions_named {driver : GenericSessionDriver} (hdriver : driver ∈ drivers)
    (request : StandardRequest) : request.name ∈ driver.interactions ↔ request.interface = driver.interface := by
  obtain ⟨own, hown, hinterface, hname⟩ := own_name request
  constructor
  · intro hlisted
    exact hinterface.symm.trans (interactions_apart own hown driver hdriver _ hname hlisted)
  · intro hsame
    rw [← List.inj_on_of_nodup_map interfaces_nodup hown hdriver (hinterface.trans hsame)]
    exact hname

variable {S : Type}

theorem manifest_declares_what_is_served (driver : GenericSessionDriver) (hdriver : driver ∈ drivers)
    (session : Session S driver.interface) (request : StandardRequest) (hvalid : request.validate = .ok ())
    (bound : SessionBound S (Stats driver.interface)) :
    request.name ∈ driver.manifest.standardInteractions.map InteractionManifest.id ↔
      (execute driver.interface session (.standard request)).exec bound ≠
        (.error (unsupportedActionError bound.driverId (Session.bus driver.interface session).device
          (.standard request)), bound) := by
  have hdeclared : driver.manifest.standardInteractions.map InteractionManifest.id = driver.interactions := by
    simp [GenericSessionDriver.manifest, genericDriverManifestWithStandardInteractions, Function.comp_def]
  rw [hdeclared, interactions_named hdriver]
  constructor
  · intro hinterface hrefused
    exact (below_execute session hvalid hinterface bound _ bound hrefused).ne_unsupportedActionError _ _ _ rfl
  · intro hserved
    by_contra hinterface
    apply hserved
    rw [exec_execute_refused session ?_ bound, refusal]
    · simp only [InteractionRequest.validate, hvalid]
    · rintro ⟨standard, hstandard, -, hown⟩
      cases hstandard
      exact hinterface hown

theorem uart_manifest_declares_flush :
    "uart.flush" ∈ uartDriver.manifest.standardInteractions.map InteractionManifest.id ↔
      (execute .uart loopback (.standard (.uart .flush))).exec
          { driverId := uartDriver.id, session := [], stats := Stats.initial .uart } ≠
        (.error (unsupportedActionError uartDriver.id loopbackDevice (.standard (.uart .flush))),
          { driverId := uartDriver.id, session := [], stats := Stats.initial .uart }) :=
  manifest_declares_what_is_served uartDriver (by simp [drivers]) loopback (.uart .flush) rfl _

end Lemnos.BuiltInDriverBundle
