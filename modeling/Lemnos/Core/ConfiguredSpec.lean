import Lemnos.Core.ConfiguredDevice

namespace Lemnos.Core

open Library.OrderedMap

/-! Which types may derive `ConfiguredDevice`, and what the descriptors of their values are. -/

def supportsConfiguredBusEndpoints (interface : InterfaceKind) : Bool := interface = .i2c ∨ interface = .spi

def EndpointInterface.matchesConfiguredInterface : EndpointInterface → InterfaceKind → Bool
  | .i2c, configuredInterface => configuredInterface = .i2c
  | .spi, configuredInterface => configuredInterface = .spi

def validateUniqueNamesFrom (seen : BTreeSet String) (message : String) : List String → Except String Unit
  | [] => .ok ()
  | name :: names =>
    if name ∈ seen then .error s!"{message} `{name}`"
    else validateUniqueNamesFrom (seen.insert name) message names

def validateUniqueNames (names : List String) (message : String) : Except String Unit :=
  validateUniqueNamesFrom ∅ message names

def DeviceKind.isUnspecified : DeviceKind → Bool
  | .unspecified _ => true
  | _ => false

def ConfiguredDeviceSpec.validate (spec : ConfiguredDeviceSpec) : Except String Unit :=
  if spec.kind.any DeviceKind.isUnspecified then
    .error "omit `kind` to use `DeviceKind::Unspecified(interface)`"
  else if (!spec.endpointFields.isEmpty || spec.hasBusField) &&
      !supportsConfiguredBusEndpoints spec.interface then
    .error "configured bus endpoints currently require `interface = I2c` or `interface = Spi`"
  else if !spec.endpointFields.isEmpty && !spec.hasBusField then
    .error "configured bus endpoints require a matching `#[lemnos(bus(...))]` field"
  else if spec.endpointFields.any fun field => !field.1.matchesConfiguredInterface spec.interface then
    .error "configured endpoint annotation must match the configured device interface"
  else do
    validateUniqueNames (spec.endpointFields.map Prod.snd) "duplicate configured endpoint name"
    validateUniqueNames spec.signalFields "duplicate configured signal name"

theorem validateUniqueNamesFrom_ok {names : List String} {seen : BTreeSet String} {message : String}
    (h : validateUniqueNamesFrom seen message names = .ok ()) : names.Nodup ∧ ∀ name ∈ names, name ∉ seen := by
  induction names generalizing seen with
  | nil => exact ⟨List.nodup_nil, fun _ hmem => by cases hmem⟩
  | cons name names ih =>
    rw [validateUniqueNamesFrom] at h
    split at h
    · cases h
    · rename_i hnew
      obtain ⟨hnodup, hrest⟩ := ih h
      constructor
      · rw [List.nodup_cons]
        exact ⟨fun hmem => hrest name hmem ((BTreeSet.mem_insert_iff _ _ _).mpr (.inl rfl)), hnodup⟩
      · intro other hother
        rcases List.mem_cons.mp hother with rfl | hlater
        · exact hnew
        · exact fun hseen => hrest other hlater ((BTreeSet.mem_insert_iff _ _ _).mpr (.inr hseen))

structure ConfiguredDeviceSpec.Accepted (spec : ConfiguredDeviceSpec) : Prop where
  bus : spec.endpointFields ≠ [] → spec.hasBusField = true
  endpoints : ∀ field ∈ spec.endpointFields, field.1.matchesConfiguredInterface spec.interface = true
  endpointNames : (spec.endpointFields.map Prod.snd).Nodup
  signalNames : spec.signalFields.Nodup

theorem ConfiguredDeviceSpec.accepted {spec : ConfiguredDeviceSpec} (h : spec.validate = .ok ()) :
    spec.Accepted := by
  rw [validate] at h
  split at h
  · cases h
  · split at h
    · cases h
    · split at h
      · cases h
      · rename_i hbus
        split at h
        · cases h
        · rename_i hmatch
          cases hendpoints : validateUniqueNames (spec.endpointFields.map Prod.snd)
              "duplicate configured endpoint name" with
          | error message =>
            rw [hendpoints] at h
            cases h
          | ok u =>
            rw [hendpoints] at h
            refine ⟨?_, ?_, (validateUniqueNamesFrom_ok hendpoints).1, (validateUniqueNamesFrom_ok h).1⟩
            · intro hne
              by_contra hno
              exact hbus (by simp [hne, hno])
            · intro field hfield
              by_contra hno
              exact hmatch (List.any_eq_true.mpr ⟨field, hfield, by simp [hno]⟩)

section Collecting

variable {ε α β : Type} {f : α → Except ε β}

theorem mapM_eq_ok {as : List α} {bs : List β} (h : as.mapM f = .ok bs) :
    List.Forall₂ (fun a b => f a = .ok b) as bs := by
  induction as generalizing bs with
  | nil =>
    cases h
    exact .nil
  | cons a as ih =>
    rw [List.mapM_cons] at h
    obtain ⟨b, hb, h⟩ := exists_of_bind_eq_ok h
    obtain ⟨rest, hrest, h⟩ := exists_of_bind_eq_ok h
    cases h
    exact .cons hb (ih hrest)

variable {γ : Type} {R : α → β → Prop} {as : List α} {bs : List β}

theorem map_eq_of_forall₂ {f : α → γ} {g : β → γ} (h : List.Forall₂ R as bs) (hR : ∀ a b, R a b → g b = f a) :
    bs.map g = as.map f := by
  induction h with
  | nil => rfl
  | cons hfirst _ ih => rw [List.map_cons, List.map_cons, ih, hR _ _ hfirst]

theorem exists_of_mem_right {b : β} (h : List.Forall₂ R as bs) (hb : b ∈ bs) : ∃ a ∈ as, R a b := by
  induction h with
  | nil => cases hb
  | cons hfirst _ ih =>
    rcases List.mem_cons.mp hb with rfl | hlater
    · exact ⟨_, List.mem_cons_self, hfirst⟩
    · obtain ⟨a, ha, hab⟩ := ih hlater
      exact ⟨a, List.mem_cons_of_mem _ ha, hab⟩

end Collecting

namespace DeviceDescriptor

variable {builder detailed : DeviceDescriptor}

structure SameLinks (builder detailed : DeviceDescriptor) : Prop where
  id : detailed.id = builder.id
  links : detailed.links = builder.links

namespace SameLinks

theorem refl (builder : DeviceDescriptor) : SameLinks builder builder := ⟨rfl, rfl⟩

theorem withLabel (h : SameLinks builder detailed) (key value : String) :
    SameLinks builder (detailed.withLabel key value) := ⟨h.id, h.links⟩

theorem withProperty (h : SameLinks builder detailed) (key : String) (value : Value) :
    SameLinks builder (detailed.withProperty key value) := ⟨h.id, h.links⟩

theorem withDriverHint (h : SameLinks builder detailed) (driverHint : Option String) :
    SameLinks builder (detailed.withDriverHint driverHint) := by
  cases driverHint <;> exact ⟨h.id, h.links⟩

theorem withOwnerName (h : SameLinks builder detailed) (owner : DeviceDescriptor) (name : String) :
    SameLinks builder (configuredBuilderWithOwnerName detailed owner name) := by
  rw [configuredBuilderWithOwnerName]
  cases owner.displayName <;> exact ⟨h.id, h.links⟩

theorem withCapabilities (h : SameLinks builder detailed)
    (capabilities : List (CapabilityId × CapabilityAccess)) :
    SameLinks builder (configuredBuilderWithCapabilities detailed capabilities) := ⟨h.id, h.links⟩

theorem elim {α : Type} (h : SameLinks builder detailed) (value : Option α) {f : α → DeviceDescriptor}
    (hf : ∀ a, SameLinks builder (f a)) : SameLinks builder (value.elim detailed f) := by
  cases value with
  | none => exact h
  | some a => exact hf a

theorem foldl {α : Type} (h : SameLinks builder detailed) (values : List α)
    {f : DeviceDescriptor → α → DeviceDescriptor}
    (hf : ∀ a {detailed}, SameLinks builder detailed → SameLinks builder (f detailed a)) :
    SameLinks builder (values.foldl f detailed) := by
  induction values generalizing detailed with
  | nil => exact h
  | cons a values ih => exact ih (hf a h)

end SameLinks

theorem foldl_withLink (links : List DeviceLink) (builder : DeviceDescriptor) :
    (links.foldl withLink builder).id = builder.id ∧
      (links.foldl withLink builder).links = builder.links ++ links := by
  induction links generalizing builder with
  | nil => exact ⟨rfl, (List.append_nil _).symm⟩
  | cons link links ih =>
    obtain ⟨hid, hlinks⟩ := ih (builder.withLink link)
    refine ⟨hid, ?_⟩
    rw [List.foldl_cons, hlinks, withLink, List.append_assoc]
    rfl

end DeviceDescriptor

def parentLink (owner : DeviceDescriptor) (name interfaceAttr : String) : DeviceLink :=
  ((DeviceLink.new owner.id .parent).withAttribute "name" (.string name)).withAttribute "interface"
    (.string interfaceAttr)

section Children

open DeviceDescriptor

variable {owner child : DeviceDescriptor}

theorem configuredChildBuilder_ok {id : String} {kind : DeviceKind}
    {summary name labelKey interfaceAttr : String}
    (h : configuredChildBuilder owner id kind summary name labelKey interfaceAttr = .ok child) :
    child.id.asStr = id ∧ child.links = [parentLink owner name interfaceAttr] := by
  obtain ⟨descriptor, hbuilder, h⟩ := exists_of_bind_eq_ok h
  obtain ⟨started, hstarted, hbuilder⟩ := exists_of_bind_eq_ok hbuilder
  obtain ⟨childId, hid, hstarted⟩ := exists_of_bind_eq_ok hstarted
  cases h
  cases hbuilder
  cases hstarted
  exact ⟨Identifier.asStr_of_new hid, rfl⟩

theorem ConfiguredI2cEndpoint.descriptorForOwner_ok {endpoint : ConfiguredI2cEndpoint}
    {driverHint : Option String} (h : endpoint.descriptorForOwner owner driverHint = .ok child) :
    child.id.asStr = endpoint.descriptorIdForOwner owner.id ∧
      child.links = [parentLink owner endpoint.name "i2c"] := by
  obtain ⟨builder, hbuilder, h⟩ := exists_of_bind_eq_ok h
  obtain ⟨hid, hlinks⟩ := configuredChildBuilder_ok hbuilder
  have hsame : SameLinks builder child := by
    rw [(of_build_eq_ok h).1]
    have haddress : SameLinks builder
        { builder with address := some (.i2cDevice endpoint.bus endpoint.address) } := ⟨rfl, rfl⟩
    exact ((((haddress.withProperty _ _).withProperty _ _).withCapabilities _).withOwnerName _ _).withDriverHint _
  exact ⟨hsame.id ▸ hid, hsame.links.trans hlinks⟩

theorem ConfiguredSpiEndpoint.descriptorForOwner_ok {endpoint : ConfiguredSpiEndpoint}
    {driverHint : Option String} (h : endpoint.descriptorForOwner owner driverHint = .ok child) :
    child.id.asStr = endpoint.descriptorIdForOwner owner.id ∧
      child.links = [parentLink owner endpoint.name "spi"] := by
  obtain ⟨builder, hbuilder, h⟩ := exists_of_bind_eq_ok h
  obtain ⟨hid, hlinks⟩ := configuredChildBuilder_ok hbuilder
  have hsame : SameLinks builder child := by
    rw [(of_build_eq_ok h).1]
    have haddress : SameLinks builder
        { builder with address := some (.spiDevice endpoint.bus endpoint.chipSelect) } := ⟨rfl, rfl⟩
    exact ((((haddress.withProperty _ _).withProperty _ _).withCapabilities _).withOwnerName _ _).withDriverHint _
  exact ⟨hsame.id ▸ hid, hsame.links.trans hlinks⟩

namespace ConfiguredGpioSignalBinding

/-- A signal on a line gets a descriptor of its own, one on an existing device does not. -/
def hasChild (binding : ConfiguredGpioSignalBinding) : Bool :=
  match binding.signal.target with
  | .device _ => false
  | .globalLine _ | .chipLine .. => true

theorem targetProperties_same (target : ConfiguredGpioSignalTarget) (child : DeviceDescriptor) :
    SameLinks child (targetProperties target child) := by
  cases target with
  | device id => exact .refl child
  | globalLine globalLine => exact (SameLinks.refl child).withProperty _ _
  | chipLine chipName offset globalLine devnode =>
    have haddress : SameLinks child { child with address := some (.gpioLine chipName offset) } := ⟨rfl, rfl⟩
    apply SameLinks.elim
    · apply SameLinks.elim
      · exact haddress.withProperty _ _
      · exact fun _ => (haddress.withProperty _ _).withProperty _ _
    · intro devnode
      apply SameLinks.withProperty
      apply SameLinks.elim
      · exact haddress.withProperty _ _
      · exact fun _ => (haddress.withProperty _ _).withProperty _ _

theorem child_of_builder {binding : ConfiguredGpioSignalBinding} {builder detailed : DeviceDescriptor}
    {target : ConfiguredGpioSignalTarget}
    (hbuilder : configuredChildBuilder owner (binding.descriptorIdForOwner owner.id) .gpioLine
      s!"Configured GPIO signal '{binding.name}'" binding.name "signal" "gpio" = .ok builder)
    (hsame : SameLinks builder detailed) (hchild : (targetProperties target detailed).build = .ok child) :
    child.id.asStr = binding.descriptorIdForOwner owner.id ∧
      child.links = [parentLink owner binding.name "gpio"] := by
  obtain ⟨hid, hlinks⟩ := configuredChildBuilder_ok hbuilder
  have htarget := targetProperties_same target detailed
  rw [(of_build_eq_ok hchild).1, htarget.links, hsame.links, htarget.id, hsame.id]
  exact ⟨hid, hlinks⟩

theorem signalProperties_same (binding : ConfiguredGpioSignalBinding) (owner builder : DeviceDescriptor) :
    SameLinks builder (configuredBuilderWithOwnerName (configuredBuilderWithCapabilities
      ((builder.withProperty "required" (.bool binding.signal.required)).withProperty "active_low"
        (.bool binding.signal.activeLow)) gpioSignalCapabilities) owner binding.name) :=
  ((((SameLinks.refl builder).withProperty _ _).withProperty _ _).withCapabilities _).withOwnerName _ _

theorem descriptorForOwner_ok {binding : ConfiguredGpioSignalBinding} {found : Option DeviceDescriptor}
    (h : binding.descriptorForOwner owner = .ok found) :
    (binding.hasChild = false ∧ found = none) ∨
      binding.hasChild = true ∧ ∃ child, found = some child ∧
        child.id.asStr = binding.descriptorIdForOwner owner.id ∧
        child.links = [parentLink owner binding.name "gpio"] := by
  rw [descriptorForOwner] at h
  rw [hasChild]
  cases htarget : binding.signal.target with
  | device id =>
    rw [htarget] at h
    cases h
    exact .inl ⟨rfl, rfl⟩
  | globalLine | chipLine =>
    rw [htarget] at h
    obtain ⟨builder, hbuilder, h⟩ := exists_of_bind_eq_ok h
    obtain ⟨child, hchild, h⟩ := exists_of_bind_eq_ok h
    cases h
    have hsame := signalProperties_same binding owner builder
    refine .inr ⟨rfl, child, rfl, ?_⟩
    exact child_of_builder hbuilder (hsame.elim _ fun _ => hsame.withProperty _ _) hchild

theorem descriptors_of_found {bindings : List ConfiguredGpioSignalBinding}
    {found : List (Option DeviceDescriptor)}
    (h : List.Forall₂ (fun binding child => binding.descriptorForOwner owner = .ok child) bindings found) :
    List.Forall₂ (fun binding child => child.id.asStr = binding.descriptorIdForOwner owner.id ∧
      child.links = [parentLink owner binding.name "gpio"]) (bindings.filter hasChild) (found.filterMap id) := by
  induction h with
  | nil => exact .nil
  | cons hfirst _ ih =>
    rcases descriptorForOwner_ok hfirst with ⟨hnone, rfl⟩ | ⟨hsome, child, rfl, hchild⟩
    · rw [List.filter_cons_of_neg (by simp [hnone])]
      exact ih
    · rw [List.filter_cons_of_pos hsome]
      exact .cons hchild ih

end ConfiguredGpioSignalBinding

end Children

namespace ConfiguredDevice

open DeviceDescriptor

variable {spec : ConfiguredDeviceSpec} {config : ConfiguredDevice spec} {owner : DeviceDescriptor}

def endpointChildId (ownerId : DeviceId) (name : String) : String := s!"{ownerId.asStr}.endpoint.{name}"

structure Owns (config : ConfiguredDevice spec) (owner : DeviceDescriptor)
    (channels dependencies : List DeviceLink) : Prop where
  id : owner.id.asStr = config.configuredDeviceId
  links : owner.links = channels ++ dependencies
  channels : List.Forall₂ (fun endpoint link => endpointLink owner.id endpoint = .ok link)
    config.configuredI2cEndpoints channels
  dependencies : List.Forall₂ (fun binding link => signalLink owner.id binding = .ok link)
    config.configuredGpioSignals dependencies

theorem owns_of_linked {id : DeviceId} {started described : DeviceDescriptor} (hid : started.id = id)
    (hlinks : started.links = []) (hsame : SameLinks started described)
    (hnew : Identifier.new "device id" config.configuredDeviceId = .ok id)
    (h : (do
      let ownerId ← Identifier.new "device id" config.configuredDeviceId
      let channels ← config.configuredI2cEndpoints.mapM (endpointLink ownerId)
      let dependencies ← config.configuredGpioSignals.mapM (signalLink ownerId)
      ((channels ++ dependencies).foldl withLink described).build) = .ok owner) :
    ∃ channels dependencies, config.Owns owner channels dependencies := by
  rw [hnew] at h
  obtain ⟨ownerId, hownerId, h⟩ := exists_of_bind_eq_ok h
  cases hownerId
  obtain ⟨channels, hchannels, h⟩ := exists_of_bind_eq_ok h
  obtain ⟨dependencies, hdependencies, h⟩ := exists_of_bind_eq_ok h
  obtain ⟨hlast, hall⟩ := foldl_withLink (channels ++ dependencies) described
  have howner : owner.id = id := by
    rw [(of_build_eq_ok h).1, hlast, hsame.id, hid]
  refine ⟨channels, dependencies, ?_, ?_, ?_, ?_⟩
  · rw [howner, Identifier.asStr_of_new hnew]
  · rw [(of_build_eq_ok h).1, hall, hsame.links, hlinks, List.nil_append]
  · rw [howner]
    exact mapM_eq_ok hchannels
  · rw [howner]
    exact mapM_eq_ok hdependencies

theorem configuredDeviceDescriptor_ok (h : config.configuredDeviceDescriptor = .ok owner) :
    ∃ channels dependencies, config.Owns owner channels dependencies := by
  rw [configuredDeviceDescriptor, DeviceDescriptor.builder] at h
  obtain ⟨started, hstarted, h⟩ := exists_of_bind_eq_ok h
  obtain ⟨id, hid, hstarted⟩ := exists_of_bind_eq_ok hstarted
  cases hstarted
  have hkind : SameLinks ({ id, interface := spec.interface } : DeviceDescriptor)
    { (withKind { id, interface := spec.interface } (spec.kind.getD (.unspecified spec.interface))) with
      summary := some spec.summary } := ⟨rfl, rfl⟩
  have hproperties := (hkind.withProperty "configured_device" (.bool true)).withProperty "configured_interface"
    (.string spec.interface.asStr)
  refine @owns_of_linked spec config owner id { id, interface := spec.interface } _ rfl rfl ?_ hid h
  refine SameLinks.foldl (SameLinks.foldl (SameLinks.withDriverHint ?_ _) _ ?_) _ ?_
  · by_cases hbus : spec.hasBusField = true
    · have hbusProperty := hproperties.withProperty "configured_bus" (.u64 config.bus.toUInt64)
      simp only [if_pos hbus]
      exact hbusProperty.elim _ fun _ => ⟨hbusProperty.id, hbusProperty.links⟩
    · simp only [if_neg hbus]
      exact hproperties.elim _ fun _ => ⟨hproperties.id, hproperties.links⟩
  · exact fun label _ hlabel => hlabel.withLabel _ _
  · exact fun property _ hproperty => hproperty.withProperty _ _

theorem endpointDescriptor_ok {field : EndpointInterface × String} {child : DeviceDescriptor}
    (h : config.endpointDescriptor owner field = .ok child) :
    child.id.asStr = endpointChildId owner.id field.2 ∧
      ∃ interfaceAttr, child.links = [parentLink owner field.2 interfaceAttr] := by
  obtain ⟨interface, name⟩ := field
  cases interface with
  | i2c =>
    obtain ⟨hid, hlinks⟩ := ConfiguredI2cEndpoint.descriptorForOwner_ok h
    exact ⟨hid, "i2c", hlinks⟩
  | spi =>
    obtain ⟨hid, hlinks⟩ := ConfiguredSpiEndpoint.descriptorForOwner_ok h
    exact ⟨hid, "spi", hlinks⟩

structure Describes (config : ConfiguredDevice spec) (owner : DeviceDescriptor)
    (endpoints signals : List DeviceDescriptor) : Prop where
  built : config.configuredDeviceDescriptor = .ok owner
  endpoints : List.Forall₂ (fun field child => config.endpointDescriptor owner field = .ok child)
    spec.endpointFields endpoints
  signals : ∃ found, List.Forall₂ (fun binding child => binding.descriptorForOwner owner = .ok child)
    config.configuredGpioSignals found ∧ signals = found.filterMap id

namespace Describes

variable {endpoints signals : List DeviceDescriptor} (h : config.Describes owner endpoints signals)

include h

theorem endpoint_ids : endpoints.map (fun child => child.id.asStr) =
    spec.endpointFields.map fun field => endpointChildId owner.id field.2 :=
  map_eq_of_forall₂ h.endpoints fun _ _ hchild => (endpointDescriptor_ok hchild).1

theorem signal_ids : signals.map (fun child => child.id.asStr) =
    (config.configuredGpioSignals.filter ConfiguredGpioSignalBinding.hasChild).map fun binding =>
      binding.descriptorIdForOwner owner.id := by
  obtain ⟨found, hfound, rfl⟩ := h.signals
  exact map_eq_of_forall₂ (ConfiguredGpioSignalBinding.descriptors_of_found hfound) fun _ _ hchild => hchild.1

theorem child_links : ∀ child ∈ endpoints ++ signals, ∃ name interfaceAttr,
    child.links = [parentLink owner name interfaceAttr] := by
  intro child hchild
  rcases List.mem_append.mp hchild with hendpoint | hsignal
  · obtain ⟨field, -, hfield⟩ := exists_of_mem_right h.endpoints hendpoint
    obtain ⟨-, interfaceAttr, hlinks⟩ := endpointDescriptor_ok hfield
    exact ⟨field.2, interfaceAttr, hlinks⟩
  · obtain ⟨found, hfound, rfl⟩ := h.signals
    obtain ⟨binding, -, -, hlinks⟩ :=
      exists_of_mem_right (ConfiguredGpioSignalBinding.descriptors_of_found hfound) hsignal
    exact ⟨binding.name, "gpio", hlinks⟩

end Describes

theorem configuredDescriptors_ok {descriptors : List DeviceDescriptor}
    (h : config.configuredDescriptors = .ok descriptors) :
    ∃ owner endpoints signals, config.Describes owner endpoints signals ∧
      descriptors = owner :: (endpoints ++ signals) := by
  obtain ⟨owner, howner, h⟩ := exists_of_bind_eq_ok h
  obtain ⟨children, hchildren, h⟩ := exists_of_bind_eq_ok h
  cases h
  obtain ⟨owner', howner', hchildren⟩ := exists_of_bind_eq_ok hchildren
  rw [howner] at howner'
  cases howner'
  obtain ⟨endpoints, hendpoints, hchildren⟩ := exists_of_bind_eq_ok hchildren
  obtain ⟨found, hfound, hchildren⟩ := exists_of_bind_eq_ok hchildren
  cases hchildren
  refine ⟨owner, endpoints, found.filterMap id, ?_, rfl⟩
  exact ⟨howner, mapM_eq_ok hendpoints, found, mapM_eq_ok hfound, rfl⟩

end ConfiguredDevice

end Lemnos.Core
