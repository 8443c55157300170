import Lemnos.Core.ConfiguredSpec
import Lemnos.Library.Decimal
import Lemnos.Library.Hexadecimal
import Lemnos.Library.Separated

namespace Lemnos.Core.ConfiguredDevice

open Library Library.Separated

/-! What the ids of configured devices and of their children tell. -/

variable {spec : ConfiguredDeviceSpec}

def SameHardware (a b : ConfiguredDevice spec) : Prop :=
  (spec.hasBusField = true → a.bus = b.bus) ∧
    ∀ field ∈ spec.endpointFields, a.endpoint field.2 = b.endpoint field.2

def DifferInHardware (a b : ConfiguredDevice spec) : Prop :=
  (spec.hasBusField = true ∧ a.bus ≠ b.bus) ∨
    ∃ field ∈ spec.endpointFields, a.endpoint field.2 ≠ b.endpoint field.2

theorem DifferInHardware.not_same {a b : ConfiguredDevice spec} (h : DifferInHardware a b) :
    ¬SameHardware a b := by
  rintro ⟨hbus, hendpoints⟩
  rcases h with ⟨hfield, hne⟩ | ⟨field, hfield, hne⟩
  · exact hne (hbus hfield)
  · exact hne (hendpoints field hfield)

def busText (config : ConfiguredDevice spec) : List Char :=
  if spec.hasBusField then ".bus".toList ++ config.bus.toNat.repr.toList else []

def endpointText (config : ConfiguredDevice spec) (field : EndpointInterface × String) : List Char :=
  '.' :: (field.2.toList ++ "0x".toList ++ Hexadecimal.padded 2 (config.endpoint field.2).toNat)

theorem toList_configuredDeviceId (config : ConfiguredDevice spec) : config.configuredDeviceId.toList =
    spec.id.toList ++ (config.busText ++ spec.endpointFields.flatMap config.endpointText) := by
  have hfold : ∀ (fields : List (EndpointInterface × String)) (id : String),
      (fields.foldl
        (fun id field => id ++ s!".{field.2}0x" ++ DeviceAddress.hex 2 (config.endpoint field.2).toNat)
        id).toList = id.toList ++ fields.flatMap config.endpointText := by
    intro fields
    induction fields with
    | nil => exact fun id => (List.append_nil _).symm
    | cons field fields ih =>
      intro id
      have hhex : (DeviceAddress.hex 2 (config.endpoint field.2).toNat).toList =
          Hexadecimal.padded 2 (config.endpoint field.2).toNat := String.toList_ofList
      have hname : s!".{field.2}0x" = "." ++ field.2 ++ "0x" := rfl
      rw [List.foldl_cons, ih, List.flatMap_cons, String.toList_append, String.toList_append, hhex, hname,
        String.toList_append, String.toList_append]
      simp [endpointText]
  have hstart : (if spec.hasBusField then spec.id ++ s!".bus{config.bus}" else spec.id).toList =
      spec.id.toList ++ config.busText := by
    rw [busText]
    split
    · have hbus : s!".bus{config.bus}" = ".bus" ++ config.bus.toNat.repr := rfl
      rw [String.toList_append, hbus, String.toList_append]
    · rw [List.append_nil]
  rw [configuredDeviceId]
  simp only
  rw [hfold, hstart, List.append_assoc]

theorem isRest_endpoints (config : ConfiguredDevice spec) (fields : List (EndpointInterface × String))
    {rest : List Char} (h : IsRest '.' rest) : IsRest '.' (fields.flatMap config.endpointText ++ rest) := by
  cases fields with
  | nil => exact h
  | cons field fields =>
    intro c hc
    rw [List.flatMap_cons, endpointText] at hc
    exact (Option.some.inj hc).symm

theorem endpoints_inj {a b : ConfiguredDevice spec} {fields : List (EndpointInterface × String)}
    {rest rest' : List Char} (hrest : IsRest '.' rest) (hrest' : IsRest '.' rest')
    (h : fields.flatMap a.endpointText ++ rest = fields.flatMap b.endpointText ++ rest') :
    (∀ field ∈ fields, a.endpoint field.2 = b.endpoint field.2) ∧ rest = rest' := by
  induction fields with
  | nil => exact ⟨fun _ hfield => (by cases hfield), h⟩
  | cons field fields ih =>
    have hsplit : ∀ (config : ConfiguredDevice spec) (tail : List Char),
        (field :: fields).flatMap config.endpointText ++ tail = ('.' :: (field.2.toList ++ "0x".toList)) ++
          (Hexadecimal.padded 2 (config.endpoint field.2).toNat ++
            (fields.flatMap config.endpointText ++ tail)) := by
      intro config tail
      simp [endpointText]
    rw [hsplit, hsplit] at h
    have htail := List.append_cancel_left h
    obtain ⟨hhex, hlater⟩ := append_rest_inj (Hexadecimal.dot_not_mem_padded _ _)
      (Hexadecimal.dot_not_mem_padded _ _) (isRest_endpoints a fields hrest) (isRest_endpoints b fields hrest') htail
    obtain ⟨hfields, hsame⟩ := ih hlater
    refine ⟨?_, hsame⟩
    intro other hother
    rcases List.mem_cons.mp hother with rfl | hmem
    · exact UInt16.toNat_inj.mp (Hexadecimal.padded_injective hhex)
    · exact hfields other hmem

theorem configuredDeviceId_inj {a b : ConfiguredDevice spec} {rest rest' : List Char} (hrest : IsRest '.' rest)
    (hrest' : IsRest '.' rest')
    (h : a.configuredDeviceId.toList ++ rest = b.configuredDeviceId.toList ++ rest') :
    SameHardware a b ∧ rest = rest' := by
  rw [toList_configuredDeviceId, toList_configuredDeviceId, List.append_assoc, List.append_assoc,
    List.append_assoc, List.append_assoc] at h
  have htail := List.append_cancel_left h
  by_cases hbus : spec.hasBusField = true
  · rw [busText, busText, if_pos hbus, if_pos hbus, List.append_assoc, List.append_assoc] at htail
    have hnot : ∀ n : ℕ, '.' ∉ n.repr.toList := by
      intro n hdot
      have hdigit := Decimal.isDigit_of_mem_repr hdot
      cases hdigit
    obtain ⟨hdigits, hlater⟩ := append_rest_inj (hnot _) (hnot _) (isRest_endpoints a _ hrest)
      (isRest_endpoints b _ hrest') (List.append_cancel_left htail)
    obtain ⟨hendpoints, hsame⟩ := endpoints_inj hrest hrest' hlater
    refine ⟨⟨fun _ => ?_, hendpoints⟩, hsame⟩
    exact UInt32.toNat_inj.mp (Decimal.repr_injective (String.toList_injective hdigits))
  · rw [busText, busText, if_neg hbus, if_neg hbus, List.nil_append, List.nil_append] at htail
    obtain ⟨hendpoints, hsame⟩ := endpoints_inj hrest hrest' htail
    exact ⟨⟨fun h => absurd h hbus, hendpoints⟩, hsame⟩

theorem signal_names (config : ConfiguredDevice spec) :
    (config.configuredGpioSignals.map ConfiguredGpioSignalBinding.name).Sublist spec.signalFields := by
  rw [configuredGpioSignals]
  induction spec.signalFields with
  | nil => exact List.Sublist.refl []
  | cons name names ih =>
    rw [List.filterMap_cons]
    cases config.signal name with
    | none => exact ih.cons name
    | some signal => exact ih.cons_cons name

theorem child_names_nodup (h : spec.Accepted) (config : ConfiguredDevice spec) :
    ((config.configuredGpioSignals.filter ConfiguredGpioSignalBinding.hasChild).map
      ConfiguredGpioSignalBinding.name).Nodup :=
  (List.filter_sublist.map _).nodup (config.signal_names.nodup h.signalNames)

/-- What stands after the id of the owner in the ids of the owner and of its children. -/
def idRests (config : ConfiguredDevice spec) : List (List Char) :=
  [] :: (spec.endpointFields.map (fun field => ".endpoint.".toList ++ field.2.toList) ++
    (config.configuredGpioSignals.filter ConfiguredGpioSignalBinding.hasChild).map fun binding =>
      ".signal.".toList ++ binding.name.toList)

theorem isRest_of_mem {config : ConfiguredDevice spec} {rest : List Char} (h : rest ∈ config.idRests) :
    IsRest '.' rest := by
  rw [idRests, List.mem_cons, List.mem_append] at h
  rcases h with rfl | hendpoint | hsignal
  · exact fun _ hc => by cases hc
  · obtain ⟨field, -, rfl⟩ := List.mem_map.mp hendpoint
    exact fun _ hc => (Option.some.inj hc).symm
  · obtain ⟨binding, -, rfl⟩ := List.mem_map.mp hsignal
    exact fun _ hc => (Option.some.inj hc).symm

theorem idRests_nodup (h : spec.Accepted) (config : ConfiguredDevice spec) : config.idRests.Nodup := by
  have hinjective : ∀ front : List Char, Function.Injective fun name : String => front ++ name.toList :=
    fun front _ _ hab => String.toList_injective (List.append_cancel_left hab)
  have hendpoints := h.endpointNames.map (hinjective ".endpoint.".toList)
  have hsignals := (child_names_nodup h config).map (hinjective ".signal.".toList)
  rw [List.map_map] at hendpoints hsignals
  rw [idRests, List.nodup_cons, List.nodup_append]
  refine ⟨?_, hendpoints, hsignals, ?_⟩
  · simp
  · intro a ha b hb hab
    obtain ⟨field, -, rfl⟩ := List.mem_map.mp ha
    obtain ⟨binding, -, rfl⟩ := List.mem_map.mp hb
    exact absurd (List.cons.inj (List.cons.inj hab).2).1 (by decide)

theorem Describes.idTexts {config : ConfiguredDevice spec} {owner : DeviceDescriptor}
    {endpoints signals : List DeviceDescriptor} (h : config.Describes owner endpoints signals) :
    (owner :: (endpoints ++ signals)).map (fun device => device.id.asStr.toList) =
      config.idRests.map (config.configuredDeviceId.toList ++ ·) := by
  obtain ⟨_, _, howns⟩ := configuredDeviceDescriptor_ok h.built
  have hendpoints := congrArg (List.map String.toList) h.endpoint_ids
  have hsignals := congrArg (List.map String.toList) h.signal_ids
  have hendpoint : ∀ name, (endpointChildId owner.id name).toList =
      config.configuredDeviceId.toList ++ (".endpoint.".toList ++ name.toList) := by
    intro name
    have htext : endpointChildId owner.id name = owner.id.asStr ++ ".endpoint." ++ name := rfl
    rw [htext, String.toList_append, String.toList_append, List.append_assoc, howns.id]
  have hsignal : ∀ binding : ConfiguredGpioSignalBinding, (binding.descriptorIdForOwner owner.id).toList =
      config.configuredDeviceId.toList ++ (".signal.".toList ++ binding.name.toList) := by
    intro binding
    have htext : binding.descriptorIdForOwner owner.id = owner.id.asStr ++ ".signal." ++ binding.name := rfl
    rw [htext, String.toList_append, String.toList_append, List.append_assoc, howns.id]
  simp only [List.map_map, Function.comp_def, hendpoint, hsignal] at hendpoints hsignals
  rw [idRests, List.map_cons, List.map_cons, List.map_append, List.map_append, hendpoints, hsignals, howns.id,
    List.append_nil, List.map_map, List.map_map]
  rfl

end Lemnos.Core.ConfiguredDevice
