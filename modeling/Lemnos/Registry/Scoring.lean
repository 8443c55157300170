import Lemnos.Registry.Manifest

namespace Lemnos.Registry

open Lemnos.Core Library

variable {overflowChecks : Bool} {device : DeviceDescriptor}

section Words

theorem addScore_eq_some {score bonus sum : UInt32} (h : addScore overflowChecks score bonus = some sum) :
    sum = score + bonus ∧ (overflowChecks = true → score.toNat + bonus.toNat < UInt32.size) := by
  unfold addScore at h
  split at h
  · cases h
  · rename_i hfits
    cases h
    refine ⟨rfl, ?_⟩
    rintro rfl
    simpa using hfits

theorem addScore_of_lt {score bonus : UInt32} (h : score.toNat + bonus.toNat < UInt32.size) :
    ∃ sum, addScore overflowChecks score bonus = some sum ∧ sum.toNat = score.toNat + bonus.toNat := by
  refine ⟨score + bonus, ?_, ?_⟩
  · rw [addScore, if_neg]
    simp [Nat.not_le.mpr h]
  · rw [UInt32.toNat_add]
    exact Nat.mod_eq_of_lt h

theorem addScore_overflow {score bonus sum : UInt32} (h : UInt32.size ≤ score.toNat + bonus.toNat)
    (hsum : addScore overflowChecks score bonus = some sum) : sum.toNat < score.toNat := by
  obtain ⟨rfl, -⟩ := addScore_eq_some hsum
  have hscore := score.toNat_lt
  have hbonus := bonus.toNat_lt
  rw [UInt32.toNat_add]
  simp only [UInt32.size] at h
  omega

end Words

/-- The loop's two variables: the first of the best rules so far, and its score. -/
def LeadsWith (device : DeviceDescriptor) (rules : List MatchRule) (best : Option ℕ × UInt32) : Prop :=
  (best.1 = none ∧ ∀ rule ∈ rules, rule.matchesDevice device = false) ∨
    ∃ index rule, best = (some index, rule.score) ∧
      FirstBest (MatchRule.matchesDevice device) MatchRule.score rules index rule

theorem LeadsWith.concat {rules : List MatchRule} {best : Option ℕ × UInt32} (h : LeadsWith device rules best)
    (rule : MatchRule) : LeadsWith device (rules ++ [rule])
      (if rule.matchesDevice device && (best.1.isNone || rule.score > best.2) then (some rules.length, rule.score)
        else best) := by
  rcases h with ⟨hnone, hrules⟩ | ⟨index, leader, rfl, hleader⟩
  · cases hmatches : rule.matchesDevice device with
    | true =>
      rw [hnone]
      refine .inr ⟨rules.length, rule, rfl, .of_larger hmatches ?_⟩
      intro other hother hmatched
      rw [hrules other hother] at hmatched
      cases hmatched
    | false =>
      refine .inl ⟨hnone, ?_⟩
      intro other hother
      rcases List.mem_append.mp hother with hbefore | hlast
      · exact hrules other hbefore
      · rw [List.mem_singleton.mp hlast, hmatches]
  · by_cases hbetter : rule.matchesDevice device = true ∧ rule.score > leader.score
    · rw [if_pos (by simpa using hbetter)]
      refine .inr ⟨rules.length, rule, rfl, .of_larger hbetter.1 ?_⟩
      intro other hother hmatched
      exact Std.lt_of_le_of_lt (hleader.key_le hother hmatched) hbetter.2
    · rw [if_neg (by simpa using hbetter)]
      refine .inr ⟨index, leader, rfl, hleader.concat ?_⟩
      intro hmatched
      exact Std.not_lt.mp (fun hless => hbetter ⟨hmatched, hless⟩)

theorem bestMatchingRule_leads (rules done : List MatchRule) {best : Option ℕ × UInt32}
    (h : LeadsWith device done best) :
    LeadsWith device (done ++ rules) (bestMatchingRule device rules done.length best) := by
  induction rules generalizing done best with
  | nil => rwa [List.append_nil]
  | cons rule rules ih =>
    have hnext := ih (done ++ [rule]) (h.concat rule)
    rw [List.append_assoc, List.singleton_append, List.length_append, List.length_singleton] at hnext
    exact hnext

theorem bestMatchingRule_spec (device : DeviceDescriptor) (rules : List MatchRule) :
    LeadsWith device rules (bestMatchingRule device rules 0 (none, 0)) :=
  bestMatchingRule_leads rules [] (.inl ⟨rfl, by simp⟩)

namespace DriverManifest

/-- What the manifest scores on its own: the priority's base score, and 25 if kinds are declared. -/
def ownScore (manifest : DriverManifest) : ℕ :=
  manifest.priority.baseScore.toNat + if manifest.kinds.isEmpty then 0 else 25

def Supports (manifest : DriverManifest) (device : DeviceDescriptor) : Prop :=
  device.interface ∈ manifest.interfaces ∧ (manifest.kinds = [] ∨ device.kind ∈ manifest.kinds) ∧
    (manifest.rules = [] ∨ ∃ rule ∈ manifest.rules, rule.matchesDevice device = true)

/-- The answer is positive, its score the sum of the manifest's own and the best rule's, and the rule it names
the first of the best. -/
structure ScoresAsDeclared (manifest : DriverManifest) (device : DeviceDescriptor) (answer : ManifestMatch) :
    Prop where
  matched : answer.matched = true
  priority : answer.priority = manifest.priority
  scored : (manifest.rules = [] ∧ answer.matchedRule = none ∧ answer.score.toNat = manifest.ownScore) ∨
    ∃ index rule, FirstBest (MatchRule.matchesDevice device) MatchRule.score manifest.rules index rule ∧
      answer.matchedRule = some index ∧ answer.score.toNat = manifest.ownScore + rule.score.toNat

/-- No matching rule takes the score past the word. -/
def Fits (manifest : DriverManifest) (device : DeviceDescriptor) : Prop :=
  ∀ rule ∈ manifest.rules, rule.matchesDevice device = true →
    manifest.ownScore + rule.score.toNat < UInt32.size

def raiseRule (manifest : DriverManifest) (index : ℕ) (score : UInt32) : DriverManifest :=
  { manifest with rules := manifest.rules.modify index (fun rule => { rule with score }) }

variable {manifest : DriverManifest}

theorem matchDevice_eq (h : manifest.Supports device) : ∃ reasons score, score.toNat = manifest.ownScore ∧
    manifest.matchDevice overflowChecks device = manifest.matchRules overflowChecks device reasons score := by
  obtain ⟨hinterface, hkind, -⟩ := h
  have hsupports : manifest.supportsInterface device.interface = true := by
    simpa [supportsInterface] using hinterface
  rw [matchDevice, hsupports]
  cases hkinds : manifest.kinds with
  | nil => exact ⟨_, _, by simp [ownScore, hkinds], rfl⟩
  | cons kind kinds =>
    rw [hkinds] at hkind
    have hlisted : (kind :: kinds).contains device.kind = true := by simpa using hkind
    have hsmall := manifest.priority.baseScore_le
    obtain ⟨sum, hadd, hsum⟩ := @addScore_of_lt overflowChecks manifest.priority.baseScore 25
      (by simp [UInt32.size]; omega)
    simp only [List.isEmpty_cons, hlisted, hadd]
    exact ⟨_, sum, by simp [ownScore, hkinds, hsum], rfl⟩

theorem matchRules_of_rules (h : manifest.Supports device) (hrules : manifest.rules ≠ []) :
    ∃ index rule, FirstBest (MatchRule.matchesDevice device) MatchRule.score manifest.rules index rule ∧
      ∀ reasons score, ∃ reasons', manifest.matchRules overflowChecks device reasons score =
        (addScore overflowChecks score rule.score).map (fun score =>
          ⟨true, manifest.priority, score, reasons', some index⟩) := by
  have hsome : ∃ rule ∈ manifest.rules, rule.matchesDevice device = true := h.2.2.resolve_left hrules
  have hnonempty : manifest.rules.isEmpty = false := by simpa using hrules
  rcases bestMatchingRule_spec device manifest.rules with ⟨-, hnone⟩ | ⟨index, rule, hbest, hleader⟩
  · obtain ⟨rule, hrule, hmatches⟩ := hsome
    rw [hnone rule hrule] at hmatches
    cases hmatches
  · refine ⟨index, rule, hleader, ?_⟩
    intro reasons score
    refine ⟨reasons ++ [rule.description.getD s!"match rule #{index} matched"], ?_⟩
    simp only [matchRules, hnonempty, hbest, hleader.found, Option.bind_some]
    rfl

theorem matchDevice_of_rules (h : manifest.Supports device) (hrules : manifest.rules ≠ []) :
    ∃ index rule reasons score, score.toNat = manifest.ownScore ∧
      FirstBest (MatchRule.matchesDevice device) MatchRule.score manifest.rules index rule ∧
      manifest.matchDevice overflowChecks device =
        (addScore overflowChecks score rule.score).map (fun score =>
          ⟨true, manifest.priority, score, reasons, some index⟩) := by
  obtain ⟨reasons, score, hscore, hdevice⟩ := @matchDevice_eq overflowChecks device manifest h
  obtain ⟨index, rule, hleader, hanswer⟩ := @matchRules_of_rules overflowChecks device manifest h hrules
  obtain ⟨reasons', heq⟩ := hanswer reasons score
  exact ⟨index, rule, reasons', score, hscore, hleader, hdevice.trans heq⟩

theorem scoresAsDeclared_iff_fits (h : manifest.Supports device) :
    (∃ answer, manifest.matchDevice overflowChecks device = some answer ∧
      manifest.ScoresAsDeclared device answer) ↔ manifest.Fits device := by
  by_cases hrules : manifest.rules = []
  · refine iff_of_true ?_ (by simp [Fits, hrules])
    obtain ⟨reasons, score, hscore, hdevice⟩ := @matchDevice_eq overflowChecks device manifest h
    refine ⟨⟨true, manifest.priority, score, reasons, none⟩, ?_, rfl, rfl, .inl ⟨hrules, rfl, hscore⟩⟩
    simp [hdevice, matchRules, hrules]
  · obtain ⟨index, rule, reasons, score, hscore, hleader, hdevice⟩ :=
      @matchDevice_of_rules overflowChecks device manifest h hrules
    rw [hdevice]
    constructor
    · rintro ⟨answer, hanswer, hdeclared⟩ other hother hmatches
      obtain ⟨sum, hadd, rfl⟩ := Option.map_eq_some_iff.mp hanswer
      have hle := UInt32.le_iff_toNat_le.mp (hleader.key_le hother hmatches)
      rcases hdeclared.scored with ⟨hnone, -⟩ | ⟨best, bestRule, hbest, hindex, htotal⟩
      · exact absurd hnone hrules
      · cases hleader.index_unique hbest
        have hsame := hleader.found.symm.trans hbest.found
        cases hsame
        have hword := sum.toNat_lt
        simp only [UInt32.size] at htotal ⊢
        omega
    · intro hfits
      have hroom := hfits rule (List.mem_of_getElem? hleader.found) hleader.allowed
      rw [← hscore] at hroom
      obtain ⟨sum, hadd, hsum⟩ := @addScore_of_lt overflowChecks score rule.score hroom
      rw [hadd]
      refine ⟨_, rfl, rfl, rfl, .inr ⟨index, rule, hleader, rfl, ?_⟩⟩
      rw [hsum, hscore]

section Raising

variable {index : ℕ} {rule : MatchRule} {score : UInt32}

theorem raiseRule_validate (manifest : DriverManifest) (index : ℕ) (score : UInt32) :
    (manifest.raiseRule index score).validate = manifest.validate := by
  have hrules : ∀ (rules : List MatchRule) (index : ℕ),
      (rules.modify index (fun rule => { rule with score })).forM (MatchRule.validate manifest.id) =
        rules.forM (MatchRule.validate manifest.id) := by
    intro rules
    induction rules with
    | nil => intro index; cases index <;> rfl
    | cons rule rules ih =>
      intro index
      cases index with
      | zero => rfl
      | succ index =>
        rw [List.modify_succ_cons]
        exact congrArg (fun rest => MatchRule.validate manifest.id rule >>= fun _ => rest) (ih index)
  simp only [validate, raiseRule, hrules]

theorem raiseRule_getElem? (i : ℕ) : (manifest.raiseRule index score).rules[i]? =
    manifest.rules[i]?.map (fun rule => if index = i then { rule with score } else rule) := by
  rw [raiseRule, List.getElem?_modify]
  by_cases heq : index = i <;> simp [heq]

theorem exists_raised (hrule : manifest.rules[index]? = some rule) (hle : rule.score ≤ score) {other : MatchRule}
    (hother : other ∈ manifest.rules) : ∃ raised ∈ (manifest.raiseRule index score).rules,
      raised.matchesDevice device = other.matchesDevice device ∧ other.score ≤ raised.score := by
  obtain ⟨i, hi⟩ := List.mem_iff_getElem?.mp hother
  have hget := @raiseRule_getElem? manifest index score i
  rw [hi, Option.map_some] at hget
  refine ⟨_, List.mem_of_getElem? hget, ?_⟩
  by_cases heq : index = i
  · subst heq
    rw [hrule] at hi
    cases hi
    rw [if_pos rfl]
    exact ⟨rfl, hle⟩
  · rw [if_neg heq]
    exact ⟨rfl, Std.le_refl _⟩

theorem raiseRule_supports (h : manifest.Supports device) (hrule : manifest.rules[index]? = some rule)
    (hle : rule.score ≤ score) : (manifest.raiseRule index score).Supports device := by
  obtain ⟨hinterface, hkind, hrules⟩ := h
  refine ⟨hinterface, hkind, .inr ?_⟩
  have hne : manifest.rules ≠ [] := by
    rintro hnil
    rw [hnil] at hrule
    cases hrule
  obtain ⟨other, hother, hmatches⟩ := hrules.resolve_left hne
  obtain ⟨raised, hraised, hsame, -⟩ := @exists_raised device manifest index rule score hrule hle other hother
  exact ⟨raised, hraised, hsame.trans hmatches⟩

theorem fits_of_raiseRule (hrule : manifest.rules[index]? = some rule) (hle : rule.score ≤ score)
    (h : (manifest.raiseRule index score).Fits device) : manifest.Fits device := by
  intro other hother hmatches
  obtain ⟨raised, hraised, hsame, hless⟩ := @exists_raised device manifest index rule score hrule hle other hother
  have hroom := h raised hraised (hsame.trans hmatches)
  have hword := UInt32.le_iff_toNat_le.mp hless
  have hown : (manifest.raiseRule index score).ownScore = manifest.ownScore := rfl
  omega

theorem raiseRule_not_lowered_iff (h : manifest.Supports device) (hrule : manifest.rules[index]? = some rule)
    (hle : rule.score ≤ score) (hfits : manifest.Fits device) :
    (∃ answer raised, manifest.matchDevice overflowChecks device = some answer ∧
      (manifest.raiseRule index score).matchDevice overflowChecks device = some raised ∧
      answer.score ≤ raised.score) ↔ (manifest.raiseRule index score).Fits device := by
  have hsupports := raiseRule_supports h hrule hle
  have hrules : (manifest.raiseRule index score).rules ≠ [] := by
    rintro hnil
    have hget := @raiseRule_getElem? manifest index score index
    rw [hnil, hrule] at hget
    cases hget
  obtain ⟨answer, hanswer, hdeclared⟩ := (@scoresAsDeclared_iff_fits overflowChecks device manifest h).mpr hfits
  obtain ⟨best, bestRule, reasons, own, hown, hleader, hraised⟩ :=
    @matchDevice_of_rules overflowChecks device (manifest.raiseRule index score) hsupports hrules
  have hsame : (manifest.raiseRule index score).ownScore = manifest.ownScore := rfl
  have hleast : manifest.ownScore ≤ answer.score.toNat := by
    rcases hdeclared.scored with ⟨-, -, heq⟩ | ⟨_, _, -, -, heq⟩ <;> omega
  constructor
  · rintro ⟨answer', raised, hanswer', hraised', hless⟩
    cases hanswer.symm.trans hanswer'
    rw [hraised] at hraised'
    obtain ⟨sum, hadd, rfl⟩ := Option.map_eq_some_iff.mp hraised'
    have hroom : own.toNat + bestRule.score.toNat < UInt32.size := by
      by_contra hover
      have hlow := addScore_overflow (Nat.not_lt.mp hover) hadd
      have hword := UInt32.le_iff_toNat_le.mp hless
      simp only at hword
      omega
    intro other hother hmatches
    have hmost := UInt32.le_iff_toNat_le.mp (hleader.key_le hother hmatches)
    omega
  · intro hroom
    have hbound := hroom bestRule (List.mem_of_getElem? hleader.found) hleader.allowed
    rw [← hown] at hbound
    obtain ⟨sum, hadd, hsum⟩ := @addScore_of_lt overflowChecks own bestRule.score hbound
    rw [hadd, Option.map_some] at hraised
    refine ⟨answer, _, hanswer, hraised, UInt32.le_iff_toNat_le.mpr ?_⟩
    rcases hdeclared.scored with ⟨hnone, -⟩ | ⟨first, firstRule, hfirst, -, htotal⟩
    · rw [hnone] at hrule
      cases hrule
    · obtain ⟨raised, hmem, hmatches, hless⟩ :=
        @exists_raised device manifest index rule score hrule hle firstRule
        (List.mem_of_getElem? hfirst.found)
      have hmost := UInt32.le_iff_toNat_le.mp (Std.le_trans hless
        (hleader.key_le hmem (hmatches.trans hfirst.allowed)))
      simp only
      omega

end Raising

/-- A supported device is scored as declared exactly when no matching rule takes the score past the word, and
raising a rule keeps that up, and lowers no score, exactly when this also holds of the raised manifest. -/
theorem scoring_exact_iff (overflowChecks : Bool) (manifest : DriverManifest) (device : DeviceDescriptor)
    (h : manifest.Supports device) :
    ((∃ answer, manifest.matchDevice overflowChecks device = some answer ∧
      manifest.ScoresAsDeclared device answer) ↔ manifest.Fits device) ∧
    ∀ index rule score, manifest.rules[index]? = some rule → rule.score ≤ score →
      (manifest.raiseRule index score).validate = manifest.validate ∧
      ((∃ answer raised, manifest.matchDevice overflowChecks device = some answer ∧
        manifest.ScoresAsDeclared device answer ∧
        (manifest.raiseRule index score).matchDevice overflowChecks device = some raised ∧
        answer.score ≤ raised.score) ↔ (manifest.raiseRule index score).Fits device) := by
  refine ⟨scoresAsDeclared_iff_fits h, ?_⟩
  intro index rule score hrule hle
  refine ⟨manifest.raiseRule_validate index score, ?_⟩
  constructor
  · rintro ⟨answer, raised, hanswer, hdeclared, hraised, hless⟩
    have hfits := (@scoresAsDeclared_iff_fits overflowChecks device manifest h).mp ⟨answer, hanswer, hdeclared⟩
    exact (raiseRule_not_lowered_iff h hrule hle hfits).mp ⟨answer, raised, hanswer, hraised, hless⟩
  · intro hroom
    have hfits := fits_of_raiseRule hrule hle hroom
    obtain ⟨answer, hanswer, hdeclared⟩ :=
      (@scoresAsDeclared_iff_fits overflowChecks device manifest h).mpr hfits
    obtain ⟨answer', raised, hanswer', hraised, hless⟩ :=
      (@raiseRule_not_lowered_iff overflowChecks device manifest index rule score h hrule hle hfits).mpr hroom
    cases hanswer.symm.trans hanswer'
    exact ⟨answer, raised, hanswer, hdeclared, hraised, hless⟩

def gpioManifest (score : UInt32) : DriverManifest where
  id := "lemnos.gpio.exact"
  summary := "GPIO line"
  interfaces := [.gpio]
  priority := .exact
  rules := [{ score }]

theorem gpioManifest_supports (score : UInt32) : (gpioManifest score).Supports gpioLineDescriptor :=
  ⟨by simp [gpioManifest, gpioLineDescriptor], .inl rfl, .inr ⟨{ score }, List.mem_singleton.mpr rfl, rfl⟩⟩

theorem scoring_exact_iff_gpioManifest : (gpioManifest 40).Fits gpioLineDescriptor ∧
    ∃ answer, (gpioManifest 40).matchDevice true gpioLineDescriptor = some answer ∧
      (gpioManifest 40).ScoresAsDeclared gpioLineDescriptor answer := by
  have hfits : (gpioManifest 40).Fits gpioLineDescriptor := by
    intro rule hrule _
    cases List.mem_singleton.mp hrule
    decide
  exact ⟨hfits,
    (scoring_exact_iff true (gpioManifest 40) gpioLineDescriptor (gpioManifest_supports 40)).1.mpr hfits⟩

/-- The manifest is accepted, yet its score is not computed in one build and falls below that of the same manifest
with a lower rule in the other. -/
theorem scoring_exact_fails : (gpioManifest 4294967295).validate = .ok () ∧
    (gpioManifest 4294967295).Supports gpioLineDescriptor ∧
    (∀ overflowChecks, ¬∃ answer, (gpioManifest 4294967295).matchDevice overflowChecks gpioLineDescriptor =
      some answer ∧ (gpioManifest 4294967295).ScoresAsDeclared gpioLineDescriptor answer) ∧
    (gpioManifest 4294967295).matchDevice true gpioLineDescriptor = none ∧
    (gpioManifest 0).raiseRule 0 4294967295 = gpioManifest 4294967295 ∧
    ((gpioManifest 0).matchDevice false gpioLineDescriptor).map ManifestMatch.score = some 300 ∧
    ((gpioManifest 4294967295).matchDevice false gpioLineDescriptor).map ManifestMatch.score = some 299 := by
  refine ⟨by decide, gpioManifest_supports _, ?_, rfl, rfl, rfl, rfl⟩
  intro overflowChecks hscored
  have hfits := (scoresAsDeclared_iff_fits (gpioManifest_supports _)).mp hscored
  have hroom := hfits { score := 4294967295 } (List.mem_singleton.mpr rfl) rfl
  revert hroom
  decide

end DriverManifest

end Lemnos.Registry
