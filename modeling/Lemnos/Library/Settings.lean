import Lemnos.Library.Frames

/-! Settings that are made one by one until one is refused, and what is remembered of them. -/

namespace Lemnos.Library.Settings

open Frames

variable {P C S V E F α β : Type}

def accepted (grants : List C → C → Bool) : List C → List C → List C
  | _, [] => []
  | earlier, call :: calls =>
    if grants earlier call then call :: accepted grants (earlier ++ [call]) calls else []

/-- A thing with settings, and the calls that change or read them. -/
structure Device (P C S : Type) where
  calls : P → List C
  settings : P → S
  grants : List C → C → Bool
  apply : S → C → S

namespace Device

variable (d : Device P C S)

def after (made : List C) (p : P) : S := (accepted d.grants (d.calls p) made).foldl d.apply (d.settings p)

def Accepts (made : List C) (p : P) : Prop := accepted d.grants (d.calls p) made = made

/-- The effect makes the calls one by one, and gives the value if none is refused. -/
structure Performs (made : List C) (value : S → α) (effect : Effect P E α) : Prop where
  settings : ∀ p, d.settings (effect.exec p).2 = d.after made p
  done : ∀ p, d.Accepts made p → (effect.exec p).1 = .ok (value (d.after made p)) ∧
    d.calls (effect.exec p).2 = d.calls p ++ made
  refused : ∀ p, ¬d.Accepts made p → ∃ error, (effect.exec p).1 = .error error

end Device

variable {grants : List C → C → Bool} {earlier made more : List C}

theorem accepted_append_of_all (h : accepted grants earlier made = made) :
    accepted grants earlier (made ++ more) = made ++ accepted grants (earlier ++ made) more := by
  induction made generalizing earlier with
  | nil => rw [List.nil_append, List.append_nil, List.nil_append]
  | cons call made ih =>
    rw [accepted] at h
    by_cases hgranted : grants earlier call = true
    · rw [if_pos hgranted] at h
      rw [List.cons_append, accepted, if_pos hgranted, ih (List.cons.inj h).2, List.append_assoc,
        List.singleton_append, List.cons_append]
    · rw [if_neg hgranted] at h
      cases h

theorem accepted_append_of_refused (h : accepted grants earlier made ≠ made) :
    accepted grants earlier (made ++ more) = accepted grants earlier made := by
  induction made generalizing earlier with
  | nil => exact absurd rfl h
  | cons call made ih =>
    rw [List.cons_append, accepted, accepted]
    by_cases hgranted : grants earlier call = true
    · rw [if_pos hgranted, if_pos hgranted]
      rw [accepted, if_pos hgranted] at h
      rw [ih fun hall => h (by rw [hall])]
    · rw [if_neg hgranted, if_neg hgranted]

theorem length_accepted_le : (accepted grants earlier made).length ≤ made.length := by
  induction made generalizing earlier with
  | nil => exact Nat.le_refl _
  | cons call made ih =>
    rw [accepted]
    split
    · exact Nat.succ_le_succ ih
    · exact Nat.zero_le _

namespace Device

variable {d : Device P C S}

theorem accepts_append (p : P) : d.Accepts (made ++ more) p ↔
    d.Accepts made p ∧ accepted d.grants (d.calls p ++ made) more = more := by
  rw [Accepts, Accepts]
  by_cases hall : accepted d.grants (d.calls p) made = made
  · rw [accepted_append_of_all hall, List.append_cancel_left_eq]
    exact (and_iff_right hall).symm
  · rw [accepted_append_of_refused hall]
    refine iff_of_false ?_ fun h => hall h.1
    intro hlonger
    have hlength := congrArg List.length hlonger ▸ @length_accepted_le _ d.grants (d.calls p) made
    rw [List.length_append] at hlength
    have hnil : more = [] := List.eq_nil_of_length_eq_zero (by omega)
    rw [hnil, List.append_nil] at hlonger
    exact hall hlonger

theorem after_append_of_accepts {p p' : P} (h : d.Accepts made p) (hcalls : d.calls p' = d.calls p ++ made)
    (hsettings : d.settings p' = d.after made p) : d.after (made ++ more) p = d.after more p' := by
  rw [after, accepted_append_of_all h, List.foldl_append, after, hcalls, hsettings, after, h]

theorem after_append_of_refused {p : P} (h : ¬d.Accepts made p) : d.after (made ++ more) p = d.after made p := by
  rw [after, accepted_append_of_refused h, after]

namespace Performs

variable {value : S → α} {effect : Effect P E α}

theorem adapt (h : d.Performs made value effect) (f : E → F) :
    d.Performs made value (ExceptT.adapt f effect : Effect P F α) where
  settings p := by
    rw [exec_adapt]
    exact h.settings p
  done p hall := by
    rw [exec_adapt]
    refine ⟨?_, (h.done p hall).2⟩
    rw [(h.done p hall).1]
    rfl
  refused p hrefused := by
    obtain ⟨error, herror⟩ := h.refused p hrefused
    rw [exec_adapt, herror]
    exact ⟨f error, rfl⟩

theorem pure (a : α) : d.Performs [] (fun _ => a) (Pure.pure a : Effect P E α) where
  settings _ := rfl
  done p _ := ⟨rfl, (List.append_nil (d.calls p)).symm⟩
  refused _ hrefused := absurd rfl hrefused

theorem single {call : C} {effect : Effect P E α} {value : S → α}
    (hgranted : ∀ p, d.grants (d.calls p) call = true →
      (effect.exec p).1 = .ok (value (d.settings (effect.exec p).2)) ∧
        d.settings (effect.exec p).2 = d.apply (d.settings p) call ∧
          d.calls (effect.exec p).2 = d.calls p ++ [call])
    (hrefused : ∀ p, d.grants (d.calls p) call = false →
      (∃ error, (effect.exec p).1 = .error error) ∧ d.settings (effect.exec p).2 = d.settings p) :
    d.Performs [call] value effect := by
  have hafter : ∀ p, d.grants (d.calls p) call = true →
      d.Accepts [call] p ∧ d.after [call] p = d.apply (d.settings p) call := by
    intro p hgrants
    have haccepted : accepted d.grants (d.calls p) [call] = [call] := by rw [accepted, if_pos hgrants, accepted]
    refine ⟨haccepted, ?_⟩
    rw [after, haccepted]
    rfl
  have hnever : ∀ p, d.grants (d.calls p) call = false →
      ¬d.Accepts [call] p ∧ d.after [call] p = d.settings p := by
    intro p hgrants
    have haccepted : accepted d.grants (d.calls p) [call] = [] := by
      rw [accepted, hgrants, if_neg Bool.false_ne_true]
    rw [Accepts, after, haccepted]
    exact ⟨nofun, rfl⟩
  refine ⟨?_, ?_, ?_⟩
  · intro p
    by_cases hgrants : d.grants (d.calls p) call = true
    · rw [(hafter p hgrants).2, (hgranted p hgrants).2.1]
    · have hrefuses : d.grants (d.calls p) call = false := Bool.eq_false_iff.mpr hgrants
      rw [(hnever p hrefuses).2, (hrefused p hrefuses).2]
  · intro p haccepts
    by_cases hgrants : d.grants (d.calls p) call = true
    · obtain ⟨hok, hsettings, hcalls⟩ := hgranted p hgrants
      rw [(hafter p hgrants).2, ← hsettings]
      exact ⟨hok, hcalls⟩
    · exact absurd haccepts (hnever p (Bool.eq_false_iff.mpr hgrants)).1
  · intro p hrefuses
    by_cases hgrants : d.grants (d.calls p) call = true
    · exact absurd (hafter p hgrants).1 hrefuses
    · exact (hrefused p (Bool.eq_false_iff.mpr hgrants)).1

theorem call {call : C} {asked : Effect P E Unit} {next : Effect P E α} {value : S → α}
    (hgranted : ∀ p, d.grants (d.calls p) call = true → (asked.exec p).1 = .ok ())
    (hrefused : ∀ p, d.grants (d.calls p) call = false → ∃ error, (asked.exec p).1 = .error error)
    (hasked : ∀ p, d.settings (asked.exec p).2 = d.settings p ∧ d.calls (asked.exec p).2 = d.calls p ++ [call])
    (hnext : ∀ p, (next.exec p).1 = .ok (value (d.settings (next.exec p).2)) ∧
      d.settings (next.exec p).2 = d.apply (d.settings p) call ∧ d.calls (next.exec p).2 = d.calls p) :
    d.Performs [call] value (asked >>= fun _ => next) := by
  apply single
  · intro p hgrants
    have hexec : asked.exec p = (.ok (), (asked.exec p).2) := Prod.ext (hgranted p hgrants) rfl
    obtain ⟨hsettings, hcalls⟩ := hasked p
    obtain ⟨hvalue, happlied, hkept⟩ := hnext (asked.exec p).2
    rw [exec_bind_of_ok hexec]
    refine ⟨hvalue, ?_, hkept.trans hcalls⟩
    rw [happlied, hsettings]
  · intro p hrefuses
    obtain ⟨error, herror⟩ := hrefused p hrefuses
    have hexec : asked.exec p = (.error error, (asked.exec p).2) := Prod.ext herror rfl
    rw [exec_bind_of_error hexec]
    exact ⟨⟨error, rfl⟩, (hasked p).1⟩

theorem bind {next : α → Effect P E β} {later : α → S → β} (h : d.Performs made value effect)
    (hnext : ∀ a, d.Performs more (later a) (next a))
    (hkept : ∀ s, value (more.foldl d.apply s) = value s) :
    d.Performs (made ++ more) (fun s => later (value s) s) (effect >>= next) where
  settings p := by
    by_cases hall : d.Accepts made p
    · obtain ⟨hok, hcalls⟩ := h.done p hall
      have heffect : effect.exec p = (.ok (value (d.after made p)), (effect.exec p).2) := Prod.ext hok rfl
      rw [exec_bind_of_ok heffect, (hnext _).settings, after_append_of_accepts hall hcalls (h.settings p)]
    · obtain ⟨error, herror⟩ := h.refused p hall
      have heffect : effect.exec p = (.error error, (effect.exec p).2) := Prod.ext herror rfl
      rw [exec_bind_of_error heffect, after_append_of_refused hall]
      exact h.settings p
  done p hboth := by
    obtain ⟨hall, hmore⟩ := (accepts_append p).mp hboth
    obtain ⟨hok, hcalls⟩ := h.done p hall
    have heffect : effect.exec p = (.ok (value (d.after made p)), (effect.exec p).2) := Prod.ext hok rfl
    have haccepts : d.Accepts more (effect.exec p).2 := by
      rw [Accepts, hcalls]
      exact hmore
    obtain ⟨hdone, hlater⟩ := (hnext (value (d.after made p))).done _ haccepts
    have hvalue : value (d.after (made ++ more) p) = value (d.after made p) := by
      rw [after_append_of_accepts hall hcalls (h.settings p), after, haccepts, hkept, h.settings]
    rw [exec_bind_of_ok heffect, hvalue, after_append_of_accepts hall hcalls (h.settings p)]
    refine ⟨hdone, ?_⟩
    rw [hlater, hcalls, List.append_assoc]
  refused p hrefused := by
    by_cases hall : d.Accepts made p
    · obtain ⟨hok, hcalls⟩ := h.done p hall
      have heffect : effect.exec p = (.ok (value (d.after made p)), (effect.exec p).2) := Prod.ext hok rfl
      rw [exec_bind_of_ok heffect]
      apply (hnext _).refused
      intro hmore
      rw [Accepts, hcalls] at hmore
      exact hrefused ((accepts_append p).mpr ⟨hall, hmore⟩)
    · obtain ⟨error, herror⟩ := h.refused p hall
      have heffect : effect.exec p = (.error error, (effect.exec p).2) := Prod.ext herror rfl
      rw [exec_bind_of_error heffect]
      exact ⟨error, rfl⟩

theorem map (h : d.Performs made value effect) (f : α → β) :
    d.Performs made (fun s => f (value s)) (effect >>= fun a => Pure.pure (f a)) := by
  have hboth := h.bind (fun a => pure (f a)) fun _ => rfl
  rw [List.append_nil] at hboth
  exact hboth

theorem step {effect : Effect P E Unit} {next : Effect P E β} {later : S → β}
    (h : d.Performs made (fun _ => ()) effect) (hnext : d.Performs more later next) :
    d.Performs (made ++ more) later (effect >>= fun _ => next) :=
  h.bind (fun _ => hnext) fun _ => rfl

theorem value_of_ok (h : d.Performs made value effect) {p p' : P} {a : α}
    (hexec : effect.exec p = (.ok a, p')) : a = value (d.settings p') := by
  have hsettings := h.settings p
  rw [hexec] at hsettings
  by_cases hall : d.Accepts made p
  · have hok := (h.done p hall).1
    rw [hexec] at hok
    rw [hsettings]
    exact Except.ok.inj hok
  · obtain ⟨error, herror⟩ := h.refused p hall
    rw [hexec] at herror
    cases herror

/-- What is remembered from an effect that succeeded, or from before if it failed, is what the settings are
exactly if the calls before the one that was refused leave the settings as they were. -/
theorem remembered_iff {view : S → V} {effect : Effect P E V} (h : d.Performs made view effect)
    {p : P} {known : V}
    (hknown : known = view (d.settings p)) :
    (match (effect.exec p).1 with
      | .ok value => value
      | .error _ => known) = view (d.settings (effect.exec p).2) ↔
    (¬d.Accepts made p → view (d.after made p) = view (d.settings p)) := by
  rw [h.settings]
  by_cases hall : d.Accepts made p
  · rw [(h.done p hall).1]
    exact iff_of_true rfl fun hrefused => absurd hall hrefused
  · obtain ⟨error, herror⟩ := h.refused p hall
    rw [herror, hknown, imp_iff_right hall, eq_comm]

end Performs

end Device

end Lemnos.Library.Settings
