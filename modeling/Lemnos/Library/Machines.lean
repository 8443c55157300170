import Mathlib.Data.List.Basic

/-! A machine that answers one request after the other, and worlds in which several parties ask it. -/

namespace Lemnos.Library.Machines

variable {R P σ : Type} (answer : R → σ → Option (P × σ))

/-- The machine goes from one state to the other over the requests of the log, and gives the responses in it. -/
inductive Replays : List (R × P) → σ → σ → Prop where
  | nil (state : σ) : Replays [] state state
  | cons {request : R} {response : P} {log : List (R × P)} {before between after : σ}
      (first : answer request before = some (response, between)) (rest : Replays log between after) :
      Replays ((request, response) :: log) before after

/-- A machine that is there has gone over the log, and one that is not has not come. -/
structure ReplaysAt (log : List (R × P)) (before after : Option σ) : Prop where
  present : ∀ state, before = some state → ∃ state', after = some state' ∧ Replays answer log state state'
  absent : before = none → after = none

variable {answer} {log later : List (R × P)}

namespace Replays

theorem append {before between after : σ} (h : Replays answer log before between)
    (hlater : Replays answer later between after) : Replays answer (log ++ later) before after := by
  induction h with
  | nil state => exact hlater
  | cons first rest ih => exact .cons first (ih hlater)

theorem invariant {inv : σ → Prop}
    (hstep : ∀ request state response state', inv state → answer request state = some (response, state') → inv state')
    {before after : σ} (h : Replays answer log before after) (hinv : inv before) : inv after := by
  induction h with
  | nil state => exact hinv
  | cons first rest ih => exact ih (hstep _ _ _ _ hinv first)

theorem answered (q : R → P → Prop)
    (hstep : ∀ request state response state', answer request state = some (response, state') → q request response)
    {before after : σ} (h : Replays answer log before after) : ∀ one ∈ log, q one.1 one.2 := by
  induction h with
  | nil state => exact fun one hone => absurd hone List.not_mem_nil
  | cons first rest ih => exact List.forall_mem_cons.mpr ⟨hstep _ _ _ _ first, ih⟩

theorem drains {β : Type} {store : σ → List β} {out : R → P → List β}
    (hstep : ∀ request state response state', answer request state = some (response, state') →
      store state = out request response ++ store state')
    {before after : σ} (h : Replays answer log before after) :
    store before = (log.flatMap fun one => out one.1 one.2) ++ store after := by
  induction h with
  | nil state => rfl
  | cons first rest ih => rw [hstep _ _ _ _ first, ih, List.flatMap_cons, List.append_assoc]

theorem fills {β : Type} {store : σ → List β} {put : R → P → List β}
    (hstep : ∀ request state response state', answer request state = some (response, state') →
      store state' = store state ++ put request response)
    {before after : σ} (h : Replays answer log before after) :
    store after = store before ++ log.flatMap fun one => put one.1 one.2 := by
  induction h with
  | nil state => exact (List.append_nil _).symm
  | cons first rest ih => rw [ih, hstep _ _ _ _ first, List.flatMap_cons, List.append_assoc]

end Replays

namespace ReplaysAt

theorem refl (entry : Option σ) : ReplaysAt answer [] entry entry :=
  ⟨fun state hstate => ⟨state, hstate, .nil state⟩, fun hnone => hnone⟩

theorem append {before between after : Option σ} (h : ReplaysAt answer log before between)
    (hlater : ReplaysAt answer later between after) : ReplaysAt answer (log ++ later) before after where
  present state hstate := by
    obtain ⟨middle, hmiddle, hfirst⟩ := h.present state hstate
    obtain ⟨state', hstate', hrest⟩ := hlater.present middle hmiddle
    exact ⟨state', hstate', hfirst.append hrest⟩
  absent hnone := hlater.absent (h.absent hnone)

end ReplaysAt

section Worlds

variable {A W E : Type} (step : A → W → List E × W)

/-- All that happens while the parties act one after the other, and the world after it. -/
def happen : List A → W → List E × W
  | [], w => ([], w)
  | a :: as, w =>
    let (events, between) := step a w
    let (more, after) := happen as between
    (events ++ more, after)

variable {step}

/-- In a world where each action moves the machine by the requests that it serves, the machine has served all
requests that were served one after the other, whoever asked. -/
theorem happen_replays {machine : W → Option σ} {served : E → Option (R × P)} {good : A → Prop}
    (hstep : ∀ a w, good a → ReplaysAt answer ((step a w).1.filterMap served) (machine w) (machine (step a w).2))
    {as : List A} (hgood : ∀ a ∈ as, good a) (w : W) :
    ReplaysAt answer ((happen step as w).1.filterMap served) (machine w) (machine (happen step as w).2) := by
  induction as generalizing w with
  | nil => exact .refl (machine w)
  | cons a as ih =>
    have hfirst := hstep a w (hgood a List.mem_cons_self)
    have hrest := ih (fun a ha => hgood a (List.mem_cons_of_mem _ ha)) (step a w).2
    simp only [happen, List.filterMap_append]
    exact hfirst.append hrest

end Worlds

end Lemnos.Library.Machines
