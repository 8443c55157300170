import Mathlib.Logic.Basic

/-! Effects that may fail and leave a state behind either way, and what of the state they keep. -/

namespace Lemnos.Library.Frames

abbrev Effect (S E : Type) := ExceptT E (StateM S)

variable {S T E F α β γ δ : Type}

def Effect.exec (effect : Effect S E α) (s : S) : Except E α × S := StateT.run (ExceptT.run effect) s

@[simp] theorem exec_ofExcept (result : Except E α) (s : S) :
    (MonadExcept.ofExcept result : Effect S E α).exec s = (result, s) := by
  cases result <;> rfl

@[simp] theorem exec_get (s : S) : (get : Effect S E S).exec s = (.ok s, s) := rfl

@[simp] theorem exec_modify (f : S → S) (s : S) :
    (modify f : Effect S E PUnit).exec s = (.ok ⟨⟩, f s) := rfl

theorem exec_bind (effect : Effect S E α) (next : α → Effect S E β) (s : S) :
    (effect >>= next).exec s =
      match effect.exec s with
      | (.ok a, s') => (next a).exec s'
      | (.error error, s') => (.error error, s') := by
  simp only [Effect.exec, ExceptT.run_bind, StateT.run_bind]
  cases h : (StateT.run (ExceptT.run effect) s : Except E α × S) with
  | mk result s' =>
    cases result <;> rfl

theorem exec_bind_of_ok {effect : Effect S E α} {next : α → Effect S E β} {s s' : S} {a : α}
    (h : effect.exec s = (.ok a, s')) : (effect >>= next).exec s = (next a).exec s' := by
  rw [exec_bind, h]

theorem exec_bind_of_error {effect : Effect S E α} {next : α → Effect S E β} {s s' : S} {error : E}
    (h : effect.exec s = (.error error, s')) : (effect >>= next).exec s = (.error error, s') := by
  rw [exec_bind, h]

theorem exec_bind_pure (effect : Effect S E α) (f : α → β) (s : S) :
    (effect >>= fun a => pure (f a)).exec s = ((effect.exec s).1.map f, (effect.exec s).2) := by
  rw [exec_bind]
  cases effect.exec s with
  | mk result s' => cases result <;> rfl

theorem exec_bind_ok_iff {effect : Effect S E α} {next : α → Effect S E β} {s : S} {b : β} :
    ((effect >>= next).exec s).1 = .ok b ↔
      ∃ a s', effect.exec s = (.ok a, s') ∧ ((next a).exec s').1 = .ok b := by
  rw [exec_bind]
  rcases effect.exec s with ⟨_ | a, s'⟩
  · simp
  · constructor
    · exact fun h => ⟨a, s', rfl, h⟩
    · rintro ⟨_, _, hfirst, h⟩
      cases hfirst
      exact h

theorem exec_forM_ok_iff {elements : List α} {body : α → Effect S E PUnit} {s : S} :
    ((elements.forM body).exec s).1 = .ok ⟨⟩ ↔ ∀ before a after, elements = before ++ a :: after →
      ((body a).exec ((before.forM body).exec s).2).1 = .ok ⟨⟩ := by
  induction elements generalizing s with
  | nil =>
    refine ⟨fun _ before a after hsplit => ?_, fun _ => rfl⟩
    exact absurd hsplit.symm (List.append_ne_nil_of_right_ne_nil before (List.cons_ne_nil a after))
  | cons first elements ih =>
    change ((body first >>= fun _ => elements.forM body).exec s).1 = .ok ⟨⟩ ↔ _
    have hstep : ∀ {s' : S} (before : List α), (body first).exec s = (.ok ⟨⟩, s') →
        ((first :: before).forM body).exec s = (before.forM body).exec s' :=
      fun before hfirst => exec_bind_of_ok hfirst
    rw [exec_bind_ok_iff]
    constructor
    · rintro ⟨_, s', hfirst, hrest⟩ before a after hsplit
      cases before with
      | nil =>
        cases hsplit
        exact congrArg Prod.fst hfirst
      | cons b before =>
        cases hsplit
        rw [hstep before hfirst]
        exact ih.mp hrest before a after rfl
    · intro h
      have hfirst : (body first).exec s = (.ok ⟨⟩, ((body first).exec s).2) :=
        Prod.ext (h [] first elements rfl) rfl
      refine ⟨⟨⟩, _, hfirst, ih.mpr ?_⟩
      intro before a after hsplit
      have hlater := h (first :: before) a after (by rw [hsplit]; rfl)
      rw [hstep before hfirst] at hlater
      exact hlater

theorem exec_adapt (f : E → F) (effect : Effect S E α) (s : S) :
    Effect.exec (ExceptT.adapt f effect) s = ((effect.exec s).1.mapError f, (effect.exec s).2) := by
  unfold ExceptT.adapt
  rfl

def Keeps (view : S → γ) (effect : Effect S E α) : Prop := ∀ s, view (effect.exec s).2 = view s

variable {view : S → γ}

theorem Keeps.pure (a : α) : Keeps view (Pure.pure a : Effect S E α) := fun _ => rfl

theorem Keeps.throw (error : E) : Keeps view (MonadExcept.throw error : Effect S E α) := fun _ => rfl

theorem Keeps.ofExcept (result : Except E α) : Keeps view (MonadExcept.ofExcept result : Effect S E α) := by
  intro s
  rw [exec_ofExcept]

theorem keeps_get : Keeps view (get : Effect S E S) := fun _ => rfl

theorem Keeps.update {f : S → S} (h : ∀ s, view (f s) = view s) :
    Keeps view (modify f : Effect S E PUnit) := h

theorem Keeps.bind {effect : Effect S E α} {next : α → Effect S E β} (h : Keeps view effect)
    (hnext : ∀ a, Keeps view (next a)) : Keeps view (effect >>= next) := by
  intro s
  have hfirst := h s
  rw [exec_bind]
  cases heffect : effect.exec s with
  | mk result s₁ =>
    rw [heffect] at hfirst
    cases result with
    | error error => exact hfirst
    | ok a => exact (hnext a s₁).trans hfirst

theorem Keeps.adapt {effect : Effect S E α} (h : Keeps view effect) (f : E → F) :
    Keeps view (ExceptT.adapt f effect : Effect S F α) := by
  intro s
  rw [exec_adapt]
  exact h s

theorem Keeps.ite {p : Prop} [Decidable p] {effect other : Effect S E α} (h : p → Keeps view effect)
    (hother : ¬p → Keeps view other) : Keeps view (if p then effect else other) := by
  split
  · exact h ‹p›
  · exact hother ‹¬p›

/-- The effect with its result as a value, so that what follows is run also when it failed. -/
def Effect.attempt (effect : Effect S E α) : Effect S F (Except E α) :=
  ExceptT.mk (fun s => let (result, s') := effect.exec s; (.ok result, s'))

theorem exec_attempt (effect : Effect S E α) (s : S) :
    (effect.attempt : Effect S F (Except E α)).exec s = (.ok (effect.exec s).1, (effect.exec s).2) := rfl

theorem Keeps.attempt {effect : Effect S E α} (h : Keeps view effect) :
    Keeps view (effect.attempt : Effect S F (Except E α)) := h

def Effect.within (part : S → T) (put : T → S → S) (effect : Effect T E α) : Effect S E α :=
  ExceptT.mk (fun s => let (result, t) := effect.exec (part s); (result, put t s))

theorem exec_within (part : S → T) (put : T → S → S) (effect : Effect T E α) (s : S) :
    (effect.within part put).exec s = ((effect.exec (part s)).1, put (effect.exec (part s)).2 s) := rfl

theorem Keeps.within {part : S → T} {put : T → S → S} {narrow : T → δ} {effect : Effect T E α}
    (h : Keeps narrow effect) (hput : ∀ t s, narrow t = narrow (part s) → view (put t s) = view s) :
    Keeps view (effect.within part put) := fun s => hput _ s (h (part s))

end Lemnos.Library.Frames
