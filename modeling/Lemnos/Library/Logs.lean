import Lemnos.Library.Frames

/-! What effects add to a log that only grows, and where they are refused without a trace. -/

namespace Lemnos.Library.Frames

variable {S T O E F α β : Type} {log : S → List O} {p q : O → Prop}

theorem Keeps.of_id {γ : Type} {effect : Effect S E α} (h : Keeps id effect) (view : S → γ) :
    Keeps view effect :=
  fun s => congrArg view (h s)

/-- The effect appends entries to the log, all of one kind, whether it succeeds or fails. -/
def Logs (log : S → List O) (p : O → Prop) (effect : Effect S E α) : Prop :=
  ∀ s, ∃ made, log (effect.exec s).2 = log s ++ made ∧ ∀ entry ∈ made, p entry

/-- What the effect adds to a log that only grows. -/
def Effect.made (log : S → List O) (effect : Effect S E α) (s : S) : List O :=
  (log (effect.exec s).2).drop (log s).length

theorem made_of_append {effect : Effect S E α} {s : S} {entries : List O}
    (h : log (effect.exec s).2 = log s ++ entries) : effect.made log s = entries := by
  rw [Effect.made, h, List.drop_left]

namespace Logs

theorem of_eq {effect : Effect S E α} (h : Keeps log effect) : Logs log p effect := by
  intro s
  refine ⟨[], ?_, fun entry hentry => absurd hentry List.not_mem_nil⟩
  rw [h s, List.append_nil]

theorem pure (a : α) : Logs log p (Pure.pure a : Effect S E α) := .of_eq (.pure a)

theorem throw (error : E) : Logs log p (MonadExcept.throw error : Effect S E α) := .of_eq (.throw error)

theorem ofExcept (result : Except E α) : Logs log p (MonadExcept.ofExcept result : Effect S E α) :=
  .of_eq (.ofExcept result)

theorem entry {effect : Effect S E α} {made : O} (hlog : ∀ s, log (effect.exec s).2 = log s ++ [made])
    (hp : p made) : Logs log p effect := by
  intro s
  refine ⟨[made], hlog s, ?_⟩
  intro entry hentry
  rw [List.mem_singleton.mp hentry]
  exact hp

theorem bind {effect : Effect S E α} {next : α → Effect S E β} (h : Logs log p effect)
    (hnext : ∀ a, Logs log p (next a)) : Logs log p (effect >>= next) := by
  intro s
  obtain ⟨made, hlog, hmade⟩ := h s
  rw [exec_bind]
  cases heffect : effect.exec s with
  | mk result s₁ =>
    rw [heffect] at hlog
    cases result with
    | error error => exact ⟨made, hlog, hmade⟩
    | ok a =>
      obtain ⟨more, hlog', hmore⟩ := hnext a s₁
      refine ⟨made ++ more, ?_, ?_⟩
      · change log ((next a).exec s₁).2 = _
        rw [hlog', hlog, List.append_assoc]
      · intro entry hentry
        rcases List.mem_append.mp hentry with hfirst | hlater
        · exact hmade entry hfirst
        · exact hmore entry hlater

theorem get_bind {next : S → Effect S E α} (hnext : ∀ s, Logs log p (next s)) :
    Logs log p (get >>= next) := bind (.of_eq keeps_get) hnext

theorem adapt {effect : Effect S E α} (h : Logs log p effect) (f : E → F) :
    Logs log p (ExceptT.adapt f effect : Effect S F α) := by
  intro s
  rw [exec_adapt]
  exact h s

theorem ite {c : Prop} [Decidable c] {effect other : Effect S E α} (h : c → Logs log p effect)
    (hother : ¬c → Logs log p other) : Logs log p (if c then effect else other) := by
  split
  · exact h ‹c›
  · exact hother ‹¬c›

theorem attempt {effect : Effect S E α} (h : Logs log p effect) :
    Logs log p (effect.attempt : Effect S F (Except E α)) := h

theorem within {part : S → T} {put : T → S → S} {narrow : T → List O} {effect : Effect T E α}
    (h : Logs narrow p effect) (hpart : ∀ s, log s = narrow (part s)) (hput : ∀ t s, log (put t s) = narrow t) :
    Logs log p (effect.within part put) := by
  intro s
  obtain ⟨made, hlog, hmade⟩ := h (part s)
  refine ⟨made, ?_, hmade⟩
  rw [exec_within]
  change log (put _ s) = _
  rw [hput, hlog, hpart]

end Logs

theorem failed_bind_pure_iff (effect : Effect S E α) (f : α → β) (s : S) (p : List O → Prop) :
    (∀ error, ((effect >>= fun a => pure (f a)).exec s).1 = .error error →
      p ((effect >>= fun a => pure (f a)).made log s)) ↔
      ∀ error, (effect.exec s).1 = .error error → p (effect.made log s) := by
  rw [Effect.made, exec_bind_pure, Effect.made]
  cases (effect.exec s).1 with
  | ok a => exact iff_of_true (fun _ => nofun) fun _ => nofun
  | error failure =>
    constructor
    · rintro h _ ⟨⟩
      exact h failure rfl
    · rintro h _ ⟨⟩
      exact h failure rfl

theorem made_bind_of_ok {effect : Effect S E α} {next : α → Effect S E β} {s s' : S} {a : α} {asked : List O}
    (hexec : effect.exec s = (.ok a, s')) (hasked : log s' = log s ++ asked) (hnext : Logs log p (next a)) :
    (effect >>= next).made log s = asked ++ (next a).made log s' := by
  obtain ⟨more, hmore, -⟩ := hnext s'
  rw [made_of_append hmore]
  apply made_of_append
  rw [exec_bind_of_ok hexec, hmore, hasked, List.append_assoc]

def Refuses (p : S → Prop) (effect : Effect S E α) : Prop :=
  ∀ s, p s → ∃ error, effect.exec s = (.error error, s)

namespace Refuses

variable {p : S → Prop}

theorem bind {effect : Effect S E α} (h : Refuses p effect) (next : α → Effect S E β) :
    Refuses p (effect >>= next) := by
  intro s hs
  obtain ⟨error, herror⟩ := h s hs
  exact ⟨error, exec_bind_of_error herror⟩

theorem after {check : Effect S E α} {next : α → Effect S E β} (hcheck : Keeps id check)
    (h : ∀ a, Refuses p (next a)) : Refuses p (check >>= next) := by
  intro s hs
  have hsame : (check.exec s).2 = s := hcheck s
  rw [exec_bind]
  cases hexec : check.exec s with
  | mk result s₁ =>
    rw [hexec] at hsame
    cases hsame
    cases result with
    | error error => exact ⟨error, rfl⟩
    | ok a => exact h a s₁ hs

end Refuses

end Lemnos.Library.Frames
