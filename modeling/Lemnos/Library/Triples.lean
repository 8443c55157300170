import Lemnos.Library.Frames

/-! Pre- and postconditions of effects that may fail. -/

namespace Lemnos.Library.Frames

variable {S E F α β : Type} {pre inv failed : S → Prop} {post : α → S → Prop}

def Outcome (post : α → S → Prop) (failed : S → Prop) : Except E α → S → Prop
  | .ok a => post a
  | .error _ => failed

/-- From a state that meets `pre` the effect ends in one that meets `post` if it succeeds and `failed` if not. -/
def Triple (pre : S → Prop) (effect : Effect S E α) (post : α → S → Prop) (failed : S → Prop) : Prop :=
  ∀ s, pre s → Outcome post failed (effect.exec s).1 (effect.exec s).2

def Maintains (inv : S → Prop) (effect : Effect S E α) : Prop :=
  Triple inv effect (fun _ => inv) inv

namespace Triple

theorem of_ok {effect : Effect S E α} (h : Triple pre effect post failed) {s s' : S} {a : α} (hs : pre s)
    (hok : effect.exec s = (.ok a, s')) : post a s' := by
  have hpost := h s hs
  rw [hok] at hpost
  exact hpost

theorem consequence {effect : Effect S E α} {pre' failed' : S → Prop} {post' : α → S → Prop}
    (h : Triple pre effect post failed) (hpre : ∀ s, pre' s → pre s) (hpost : ∀ a s, post a s → post' a s)
    (hfailed : ∀ s, failed s → failed' s) : Triple pre' effect post' failed' := by
  intro s hs
  have hspec := h s (hpre s hs)
  revert hspec
  cases (effect.exec s).1 with
  | error error => exact hfailed _
  | ok a => exact hpost a _

theorem pure {a : α} (h : ∀ s, pre s → post a s) :
    Triple pre (Pure.pure a : Effect S E α) post failed := h

theorem throw {error : E} (h : ∀ s, pre s → failed s) :
    Triple pre (MonadExcept.throw error : Effect S E α) post failed := h

theorem update {f : S → S} {post : PUnit → S → Prop} (h : ∀ s, pre s → post ⟨⟩ (f s)) :
    Triple pre (modify f : Effect S E PUnit) post failed := h

theorem bind {effect : Effect S E α} {next : α → Effect S E β} {post' : β → S → Prop}
    (h : Triple pre effect post failed) (hnext : ∀ a, Triple (post a) (next a) post' failed) :
    Triple pre (effect >>= next) post' failed := by
  intro s hs
  have hfirst := h s hs
  rw [exec_bind]
  cases hexec : effect.exec s with
  | mk result s₁ =>
    rw [hexec] at hfirst
    cases result with
    | error error => exact hfirst
    | ok a => exact hnext a s₁ hfirst

theorem get_bind {next : S → Effect S E α} (h : ∀ s, pre s → Triple (fun s' => s' = s) (next s) post failed) :
    Triple pre (get >>= next) post failed := by
  intro s hs
  rw [exec_bind_of_ok (exec_get s)]
  exact h s hs s rfl

theorem attempt {effect : Effect S E α} {post' : Except E α → S → Prop} {failed' : S → Prop}
    (h : ∀ s, pre s → post' (effect.exec s).1 (effect.exec s).2) :
    Triple pre (effect.attempt : Effect S F (Except E α)) post' failed' := by
  intro s hs
  rw [exec_attempt]
  exact h s hs

theorem adapt {effect : Effect S E α} (h : Triple pre effect post failed) (f : E → F) :
    Triple pre (ExceptT.adapt f effect : Effect S F α) post failed := by
  intro s hs
  have hspec := h s hs
  rw [exec_adapt]
  revert hspec
  cases (effect.exec s).1 with
  | error error => exact id
  | ok a => exact id

theorem forM {elements : List α} {body : α → Effect S E PUnit} (h : ∀ a ∈ elements, Maintains inv (body a)) :
    Maintains inv (elements.forM body) := by
  induction elements with
  | nil => exact Triple.pure fun _ hs => hs
  | cons a elements ih =>
    change Maintains inv (body a >>= fun _ => elements.forM body)
    apply Triple.bind (h a List.mem_cons_self)
    exact fun _ => ih fun b hb => h b (List.mem_cons_of_mem a hb)

theorem forM_reaches {elements : List α} {body : α → Effect S E PUnit} {goal : S → Prop} {a : α}
    (ha : a ∈ elements) (hkeep : ∀ b ∈ elements, Maintains inv (body b))
    (hgoal : ∀ b ∈ elements, Maintains goal (body b)) (hreach : Triple inv (body a) (fun _ => goal) inv)
    (hinv : ∀ s, goal s → inv s) : Triple inv (elements.forM body) (fun _ => goal) inv := by
  induction elements with
  | nil => cases ha
  | cons b elements ih =>
    change Triple inv (body b >>= fun _ => elements.forM body) _ _
    have hlater : ∀ c ∈ elements, c ∈ b :: elements := fun c hc => List.mem_cons_of_mem b hc
    rcases List.mem_cons.mp ha with rfl | ha
    · apply Triple.bind hreach
      intro _
      have hrest := Triple.forM fun c hc => hgoal c (hlater c hc)
      exact hrest.consequence (fun _ hs => hs) (fun _ _ hs => hs) hinv
    · apply Triple.bind (hkeep b List.mem_cons_self)
      exact fun _ => ih ha (fun c hc => hkeep c (hlater c hc)) fun c hc => hgoal c (hlater c hc)

end Triple

end Lemnos.Library.Frames
