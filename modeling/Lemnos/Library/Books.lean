import Mathlib.Algebra.GroupWithZero.Nat
import Lemnos.Library.Frames

/-! Effects that keep a book: what a success enters in it, and that a failure leaves it alone. -/

namespace Lemnos.Library.Frames

variable {S T E F α β γ A B : Type} {view : S → γ}

/-- A success takes the view where the relation says, a failure leaves it alone. -/
structure Settles (view : S → γ) (effect : Effect S E α) (relation : γ → α → γ → Prop) : Prop where
  ok : ∀ s a s', effect.exec s = (.ok a, s') → relation (view s) a (view s')
  error : ∀ s error s', effect.exec s = (.error error, s') → view s' = view s

namespace Settles

variable {relation : γ → α → γ → Prop} {relation' : γ → β → γ → Prop}

theorem of_keeps {effect : Effect S E α} (h : Keeps view effect) (hrelation : ∀ v a, relation v a v) :
    Settles view effect relation where
  ok s a s' hexec := by
    have hsame := h s
    rw [hexec] at hsame
    rw [hsame]
    exact hrelation _ a
  error s error s' hexec := by
    have hsame := h s
    rw [hexec] at hsame
    exact hsame

theorem pure {a : α} (h : ∀ v, relation v a v) : Settles view (Pure.pure a : Effect S E α) relation where
  ok s b s' hexec := by
    cases hexec
    exact h _
  error s error s' hexec := by cases hexec

theorem imp {effect : Effect S E α} {weaker : γ → α → γ → Prop} (h : Settles view effect relation)
    (himp : ∀ v a v', relation v a v' → weaker v a v') : Settles view effect weaker where
  ok s a s' hexec := himp _ _ _ (h.ok s a s' hexec)
  error := h.error

theorem keeps {effect : Effect S E α} (h : Settles view effect relation)
    (hrelation : ∀ v a v', relation v a v' → v' = v) : Keeps view effect := by
  intro s
  cases hexec : effect.exec s with
  | mk result s' =>
    cases result with
    | error error => exact h.error s error s' hexec
    | ok a => exact hrelation _ _ _ (h.ok s a s' hexec)

theorem throw_bind (error : E) (next : α → Effect S E β) :
    Settles view (MonadExcept.throw error >>= next) relation' where
  ok s b s' hexec := by cases hexec
  error s failure s' hexec := by
    cases hexec
    rfl

theorem after {effect : Effect S E α} {next : α → Effect S E β} (h : Keeps view effect)
    (hnext : ∀ a, Settles view (next a) relation') : Settles view (effect >>= next) relation' where
  ok s b s' hexec := by
    have hsame := h s
    rw [exec_bind] at hexec
    cases heffect : effect.exec s with
    | mk result s₁ =>
      rw [heffect] at hexec hsame
      cases result with
      | error error => cases hexec
      | ok a =>
        rw [← hsame]
        exact (hnext a).ok s₁ b s' hexec
  error s error s' hexec := by
    have hsame := h s
    rw [exec_bind] at hexec
    cases heffect : effect.exec s with
    | mk result s₁ =>
      rw [heffect] at hexec hsame
      cases result with
      | error error =>
        cases hexec
        exact hsame
      | ok a => exact ((hnext a).error s₁ error s' hexec).trans hsame

theorem update_pure {f : S → S} {b : β} (h : ∀ s, relation' (view s) b (view (f s))) :
    Settles view (modify f >>= fun _ => Pure.pure b : Effect S E β) relation' where
  ok s a s' hexec := by
    cases hexec
    exact h s
  error s error s' hexec := by cases hexec

theorem answer {effect : Effect S E α} {next : α → Effect S E β} {f : α → β}
    (h : Settles view effect relation)
    (hnext : ∀ a v s, relation v a (view s) → ∃ s', (next a).exec s = (.ok (f a), s') ∧ view s' = view s)
    (himp : ∀ v a v', relation v a v' → relation' v (f a) v') : Settles view (effect >>= next) relation' where
  ok s b s' hexec := by
    rw [exec_bind] at hexec
    cases heffect : effect.exec s with
    | mk result s₁ =>
      rw [heffect] at hexec
      cases result with
      | error error => cases hexec
      | ok a =>
        have hsettled := h.ok s a s₁ heffect
        obtain ⟨s₂, hdone, hsame⟩ := hnext a _ s₁ hsettled
        cases hdone.symm.trans hexec
        rw [hsame]
        exact himp _ _ _ hsettled
  error s error s' hexec := by
    rw [exec_bind] at hexec
    cases heffect : effect.exec s with
    | mk result s₁ =>
      rw [heffect] at hexec
      cases result with
      | error failure =>
        cases hexec
        exact h.error s error _ heffect
      | ok a =>
        obtain ⟨s₂, hdone, -⟩ := hnext a _ s₁ (h.ok s a s₁ heffect)
        cases hdone.symm.trans hexec

theorem map {effect : Effect S E α} {f : α → β} (h : Settles view effect relation)
    (himp : ∀ v a v', relation v a v' → relation' v (f a) v') :
    Settles view (effect >>= fun a => Pure.pure (f a)) relation' :=
  h.answer (fun _ _ s _ => ⟨s, rfl, rfl⟩) himp

end Settles

/-- After a success the view shows what the entry makes of it, after a failure what it showed before. -/
abbrev Books (view : S → γ) (effect : Effect S E α) (entry : α → γ → γ) : Prop :=
  Settles view effect fun v a v' => v' = entry a v

def Yields (p : α → Prop) (effect : Effect S E α) : Prop := ∀ s a s', effect.exec s = (.ok a, s') → p a

namespace Yields

variable {p : α → Prop}

theorem pure {a : α} (h : p a) : Yields p (Pure.pure a : Effect S E α) := by
  intro s b s' hexec
  cases hexec
  exact h

theorem throw_bind (error : E) (next : β → Effect S E α) : Yields p (MonadExcept.throw error >>= next) := by
  intro s a s' hexec
  cases hexec

theorem after {effect : Effect S E β} {next : β → Effect S E α} (h : ∀ b, Yields p (next b)) :
    Yields p (effect >>= next) := by
  intro s a s' hexec
  rw [exec_bind] at hexec
  cases heffect : effect.exec s with
  | mk result s₁ =>
    rw [heffect] at hexec
    cases result with
    | error error => cases hexec
    | ok b => exact h b s₁ a s' hexec

theorem map {effect : Effect S E α} {f : α → β} {q : β → Prop} (h : Yields (fun a => q (f a)) effect) :
    Yields q (effect >>= fun a => Pure.pure (f a)) := by
  intro s b s' hexec
  rw [exec_bind_pure] at hexec
  cases heffect : effect.exec s with
  | mk result s₁ =>
    rw [heffect] at hexec
    cases result with
    | error error => cases hexec
    | ok a =>
      cases hexec
      exact h s a s₁ heffect

theorem within {T : Type} {part : S → T} {put : T → S → S} {effect : Effect T E α} (h : Yields p effect) :
    Yields p (effect.within part put) := by
  intro s a s' hexec
  rw [exec_within] at hexec
  exact h (part s) a _ (Prod.ext (Prod.mk.inj hexec).1 rfl)

end Yields

theorem Settles.yields {relation : γ → α → γ → Prop} {p : α → Prop} {effect : Effect S E α}
    (h : Settles view effect relation) (hp : Yields p effect) :
    Settles view effect fun v a v' => p a ∧ relation v a v' where
  ok s a s' hexec := ⟨hp s a s' hexec, h.ok s a s' hexec⟩
  error := h.error

def Raises (p : E → Prop) (effect : Effect S E α) : Prop :=
  ∀ s error s', effect.exec s = (.error error, s') → p error

namespace Raises

variable {p : E → Prop}

theorem pure (a : α) : Raises p (Pure.pure a : Effect S E α) := by
  intro s error s' hexec
  cases hexec

theorem update (f : S → S) : Raises p (modify f : Effect S E PUnit) := by
  intro s error s' hexec
  cases hexec

theorem get : Raises p (MonadState.get : Effect S E S) := by
  intro s error s' hexec
  cases hexec

theorem throw_bind {error : E} (h : p error) (next : β → Effect S E α) :
    Raises p (MonadExcept.throw error >>= next) := by
  intro s failure s' hexec
  cases hexec
  exact h

theorem bind_ok {effect : Effect S E β} {next : β → Effect S E α} (h : Raises p effect)
    (hnext : ∀ b s s', effect.exec s = (.ok b, s') → Raises p (next b)) : Raises p (effect >>= next) := by
  intro s error s' hexec
  rw [exec_bind] at hexec
  cases heffect : effect.exec s with
  | mk result s₁ =>
    rw [heffect] at hexec
    cases result with
    | error failure =>
      cases hexec
      exact h s error s' heffect
    | ok b => exact hnext b s s₁ heffect s₁ error s' hexec

theorem bind {effect : Effect S E β} {next : β → Effect S E α} (h : Raises p effect)
    (hnext : ∀ b, Raises p (next b)) : Raises p (effect >>= next) :=
  h.bind_ok fun b _ _ _ => hnext b

end Raises

def Reports (view : S → γ) (p : γ → α → Prop) (effect : Effect S E α) : Prop :=
  ∀ s a s', effect.exec s = (.ok a, s') → p (view s) a

namespace Reports

variable {p : γ → α → Prop}

theorem get_pure {f : S → α} (h : ∀ s, p (view s) (f s)) :
    Reports view p (get >>= fun s => Pure.pure (f s) : Effect S E α) := by
  intro s a s' hexec
  cases hexec
  exact h s

theorem after {effect : Effect S E β} {next : β → Effect S E α} (h : Keeps view effect)
    (hnext : ∀ b, Reports view p (next b)) : Reports view p (effect >>= next) := by
  intro s a s' hexec
  have hsame := h s
  rw [exec_bind] at hexec
  cases heffect : effect.exec s with
  | mk result s₁ =>
    rw [heffect] at hexec hsame
    cases result with
    | error error => cases hexec
    | ok b =>
      rw [← hsame]
      exact hnext b s₁ a s' hexec

end Reports

/-- The actions are tried one after the other, whether the ones before succeeded or failed; those that succeeded are
listed with their results. -/
def attempts (perform : A → Effect S E B) : List A → S → List (A × B) × S
  | [], s => ([], s)
  | a :: as, s =>
    match (perform a).exec s with
    | (.ok b, s') => ((a, b) :: (attempts perform as s').1, (attempts perform as s').2)
    | (.error _, s') => attempts perform as s'

variable {perform : A → Effect S E B} {entry : A → B → γ → γ}

theorem attempts_cons_of_ok {a : A} {as : List A} {b : B} {s s' : S} (h : (perform a).exec s = (.ok b, s')) :
    attempts perform (a :: as) s = ((a, b) :: (attempts perform as s').1, (attempts perform as s').2) := by
  rw [attempts, h]

theorem attempts_cons_of_error {a : A} {as : List A} {error : E} {s s' : S}
    (h : (perform a).exec s = (.error error, s')) : attempts perform (a :: as) s = attempts perform as s' := by
  rw [attempts, h]

theorem attempts_view (h : ∀ a, Books view (perform a) (entry a)) (as : List A) (s : S) :
    view (attempts perform as s).2 =
      (attempts perform as s).1.foldl (fun v done => entry done.1 done.2 v) (view s) := by
  induction as generalizing s with
  | nil => rfl
  | cons a as ih =>
    cases hexec : (perform a).exec s with
    | mk result s' =>
      cases result with
      | ok b =>
        rw [attempts_cons_of_ok hexec, List.foldl_cons, ← (h a).ok s b s' hexec]
        exact ih s'
      | error error =>
        rw [attempts_cons_of_error hexec, ← (h a).error s error s' hexec]
        exact ih s'

theorem attempts_invariant {inv : S → Prop} {good : A → B → Prop}
    (hok : ∀ a s b s', inv s → (perform a).exec s = (.ok b, s') → inv s' ∧ good a b)
    (herror : ∀ a s error s', inv s → (perform a).exec s = (.error error, s') → inv s') (as : List A) {s : S}
    (hs : inv s) :
    inv (attempts perform as s).2 ∧ ∀ done ∈ (attempts perform as s).1, good done.1 done.2 := by
  induction as generalizing s with
  | nil => exact ⟨hs, fun done hdone => absurd hdone List.not_mem_nil⟩
  | cons a as ih =>
    cases hexec : (perform a).exec s with
    | mk result s' =>
      cases result with
      | ok b =>
        obtain ⟨hs', hgood⟩ := hok a s b s' hs hexec
        obtain ⟨hlast, hall⟩ := ih hs'
        rw [attempts_cons_of_ok hexec]
        refine ⟨hlast, ?_⟩
        intro done hdone
        rcases List.mem_cons.mp hdone with rfl | hdone
        · exact hgood
        · exact hall done hdone
      | error error =>
        rw [attempts_cons_of_error hexec]
        exact ih (herror a s error s' hs hexec)

theorem attempts_yield {good : A → B → Prop} (h : ∀ a, Yields (good a) (perform a)) (as : List A) (s : S) :
    ∀ done ∈ (attempts perform as s).1, good done.1 done.2 := by
  have hok : ∀ a s b s', True → (perform a).exec s = (.ok b, s') → True ∧ good a b :=
    fun a s b s' _ hexec => ⟨trivial, h a s b s' hexec⟩
  exact (attempts_invariant hok (fun _ _ _ _ hinv _ => hinv) as trivial).2

section Counters

variable {counter : γ → UInt64} {credit : A → B → ℕ} {good : A → B → Prop}

theorem foldl_counter (h : ∀ a b v, good a b → counter (entry a b v) = counter v + UInt64.ofNat (credit a b))
    (done : List (A × B)) (hgood : ∀ one ∈ done, good one.1 one.2) (v : γ) :
    counter (done.foldl (fun v done => entry done.1 done.2 v) v) =
      counter v + UInt64.ofNat (done.map fun done => credit done.1 done.2).sum := by
  induction done generalizing v with
  | nil => simp
  | cons first done ih =>
    rw [List.foldl_cons, ih fun one hone => hgood one (List.mem_cons_of_mem first hone),
      h _ _ _ (hgood first List.mem_cons_self), List.map_cons, List.sum_cons, UInt64.ofNat_add,
      UInt64.add_assoc]

end Counters

section Latest

variable {latest : γ → Option β} {record : A → B → Option β} {good : A → B → Prop}

theorem foldl_latest (h : ∀ a b v, good a b → latest (entry a b v) = (record a b).or (latest v))
    (done : List (A × B)) (hgood : ∀ one ∈ done, good one.1 one.2) (v : γ) :
    latest (done.foldl (fun v done => entry done.1 done.2 v) v) =
      (done.reverse.findSome? fun done => record done.1 done.2).or (latest v) := by
  rw [← List.getLast?_filterMap]
  induction done generalizing v with
  | nil => simp
  | cons first done ih =>
    rw [List.foldl_cons, ih fun one hone => hgood one (List.mem_cons_of_mem first hone),
      h _ _ _ (hgood first List.mem_cons_self), List.filterMap_cons]
    cases hrecord : record first.1 first.2 with
    | none => simp
    | some recorded =>
      rw [List.getLast?_cons]
      cases (done.filterMap fun done => record done.1 done.2).getLast? <;> simp

theorem findSome?_bind {g : α → Option β} {f : β → Option γ} (l : List α)
    (h : ∀ a ∈ l, ∀ b, g a = some b → (f b).isSome = true) :
    (l.findSome? fun a => (g a).bind f) = (l.findSome? g).bind f := by
  induction l with
  | nil => rfl
  | cons a l ih =>
    have hrest := ih fun a ha => h a (List.mem_cons_of_mem _ ha)
    cases hg : g a with
    | none => simp only [List.findSome?_cons, hg, Option.bind_none, hrest]
    | some b =>
      obtain ⟨c, hc⟩ := Option.isSome_iff_exists.mp (h a List.mem_cons_self b hg)
      simp only [List.findSome?_cons, hg, Option.bind_some, hc]

end Latest

end Lemnos.Library.Frames
