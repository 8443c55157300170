import Lemnos.Library.Grants
import Lemnos.Library.Logs

/-! Taking a resource that shows up some time after it is asked for. -/

namespace Lemnos.Library.Acquiring

open Frames Grants

/-- The calls by which a resource is looked for and taken, and what is answered to them, knowing those made
before. -/
structure Acquisition (C : Type) where
  look : C
  check : C
  take : C
  sees : List C → Bool
  offers : List C → Bool
  gives : List C → Bool

namespace Acquisition

variable {C : Type} (a : Acquisition C)

/-- The resource is given, and does not show up however often one looks. -/
structure Stranded (retries : ℕ) (earlier : List C) : Prop where
  absent : a.sees earlier = false
  offered : a.offers (earlier ++ [a.look]) = true
  given : a.gives (earlier ++ [a.look] ++ [a.check]) = true
  missing : ∀ tries ≤ retries,
    a.sees (earlier ++ [a.look] ++ [a.check] ++ [a.take] ++ List.replicate tries a.look) = false

end Acquisition

variable {S C E K : Type}

def waiting (there : Effect S E Bool) : ℕ → Effect S E Bool
  | 0 => there
  | retries + 1 => do
    if ← there then return true
    waiting there retries

def acquire (there ready : Effect S E Bool) (take : Effect S E Unit) (retries : ℕ) (unavailable late : E) :
    Effect S E Bool := do
  if ← there then return false
  if !(← ready) then throw unavailable
  take
  if ← waiting there retries then return true
  throw late

structure Implements (calls : S → List C) (a : Acquisition C) (there ready : Effect S E Bool)
    (take : Effect S E Unit) : Prop where
  there_result : ∀ s, (there.exec s).1 = .ok (a.sees (calls s))
  there_calls : ∀ s, calls (there.exec s).2 = calls s ++ [a.look]
  ready_result : ∀ s, (ready.exec s).1 = .ok (a.offers (calls s))
  ready_calls : ∀ s, calls (ready.exec s).2 = calls s ++ [a.check]
  take_result : ∀ s, (take.exec s).1 = .ok () ↔ a.gives (calls s) = true
  take_calls : ∀ s, calls (take.exec s).2 = calls s ++ [a.take]

variable {calls : S → List C} {a : Acquisition C} {there ready : Effect S E Bool} {take : Effect S E Unit}
  {retries : ℕ} {unavailable late : E} {s : S}

theorem logs_acquire (h : Implements calls a there ready take) (retries : ℕ) (unavailable late : E) :
    Logs calls (fun _ => True) (acquire there ready take retries unavailable late) := by
  have hlook : Logs calls (fun _ => True) there := Logs.entry h.there_calls trivial
  have hwait : Logs calls (fun _ => True) (waiting there retries) := by
    induction retries with
    | zero => exact hlook
    | succ retries ih => exact hlook.bind fun _ => Logs.ite (fun _ => .pure true) fun _ => ih
  apply hlook.bind
  intro _
  apply Logs.ite (fun _ => .pure false)
  intro _
  apply (Logs.entry h.ready_calls trivial).bind
  intro _
  apply Logs.ite (fun _ => .throw _)
  intro _
  apply (Logs.entry h.take_calls trivial).bind
  intro _
  apply hwait.bind
  intro _
  exact Logs.ite (fun _ => .pure true) fun _ => .throw _

theorem exec_waiting (h : Implements calls a there ready take) (retries : ℕ) (s : S) :
    ∃ found s' looks, (waiting there retries).exec s = (.ok found, s') ∧
      calls s' = calls s ++ List.replicate looks a.look ∧
      (found = false ↔ ∀ tries ≤ retries, a.sees (calls s ++ List.replicate tries a.look) = false) := by
  have hlook : ∀ s, there.exec s = (.ok (a.sees (calls s)), (there.exec s).2) :=
    fun s => Prod.ext (h.there_result s) rfl
  induction retries generalizing s with
  | zero =>
    refine ⟨_, _, 1, hlook s, h.there_calls s, ?_⟩
    simp
  | succ retries ih =>
    rw [waiting, exec_bind_of_ok (hlook s)]
    by_cases hfound : a.sees (calls s) = true
    · rw [if_pos hfound]
      refine ⟨true, _, 1, rfl, h.there_calls s, iff_of_false nofun ?_⟩
      intro hnever
      have hfirst := hnever 0 (Nat.zero_le _)
      rw [List.replicate_zero, List.append_nil, hfound] at hfirst
      cases hfirst
    · rw [if_neg hfound]
      obtain ⟨found, s', looks, hexec, hcalls, hiff⟩ := ih (there.exec s).2
      refine ⟨found, s', looks + 1, hexec, ?_, ?_⟩
      · rw [hcalls, h.there_calls, List.append_assoc, List.singleton_append, List.replicate_succ]
      · have hshift : ∀ tries, calls s ++ List.replicate (tries + 1) a.look =
            calls s ++ [a.look] ++ List.replicate tries a.look := by
          intro tries
          rw [List.replicate_succ, List.append_assoc, List.singleton_append]
        rw [hiff, h.there_calls]
        constructor
        · intro hnever tries htries
          cases tries with
          | zero =>
            rw [List.replicate_zero, List.append_nil]
            exact Bool.not_eq_true _ ▸ hfound
          | succ tries =>
            rw [hshift]
            exact hnever tries (Nat.le_of_succ_le_succ htries)
        · intro hnever tries htries
          rw [← hshift]
          exact hnever (tries + 1) (Nat.succ_le_succ htries)

def await (there : Effect S E Bool) (retries : ℕ) (late : E) : Effect S E Bool := do
  if ← waiting there retries then return true
  throw late

theorem exec_await (h : Implements calls a there ready take) (retries : ℕ) (late : E) (s : S) :
    ∃ s' looks, calls s' = calls s ++ List.replicate looks a.look ∧
      ((∀ tries ≤ retries, a.sees (calls s ++ List.replicate tries a.look) = false) ∧
          (await there retries late).exec s = (.error late, s') ∨
        (¬∀ tries ≤ retries, a.sees (calls s ++ List.replicate tries a.look) = false) ∧
          (await there retries late).exec s = (.ok true, s')) := by
  obtain ⟨found, s', looks, hexec, hcalls, hiff⟩ := exec_waiting h retries s
  refine ⟨s', looks, hcalls, ?_⟩
  rw [await, exec_bind_of_ok hexec]
  cases found with
  | false => exact .inl ⟨hiff.mp rfl, rfl⟩
  | true => exact .inr ⟨fun hnever => (nomatch hiff.mpr hnever), rfl⟩

theorem exec_acquire_of_offered (h : Implements calls a there ready take) (habsent : a.sees (calls s) = false)
    (hoffered : a.offers (calls s ++ [a.look]) = true) :
    ∃ asking, calls asking = calls s ++ [a.look] ++ [a.check] ∧
      (acquire there ready take retries unavailable late).exec s =
        (take >>= fun _ => await there retries late).exec asking := by
  have hthere : there.exec s = (.ok false, (there.exec s).2) :=
    Prod.ext ((h.there_result s).trans (habsent ▸ rfl)) rfl
  have hready : ready.exec (there.exec s).2 = (.ok true, (ready.exec (there.exec s).2).2) := by
    refine Prod.ext ?_ rfl
    rw [h.ready_result, h.there_calls, hoffered]
  refine ⟨(ready.exec (there.exec s).2).2, ?_, ?_⟩
  · rw [h.ready_calls, h.there_calls]
  · rw [acquire, exec_bind_of_ok hthere, if_neg Bool.false_ne_true, exec_bind_of_ok hready]
    rfl

theorem acquire_of_stranded (h : Implements calls a there ready take) (hstranded : a.Stranded retries (calls s)) :
    ∃ s' looks, (acquire there ready take retries unavailable late).exec s = (.error late, s') ∧
      calls s' = calls s ++ [a.look] ++ [a.check] ++ [a.take] ++ List.replicate looks a.look := by
  obtain ⟨asking, hasking, hexec⟩ := @exec_acquire_of_offered _ _ _ _ _ _ _ _ retries unavailable late s h
    hstranded.absent hstranded.offered
  have htake : take.exec asking = (.ok (), (take.exec asking).2) :=
    Prod.ext ((h.take_result asking).mpr (hasking ▸ hstranded.given)) rfl
  have htaken : calls (take.exec asking).2 = calls s ++ [a.look] ++ [a.check] ++ [a.take] := by
    rw [h.take_calls, hasking]
  obtain ⟨s', looks, hcalls, hawait⟩ := exec_await h retries late (take.exec asking).2
  rw [htaken] at hcalls hawait
  refine ⟨s', looks, ?_, hcalls⟩
  rw [hexec, exec_bind_of_ok htake]
  rcases hawait with ⟨-, hfailed⟩ | ⟨hfound, -⟩
  · exact hfailed
  · exact absurd hstranded.missing hfound

theorem acquire_of_not_stranded (h : Implements calls a there ready take)
    (hstranded : ¬a.Stranded retries (calls s)) {error : E} {s' : S}
    (hfailed : (acquire there ready take retries unavailable late).exec s = (.error error, s')) :
    calls s' = calls s ++ [a.look] ++ [a.check] ∨
      calls s' = calls s ++ [a.look] ++ [a.check] ++ [a.take] ∧
        a.gives (calls s ++ [a.look] ++ [a.check]) = false := by
  have hthere : there.exec s = (.ok (a.sees (calls s)), (there.exec s).2) := Prod.ext (h.there_result s) rfl
  by_cases hseen : a.sees (calls s) = true
  · rw [acquire, exec_bind_of_ok hthere, if_pos hseen] at hfailed
    cases hfailed
  have habsent : a.sees (calls s) = false := Bool.not_eq_true _ ▸ hseen
  by_cases hoffered : a.offers (calls s ++ [a.look]) = true
  · obtain ⟨asking, hasking, hexec⟩ := @exec_acquire_of_offered _ _ _ _ _ _ _ _ retries unavailable late s h
      habsent hoffered
    have hcalls := h.take_calls asking
    have hgiven := h.take_result asking
    rw [hasking] at hcalls hgiven
    rw [hexec] at hfailed
    rcases htake : take.exec asking with ⟨refused | _, taken⟩
    · rw [exec_bind_of_error htake] at hfailed
      rw [htake] at hcalls hgiven
      cases hfailed
      refine .inr ⟨hcalls, ?_⟩
      exact Bool.not_eq_true _ ▸ fun hgives => nomatch hgiven.mpr hgives
    · rw [exec_bind_of_ok htake] at hfailed
      rw [htake] at hcalls hgiven
      obtain ⟨done, looks, -, hawait⟩ := exec_await h retries late taken
      rw [hfailed, hcalls] at hawait
      rcases hawait with ⟨hmissing, -⟩ | ⟨-, hfound⟩
      · exact absurd ⟨habsent, hoffered, hgiven.mp rfl, hmissing⟩ hstranded
      · cases hfound
  · have hunready := h.ready_result (there.exec s).2
    rw [h.there_calls, Bool.eq_false_iff.mpr hoffered] at hunready
    have hready : ready.exec (there.exec s).2 = (.ok false, (ready.exec (there.exec s).2).2) :=
      Prod.ext hunready rfl
    rw [acquire, exec_bind_of_ok hthere, if_neg hseen, exec_bind_of_ok hready] at hfailed
    cases hfailed
    exact .inl ((h.ready_calls _).trans (by rw [h.there_calls]))

variable {grants : List C → C → Bool} {takes gives : K → C}

theorem acquire_keeps_iff (h : Implements calls a there ready take)
    (hlook : ∀ earlier, grants earlier a.look = false)
    (hcheck : ∀ earlier, grants earlier a.check = false)
    (htake : ∀ earlier, grants earlier a.take = a.gives earlier)
    (k : K) (hk : a.take = takes k) :
    (∀ error, ((acquire there ready take retries unavailable late).exec s).1 = .error error → ∀ before,
      held takes gives (granted grants (calls s)
        ((acquire there ready take retries unavailable late).made calls s)) before = before) ↔
      ¬a.Stranded retries (calls s) := by
  have hlooks : ∀ earlier looks, granted grants earlier (List.replicate looks a.look) = [] :=
    fun _ _ => granted_of_refused fun call hcall earlier => (List.eq_of_mem_replicate hcall) ▸ hlook earlier
  have hasked : ∀ earlier, granted grants earlier ([a.look] ++ [a.check]) = [] := by
    intro earlier
    rw [granted_append, granted_singleton, granted_singleton, hlook, hcheck]
    rfl
  constructor
  · intro hkept hstranded
    obtain ⟨s', looks, hexec, hcalls⟩ :=
      @acquire_of_stranded _ _ _ _ _ _ _ _ retries unavailable late s h hstranded
    have hmade : (acquire there ready take retries unavailable late).made calls s =
        [a.look] ++ [a.check] ++ [a.take] ++ List.replicate looks a.look := by
      apply made_of_append
      rw [hexec, hcalls]
      simp only [List.append_assoc]
    have hempty := hkept late (congrArg Prod.fst hexec) ∅
    rw [hmade, granted_append, granted_append, hasked, hlooks, granted_singleton, htake, ← List.append_assoc,
      hstranded.given, if_pos rfl, List.nil_append, List.append_nil, hk] at hempty
    have hmem : k ∈ held takes gives [takes k] ∅ := mem_held_of_taken k ∅
    rw [hempty] at hmem
    exact hmem
  · intro hstranded error hfailed before
    have hexec : (acquire there ready take retries unavailable late).exec s =
        (.error error, ((acquire there ready take retries unavailable late).exec s).2) := Prod.ext hfailed rfl
    rcases acquire_of_not_stranded h hstranded hexec with hcalls | ⟨hcalls, hrefused⟩
    · rw [List.append_assoc] at hcalls
      rw [made_of_append hcalls, hasked, held]
    · have hmade := made_of_append (hcalls.trans (by simp only [List.append_assoc]) :
        _ = calls s ++ ([a.look] ++ [a.check] ++ [a.take]))
      rw [hmade, granted_append, hasked, granted_singleton, htake, ← List.append_assoc, hrefused,
        if_neg Bool.false_ne_true, List.nil_append, held]

end Lemnos.Library.Acquiring
