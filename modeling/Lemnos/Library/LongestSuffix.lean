import Mathlib.Data.List.Infix

/-! The longest suffix of a list that a predicate allows, for predicates that pass to suffixes. -/

namespace Lemnos.Library

variable {ε : Type} {p q : List ε → Prop} {kept middle entries : List ε}

structure LongestSuffix (p : List ε → Prop) (kept entries : List ε) : Prop where
  suffix : kept <:+ entries
  allowed : p kept
  longest : ∀ other, other <:+ entries → p other → other <:+ kept

def SuffixClosed (p : List ε → Prop) : Prop := ∀ entries kept, kept <:+ entries → p entries → p kept

namespace LongestSuffix

theorem self (h : p entries) : LongestSuffix p entries entries :=
  ⟨List.suffix_rfl, h, fun _ hs _ => hs⟩

theorem length_le (h : LongestSuffix p kept entries) {other : List ε} (hs : other <:+ entries)
    (ho : p other) : other.length ≤ kept.length :=
  (h.longest other hs ho).length_le

theorem cons (h : LongestSuffix p kept entries) {entry : ε} (hentry : ¬ p (entry :: entries)) :
    LongestSuffix p kept (entry :: entries) := by
  apply LongestSuffix.mk
  · exact h.suffix.trans (List.suffix_cons entry entries)
  · exact h.allowed
  · intro other hs ho
    rcases List.suffix_cons_iff.mp hs with rfl | hs
    · exact absurd ho hentry
    · exact h.longest other hs ho

theorem drop_length_sub (count : ℕ) (entries : List ε) :
    LongestSuffix (fun kept => kept.length ≤ count) (entries.drop (entries.length - count)) entries := by
  apply LongestSuffix.mk
  · exact List.drop_suffix _ _
  · rw [List.length_drop]
    omega
  · intro other hs ho
    have hle := hs.length_le
    rw [List.suffix_iff_eq_drop.mp hs]
    have hskip : entries.length - count ≤ entries.length - other.length := by omega
    rw [← Nat.add_sub_of_le hskip, ← List.drop_drop]
    exact List.drop_suffix _ _

theorem and (hp : SuffixClosed p) (hmiddle : LongestSuffix p middle entries)
    (hkept : LongestSuffix q kept middle) : LongestSuffix (fun s => p s ∧ q s) kept entries := by
  apply LongestSuffix.mk
  · exact hkept.suffix.trans hmiddle.suffix
  · exact ⟨hp middle kept hkept.suffix hmiddle.allowed, hkept.allowed⟩
  · intro other hs ho
    have hother := hmiddle.longest other hs ho.1
    exact hkept.longest other hother ho.2

theorem iff_of_stricter (hq : SuffixClosed q) (hstrict : ∀ s, q s → p s)
    (hkept : LongestSuffix q kept entries) :
    LongestSuffix p kept entries ↔ ∀ s, s <:+ entries → p s → q s := by
  constructor
  · intro h s hs hps
    exact hq kept s (h.longest s hs hps) hkept.allowed
  · intro h
    apply LongestSuffix.mk
    · exact hkept.suffix
    · exact hstrict kept hkept.allowed
    · intro other hs ho
      exact hkept.longest other hs (h other hs ho)

end LongestSuffix

end Lemnos.Library
