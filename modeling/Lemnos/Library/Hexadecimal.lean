import Mathlib.Data.Nat.Notation
import Mathlib.Tactic.IntervalCases

/-! Hexadecimal numbers written with leading zeros, and how they are told apart. -/

namespace Lemnos.Library.Hexadecimal

def digitValue (c : Char) : ℕ := if c.isDigit then c.toNat - '0'.toNat else c.toNat - 'a'.toNat + 10

def valueOf (digits : List Char) : ℕ := digits.foldl (fun value c => 16 * value + digitValue c) 0

def padded (width n : ℕ) : List Char :=
  List.replicate (width - (Nat.toDigits 16 n).length) '0' ++ Nat.toDigits 16 n

theorem digitValue_digitChar {d : ℕ} (h : d < 16) : digitValue d.digitChar = d := by
  interval_cases d <;> rfl

theorem valueOf_toDigits (n : ℕ) : valueOf (Nat.toDigits 16 n) = n := by
  induction n using Nat.strong_induction_on with
  | _ n ih =>
    rw [Nat.toDigits_eq_if (by decide)]
    split
    · rename_i hlt
      simp [valueOf, digitValue_digitChar hlt]
    · have hsmaller : n / 16 < n := by omega
      have hfront := ih (n / 16) hsmaller
      rw [valueOf] at hfront ⊢
      rw [List.foldl_append, hfront, List.foldl_cons, List.foldl_nil,
        digitValue_digitChar (Nat.mod_lt n (by decide))]
      omega

theorem valueOf_padded (width n : ℕ) : valueOf (padded width n) = n := by
  have hzeros : ∀ zeros, (List.replicate zeros '0').foldl (fun value c => 16 * value + digitValue c) 0 = 0 := by
    intro zeros
    induction zeros with
    | zero => rfl
    | succ zeros ih => rw [List.replicate_succ, List.foldl_cons]; exact ih
  have hdigits := valueOf_toDigits n
  rw [valueOf] at hdigits ⊢
  rw [padded, List.foldl_append, hzeros, hdigits]

theorem padded_injective {width m n : ℕ} (h : padded width m = padded width n) : m = n := by
  rw [← valueOf_padded width m, h, valueOf_padded]

theorem mem_toDigits {n : ℕ} {c : Char} (h : c ∈ Nat.toDigits 16 n) : ∃ d < 16, c = d.digitChar := by
  induction n using Nat.strong_induction_on with
  | _ n ih =>
    rw [Nat.toDigits_eq_if (by decide)] at h
    split at h
    · rename_i hlt
      exact ⟨n, hlt, List.mem_singleton.mp h⟩
    · rcases List.mem_append.mp h with hfront | hlast
      · exact ih (n / 16) (by omega) hfront
      · exact ⟨n % 16, Nat.mod_lt n (by decide), List.mem_singleton.mp hlast⟩

theorem dot_not_mem_padded (width n : ℕ) : '.' ∉ padded width n := by
  intro h
  rcases List.mem_append.mp h with hzero | hdigit
  · exact absurd (List.eq_of_mem_replicate hzero) (by decide)
  · obtain ⟨d, hd, hdot⟩ := mem_toDigits hdigit
    have hnever : ∀ d < 16, '.' ≠ Nat.digitChar d := by decide
    exact hnever d hd hdot

end Lemnos.Library.Hexadecimal
