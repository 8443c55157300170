import Mathlib.Data.Nat.Notation

/-! Bounded decimal numbers read from text, with the error texts of the reader. -/

namespace Lemnos.Library.Decimal

def readDigits (limit : ℕ) : List Char → ℕ → Except String ℕ
  | [], value => .ok value
  | c :: digits, value =>
    if c.isDigit then
      let next := 10 * value + (c.toNat - '0'.toNat)
      if next < limit then readDigits limit digits next
      else .error "number too large to fit in target type"
    else .error "invalid digit found in string"

def parse (limit : ℕ) (text : String) : Except String ℕ :=
  match text.toList with
  | [] => .error "cannot parse integer from empty string"
  | ['+'] => .error "invalid digit found in string"
  | '+' :: digits => readDigits limit digits 0
  | digits => readDigits limit digits 0

theorem le_ofDigitChars (digits : List Char) (value : ℕ) : value ≤ Nat.ofDigitChars 10 digits value := by
  induction digits generalizing value with
  | nil => simp
  | cons c digits ih =>
    have hnext := ih (10 * value + (c.toNat - '0'.toNat))
    rw [Nat.ofDigitChars_cons]
    omega

theorem readDigits_eq_ok {limit : ℕ} {digits : List Char} {value : ℕ} (hdigits : ∀ c ∈ digits, c.isDigit)
    (hlimit : Nat.ofDigitChars 10 digits value < limit) :
    readDigits limit digits value = .ok (Nat.ofDigitChars 10 digits value) := by
  induction digits generalizing value with
  | nil => simp [readDigits]
  | cons c digits ih =>
    rw [Nat.ofDigitChars_cons] at hlimit ⊢
    have hnext : 10 * value + (c.toNat - '0'.toNat) < limit :=
      Nat.lt_of_le_of_lt (le_ofDigitChars digits _) hlimit
    have hc : c.isDigit = true := hdigits c List.mem_cons_self
    have hrest := ih (fun d hd => hdigits d (List.mem_cons_of_mem _ hd)) hlimit
    simp only [readDigits, hc, if_true]
    rw [if_pos hnext, hrest]

theorem isDigit_of_mem_repr {n : ℕ} {c : Char} (h : c ∈ n.repr.toList) : c.isDigit = true := by
  rw [Nat.toList_repr] at h
  exact Nat.isDigit_of_mem_toDigits (by decide) (by decide) h

theorem parse_repr {n limit : ℕ} (h : n < limit) : parse limit n.repr = .ok n := by
  have hdigits : ∀ c ∈ Nat.toDigits 10 n, c.isDigit := fun c hc =>
    isDigit_of_mem_repr (Nat.toList_repr ▸ hc)
  have hread : readDigits limit (Nat.toDigits 10 n) 0 = .ok n := by
    rw [readDigits_eq_ok hdigits (by simpa using h), Nat.ofDigitChars_ten_toDigits]
  unfold parse
  rw [Nat.toList_repr]
  split
  · exact absurd ‹_› Nat.toDigits_ne_nil
  · rename_i hsign
    have hplus := hdigits '+' (by simp [hsign])
    exact absurd hplus (by decide)
  · rename_i digits hnonempty hsign
    have hplus := hdigits '+' (by simp [hsign])
    exact absurd hplus (by decide)
  · exact hread

theorem repr_injective {m n : ℕ} (h : m.repr = n.repr) : m = n := by
  have hm := @parse_repr m (max m n + 1) (by omega)
  rw [h, parse_repr (by omega)] at hm
  exact (Except.ok.inj hm).symm

theorem repr_ne_nil (n : ℕ) : n.repr.toList ≠ [] := by
  rw [Nat.toList_repr]
  exact Nat.toDigits_ne_nil

end Lemnos.Library.Decimal
