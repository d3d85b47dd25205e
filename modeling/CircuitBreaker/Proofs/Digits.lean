/-
Numbers and their digits. Digits of a fixed width write a number up to that width, decimal digits write it
whole. Where something else than a digit follows, digits can be told from the rest of a text.
-/
import CircuitBreaker.Text.Blank
import CircuitBreaker.Text.Digits
import Mathlib.Data.List.TakeWhile

namespace CircuitBreaker.Text

/-! ## Single digits -/

theorem digitValue?_digitChar : ∀ n < 10, digitValue? (digitChar n) = some n := by decide

theorem isDigit_digitChar {n : Nat} (h : n < 10) : isDigit (digitChar n) = true := by
  unfold isDigit
  rw [digitValue?_digitChar n h]
  rfl

/-- There are no other digits than the ten. -/
theorem exists_digitChar {char : Char} (h : isDigit char = true) : ∃ n < 10, char = digitChar n := by
  unfold isDigit digitValue? at h
  split at h
  · rename_i hc
    have hlow : 48 ≤ char.toNat := hc.1
    have hhigh : char.toNat ≤ 57 := hc.2
    refine ⟨char.toNat - 48, by omega, ?_⟩
    rw [digitChar, Nat.add_sub_cancel' hlow, Char.ofNat_toNat]
  · cases h

theorem isBlank_of_isDigit {char : Char} (h : isDigit char = true) : isBlank char = false := by
  obtain ⟨n, hn, rfl⟩ := exists_digitChar h
  revert n
  decide

/-! ## Digits as numbers -/

theorem isDigit_of_mem_fixedDigits {width n : Nat} {char : Char} (h : char ∈ fixedDigits width n) :
    isDigit char = true := by
  induction width generalizing n with
  | zero => cases h
  | succ width ih =>
    rcases List.mem_append.1 h with h | h
    · exact ih h
    · obtain rfl := List.mem_singleton.1 h
      exact isDigit_digitChar (Nat.mod_lt _ (by decide))

@[simp] theorem length_fixedDigits (width n : Nat) : (fixedDigits width n).length = width := by
  induction width generalizing n with
  | zero => rfl
  | succ width ih => simp [fixedDigits, ih]

theorem fixedDigits_ne_nil {width n : Nat} (h : width ≠ 0) : fixedDigits width n ≠ [] := by
  intro hnil
  have hlength := length_fixedDigits width n
  rw [hnil] at hlength
  exact h hlength.symm

theorem ofDigits_concat (digits : List Char) (char : Char) :
    ofDigits (digits ++ [char]) = ofDigits digits * 10 + (digitValue? char).getD 0 := by
  unfold ofDigits appendDigits
  rw [List.foldl_append]
  rfl

theorem ofDigits_fixedDigits (width n : Nat) : ofDigits (fixedDigits width n) = n % Nat.pow 10 width := by
  induction width generalizing n with
  | zero => exact (Nat.mod_one n).symm
  | succ width ih =>
    rw [fixedDigits, ofDigits_concat, ih, digitValue?_digitChar _ (Nat.mod_lt _ (by decide))]
    show n / 10 % 10 ^ width * 10 + n % 10 = n % 10 ^ (width + 1)
    rw [Nat.pow_succ', Nat.mod_mul]
    omega

theorem ofDigits_fixedDigits_of_lt {width n : Nat} (h : n < Nat.pow 10 width) :
    ofDigits (fixedDigits width n) = n := by
  rw [ofDigits_fixedDigits, Nat.mod_eq_of_lt h]

theorem lt_pow_digitCount (n : Nat) : n < Nat.pow 10 (digitCount n) := by
  induction n using digitCount.induct with
  | case1 n h =>
    rw [digitCount, if_pos h]
    show n < 10 ^ 1
    omega
  | case2 n h ih =>
    have ih : n / 10 < 10 ^ digitCount (n / 10) := ih
    rw [digitCount, if_neg h]
    show n < 10 ^ (digitCount (n / 10) + 1)
    rw [Nat.pow_succ]
    omega

/-- The decimal digits of a number write that number. -/
theorem ofDigits_decimalDigits (n : Nat) : ofDigits (decimalDigits n) = n :=
  ofDigits_fixedDigits_of_lt (lt_pow_digitCount n)

theorem decimalDigits_ne_nil (n : Nat) : decimalDigits n ≠ [] := by
  unfold decimalDigits digitCount
  split_ifs <;> simp [fixedDigits]

/-- Zeros in front do not change the number. -/
theorem ofDigits_paddedDigits (width n : Nat) : ofDigits (paddedDigits width n) = n := by
  refine ofDigits_fixedDigits_of_lt (Nat.lt_of_lt_of_le (lt_pow_digitCount n) ?_)
  exact Nat.pow_le_pow_right (by decide) (Nat.le_max_right _ _)

/-- Only the digits of zero start with a zero. -/
theorem head_decimalDigits (n : Nat) : ∃ char digits, decimalDigits n = char :: digits ∧
    (char = '0' → decimalDigits n = ['0']) := by
  induction n using digitCount.induct with
  | case1 n h =>
    have hdigits : decimalDigits n = [digitChar n] := by
      rw [decimalDigits, digitCount, if_pos h]
      simp [fixedDigits, Nat.mod_eq_of_lt h]
    refine ⟨digitChar n, [], hdigits, fun hzero => ?_⟩
    rw [hdigits, hzero]
  | case2 n h ih =>
    obtain ⟨char, digits, hhead, hzero⟩ := ih
    have hdigits : decimalDigits n = decimalDigits (n / 10) ++ [digitChar (n % 10)] := by
      rw [decimalDigits, digitCount, if_neg h]
      rfl
    refine ⟨char, digits ++ [digitChar (n % 10)], by rw [hdigits, hhead]; rfl, fun hchar => ?_⟩
    -- the number in front of the last digit would be zero
    have hvalue := ofDigits_decimalDigits (n / 10)
    rw [hzero hchar] at hvalue
    have : n / 10 = 0 := hvalue.symm
    omega

/-! ## Digits at the start of a text -/

/-- The text does not go on with a digit. -/
def DigitsEnd (rest : List Char) : Prop := ∀ char ∈ rest.head?, isDigit char = false

theorem digitsEnd_nil : DigitsEnd [] := nofun

theorem digitsEnd_cons {char : Char} {rest : List Char} (h : isDigit char = false) : DigitsEnd (char :: rest) := by
  rintro _ ⟨⟩
  exact h

theorem DigitsEnd.take {rest : List Char} (h : DigitsEnd rest) (count : Nat) : DigitsEnd (rest.take count) := by
  intro char hchar
  rw [List.head?_take] at hchar
  split_ifs at hchar
  · cases hchar
  · exact h char hchar

theorem takeWhile_digits {digits rest : List Char} (hd : ∀ char ∈ digits, isDigit char = true)
    (hr : DigitsEnd rest) : (digits ++ rest).takeWhile isDigit = digits := by
  rw [List.takeWhile_append_of_pos hd]
  cases rest with
  | nil => simp
  | cons char rest => simp [hr char rfl]

theorem dropWhile_digits {digits rest : List Char} (hd : ∀ char ∈ digits, isDigit char = true)
    (hr : DigitsEnd rest) : (digits ++ rest).dropWhile isDigit = rest := by
  rw [List.dropWhile_append_of_pos hd]
  cases rest with
  | nil => rfl
  | cons char rest => simp [hr char rfl]

/-- A text that starts with digits starts with a digit. -/
theorem isDigit_of_append_eq_cons {digits rest after : List Char} {char : Char} (hne : digits ≠ [])
    (hd : ∀ char ∈ digits, isDigit char = true) (h : digits ++ rest = char :: after) : isDigit char = true := by
  obtain ⟨first, digits, rfl⟩ := List.exists_cons_of_ne_nil hne
  obtain rfl : first = char := (List.cons.inj h).1
  exact hd first List.mem_cons_self

theorem trimStart_digits {digits rest : List Char} (hne : digits ≠ []) (hd : ∀ char ∈ digits, isDigit char = true) :
    trimStart (digits ++ rest) = digits ++ rest := by
  cases htext : digits ++ rest with
  | nil => rfl
  | cons char after =>
    have hblank := isBlank_of_isDigit (isDigit_of_append_eq_cons hne hd htext)
    simp [trimStart, hblank]

end CircuitBreaker.Text
