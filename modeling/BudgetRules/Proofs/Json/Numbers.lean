import BudgetRules.Json.Printer
import BudgetRules.Json.Tree
import Mathlib.Data.List.TakeDrop

/-!
# Whole numbers are read back

The digits of a whole number are scanned up to the first character that cannot go on with a number, and
their value is the number as long as 64 bits hold it:

    Numeral.scan neg (digitsOf n ++ r) = .ok (⟨neg, digitsOf n, [], none⟩, r)        (Numeral.scan_digitsOf)
    i.Fits → (⟨i < 0, digitsOf i.natAbs, [], none⟩ : Numeral).value = .ok (.int i)    (Numeral.value_digitsOf)
-/

namespace BudgetRules.Json

open Binary64 (spanDigits digitsOf)

/-- A text does not go on with a number. -/
def EndsNumber (r : List Char) : Prop :=
  ∀ c ∈ r.head?, c.isDigit = false ∧ c ≠ '.' ∧ c ≠ 'e' ∧ c ≠ 'E'

theorem endsNumber_nil : EndsNumber [] := fun _ hc => absurd hc (by simp)

theorem endsNumber_cons {c : Char} (h : c.isDigit = false ∧ c ≠ '.' ∧ c ≠ 'e' ∧ c ≠ 'E') (r : List Char) :
    EndsNumber (c :: r) := by
  intro d hd
  cases hd
  exact h

/-! ## Digits -/

theorem isDigit_of_mem_digitsOf {n : Nat} {c : Char} (h : c ∈ digitsOf n) : c.isDigit = true :=
  Nat.isDigit_of_mem_toDigits (by decide) (by decide) h

theorem ne_of_isDigit {c d : Char} (hc : c.isDigit = true) (hd : d.isDigit = false) : c ≠ d := by
  rintro rfl
  rw [hc] at hd
  cases hd

/-- Digits up to something that is none. -/
theorem spanDigits_append {ds r : List Char} (hd : ∀ c ∈ ds, c.isDigit = true)
    (hr : ∀ c ∈ r.head?, c.isDigit = false) : spanDigits (ds ++ r) = (ds, r) := by
  unfold spanDigits
  rw [List.span_eq_takeWhile_dropWhile, List.takeWhile_append_of_pos hd, List.dropWhile_append_of_pos hd]
  cases r with
  | nil => rw [List.takeWhile_nil, List.dropWhile_nil, List.append_nil]
  | cons c r =>
    have hc : ¬c.isDigit = true := by rw [hr c rfl]; decide
    rw [List.takeWhile_cons_of_neg hc, List.dropWhile_cons_of_neg hc, List.append_nil]

/-- Only zero begins with a zero. -/
theorem head?_digitsOf {n : Nat} (h : n ≠ 0) : (digitsOf n).head? ≠ some '0' := by
  unfold digitsOf
  induction n using Nat.base_induction 10 (by decide) with
  | single m hm =>
    rw [Nat.toDigits_of_lt_base hm]
    simpa using h
  | digit m k hk hm ih =>
    rw [← Nat.toDigits_append_toDigits (by decide) hm hk, List.head?_append,
      Option.or_of_isSome]
    · exact ih (by omega)
    · simp [Nat.toDigits_ne_nil]

/-! ## Scanning -/

theorem Numeral.scanExponent_of_endsNumber (n : Numeral) {r : List Char} (h : EndsNumber r) :
    scanExponent n r = .ok (n, r) := by
  cases r with
  | nil => rfl
  | cons c r =>
    obtain ⟨-, -, he, hE⟩ := h c rfl
    have hno : ¬(c = 'e' ∨ c = 'E') := by
      rintro (h | h)
      · exact he h
      · exact hE h
    unfold scanExponent
    simp only [if_neg hno]

theorem Numeral.scanFraction_of_endsNumber (n : Numeral) {r : List Char} (h : EndsNumber r) :
    scanFraction n r = .ok (n, r) := by
  unfold scanFraction
  split
  · obtain ⟨-, hp, -⟩ := h '.' rfl
    exact absurd rfl hp
  · exact scanExponent_of_endsNumber n h

/-- The digits of a whole number: at least one, and no zero leads but a lone one. -/
structure WholeDigits (ds : List Char) : Prop where
  digits : ∀ c ∈ ds, c.isDigit = true
  ne_nil : ds ≠ []
  lead : ds.head? = some '0' → ds = ['0']

theorem wholeDigits_digitsOf (n : Nat) : WholeDigits (digitsOf n) where
  digits _ hc := isDigit_of_mem_digitsOf hc
  ne_nil := Nat.toDigits_ne_nil
  lead hhead := by
    by_cases hn : n = 0
    · rw [hn]
      rfl
    · exact absurd hhead (head?_digitsOf hn)

/-- The digits before the point or the exponent. -/
theorem Numeral.scan_whole (neg : Bool) {ds r : List Char} (h : WholeDigits ds)
    (hr : ∀ c ∈ r.head?, c.isDigit = false) : scan neg (ds ++ r) = scanFraction ⟨neg, ds, [], none⟩ r := by
  have hspan : spanDigits (ds ++ r) = (ds, r) := spanDigits_append h.digits hr
  unfold scan
  rw [hspan]
  split
  · next heq => exact absurd (Prod.mk.inj heq).1 h.ne_nil
  · next heq =>
    obtain ⟨rfl, rfl⟩ := Prod.mk.inj heq
    rfl
  · next hlone heq =>
    obtain ⟨rfl, rfl⟩ := Prod.mk.inj heq
    exact if_neg fun hhead => hlone (h.lead hhead)

theorem Numeral.scan_digitsOf (neg : Bool) (n : Nat) {r : List Char} (h : EndsNumber r) :
    scan neg (digitsOf n ++ r) = .ok (⟨neg, digitsOf n, [], none⟩, r) := by
  rw [scan_whole neg (wholeDigits_digitsOf n) fun c hc => (h c hc).1]
  exact scanFraction_of_endsNumber _ h

/-! ## Value -/

/-- Digits of a number that fits are all taken. -/
theorem Numeral.accumulate_eq {ds : List Char} {acc : Nat} (h : Nat.ofDigitChars 10 ds acc ≤ wordMax) :
    accumulate acc ds = (Nat.ofDigitChars 10 ds acc, []) := by
  induction ds generalizing acc with
  | nil => rfl
  | cons c ds ih =>
    rw [Nat.ofDigitChars_cons] at h ⊢
    have hnext : 10 * acc + (c.toNat - '0'.toNat) ≤ wordMax := by
      rw [Nat.ofDigitChars_eq_ofDigitChars_zero] at h
      have hpos : 1 ≤ 10 ^ ds.length := Nat.pow_pos (by decide)
      have := Nat.mul_le_mul_right (10 * acc + (c.toNat - '0'.toNat)) hpos
      omega
    unfold accumulate
    rw [← ih h]
    exact if_pos hnext

theorem Numeral.accumulate_digitsOf {n : Nat} (h : n ≤ wordMax) : accumulate 0 (digitsOf n) = (n, []) := by
  have hv : Nat.ofDigitChars 10 (digitsOf n) 0 = n := Nat.ofDigitChars_ten_toDigits
  rw [accumulate_eq (by rw [hv]; exact h), hv]

/-- Does a whole number fit 64 bits, signed or unsigned? -/
def Fits (i : Int) : Prop := -9223372036854775808 ≤ i ∧ i ≤ 18446744073709551615

theorem Numeral.value_digitsOf {i : Int} (h : Fits i) :
    (⟨decide (i < 0), digitsOf i.natAbs, [], none⟩ : Numeral).value = .ok (.int i) := by
  obtain ⟨hlow, hhigh⟩ := h
  have hmax : wordMax = 18446744073709551615 := rfl
  have hhalf : UInt64.size / 2 = 9223372036854775808 := rfl
  unfold value
  rw [accumulate_digitsOf (by omega)]
  by_cases hi : i < 0
  · have hw : ¬(i.natAbs = 0 ∨ UInt64.size / 2 < i.natAbs) := by omega
    have hneg : -(i.natAbs : Int) = i := by omega
    simp only [hi, decide_true, ne_eq, not_true_eq_false, and_self, if_true, if_false, if_neg hw, hneg]
  · have hpos : (i.natAbs : Int) = i := by omega
    simp only [hi, decide_false, ne_eq, not_true_eq_false, and_self, if_true, if_false,
      Bool.false_eq_true, hpos]

/-! ## Numbers of a text -/

theorem number_digitsOf {i : Int} (h : Fits i) {r : List Char} (hr : EndsNumber r) :
    number (decide (i < 0)) (digitsOf i.natAbs ++ r) = (.num (.ok (.int i)), some r) := by
  unfold number
  rw [Numeral.scan_digitsOf _ _ hr]
  simp only [Numeral.value_digitsOf h]

end BudgetRules.Json
