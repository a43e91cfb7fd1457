import BudgetRules.Proofs.Binary64.Interval

/-!
# The shortest decimal rounds back

One of the two neighbours of a double on the grid of seventeen digits is rounded to it, so the search always finds
a decimal, and what it finds is rounded to the double:

    Rounds (shortest tie x).value x.magnitude                                        (rounds_shortest)

A decimal of so few digits that the doubles around it stand closer than its own grid is found itself:

    Rounds (a * 10 ^ (-k)) x.magnitude → (shortest tie x).value = a * 10 ^ (-k)      (value_shortest_of_rounds)
-/

namespace BudgetRules.Binary64

/-! ## The first digit -/

theorem lt_pow_digitCount (n : Nat) : n < 10 ^ digitCount n := by
  induction n using digitCount.induct with
  | case1 =>
    rw [digitCount, dif_pos rfl]
    decide
  | case2 n hpos ih =>
    rw [digitCount, dif_neg hpos, Nat.pow_succ]
    omega

theorem pow_digitCount_le {n : Nat} (hn : n ≠ 0) : 10 ^ digitCount n ≤ 10 * n := by
  induction n using digitCount.induct with
  | case1 => exact absurd rfl hn
  | case2 n hpos ih =>
    rw [digitCount, dif_neg hpos, Nat.pow_succ]
    by_cases hsmall : n / 10 = 0
    · rw [hsmall, digitCount, dif_pos rfl]
      omega
    · have hrest := ih hsmall
      omega

theorem pow_digitCount_quotient {v d : Nat} (hd : 0 < d) (hle : d ≤ v) :
    10 ^ digitCount (v / d) * d ≤ 10 * v ∧ v < 10 ^ digitCount (v / d) * d := by
  have hquotient : v / d ≠ 0 := Nat.ne_of_gt (Nat.div_pos hle hd)
  constructor
  · calc 10 ^ digitCount (v / d) * d ≤ 10 * (v / d) * d := Nat.mul_le_mul_right _ (pow_digitCount_le hquotient)
      _ = 10 * (v / d * d) := Nat.mul_assoc ..
      _ ≤ 10 * v := Nat.mul_le_mul_left _ (Nat.div_mul_le_self ..)
  · calc v < (v / d + 1) * d := by
          rw [Nat.mul_comm]
          exact Nat.lt_mul_div_succ _ hd
      _ ≤ 10 ^ digitCount (v / d) * d := Nat.mul_le_mul_right _ (lt_pow_digitCount _)

theorem pow_digitCount_ceiling {v d : Nat} (hv : 0 < v) (hlt : v < d) :
    d ≤ v * 10 ^ digitCount ((d + v - 1) / v - 1) ∧ v * 10 ^ digitCount ((d + v - 1) / v - 1) < 10 * d := by
  have habove : (d + v - 1) / v * v < d + v := by
    have hle := Nat.div_mul_le_self (d + v - 1) v
    omega
  have hbelow : d ≤ (d + v - 1) / v * v := by
    have hnext := Nat.lt_mul_div_succ (d + v - 1) hv
    rw [Nat.mul_add, Nat.mul_one, Nat.mul_comm] at hnext
    omega
  generalize (d + v - 1) / v = ceil at habove hbelow
  have hceil : 2 ≤ ceil := by
    by_contra hsmall
    have hone : ceil * v ≤ 1 * v := Nat.mul_le_mul_right _ (by omega)
    omega
  have hpred : (ceil - 1) * v + v = ceil * v := by
    rw [← Nat.succ_mul, Nat.succ_eq_add_one, Nat.sub_add_cancel (by omega)]
  constructor
  · calc d ≤ ceil * v := hbelow
      _ ≤ 10 ^ digitCount (ceil - 1) * v := by
        have hbound := lt_pow_digitCount (ceil - 1)
        exact Nat.mul_le_mul_right _ (by omega)
      _ = v * 10 ^ digitCount (ceil - 1) := Nat.mul_comm ..
  · calc v * 10 ^ digitCount (ceil - 1) ≤ v * (10 * (ceil - 1)) := Nat.mul_le_mul_left _ (pow_digitCount_le (by omega))
      _ = 10 * ((ceil - 1) * v) := by ring
      _ < 10 * d := by omega

/-- The value has its first digit where it is said to have it. -/
theorem Interval.leading_spec {i : Interval} (hden : 0 < i.den) (hvalue : 0 < i.value) :
    (10 : ℚ) ^ i.leading ≤ i.value / i.den ∧ (i.value : ℚ) / i.den < (10 : ℚ) ^ (i.leading + 1) := by
  have hd : (0 : ℚ) < i.den := by exact_mod_cast hden
  unfold leading
  split
  · next hle =>
    obtain ⟨hfirst, hnext⟩ := pow_digitCount_quotient hden hle
    generalize digitCount (i.value / i.den) = n at hfirst hnext
    have hfirst' : (10 : ℚ) ^ n * i.den ≤ 10 * i.value := by exact_mod_cast hfirst
    have hnext' : (i.value : ℚ) < (10 : ℚ) ^ n * i.den := by exact_mod_cast hnext
    rw [sub_add_cancel, zpow_sub_one₀ (by norm_num), zpow_natCast, le_div_iff₀ hd, div_lt_iff₀ hd]
    constructor <;> linarith
  · next hlt =>
    obtain ⟨hfirst, hnext⟩ := pow_digitCount_ceiling hvalue (Nat.lt_of_not_le hlt)
    generalize digitCount ((i.den + i.value - 1) / i.value - 1) = n at hfirst hnext
    have hfirst' : (i.den : ℚ) ≤ i.value * (10 : ℚ) ^ n := by exact_mod_cast hfirst
    have hnext' : (i.value : ℚ) * (10 : ℚ) ^ n < 10 * i.den := by exact_mod_cast hnext
    have hpow : (0 : ℚ) < (10 : ℚ) ^ n := by positivity
    rw [zpow_add_one₀ (by norm_num), zpow_neg, zpow_natCast, le_div_iff₀ hd, div_lt_iff₀ hd]
    constructor
    · rwa [inv_mul_le_iff₀ hpow, mul_comm]
    · rw [mul_assoc, ← div_eq_inv_mul, lt_div_iff₀ hpow]
      exact hnext'

/-! ## Seventeen digits suffice -/

theorem holds_above {x : Binary64} {r : ℚ} (h : x.value ≤ r) (hr : r < x.highest) : x.Holds r := by
  have hlow : x.lowest < x.value := by
    have hspacing := x.spacing_pos
    unfold lowest
    split <;> linarith
  unfold Holds
  split
  · exact ⟨(hlow.trans_le h).le, hr.le⟩
  · exact ⟨hlow.trans_le h, hr⟩

theorem holds_below {x : Binary64} {r : ℚ} (h : r ≤ x.value) (hr : x.lowest < r) : x.Holds r := by
  have hhigh : x.value < x.highest := by
    have hspacing := x.spacing_pos
    unfold highest
    linarith
  unfold Holds
  split
  · exact ⟨hr.le, (h.trans_lt hhigh).le⟩
  · exact ⟨hr, h.trans_lt hhigh⟩

variable {x : Binary64}

theorem interval_value_pos (hzero : x.magnitude ≠ 0) : 0 < x.interval.value :=
  Nat.mul_pos (Nat.mul_pos (by decide) (parts_pos hzero)) (shift_pos Nat.one_pos _)

theorem leading_le_value (hzero : x.magnitude ≠ 0) : (10 : ℚ) ^ x.interval.leading ≤ x.value := by
  have hspec := (Interval.leading_spec (interval_den_pos x) (interval_value_pos hzero)).1
  rwa [interval_value] at hspec

theorem value_lt_leading (hzero : x.magnitude ≠ 0) : x.value < (10 : ℚ) ^ (x.interval.leading + 1) := by
  have hspec := (Interval.leading_spec (interval_den_pos x) (interval_value_pos hzero)).2
  rwa [interval_value] at hspec

theorem below_le_value (x : Binary64) (k : Int) : (x.interval.below k : ℚ) * (10 : ℚ) ^ k ≤ x.value := by
  have hle := Interval.below_le (interval_den_pos x) k
  rwa [interval_value] at hle

theorem value_lt_below_succ (x : Binary64) (k : Int) :
    x.value < ((x.interval.below k + 1 : Nat) : ℚ) * (10 : ℚ) ^ k := by
  have hlt := Interval.lt_below_succ (interval_den_pos x) k
  rwa [interval_value] at hlt

/-- Where nothing is found on a grid, neither neighbour is rounded to the double. -/
theorem not_rounds_of_onGrid? (hx : x.magnitude < infiniteMagnitude) (hzero : x.magnitude ≠ 0) {tie : TieRule}
    {e : Int} (hnone : x.interval.onGrid? tie e = none) :
    ¬Rounds (x.interval.below e * (10 : ℚ) ^ e) x.magnitude ∧
      ¬Rounds ((x.interval.below e + 1 : Nat) * (10 : ℚ) ^ e) x.magnitude := by
  obtain ⟨hbelow, habove⟩ := Interval.holds_of_onGrid?_eq_none hnone
  rw [← holds_iff hx hzero, ← holds_iff hx hzero, hbelow, habove]
  exact ⟨Bool.false_ne_true, Bool.false_ne_true⟩

/-- Where neither neighbour of a double on a grid is rounded to it, a step of the grid is at least as wide as its
middles are apart. -/
theorem middles_of_onGrid?_eq_none (hx : x.magnitude < infiniteMagnitude) (hzero : x.magnitude ≠ 0) {tie : TieRule}
    {e : Int} (hnone : x.interval.onGrid? tie e = none) : x.highest - x.lowest ≤ (10 : ℚ) ^ e := by
  obtain ⟨hbelow, habove⟩ := not_rounds_of_onGrid? hx hzero hnone
  have hlow : (x.interval.below e : ℚ) * (10 : ℚ) ^ e ≤ x.lowest := by
    by_contra hgt
    exact hbelow ((rounds_iff hx hzero _).mpr (holds_below (below_le_value x e) (not_le.mp hgt)))
  have hhigh : x.highest ≤ ((x.interval.below e + 1 : Nat) : ℚ) * (10 : ℚ) ^ e := by
    by_contra hgt
    exact habove ((rounds_iff hx hzero _).mpr (holds_above (value_lt_below_succ x e).le (not_le.mp hgt)))
  push_cast at hhigh
  linarith

/-- On the grid of seventeen digits, one of the two neighbours is rounded to the double. -/
theorem onGrid?_seventeen (hx : x.magnitude < infiniteMagnitude) (hzero : x.magnitude ≠ 0) (tie : TieRule) :
    x.interval.onGrid? tie (x.interval.leading - 16) ≠ none := by
  intro hnone
  have hspacing := x.spacing_pos
  have hstep := middles_of_onGrid?_eq_none hx hzero hnone
  have hfine : (10 : ℚ) ^ (x.interval.leading - 16) * 10 ^ 16 ≤ x.parts.1 * x.spacing := by
    rw [zpow_sub₀ (by norm_num), ← value_eq_spacing]
    refine le_of_eq_of_le ?_ (leading_le_value hzero)
    field_simp
  obtain ⟨p, n, hpacked, hparts⟩ := exists_parts x
  have hn : (x.parts.1 : ℚ) ≤ 9007199254740991 := by
    have hlt' := hpacked.lt
    rw [hparts]
    exact_mod_cast Nat.le_of_lt_succ hlt'
  have hhighest : x.highest = x.value + x.spacing / 2 := rfl
  have hlowest : x.lowest = x.value - (if x.Narrow then 1 else 2) * x.spacing / 4 := rfl
  split at hlowest
  · next hnarrow =>
    have heb : (x.parts.1 : ℚ) = 4503599627370496 := by
      rw [hnarrow.1]
      norm_num [exponentBit]
    rw [heb] at hfine
    linarith
  · have hbound : (x.parts.1 : ℚ) * x.spacing ≤ 9007199254740991 * x.spacing :=
      mul_le_mul_of_nonneg_right hn hspacing.le
    linarith

/-! ## What is found -/

/-- A decimal as a number. -/
def Decimal.value (d : Decimal) : ℚ := d.digits * (10 : ℚ) ^ d.exponent

theorem Decimal.trim_spec (fuel : Nat) (d : Decimal) :
    (d.trim fuel).value = d.value ∧ (d.trim fuel).digits ≤ d.digits := by
  induction fuel generalizing d with
  | zero => exact ⟨rfl, Nat.le_refl _⟩
  | succ fuel ih =>
    unfold trim
    split
    · next hzero =>
      obtain ⟨hvalue, hle⟩ := ih ⟨d.digits / 10, d.exponent + 1⟩
      refine ⟨hvalue.trans ?_, hle.trans (Nat.div_le_self ..)⟩
      have hdigits : d.digits = d.digits / 10 * 10 := by omega
      have hcast : (d.digits : ℚ) = (d.digits / 10 : Nat) * 10 := by exact_mod_cast hdigits
      simp only [value]
      rw [hcast, zpow_add_one₀ (by norm_num)]
      ring
    · exact ⟨rfl, Nat.le_refl _⟩

/-- Enough fuel leaves no zero at the end. -/
theorem Decimal.trim_digits {fuel : Nat} {d : Decimal} (hd : d.digits ≠ 0) (hfuel : d.digits < 10 ^ fuel) :
    (d.trim fuel).digits % 10 ≠ 0 := by
  induction fuel generalizing d with
  | zero =>
    rw [Nat.pow_zero] at hfuel
    omega
  | succ fuel ih =>
    rw [Nat.pow_succ] at hfuel
    unfold trim
    split
    · next hzero => exact ih (show d.digits / 10 ≠ 0 by omega) (show d.digits / 10 < 10 ^ fuel by omega)
    · next hlast => exact fun hzero => hlast ⟨hd, hzero⟩

/-- The first answer of a search. -/
theorem exists_first {α : Type} {f : Nat → Option α} {n : Nat} (h : ∃ j < n, f j ≠ none) :
    ∃ j < n, ∃ a, f j = some a ∧ (∀ i < j, f i = none) ∧ (List.range n).findSome? f = some a := by
  induction n with
  | zero => simp at h
  | succ n ih =>
    rw [List.range_succ, List.findSome?_append]
    by_cases hbefore : ∃ j < n, f j ≠ none
    · obtain ⟨j, hj, a, ha, hfirst, hfind⟩ := ih hbefore
      exact ⟨j, by omega, a, ha, hfirst, by rw [hfind, Option.some_or]⟩
    · have hnone : ∀ i < n, f i = none := fun i hi => by
        by_contra hi'
        exact hbefore ⟨i, hi, hi'⟩
      obtain ⟨j, hj, hsome⟩ := h
      have hlast : j = n := by
        by_contra hne
        exact hsome (hnone j (by omega))
      subst hlast
      obtain ⟨a, ha⟩ := Option.ne_none_iff_exists'.mp hsome
      refine ⟨j, hj, a, ha, hnone, ?_⟩
      have hfind : (List.range j).findSome? f = none := by
        rw [List.findSome?_eq_none_iff]
        exact fun i hi => hnone i (List.mem_range.mp hi)
      rw [hfind, List.findSome?_cons, ha]
      rfl

/-- The shortest decimal is the first one found, without the zeros at its end. -/
theorem exists_found (hx : x.magnitude < infiniteMagnitude) (hzero : x.magnitude ≠ 0) (tie : TieRule) :
    ∃ n ≤ 16, ∃ d, x.interval.onGrid? tie (x.interval.leading - (n : Nat)) = some d ∧
      (∀ i < n, x.interval.onGrid? tie (x.interval.leading - (i : Nat)) = none) ∧
      shortest tie x = d.trim 20 := by
  obtain ⟨n, hn, d, hd, hfirst, hfind⟩ :=
    exists_first (f := fun n : Nat => x.interval.onGrid? tie (x.interval.leading - n)) (n := 17)
      ⟨16, by decide, onGrid?_seventeen hx hzero tie⟩
  refine ⟨n, by omega, d, hd, hfirst, ?_⟩
  unfold shortest
  rw [if_neg hzero]
  simp only [hfind, Option.getD_some]

theorem digits_le_of_onGrid? (hzero : x.magnitude ≠ 0) {tie : TieRule} {n : Nat} {d : Decimal}
    (h : x.interval.onGrid? tie (x.interval.leading - n) = some d) : d.digits ≤ 10 ^ (n + 1) := by
  have hbelow : x.interval.below (x.interval.leading - n) < 10 ^ (n + 1) := by
    have hpow : (0 : ℚ) < (10 : ℚ) ^ (x.interval.leading - n) := zpow_pos (by norm_num) _
    have hlt := (below_le_value x (x.interval.leading - n)).trans_lt (value_lt_leading hzero)
    have hsplit : x.interval.leading + 1 = ((n + 1 : Nat) : Int) + (x.interval.leading - n) := by omega
    rw [hsplit, zpow_add₀ (by norm_num), zpow_natCast, mul_lt_mul_iff_left₀ hpow] at hlt
    exact_mod_cast hlt
  obtain ⟨-, -, hdigits⟩ := Interval.eq_of_onGrid? h
  omega

/-- The shortest decimal is rounded to the double. -/
theorem rounds_shortest (hx : x.magnitude < infiniteMagnitude) (hzero : x.magnitude ≠ 0) (tie : TieRule) :
    Rounds (shortest tie x).value x.magnitude := by
  obtain ⟨n, -, d, hd, -, hshortest⟩ := exists_found hx hzero tie
  obtain ⟨hexponent, hholds, -⟩ := Interval.eq_of_onGrid? hd
  rw [hshortest, (d.trim_spec 20).1, Decimal.value, hexponent]
  exact (holds_iff hx hzero _ _).mp hholds

theorem shortest_digits_le (hx : x.magnitude < infiniteMagnitude) (hzero : x.magnitude ≠ 0) (tie : TieRule) :
    (shortest tie x).digits ≤ 10 ^ 17 := by
  obtain ⟨n, hn, d, hd, -, hshortest⟩ := exists_found hx hzero tie
  rw [hshortest]
  calc (d.trim 20).digits ≤ d.digits := (d.trim_spec 20).2
    _ ≤ 10 ^ (n + 1) := digits_le_of_onGrid? hzero hd
    _ ≤ 10 ^ 17 := Nat.pow_le_pow_right (by decide) (by omega)

/-! ## The size of what is rounded to a finite double -/

theorem Rounds.lt_pow {r : ℚ} {m : Nat} (h : Rounds r m) (hm : m < infiniteMagnitude) : r < 10 ^ 309 := by
  have hnot : ¬ Beyond (infiniteMagnitude - 1) r := fun hbeyond => by
    have hlt := (h.lt_iff _ (by decide)).mpr hbeyond
    omega
  have hsize : size infiniteMagnitude = exponentBit * 2 ^ 2046 :=
    size_pack (p := 2046) (n := exponentBit) (by decide) (.inr (Nat.le_refl _))
  have hbelow : size (infiniteMagnitude - 1) < size infiniteMagnitude := size_strictMono (by decide)
  have hlimit : size (infiniteMagnitude - 1) + size (infiniteMagnitude - 1 + 1) < 2 * (10 ^ 309 * grains) := by
    have htens : exponentBit * 2 ^ 2046 < 10 ^ 309 * grains := by decide +kernel
    rw [← hsize] at htens
    rw [Nat.sub_add_cancel (by decide)]
    omega
  have hg : (0 : ℚ) < grains := by exact_mod_cast grains_pos
  have hcast : ((size (infiniteMagnitude - 1) + size (infiniteMagnitude - 1 + 1) : Nat) : ℚ) <
      2 * (10 ^ 309 * grains) := by exact_mod_cast hlimit
  by_contra hle
  have hmul : 10 ^ 309 * (grains : ℚ) ≤ r * grains := mul_le_mul_of_nonneg_right (not_lt.mp hle) hg.le
  exact hnot (.inl (hcast.trans_le (mul_le_mul_of_nonneg_left hmul zero_le_two)))

theorem Rounds.pow_lt {r : ℚ} {m : Nat} (h : Rounds r m) (hm : m ≠ 0) : (10 : ℚ) ^ (-324 : Int) < r := by
  have hbeyond : Beyond 0 r := (h.lt_iff 0 (by decide)).mp (Nat.pos_of_ne_zero hm)
  have hsize : size 0 + size (0 + 1) = 1 := by decide
  have hg : (0 : ℚ) < grains := by exact_mod_cast grains_pos
  have hr : 1 ≤ 2 * (r * grains) := by
    rcases hbeyond with hlt | ⟨heq, -⟩
    · rw [hsize] at hlt
      exact_mod_cast hlt.le
    · rw [hsize] at heq
      exact_mod_cast heq.le
  have hsmall : 2 * ((10 : ℚ) ^ (-324 : Int) * grains) < 1 := by
    have htens : (2 * grains : ℚ) < 10 ^ 324 := by
      exact_mod_cast (by decide +kernel : 2 * grains < 10 ^ 324)
    rw [zpow_neg, zpow_ofNat, mul_left_comm, inv_mul_lt_iff₀ (by positivity), mul_one]
    exact htens
  have hlt : (10 : ℚ) ^ (-324 : Int) * grains < r * grains := by linarith
  exact (mul_lt_mul_iff_left₀ hg).mp hlt

theorem shortest_digits_pos (hx : x.magnitude < infiniteMagnitude) (hzero : x.magnitude ≠ 0) (tie : TieRule) :
    0 < (shortest tie x).digits := by
  have hpos : 0 < (shortest tie x).value :=
    (zpow_pos (by norm_num) _).trans ((rounds_shortest hx hzero tie).pow_lt hzero)
  refine Nat.pos_of_ne_zero fun hdigits => ne_of_gt hpos ?_
  rw [Decimal.value, hdigits, Nat.cast_zero, zero_mul]

theorem shortest_exponent_lt (hx : x.magnitude < infiniteMagnitude) (hzero : x.magnitude ≠ 0) (tie : TieRule) :
    (shortest tie x).exponent < 309 := by
  have hone : (1 : ℚ) ≤ (shortest tie x).digits := by exact_mod_cast shortest_digits_pos hx hzero tie
  have hpow : (10 : ℚ) ^ (shortest tie x).exponent < (10 : ℚ) ^ (309 : Int) := by
    calc (10 : ℚ) ^ (shortest tie x).exponent ≤ (shortest tie x).digits * (10 : ℚ) ^ (shortest tie x).exponent :=
          le_mul_of_one_le_left (zpow_nonneg (by norm_num) _) hone
      _ < 10 ^ 309 := (rounds_shortest hx hzero tie).lt_pow hx
      _ = (10 : ℚ) ^ (309 : Int) := (zpow_natCast _ 309).symm
  exact (zpow_lt_zpow_iff_right₀ (by norm_num)).mp hpow

theorem lt_shortest_exponent (hx : x.magnitude < infiniteMagnitude) (hzero : x.magnitude ≠ 0) (tie : TieRule) :
    -341 < (shortest tie x).exponent := by
  have hdigits : ((shortest tie x).digits : ℚ) ≤ (10 : ℚ) ^ (17 : Int) := by
    exact_mod_cast shortest_digits_le hx hzero tie
  have hpow : (10 : ℚ) ^ (-324 : Int) < (10 : ℚ) ^ (17 + (shortest tie x).exponent) := by
    rw [zpow_add₀ (by norm_num)]
    exact ((rounds_shortest hx hzero tie).pow_lt hzero).trans_le
      (mul_le_mul_of_nonneg_right hdigits (zpow_nonneg (by norm_num) _))
  have hlt := (zpow_lt_zpow_iff_right₀ (by norm_num)).mp hpow
  omega

/-! ## Few digits -/

/-- Two numbers that are rounded to one double are no further apart than it is from the next. -/
theorem sub_le_spacing {r s : ℚ} (hr : x.Holds r) (hs : x.Holds s) : s - r ≤ x.spacing := by
  have hspacing := x.spacing_pos
  have hlow : x.lowest ≤ r := by
    unfold Holds at hr
    split at hr
    · exact hr.1
    · exact hr.1.le
  have hhigh : s ≤ x.highest := by
    unfold Holds at hs
    split at hs
    · exact hs.2
    · exact hs.2.le
  unfold lowest at hlow
  unfold highest at hhigh
  split at hlow <;> linarith

/-- A grid that meets the interval has one of the two neighbours in it. -/
theorem onGrid?_ne_none (hx : x.magnitude < infiniteMagnitude) (hzero : x.magnitude ≠ 0) {k : Int} {a : Nat}
    (h : Rounds (a * (10 : ℚ) ^ k) x.magnitude) (tie : TieRule) : x.interval.onGrid? tie k ≠ none := by
  intro hnone
  obtain ⟨hbelow, habove⟩ := not_rounds_of_onGrid? hx hzero hnone
  have hpow : (0 : ℚ) < (10 : ℚ) ^ k := zpow_pos (by norm_num) _
  have hvalue := rounds_value hx
  rcases Nat.lt_or_ge (x.interval.below k) a with hgt | hle
  · have hpoint : ((x.interval.below k + 1 : Nat) : ℚ) * (10 : ℚ) ^ k ≤ a * (10 : ℚ) ^ k :=
      mul_le_mul_of_nonneg_right (by exact_mod_cast hgt) hpow.le
    exact habove (hvalue.between h (value_lt_below_succ x k).le hpoint)
  · have hpoint : (a : ℚ) * (10 : ℚ) ^ k ≤ x.interval.below k * (10 : ℚ) ^ k :=
      mul_le_mul_of_nonneg_right (by exact_mod_cast hle) hpow.le
    exact hbelow (h.between hvalue hpoint (below_le_value x k))

/-- The doubles around a number that is not tiny stand close. -/
theorem spacing_le_of_rounds (hx : x.magnitude < infiniteMagnitude) (hzero : x.magnitude ≠ 0) {r : ℚ}
    (h : Rounds r x.magnitude) (hr : (10 : ℚ) ^ (-22 : Int) ≤ r) : (4503599627370495 : ℚ) * x.spacing ≤ r := by
  obtain ⟨p, n, hpacked, hparts⟩ := exists_parts x
  have hspacing := x.spacing_pos
  rcases hpacked.normal with hfinest | hnormal
  · have hsmall : (4503599627370495 : ℚ) * x.spacing ≤ (10 : ℚ) ^ (-22 : Int) := by
      rw [Packed.spacing hparts, hfinest, zpow_neg, zpow_ofNat, pow_zero, mul_one_div,
        div_le_iff₀ (by exact_mod_cast grains_pos), inv_mul_eq_div, le_div_iff₀ (by norm_num)]
      exact_mod_cast (by decide +kernel : 4503599627370495 * 10 ^ 22 ≤ grains)
    exact hsmall.trans hr
  · have hclose := sub_le_spacing ((rounds_iff hx hzero r).mp h) ((rounds_iff hx hzero _).mp (rounds_value hx))
    have hn : (4503599627370496 : ℚ) ≤ x.parts.1 := by
      rw [hparts]
      exact_mod_cast hnormal
    have hbound : (4503599627370496 : ℚ) * x.spacing ≤ x.value := by
      rw [value_eq_spacing]
      exact mul_le_mul_of_nonneg_right hn hspacing.le
    linarith

/-- Two multiples of a step that are less than a step apart are one. -/
theorem eq_of_sub_le {b c : Nat} {step gap : ℚ} (hgap : gap < step) (hstep : 0 < step)
    (hbc : (c : ℚ) * step - b * step ≤ gap) (hcb : (b : ℚ) * step - c * step ≤ gap) : b = c := by
  rcases Nat.lt_trichotomy b c with hlt | heq | hgt
  · have hnext : ((b : ℚ) + 1) * step ≤ c * step :=
      mul_le_mul_of_nonneg_right (by exact_mod_cast hlt) hstep.le
    linarith
  · exact heq
  · have hnext : ((c : ℚ) + 1) * step ≤ b * step :=
      mul_le_mul_of_nonneg_right (by exact_mod_cast hgt) hstep.le
    linarith

/-- A multiple of a power of ten is one of a lower power of ten. -/
theorem mul_zpow_eq (a : Nat) {j k : Int} (h : j ≤ k) :
    (a : ℚ) * (10 : ℚ) ^ k = ((a * 10 ^ (k - j).toNat : Nat) : ℚ) * (10 : ℚ) ^ j := by
  obtain ⟨n, hn⟩ := Int.eq_ofNat_of_zero_le (Int.sub_nonneg.mpr h)
  have hk : k = (n : Int) + j := by omega
  rw [hn, Int.toNat_natCast, hk, zpow_add₀ (by norm_num), zpow_natCast]
  push_cast
  ring

theorem ne_zero_of_rounds {r : ℚ} {m : Nat} (h : Rounds r m) (hr : (10 : ℚ) ^ (-22 : Int) ≤ r) : m ≠ 0 := by
  rintro rfl
  have hg : (0 : ℚ) < grains := by exact_mod_cast grains_pos
  have hsize : size 0 + size (0 + 1) = 1 := by decide
  have htens : (1 : ℚ) < 2 * ((10 : ℚ) ^ (-22 : Int) * grains) := by
    rw [zpow_neg, zpow_ofNat, mul_left_comm, inv_mul_eq_div, lt_div_iff₀ (by norm_num)]
    exact_mod_cast (by decide +kernel : 1 * 10 ^ 22 < 2 * grains)
  have hle : (10 : ℚ) ^ (-22 : Int) * grains ≤ r * grains := mul_le_mul_of_nonneg_right hr hg.le
  have hbeyond : Beyond 0 r := .inl (by rw [hsize]; push_cast; linarith)
  exact Nat.lt_irrefl 0 ((h.lt_iff 0 (by decide)).mpr hbeyond)

theorem le_of_places {a k : Nat} (ha : 0 < a) (hk : k ≤ 22) : (10 : ℚ) ^ (-22 : Int) ≤ a * (10 : ℚ) ^ (-(k : Int)) := by
  have hone : (1 : ℚ) ≤ a := by exact_mod_cast ha
  calc (10 : ℚ) ^ (-22 : Int) ≤ (10 : ℚ) ^ (-(k : Int)) := zpow_le_zpow_right₀ (by norm_num) (by omega)
    _ ≤ a * (10 : ℚ) ^ (-(k : Int)) := le_mul_of_one_le_left (zpow_nonneg (by norm_num) _) hone

/-- The doubles around a decimal of few digits stand closer than the decimals of its places. -/
theorem spacing_lt_unit {a : Nat} {u : ℚ} (ha : a < 4503599627370495) (hu : 0 < u)
    (hclose : (4503599627370495 : ℚ) * x.spacing ≤ a * u) : x.spacing < u := by
  have hfew : (a : ℚ) + 1 ≤ 4503599627370495 := by exact_mod_cast ha
  by_contra hle
  have hmany : (4503599627370495 : ℚ) * u ≤ 4503599627370495 * x.spacing := by linarith
  have hless : ((a : ℚ) + 1) * u ≤ 4503599627370495 * u := mul_le_mul_of_nonneg_right hfew hu.le
  linarith

/-- The first digit of a double near a decimal of few digits stands at most sixteen places before the last. -/
theorem leading_add_lt (hzero : x.magnitude ≠ 0) {a k : Nat} (ha : a < 4503599627370495)
    (hvalue : x.value ≤ 2 * a * (10 : ℚ) ^ (-(k : Int))) : x.interval.leading + k < 16 := by
  have hfew : (a : ℚ) + 1 ≤ 4503599627370495 := by exact_mod_cast ha
  have hpow : (10 : ℚ) ^ (x.interval.leading + k) < (10 : ℚ) ^ (16 : Int) := by
    calc (10 : ℚ) ^ (x.interval.leading + k) = (10 : ℚ) ^ x.interval.leading * (10 : ℚ) ^ (k : Int) :=
          zpow_add₀ (by norm_num) ..
      _ ≤ 2 * a * (10 : ℚ) ^ (-(k : Int)) * (10 : ℚ) ^ (k : Int) :=
          mul_le_mul_of_nonneg_right ((leading_le_value hzero).trans hvalue) (zpow_nonneg (by norm_num) _)
      _ = 2 * a := by rw [mul_assoc, ← zpow_add₀ (by norm_num), neg_add_cancel, zpow_zero, mul_one]
      _ < (10 : ℚ) ^ (16 : Int) := by norm_num; linarith
  exact (zpow_lt_zpow_iff_right₀ (by norm_num)).mp hpow

/-- A decimal of few digits is what the shortest decimal of its double stands for. -/
theorem value_shortest_of_rounds (hx : x.magnitude < infiniteMagnitude) {a k : Nat} (ha : 0 < a)
    (ha' : a < 4503599627370495) (hk : k ≤ 22) (h : Rounds (a * (10 : ℚ) ^ (-(k : Int))) x.magnitude)
    (tie : TieRule) : (shortest tie x).value = a * (10 : ℚ) ^ (-(k : Int)) := by
  have hsize := le_of_places ha hk
  have hzero := ne_zero_of_rounds h hsize
  have hspacing := x.spacing_pos
  have hclose := spacing_le_of_rounds hx hzero h hsize
  have hholds := (rounds_iff hx hzero _).mp h
  have hself := (rounds_iff hx hzero _).mp (rounds_value hx)
  have hbelow := sub_le_spacing hself hholds
  have habove := sub_le_spacing hholds hself
  -- the grid of the decimal and that of the first digit are both coarser than the doubles
  have hstep : x.spacing < (10 : ℚ) ^ (-(k : Int)) := spacing_lt_unit ha' (zpow_pos (by norm_num) _) hclose
  have hlead : x.spacing < (10 : ℚ) ^ x.interval.leading := by
    have hlt := value_lt_leading hzero
    rw [zpow_add_one₀ (by norm_num)] at hlt
    linarith
  have htop : x.interval.leading + k < 16 := leading_add_lt hzero ha' (by linarith)
  obtain ⟨n₀, hn₀⟩ : ∃ n₀ : Nat, x.interval.leading - n₀ = min (-(k : Int)) x.interval.leading :=
    ⟨(x.interval.leading - min (-(k : Int)) x.interval.leading).toNat, by omega⟩
  have hdecimal := mul_zpow_eq a (j := x.interval.leading - n₀) (k := -(k : Int)) (by omega)
  have hgrid : x.spacing < (10 : ℚ) ^ (x.interval.leading - n₀) := by
    rcases min_choice (-(k : Int)) x.interval.leading with hmin | hmin
    · rwa [hn₀, hmin]
    · rwa [hn₀, hmin]
  -- the search ends on that grid at the latest, so what it finds is a multiple of the same step
  obtain ⟨n, -, d, hd, hfirst, hshortest⟩ := exists_found hx hzero tie
  have hn : n ≤ n₀ := by
    by_contra hlt
    rw [hdecimal] at h
    exact onGrid?_ne_none hx hzero h tie (hfirst n₀ (by omega))
  obtain ⟨hexponent, hdholds, -⟩ := Interval.eq_of_onGrid? hd
  rw [holds_iff hx hzero, rounds_iff hx hzero] at hdholds
  have hfound := mul_zpow_eq d.digits (j := x.interval.leading - n₀) (k := x.interval.leading - n) (by omega)
  have hleft := sub_le_spacing hdholds hholds
  have hright := sub_le_spacing hholds hdholds
  rw [hdecimal, hfound] at hleft hright
  have hsame := eq_of_sub_le hgrid (hspacing.trans hgrid) hleft hright
  rw [hshortest, (d.trim_spec 20).1, Decimal.value, hexponent, hfound, hsame, ← hdecimal]

/-- No zero stands at the end of the shortest digits. -/
theorem shortest_digits_last (hx : x.magnitude < infiniteMagnitude) (hzero : x.magnitude ≠ 0) (tie : TieRule) :
    (shortest tie x).digits % 10 ≠ 0 := by
  have hpos := shortest_digits_pos hx hzero tie
  obtain ⟨n, hn, d, hd, -, hshortest⟩ := exists_found hx hzero tie
  rw [hshortest] at hpos ⊢
  have hle := (d.trim_spec 20).2
  refine Decimal.trim_digits (by omega) ?_
  calc d.digits ≤ 10 ^ (n + 1) := digits_le_of_onGrid? hzero hd
    _ < 10 ^ 20 := Nat.pow_lt_pow_right (by decide) (by omega)

/-- The shortest digits of a decimal of few digits are its own, without the zeros at their end. -/
theorem exists_zeros (hx : x.magnitude < infiniteMagnitude) {a k : Nat} (ha : 0 < a) (ha' : a < 4503599627370495)
    (hk : k ≤ 22) (h : Rounds (a * (10 : ℚ) ^ (-(k : Int))) x.magnitude) (tie : TieRule) :
    ∃ n : Nat, a = (shortest tie x).digits * 10 ^ n ∧ (shortest tie x).exponent = (n : Int) - k := by
  have hzero := ne_zero_of_rounds h (le_of_places ha hk)
  have hvalue := value_shortest_of_rounds hx ha ha' hk h tie
  have hlast := shortest_digits_last hx hzero tie
  generalize shortest tie x = d at hvalue hlast ⊢
  rw [Decimal.value] at hvalue
  have hpos (e : Int) : (10 : ℚ) ^ e ≠ 0 := zpow_ne_zero e (by norm_num)
  rcases lt_or_ge d.exponent (-(k : Int)) with hlt | hge
  · obtain ⟨n, hn⟩ := Int.eq_ofNat_of_zero_le (by omega : 0 ≤ -(k : Int) - d.exponent - 1)
    have hsplit : -(k : Int) = ((n + 1 : Nat) : Int) + d.exponent := by omega
    rw [hsplit, zpow_add₀ (by norm_num), zpow_natCast, ← mul_assoc, mul_left_inj' (hpos _)] at hvalue
    have hdigits : d.digits = a * 10 ^ (n + 1) := by exact_mod_cast hvalue
    rw [hdigits, Nat.pow_succ, ← Nat.mul_assoc, Nat.mul_mod_left] at hlast
    exact absurd rfl hlast
  · obtain ⟨n, hn⟩ := Int.eq_ofNat_of_zero_le (by omega : 0 ≤ d.exponent + k)
    have hsplit : d.exponent = (n : Int) + -(k : Int) := by omega
    rw [hsplit, zpow_add₀ (by norm_num), zpow_natCast, ← mul_assoc, mul_left_inj' (hpos _)] at hvalue
    exact ⟨n, by exact_mod_cast hvalue.symm, by omega⟩

end BudgetRules.Binary64
