import BudgetRules.Proofs.Binary64.Shortest

/-!
# Whole numbers among the doubles

A whole number of 53 bits times a power of two is a double, and so are the powers of ten up to the twenty-second:

    n ≤ 2 * exponentBit → (ofNat (n * 2 ^ j)).value = n * 2 ^ j                      (value_ofNat)
    k ≤ 22 → (ofNat (10 ^ k)).value = 10 ^ k                                         (value_ofNat_pow_ten)

The shortest decimal of a finite double stays finite when its digits and its power of ten are rounded apart and
multiplied:

    ((ofNat d.digits).mulSize (ofNat (10 ^ d.exponent.toNat))).magnitude < infiniteMagnitude
                                                                                     (magnitude_mulSize_shortest)
-/

namespace BudgetRules.Binary64

/-! ## Exact whole numbers -/

theorem divNearestEven_mul {b : Nat} (hb : 0 < b) (c : Nat) : divNearestEven (c * b) b = c := by
  unfold divNearestEven
  rw [Nat.mul_div_cancel _ hb, Nat.mul_mod_left]
  simp only
  rw [if_neg (by omega)]

theorem value_ofNat {n j : Nat} (hn : n ≤ 2 * exponentBit) (hj : j ≤ 900) :
    (ofNat (n * 2 ^ j)).value = n * 2 ^ j := by
  have hg : (grains : ℚ) ≠ 0 := by exact_mod_cast ne_of_gt grains_pos
  by_cases hzero : n = 0
  · have hmagnitude : (ofNat (n * 2 ^ j)).magnitude = 0 := by
      rw [hzero, Nat.zero_mul]
      decide
    rw [value, hmagnitude, size_zero, hzero]
    simp only [Nat.cast_zero, zero_mul, zero_div]
  have hnum : n * 2 ^ j ≠ 0 := Nat.ne_of_gt (Nat.mul_pos (Nat.pos_of_ne_zero hzero) (Nat.two_pow_pos j))
  obtain ⟨p, hp, hfills⟩ := exists_power hnum Nat.one_pos
  have hgrains : n * 2 ^ j * grains = n * 2 ^ (j + finest) := by rw [grains, Nat.mul_assoc, ← Nat.pow_add]
  have hround := hfills.rounded Nat.one_pos
  have hnormal := hfills.normal
  rw [Nat.one_mul] at hround hnormal
  -- the power at which the number is rounded divides it
  obtain ⟨c, hc, hplace⟩ : ∃ c, n * 2 ^ j * grains = c * 2 ^ p ∧ p ≤ j + finest + 1 := by
    rcases Nat.lt_or_ge (j + finest) p with hhigh | hlow
    · have hle : exponentBit * 2 ^ p ≤ n * 2 ^ (j + finest) := by
        rw [← hgrains]
        exact hnormal.resolve_left (by omega)
      have hcap : n * 2 ^ (j + finest) ≤ exponentBit * 2 ^ (j + finest + 1) := by
        calc n * 2 ^ (j + finest) ≤ 2 * exponentBit * 2 ^ (j + finest) := Nat.mul_le_mul_right _ hn
          _ = exponentBit * 2 ^ (j + finest + 1) := by rw [Nat.pow_succ]; ring
      have hpow : 2 ^ p ≤ 2 ^ (j + finest + 1) :=
        Nat.le_of_mul_le_mul_left (hle.trans hcap) (by decide)
      have hp' : p ≤ j + finest + 1 := (Nat.pow_le_pow_iff_right (by decide)).mp hpow
      have hsame : p = j + finest + 1 := by omega
      refine ⟨exponentBit, ?_, hp'⟩
      rw [hgrains]
      rw [hsame] at hle ⊢
      exact Nat.le_antisymm hcap hle
    · refine ⟨n * 2 ^ (j + finest - p), ?_, by omega⟩
      rw [hgrains, Nat.mul_assoc, ← Nat.pow_add, Nat.sub_add_cancel hlow]
  rw [hc, divNearestEven_mul (Nat.two_pow_pos p)] at hround
  have hmagnitude : (ofNat (n * 2 ^ j)).magnitude = p * exponentBit + c := by
    have hsmall : p * exponentBit + c ≤ infiniteMagnitude := by
      rw [finest_eq] at hplace
      rw [infiniteMagnitude_eq]
      have hmul : p * exponentBit ≤ 1975 * exponentBit := Nat.mul_le_mul_right _ (by omega)
      omega
    rw [ofNat, magnitude_nearest, nearestMagnitude_of_fills hnum Nat.one_pos hp, Nat.one_mul, hc,
      divNearestEven_mul (Nat.two_pow_pos p), Nat.min_eq_left hsmall]
  rw [value, hmagnitude, size_pack hround.1 hround.2, ← hc]
  push_cast
  field_simp

theorem value_ofNat_of_le {n : Nat} (hn : n ≤ 2 * exponentBit) : (ofNat n).value = n := by
  have hvalue := value_ofNat hn (Nat.zero_le 900)
  rwa [Nat.pow_zero, Nat.mul_one, pow_zero, mul_one] at hvalue

theorem value_ofNat_pow_ten {k : Nat} (hk : k ≤ 22) : (ofNat (10 ^ k)).value = 10 ^ k := by
  have hfive : 5 ^ k ≤ 2 * exponentBit := (Nat.pow_le_pow_right (by decide) hk).trans (by decide)
  have hten : 10 ^ k = 5 ^ k * 2 ^ k := by rw [← Nat.mul_pow]
  rw [hten, value_ofNat hfive (by omega)]
  push_cast
  rw [← mul_pow]
  norm_num

/-! ## Products that stay finite -/

theorem value_mono {x y : Binary64} (h : x.magnitude ≤ y.magnitude) : x.value ≤ y.value := by
  have hg : (0 : ℚ) < grains := by exact_mod_cast grains_pos
  unfold value
  rw [div_le_div_iff_of_pos_right hg]
  exact_mod_cast size_strictMono.monotone h

theorem magnitude_ofNat_mono {m n : Nat} (h : m ≤ n) : (ofNat m).magnitude ≤ (ofNat n).magnitude :=
  (rounds_ofNat m).mono (rounds_ofNat n) (by exact_mod_cast h)

theorem magnitude_mulSize_mono {x y z w : Binary64} (h : x.magnitude ≤ y.magnitude)
    (h' : z.magnitude ≤ w.magnitude) : (x.mulSize z).magnitude ≤ (y.mulSize w).magnitude := by
  refine (rounds_mulSize x z).mono (rounds_mulSize y w) ?_
  exact mul_le_mul (value_mono h) (value_mono h') z.value_nonneg y.value_nonneg

/-- The middle between the two largest finite doubles. -/
def lastMiddle : Nat := (4 * exponentBit - 3) * 2 ^ 970

theorem le_lastMiddle {n m : Nat} (h : Rounds n m) (hm : m < infiniteMagnitude - 1) : n ≤ lastMiddle := by
  have hnot : ¬ Beyond (infiniteMagnitude - 2) n := fun hbeyond => by
    have hlt := (h.lt_iff _ (by decide)).mpr hbeyond
    omega
  have hlast : size (infiniteMagnitude - 2) = (2 * exponentBit - 2) * 2 ^ 2045 :=
    size_pack (p := 2045) (n := 2 * exponentBit - 2) (by decide) (.inr (by decide))
  have hmax : size (infiniteMagnitude - 2 + 1) = (2 * exponentBit - 1) * 2 ^ 2045 :=
    size_pack (p := 2045) (n := 2 * exponentBit - 1) (by decide) (.inr (by decide))
  have hsum : size (infiniteMagnitude - 2) + size (infiniteMagnitude - 2 + 1) = 2 * (lastMiddle * grains) := by
    rw [hlast, hmax]
    decide +kernel
  by_contra hlt
  have hbeyond : 2 * (lastMiddle * grains) < 2 * (n * grains) :=
    Nat.mul_lt_mul_of_pos_left (Nat.mul_lt_mul_of_pos_right (Nat.lt_of_not_le hlt) grains_pos) (by decide)
  exact hnot (.inl (by rw [hsum]; exact_mod_cast hbeyond))

/-- No significand of up to seventeen digits overflows if it is written with a number up to the last middle. -/
theorem mulSize_below_lastMiddle {e : Nat} (he : e < 309) :
    ((ofNat (min (lastMiddle / 10 ^ e) (10 ^ 17))).mulSize (ofNat (10 ^ e))).magnitude < infiniteMagnitude := by
  rcases Nat.lt_or_ge e 292 with hlow | hhigh
  · -- seventeen digits and the power stay below the largest double by far
    have hdigits : (ofNat (min (lastMiddle / 10 ^ e) (10 ^ 17))).magnitude ≤ (ofNat (10 ^ 17)).magnitude :=
      magnitude_ofNat_mono (Nat.min_le_right ..)
    have hten {top : Nat} (htop : e ≤ top) : (ofNat (10 ^ e)).magnitude ≤ (ofNat (10 ^ top)).magnitude :=
      magnitude_ofNat_mono (Nat.pow_le_pow_right (by decide) htop)
    exact Nat.lt_of_le_of_lt (magnitude_mulSize_mono hdigits (hten (Nat.le_of_lt_succ hlow))) (by decide +kernel)
  · have hall : ∀ k < 17, ((ofNat (min (lastMiddle / 10 ^ (292 + k)) (10 ^ 17))).mulSize
        (ofNat (10 ^ (292 + k)))).magnitude < infiniteMagnitude := by decide +kernel
    obtain ⟨k, rfl⟩ := Nat.exists_eq_add_of_le hhigh
    exact hall k (by omega)

/-- The largest finite double. -/
def largest : Binary64 := ofMagnitude false (infiniteMagnitude - 1)

theorem mulSize_largest :
    ((ofNat (shortest .toEven largest).digits).mulSize
      (ofNat (10 ^ (shortest .toEven largest).exponent.toNat))).magnitude < infiniteMagnitude := by
  decide +kernel

/-- The shortest decimal depends on the magnitude alone. -/
theorem shortest_congr {x y : Binary64} (h : x.magnitude = y.magnitude) (tie : TieRule) :
    shortest tie x = shortest tie y := by
  have hparts : x.parts = y.parts := by
    unfold parts
    rw [h]
  unfold shortest interval
  rw [h, hparts]

/-- The digits and the power of the shortest decimal, rounded apart and multiplied, stay finite. -/
theorem magnitude_mulSize_shortest {x : Binary64} (hx : x.magnitude < infiniteMagnitude) (hzero : x.magnitude ≠ 0)
    (he : 0 ≤ (shortest .toEven x).exponent) :
    ((ofNat (shortest .toEven x).digits).mulSize (ofNat (10 ^ (shortest .toEven x).exponent.toNat))).magnitude <
      infiniteMagnitude := by
  by_cases hlargest : x.magnitude = infiniteMagnitude - 1
  · have hsame : x.magnitude = largest.magnitude := by
      rw [hlargest, largest, magnitude_ofMagnitude false (Nat.sub_le ..)]
    rw [shortest_congr hsame]
    exact mulSize_largest
  · have hrounds := rounds_shortest hx hzero .toEven
    have hdigits := shortest_digits_le hx hzero .toEven
    have hexponent := shortest_exponent_lt hx hzero .toEven
    generalize shortest .toEven x = d at he hrounds hdigits hexponent ⊢
    obtain ⟨e, hde⟩ := Int.eq_ofNat_of_zero_le he
    have hvalue : d.value = (d.digits * 10 ^ e : Nat) := by
      rw [Decimal.value, hde, zpow_natCast]
      push_cast
      rfl
    rw [hvalue] at hrounds
    have hle : d.digits ≤ lastMiddle / 10 ^ e := by
      rw [Nat.le_div_iff_mul_le (Nat.pow_pos (by decide))]
      exact le_lastMiddle hrounds (by omega)
    rw [hde, Int.toNat_natCast]
    have hmin : d.digits ≤ min (lastMiddle / 10 ^ e) (10 ^ 17) := Nat.le_min.mpr ⟨hle, hdigits⟩
    exact Nat.lt_of_le_of_lt (magnitude_mulSize_mono (magnitude_ofNat_mono hmin) (Nat.le_refl _))
      (mulSize_below_lastMiddle (by omega))

end BudgetRules.Binary64
