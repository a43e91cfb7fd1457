import BudgetRules.Binary64
import Mathlib.Algebra.Order.Field.Basic
import Mathlib.Data.Nat.Log
import Mathlib.Data.Rat.Cast.Order
import Mathlib.Tactic.FieldSimp
import Mathlib.Tactic.Linarith
import Mathlib.Tactic.NormNum
import Mathlib.Tactic.Positivity
import Mathlib.Tactic.Ring

/-!
# Rounding to the nearest double

Every finite double is a whole number of the smallest ones, and `size` counts them along the number line.  A
fraction is rounded beyond a magnitude exactly if it lies beyond the middle between that magnitude and the next,
or on it where the magnitude is odd:

    k < nearestMagnitude num den ↔ Beyond k (num / den)                    (lt_nearestMagnitude_iff)

All else about rounding follows: it keeps the order of fractions, a fraction that is a double is that double, and
one that lies between the two middles around a double is rounded to it.
-/

namespace BudgetRules.Binary64

/-! ## Magnitudes -/

theorem magnitude_ofMagnitude (neg : Bool) {m : Nat} (h : m ≤ infiniteMagnitude) :
    (ofMagnitude neg m).magnitude = m := by
  unfold infiniteMagnitude exponentBit at h
  unfold magnitude ofMagnitude signBit
  rw [UInt64.toNat_ofNat']
  cases neg
  · simp only [Bool.false_eq_true, if_false]
    omega
  · simp only [if_true]
    omega

theorem nearestMagnitude_le (num den : Nat) : nearestMagnitude num den ≤ infiniteMagnitude := by
  unfold nearestMagnitude
  split
  · exact Nat.zero_le _
  · exact Nat.min_le_right _ _

theorem exponentBit_eq : exponentBit = 4503599627370496 := rfl

theorem exponentBit_eq_pow : exponentBit = 2 ^ 52 := rfl

theorem infiniteMagnitude_eq : infiniteMagnitude = 2047 * exponentBit := rfl

/-- The power of two that the smallest double is below one. -/
def finest : Nat := 1074

theorem finest_eq : finest = 1074 := rfl

/-- How many of the smallest doubles make up one. -/
def grains : Nat := 2 ^ finest

theorem grains_pos : 0 < grains := by
  unfold grains
  positivity

/-- How many of the smallest doubles make up the double of a magnitude. -/
def size (m : Nat) : Nat := (m - (m / exponentBit - 1) * exponentBit) * 2 ^ (m / exponentBit - 1)

/-- A magnitude as the power and the whole number it is packed from. -/
structure Packed (m p n : Nat) : Prop where
  eq : m = p * exponentBit + n
  lt : n < 2 * exponentBit
  normal : p = 0 ∨ exponentBit ≤ n

theorem exists_packed (m : Nat) : ∃ p n, Packed m p n := by
  refine ⟨m / exponentBit - 1, m - (m / exponentBit - 1) * exponentBit, ?_, ?_, ?_⟩ <;>
    unfold exponentBit <;> omega

/-- The size of what is packed, also where the whole number overflows to the next power. -/
theorem size_pack {p n : Nat} (hn : n ≤ 2 * exponentBit) (hp : p = 0 ∨ exponentBit ≤ n) :
    size (p * exponentBit + n) = n * 2 ^ p := by
  unfold size
  simp only [exponentBit_eq] at hn hp ⊢
  by_cases hover : n = 2 * 4503599627370496
  · have hfield : (p * 4503599627370496 + n) / 4503599627370496 = p + 2 := by omega
    have hrest : p * 4503599627370496 + n - (p + 2 - 1) * 4503599627370496 = 4503599627370496 := by omega
    rw [hfield, hrest, hover, Nat.add_sub_assoc (by decide : 1 ≤ 2), Nat.pow_succ]
    ring
  by_cases hlow : n < 4503599627370496
  · have hzero : p = 0 := by omega
    have hfield : (p * 4503599627370496 + n) / 4503599627370496 = 0 := by omega
    rw [hfield, hzero]
    simp
  · have hfield : (p * 4503599627370496 + n) / 4503599627370496 = p + 1 := by omega
    have hrest : p * 4503599627370496 + n - (p + 1 - 1) * 4503599627370496 = n := by omega
    rw [hfield, hrest, Nat.add_sub_cancel]

theorem Packed.size {m p n : Nat} (h : Packed m p n) : size m = n * 2 ^ p := by
  rw [h.eq, size_pack (Nat.le_of_lt h.lt) h.normal]

/-- The next magnitude is one unit of the last place away. -/
theorem Packed.size_succ {m p n : Nat} (h : Packed m p n) : Binary64.size (m + 1) = (n + 1) * 2 ^ p := by
  have hnormal : p = 0 ∨ exponentBit ≤ n + 1 := h.normal.imp_right fun hn => by omega
  rw [h.eq, Nat.add_assoc, size_pack h.lt hnormal]

theorem size_lt_succ (m : Nat) : size m < size (m + 1) := by
  obtain ⟨p, n, h⟩ := exists_packed m
  rw [h.size, h.size_succ]
  exact Nat.mul_lt_mul_of_pos_right (Nat.lt_succ_self n) (Nat.two_pow_pos p)

theorem size_strictMono : StrictMono size := strictMono_nat_of_lt_succ size_lt_succ

theorem size_zero : size 0 = 0 := by simp [size]

/-! ## Whole numbers -/

/-- A quotient is rounded beyond a whole number if it lies beyond the middle to the next one, or on it where
the number is odd. -/
theorem lt_divNearestEven_iff {a b k : Nat} (hb : 0 < b) :
    k < divNearestEven a b ↔ (2 * k + 1) * b < 2 * a ∨ (2 * k + 1) * b = 2 * a ∧ k % 2 = 1 := by
  have hdiv : b * (a / b) + a % b = a := Nat.div_add_mod a b
  have hmod : a % b < b := Nat.mod_lt a hb
  unfold divNearestEven
  simp only
  generalize a / b = q at *
  generalize a % b = r at *
  -- whole quotients apart, the middle decides
  rcases Nat.lt_trichotomy k q with hlt | rfl | hgt
  · have hmul : b * (k + 1) ≤ b * q := Nat.mul_le_mul_left b hlt
    have hexpand : (2 * k + 1) * b = 2 * (b * k) + b := by ring
    have hsucc : b * (k + 1) = b * k + b := by ring
    have hbeyond : (2 * k + 1) * b < 2 * a := by omega
    simp only [hbeyond, true_or, iff_true]
    split <;> omega
  · have hexpand : (2 * k + 1) * b = 2 * (b * k) + b := by ring
    rw [hexpand]
    split <;> omega
  · have hmul : b * (q + 1) ≤ b * k := Nat.mul_le_mul_left b hgt
    have hexpand : (2 * k + 1) * b = 2 * (b * k) + b := by ring
    have hsucc : b * (q + 1) = b * q + b := by ring
    rw [hexpand]
    split <;> omega

theorem divNearestEven_congr {a b a' b' : Nat} (hb : 0 < b) (hb' : 0 < b') (h : a * b' = a' * b) :
    divNearestEven a b = divNearestEven a' b' := by
  refine eq_of_forall_lt_iff fun k => ?_
  rw [lt_divNearestEven_iff hb, lt_divNearestEven_iff hb']
  have hleft : (2 * k + 1) * b * b' = (2 * k + 1) * b' * b := by ring
  have hright : 2 * a * b' = 2 * a' * b := by rw [Nat.mul_assoc, h, Nat.mul_assoc]
  have hlt : (2 * k + 1) * b < 2 * a ↔ (2 * k + 1) * b' < 2 * a' := by
    rw [← Nat.mul_lt_mul_right hb', hleft, hright, Nat.mul_lt_mul_right hb]
  have heq : (2 * k + 1) * b = 2 * a ↔ (2 * k + 1) * b' = 2 * a' := by
    rw [← Nat.mul_left_inj (Nat.ne_of_gt hb'), hleft, hright, Nat.mul_left_inj (Nat.ne_of_gt hb)]
  rw [hlt, heq]

/-! ## The power of a fraction -/

/-- The power of two at which a fraction is rounded. -/
def power (num den : Nat) : Int :=
  let low : Int := max ((num.log2 : Int) - den.log2 - 53) (-1074)
  let atLow := scaled num den low
  if 2 * exponentBit * atLow.2 ≤ atLow.1 then low + 1 else low

theorem nearestMagnitude_eq {num : Nat} (hnum : num ≠ 0) (den : Nat) :
    nearestMagnitude num den =
      min ((power num den + 1074).toNat * exponentBit +
        divNearestEven (scaled num den (power num den)).1 (scaled num den (power num den)).2)
        infiniteMagnitude :=
  if_neg hnum

/-- A scaled fraction, in the smallest doubles. -/
theorem scaled_mul (num den p : Nat) :
    (scaled num den ((p : Int) - finest)).1 * (den * 2 ^ p) =
      num * grains * (scaled num den ((p : Int) - finest)).2 := by
  have hshift : (-((p : Int) - finest)).toNat + p = finest + ((p : Int) - finest).toNat := by omega
  unfold scaled grains
  simp only [Nat.shiftLeft_eq]
  calc num * 2 ^ (-((p : Int) - finest)).toNat * (den * 2 ^ p)
      = num * den * 2 ^ ((-((p : Int) - finest)).toNat + p) := by rw [Nat.pow_add]; ring
    _ = num * den * 2 ^ (finest + ((p : Int) - finest).toNat) := by rw [hshift]
    _ = num * 2 ^ finest * (den * 2 ^ ((p : Int) - finest).toNat) := by rw [Nat.pow_add]; ring

theorem scaled_pos (num : Nat) {den : Nat} (hden : 0 < den) (e : Int) : 0 < (scaled num den e).2 := by
  unfold scaled
  simp only [Nat.shiftLeft_eq]
  positivity

/-- A number of the smallest doubles fills the whole numbers of a power. -/
structure Fills (a den p : Nat) : Prop where
  lt : a < 2 * exponentBit * (den * 2 ^ p)
  normal : p = 0 ∨ exponentBit * (den * 2 ^ p) ≤ a

theorem exists_power {num den : Nat} (hnum : num ≠ 0) (hden : 0 < den) :
    ∃ p : Nat, power num den = (p : Int) - finest ∧ Fills (num * grains) den p := by
  have hn := Nat.log2_self_le hnum
  have hn' := Nat.lt_log2_self (n := num)
  have hd := Nat.log2_self_le (Nat.ne_of_gt hden)
  have hd' := Nat.lt_log2_self (n := den)
  generalize hln : num.log2 = ln at *
  generalize hld : den.log2 = ld at *
  obtain ⟨t, ht⟩ : ∃ t : Nat, max ((ln : Int) - ld - 53) (-1074) = (t : Int) - finest :=
    ⟨(max ((ln : Int) - ld - 53) (-1074) + 1074).toNat, by rw [finest_eq]; omega⟩
  have htle : ln + 1 + finest ≤ 54 + ld + t := by rw [finest_eq] at ht ⊢; omega
  -- the first guess is right or one too low
  have hupper : num * grains < 2 * (2 * exponentBit * (den * 2 ^ t)) := by
    calc num * grains < 2 ^ (ln + 1) * 2 ^ finest := Nat.mul_lt_mul_of_pos_right hn' grains_pos
      _ = 2 ^ (ln + 1 + finest) := (Nat.pow_add ..).symm
      _ ≤ 2 ^ (54 + ld + t) := Nat.pow_le_pow_right (by decide) htle
      _ = 2 * (2 * exponentBit * (2 ^ ld * 2 ^ t)) := by rw [Nat.pow_add, Nat.pow_add, exponentBit_eq_pow]; ring
      _ ≤ 2 * (2 * exponentBit * (den * 2 ^ t)) := by gcongr
  have hlower : t = 0 ∨ exponentBit * (den * 2 ^ t) ≤ num * grains := by
    refine (Nat.eq_zero_or_pos t).imp_right fun hpos => ?_
    have htge : 52 + (ld + 1) + t ≤ ln + finest := by rw [finest_eq] at ht ⊢; omega
    calc exponentBit * (den * 2 ^ t) ≤ exponentBit * (2 ^ (ld + 1) * 2 ^ t) := by gcongr
      _ = 2 ^ (52 + (ld + 1) + t) := by rw [Nat.pow_add, Nat.pow_add, exponentBit_eq_pow]; ring
      _ ≤ 2 ^ (ln + finest) := Nat.pow_le_pow_right (by decide) htge
      _ = 2 ^ ln * grains := Nat.pow_add ..
      _ ≤ num * grains := Nat.mul_le_mul_right _ hn
  have hguess : 2 * exponentBit * (scaled num den ((t : Int) - finest)).2 ≤ (scaled num den ((t : Int) - finest)).1 ↔
      2 * exponentBit * (den * 2 ^ t) ≤ num * grains := by
    have hb := scaled_pos num hden ((t : Int) - finest)
    have hX : 0 < den * 2 ^ t := by positivity
    rw [← Nat.mul_le_mul_right_iff hX, scaled_mul, Nat.mul_right_comm, Nat.mul_le_mul_right_iff hb]
  unfold power
  simp only [hln, hld, ht, hguess]
  split
  · next hle =>
    refine ⟨t + 1, by omega, ?_, .inr ?_⟩
    · rw [Nat.pow_succ]
      linarith
    · rw [Nat.pow_succ]
      linarith
  · next hlt => exact ⟨t, rfl, Nat.lt_of_not_le hlt, hlower⟩

/-! ## Fractions -/

/-- Is a fraction rounded to something beyond a magnitude? -/
def Beyond (k : Nat) (r : ℚ) : Prop :=
  ((size k + size (k + 1) : Nat) : ℚ) < 2 * (r * grains) ∨
    ((size k + size (k + 1) : Nat) : ℚ) = 2 * (r * grains) ∧ k % 2 = 1

theorem Beyond.mono {k : Nat} {r s : ℚ} (h : r ≤ s) (hr : Beyond k r) : Beyond k s := by
  have hg : (0 : ℚ) < grains := by exact_mod_cast grains_pos
  have hle : r * grains ≤ s * grains := mul_le_mul_of_nonneg_right h hg.le
  rcases hr with hr | ⟨hr, hodd⟩
  · exact .inl (by linarith)
  · rcases eq_or_lt_of_le hle with heq | hlt
    · exact .inr ⟨by rw [hr, heq], hodd⟩
    · exact .inl (by linarith)

theorem beyond_iff {num den : Nat} (hden : 0 < den) (k : Nat) :
    Beyond k ((num : ℚ) / den) ↔
      (size k + size (k + 1)) * den < 2 * (num * grains) ∨
        (size k + size (k + 1)) * den = 2 * (num * grains) ∧ k % 2 = 1 := by
  have hd : (0 : ℚ) < den := by exact_mod_cast hden
  have hscale : 2 * ((num : ℚ) / den * grains) = 2 * (num * grains) / den := by ring
  unfold Beyond
  rw [hscale, lt_div_iff₀ hd, eq_div_iff (ne_of_gt hd)]
  norm_cast

/-- The rounded magnitude, with the fraction in the smallest doubles. -/
theorem nearestMagnitude_of_fills {num den p : Nat} (hnum : num ≠ 0) (hden : 0 < den)
    (hp : power num den = (p : Int) - finest) :
    nearestMagnitude num den =
      min (p * exponentBit + divNearestEven (num * grains) (den * 2 ^ p)) infiniteMagnitude := by
  have hplace : ((p : Int) - finest + 1074).toNat = p := by rw [finest_eq]; omega
  have hround := divNearestEven_congr (scaled_pos num hden _) (by positivity : 0 < den * 2 ^ p)
    (scaled_mul num den p)
  rw [nearestMagnitude_eq hnum, hp, hplace, hround]

/-- A whole number of the power at which a fraction is rounded is packed without a gap. -/
theorem Fills.rounded {a den p : Nat} (h : Fills a den p) (hden : 0 < den) :
    divNearestEven a (den * 2 ^ p) ≤ 2 * exponentBit ∧
      (p = 0 ∨ exponentBit ≤ divNearestEven a (den * 2 ^ p)) := by
  have hX : 0 < den * 2 ^ p := by positivity
  have hlt := h.lt
  have hnormal := h.normal
  generalize den * 2 ^ p = unit at hX hlt hnormal ⊢
  constructor
  · by_contra hgt
    rw [not_le, lt_divNearestEven_iff hX] at hgt
    have hmiddle : (2 * (2 * exponentBit) + 1) * unit = 2 * (2 * exponentBit * unit) + unit := by ring
    rw [hmiddle] at hgt
    generalize 2 * exponentBit * unit = bound at hgt hlt
    omega
  · refine hnormal.imp_right fun hle => ?_
    simp only [exponentBit_eq] at hle ⊢
    refine (lt_divNearestEven_iff (k := 4503599627370495) hX).mpr (.inl ?_)
    omega

/-- What a power fills is rounded beyond a magnitude exactly if it lies beyond the middle to the next one. -/
theorem Fills.lt_rounded_iff {a den p k q n : Nat} (h : Fills a den p) (hden : 0 < den) (hk : Packed k q n) :
    k < p * exponentBit + divNearestEven a (den * 2 ^ p) ↔
      (2 * n + 1) * (den * 2 ^ q) < 2 * a ∨ (2 * n + 1) * (den * 2 ^ q) = 2 * a ∧ k % 2 = 1 := by
  have hX : 0 < den * 2 ^ p := Nat.mul_pos hden (Nat.two_pow_pos p)
  obtain ⟨hround, hroundNormal⟩ := h.rounded hden
  have hn := hk.lt
  -- the power of the magnitude is the fraction's own, or the two are apart
  rcases Nat.lt_trichotomy q p with hlow | rfl | hhigh
  · have hdouble : den * 2 ^ q * 2 ≤ den * 2 ^ p := by
      rw [Nat.mul_assoc, ← Nat.pow_succ]
      exact Nat.mul_le_mul_left den (Nat.pow_le_pow_right (by decide) hlow)
    have hbelow : exponentBit * (den * 2 ^ p) ≤ a := h.normal.resolve_left (by omega)
    have hpos : 0 < den * 2 ^ q := Nat.mul_pos hden (Nat.two_pow_pos q)
    have hright : (2 * n + 1) * (den * 2 ^ q) < 2 * a := by
      calc (2 * n + 1) * (den * 2 ^ q) < 4 * exponentBit * (den * 2 ^ q) :=
            Nat.mul_lt_mul_of_pos_right (by omega) hpos
        _ = 2 * (exponentBit * (den * 2 ^ q * 2)) := by ring
        _ ≤ 2 * (exponentBit * (den * 2 ^ p)) := by gcongr
        _ ≤ 2 * a := Nat.mul_le_mul_left 2 hbelow
    have hleft : k < p * exponentBit + divNearestEven a (den * 2 ^ p) := by
      have hnormal := hroundNormal.resolve_left (by omega)
      have hstep : (q + 1) * exponentBit ≤ p * exponentBit := Nat.mul_le_mul_right _ hlow
      rw [Nat.succ_mul] at hstep
      rw [hk.eq]
      omega
    exact iff_of_true hleft (.inl hright)
  · have hparity : k % 2 = n % 2 := by
      rw [hk.eq, exponentBit_eq]
      omega
    rw [hk.eq, Nat.add_lt_add_iff_left, lt_divNearestEven_iff hX, ← hk.eq, hparity]
  · have hnormal : exponentBit ≤ n := hk.normal.resolve_left (by omega)
    have hdouble : den * 2 ^ p * 2 ≤ den * 2 ^ q := by
      rw [Nat.mul_assoc, ← Nat.pow_succ]
      exact Nat.mul_le_mul_left den (Nat.pow_le_pow_right (by decide) hhigh)
    have hright : 2 * a < (2 * n + 1) * (den * 2 ^ q) := by
      calc 2 * a < 2 * (2 * exponentBit * (den * 2 ^ p)) := Nat.mul_lt_mul_of_pos_left h.lt (by decide)
        _ = 2 * exponentBit * (den * 2 ^ p * 2) := by ring
        _ ≤ (2 * n + 1) * (den * 2 ^ q) := Nat.mul_le_mul (by omega) hdouble
    have hleft : p * exponentBit + divNearestEven a (den * 2 ^ p) ≤ k := by
      have hstep : (p + 1) * exponentBit ≤ q * exponentBit := Nat.mul_le_mul_right _ hhigh
      rw [Nat.succ_mul] at hstep
      rw [hk.eq]
      omega
    refine iff_of_false (Nat.not_lt.mpr hleft) ?_
    rintro (hlt | ⟨heq, -⟩) <;> omega

/-- A fraction is rounded beyond a magnitude exactly if it lies beyond the middle to the next one, or on it
where the magnitude is odd. -/
theorem lt_nearestMagnitude_iff {num den k : Nat} (hden : 0 < den) (hk : k < infiniteMagnitude) :
    k < nearestMagnitude num den ↔ Beyond k ((num : ℚ) / den) := by
  rw [beyond_iff hden]
  by_cases hnum : num = 0
  · have hzero : nearestMagnitude num den = 0 := if_pos hnum
    have hpos : 0 < (size k + size (k + 1)) * den :=
      Nat.mul_pos (Nat.add_pos_right _ (Nat.lt_of_le_of_lt (Nat.zero_le _) (size_lt_succ k))) hden
    rw [hzero, hnum]
    omega
  obtain ⟨p, hp, hfills⟩ := exists_power hnum hden
  obtain ⟨q, n, hpacked⟩ := exists_packed k
  have hmiddle : (n * 2 ^ q + (n + 1) * 2 ^ q) * den = (2 * n + 1) * (den * 2 ^ q) := by ring
  rw [nearestMagnitude_of_fills hnum hden hp, lt_min_iff, hpacked.size, hpacked.size_succ, hmiddle,
    and_iff_left hk, hfills.lt_rounded_iff hden hpacked]

theorem Beyond.anti {j k : Nat} {r : ℚ} (h : j ≤ k) (hk : Beyond k r) : Beyond j r := by
  rcases Nat.eq_or_lt_of_le h with rfl | hlt
  · exact hk
  have hfirst : size j < size k := size_strictMono hlt
  have hnext : size (j + 1) < size (k + 1) := size_strictMono (Nat.succ_lt_succ hlt)
  have hsum : ((size j + size (j + 1) : Nat) : ℚ) < ((size k + size (k + 1) : Nat) : ℚ) := by
    exact_mod_cast Nat.add_lt_add hfirst hnext
  rcases hk with hk | ⟨hk, -⟩
  · exact .inl (hsum.trans hk)
  · exact .inl (hsum.trans_eq hk)

/-! ## What a number is rounded to -/

/-- A number is rounded to a magnitude. -/
structure Rounds (r : ℚ) (m : Nat) : Prop where
  le : m ≤ infiniteMagnitude
  lt_iff : ∀ k < infiniteMagnitude, (k < m ↔ Beyond k r)

theorem rounds_nearestMagnitude (num : Nat) {den : Nat} (hden : 0 < den) :
    Rounds ((num : ℚ) / den) (nearestMagnitude num den) :=
  ⟨nearestMagnitude_le num den, fun _ hk => lt_nearestMagnitude_iff hden hk⟩

theorem Rounds.mono {r s : ℚ} {m n : Nat} (hr : Rounds r m) (hs : Rounds s n) (h : r ≤ s) : m ≤ n := by
  by_contra hlt
  have hn : n < infiniteMagnitude := Nat.lt_of_lt_of_le (Nat.lt_of_not_le hlt) hr.le
  have hbeyond : Beyond n r := (hr.lt_iff n hn).mp (Nat.lt_of_not_le hlt)
  exact Nat.lt_irrefl n ((hs.lt_iff n hn).mpr (hbeyond.mono h))

theorem Rounds.unique {r : ℚ} {m n : Nat} (hm : Rounds r m) (hn : Rounds r n) : m = n :=
  Nat.le_antisymm (hm.mono hn le_rfl) (hn.mono hm le_rfl)

/-- A finite magnitude is what the numbers between its two middles are rounded to. -/
theorem rounds_of_between {m : Nat} {r : ℚ} (hm : m < infiniteMagnitude) (hlow : m ≠ 0 → Beyond (m - 1) r)
    (hhigh : ¬ Beyond m r) : Rounds r m := by
  refine ⟨Nat.le_of_lt hm, fun k _ => ⟨fun hlt => ?_, fun hbeyond => ?_⟩⟩
  · exact (hlow (by omega)).anti (by omega)
  · by_contra hle
    exact hhigh (hbeyond.anti (Nat.le_of_not_lt hle))

/-! ## The number a double stands for -/

/-- The size of a finite double as a number. -/
def value (x : Binary64) : ℚ := size x.magnitude / grains

theorem value_nonneg (x : Binary64) : 0 ≤ x.value := by
  unfold value
  positivity

/-- A finite double is what its own value is rounded to. -/
theorem rounds_value {x : Binary64} (hx : x.magnitude < infiniteMagnitude) : Rounds x.value x.magnitude := by
  have hg : (0 : ℚ) < grains := by exact_mod_cast grains_pos
  have hscale : x.value * grains = size x.magnitude := div_mul_cancel₀ _ (ne_of_gt hg)
  refine rounds_of_between hx (fun hzero => .inl ?_) ?_
  · have hbelow : size (x.magnitude - 1) < size x.magnitude := size_strictMono (by omega)
    rw [hscale, Nat.sub_add_cancel (Nat.pos_of_ne_zero hzero)]
    exact_mod_cast (by omega : size (x.magnitude - 1) + size x.magnitude < 2 * size x.magnitude)
  · have habove := size_lt_succ x.magnitude
    have hnot : ¬ 2 * (x.value * grains) ≥ ((size x.magnitude + size (x.magnitude + 1) : Nat) : ℚ) := by
      rw [hscale, ge_iff_le, not_le]
      exact_mod_cast (by omega : 2 * size x.magnitude < size x.magnitude + size (x.magnitude + 1))
    rintro (hlt | ⟨heq, -⟩)
    · exact hnot hlt.le
    · exact hnot heq.le

/-- The parts of a double are its magnitude unpacked. -/
theorem exists_parts (x : Binary64) :
    ∃ p n, Packed x.magnitude p n ∧ x.parts = (n, (p : Int) - finest) := by
  unfold parts
  rw [finest_eq]
  by_cases hfield : x.magnitude / exponentBit = 0
  · refine ⟨0, x.magnitude % exponentBit, ⟨?_, ?_, .inl rfl⟩, by simp [hfield]⟩
    · unfold exponentBit at *
      omega
    · unfold exponentBit
      omega
  · refine ⟨x.magnitude / exponentBit - 1, exponentBit + x.magnitude % exponentBit, ⟨?_, ?_, .inr ?_⟩, ?_⟩
    · unfold exponentBit at *
      omega
    · unfold exponentBit
      omega
    · omega
    · generalize x.magnitude / exponentBit = field at hfield ⊢
      simp only [hfield, if_false, Prod.mk.injEq, true_and]
      omega

theorem value_eq_parts (x : Binary64) : x.value = x.parts.1 * (2 : ℚ) ^ x.parts.2 := by
  obtain ⟨p, n, hpacked, hparts⟩ := exists_parts x
  rw [value, hparts, hpacked.size, zpow_sub₀ (by norm_num), zpow_natCast, zpow_natCast, grains]
  push_cast
  ring

/-- A power of two, as the fraction of two shifts. -/
theorem shifts_eq (a b : Nat) (e : Int) :
    ((a <<< e.toNat : Nat) : ℚ) / (b <<< (-e).toNat : Nat) = a / b * (2 : ℚ) ^ e := by
  simp only [Nat.shiftLeft_eq, Nat.cast_mul, Nat.cast_pow, Nat.cast_ofNat]
  rcases Int.le_total 0 e with hpos | hneg
  · obtain ⟨n, rfl⟩ := Int.eq_ofNat_of_zero_le hpos
    simp only [Int.toNat_natCast, Int.toNat_neg_natCast, pow_zero, zpow_natCast]
    ring
  · obtain ⟨n, hn⟩ := Int.exists_eq_neg_ofNat hneg
    subst hn
    simp only [neg_neg, Int.toNat_natCast, Int.toNat_neg_natCast, pow_zero, zpow_neg, zpow_natCast]
    field_simp

theorem magnitude_nearest (neg : Bool) (num den : Nat) :
    (nearest neg num den).magnitude = nearestMagnitude num den :=
  magnitude_ofMagnitude neg (nearestMagnitude_le num den)

theorem rounds_nearest (neg : Bool) (num : Nat) {den : Nat} (hden : 0 < den) :
    Rounds ((num : ℚ) / den) (nearest neg num den).magnitude := by
  rw [magnitude_nearest]
  exact rounds_nearestMagnitude num hden

theorem rounds_ofNat (n : Nat) : Rounds n (ofNat n).magnitude := by
  have h := rounds_nearest false n Nat.one_pos
  rwa [Nat.cast_one, div_one] at h

theorem shift_pos {a : Nat} (ha : 0 < a) (n : Nat) : 0 < a <<< n := by
  rw [Nat.shiftLeft_eq]
  exact Nat.mul_pos ha (Nat.two_pow_pos n)

/-- A product is rounded once. -/
theorem rounds_mulSize (x y : Binary64) : Rounds (x.value * y.value) (x.mulSize y).magnitude := by
  have hround := rounds_nearest x.negative ((x.parts.1 * y.parts.1) <<< (x.parts.2 + y.parts.2).toNat)
    (shift_pos Nat.one_pos (-(x.parts.2 + y.parts.2)).toNat)
  have hproduct : x.value * y.value =
      ((x.parts.1 * y.parts.1 : Nat) : ℚ) / (1 : Nat) * (2 : ℚ) ^ (x.parts.2 + y.parts.2) := by
    rw [value_eq_parts x, value_eq_parts y, zpow_add₀ (by norm_num)]
    push_cast
    ring
  rw [shifts_eq, ← hproduct] at hround
  exact hround

/-- A quotient is rounded once. -/
theorem rounds_divSize (x : Binary64) {y : Binary64} (hy : 0 < y.value) :
    Rounds (x.value / y.value) (x.divSize y).magnitude := by
  have hdivisor : 0 < y.parts.1 := by
    rw [value_eq_parts, mul_pos_iff_of_pos_right (zpow_pos (by norm_num) _)] at hy
    exact_mod_cast hy
  have hround := rounds_nearest x.negative (x.parts.1 <<< (x.parts.2 - y.parts.2).toNat)
    (shift_pos hdivisor (-(x.parts.2 - y.parts.2)).toNat)
  have hquotient : x.value / y.value = (x.parts.1 : ℚ) / y.parts.1 * (2 : ℚ) ^ (x.parts.2 - y.parts.2) := by
    rw [value_eq_parts x, value_eq_parts y, zpow_sub₀ (by norm_num)]
    field_simp
  rw [shifts_eq, ← hquotient] at hround
  exact hround

end BudgetRules.Binary64
