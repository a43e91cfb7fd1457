import BudgetRules.Binary64.Shortest
import BudgetRules.Proofs.Binary64.Rounding
import Mathlib.Algebra.Order.Field.Power

/-!
# The numbers that round to a double

They are those between the two middles around it, and of a double that is not zero the search for the shortest
decimal asks just that of the points of a grid:

    Rounds r x.magnitude ↔ x.Holds r                                                 (rounds_iff)
    x.interval.holds k c = true ↔ Rounds (c * 10 ^ k) x.magnitude                    (holds_iff)
-/

namespace BudgetRules.Binary64

/-! ## The numbers around a double -/

/-- How far the next larger double is away. -/
def spacing (x : Binary64) : ℚ := (2 : ℚ) ^ x.parts.2

/-- Is the next smaller double only half as far away as the next larger one? -/
def Narrow (x : Binary64) : Prop := x.parts.1 = exponentBit ∧ x.parts.2 ≠ -1074

instance (x : Binary64) : Decidable x.Narrow := inferInstanceAs (Decidable (_ ∧ _))

/-- The middle to the next smaller double. -/
def lowest (x : Binary64) : ℚ := x.value - (if x.Narrow then 1 else 2) * x.spacing / 4

/-- The middle to the next larger double. -/
def highest (x : Binary64) : ℚ := x.value + x.spacing / 2

/-- The numbers between the two middles; a middle belongs to the double with the even pattern. -/
def Holds (x : Binary64) (r : ℚ) : Prop :=
  if x.parts.1 % 2 = 0 then x.lowest ≤ r ∧ r ≤ x.highest else x.lowest < r ∧ r < x.highest

theorem spacing_pos (x : Binary64) : 0 < x.spacing := zpow_pos (by norm_num) _

theorem value_eq_spacing (x : Binary64) : x.value = x.parts.1 * x.spacing := value_eq_parts x

theorem Packed.spacing {x : Binary64} {p n : Nat} (hparts : x.parts = (n, (p : Int) - finest)) :
    x.spacing = 2 ^ p / grains := by
  rw [Binary64.spacing, hparts, zpow_sub₀ (by norm_num), zpow_natCast, zpow_natCast, grains]
  push_cast
  rfl

/-- The next smaller magnitude is one or half a unit of the last place away. -/
theorem Packed.size_pred {m p n : Nat} (h : Packed m p n) (hm : m ≠ 0) :
    if n = exponentBit ∧ p ≠ 0 then 2 * Binary64.size (m - 1) + 2 ^ p = 2 * (n * 2 ^ p)
    else Binary64.size (m - 1) + 2 ^ p = n * 2 ^ p := by
  have hm' := h.eq
  split
  · next hnarrow =>
    obtain ⟨q, rfl⟩ := Nat.exists_eq_succ_of_ne_zero hnarrow.2
    have hpred : m - 1 = q * exponentBit + (2 * exponentBit - 1) := by
      rw [hm', hnarrow.1, Nat.succ_mul, exponentBit_eq]
      omega
    rw [hpred, size_pack (Nat.sub_le ..) (.inr (by decide)), hnarrow.1, Nat.pow_succ, exponentBit_eq]
    ring
  · next hwide =>
    have hpos : 0 < n := by
      rcases h.normal with rfl | hn
      · omega
      · exact Nat.lt_of_lt_of_le (by decide) hn
    have hnormal : p = 0 ∨ exponentBit ≤ n - 1 := by
      have hn := h.normal
      omega
    have hlt := h.lt
    have hpred : m - 1 = p * exponentBit + (n - 1) := by omega
    rw [hpred, size_pack (by omega) hnormal, ← Nat.succ_mul, Nat.succ_eq_add_one, Nat.sub_add_cancel hpos]

theorem size_add_size_succ (x : Binary64) :
    ((size x.magnitude + size (x.magnitude + 1) : Nat) : ℚ) = 2 * x.highest * grains := by
  obtain ⟨p, n, hpacked, hparts⟩ := exists_parts x
  have hg : (grains : ℚ) ≠ 0 := by exact_mod_cast ne_of_gt grains_pos
  rw [highest, value, Packed.spacing hparts, hpacked.size, hpacked.size_succ]
  push_cast
  field_simp
  ring

theorem size_pred_add_size {x : Binary64} (hx : x.magnitude ≠ 0) :
    ((size (x.magnitude - 1) + size (x.magnitude - 1 + 1) : Nat) : ℚ) = 2 * x.lowest * grains := by
  obtain ⟨p, n, hpacked, hparts⟩ := exists_parts x
  have hg : (grains : ℚ) ≠ 0 := by exact_mod_cast ne_of_gt grains_pos
  have hnarrow : x.Narrow ↔ n = exponentBit ∧ p ≠ 0 := by
    rw [Narrow, hparts, finest_eq]
    refine and_congr_right fun _ => ?_
    simp only
    omega
  have hpred := hpacked.size_pred hx
  rw [Nat.sub_add_cancel (Nat.pos_of_ne_zero hx), lowest, value, Packed.spacing hparts, hpacked.size]
  simp only [hnarrow]
  split at hpred
  · next h =>
    have hcast : (2 : ℚ) * size (x.magnitude - 1) + 2 ^ p = 2 * (n * 2 ^ p) := by exact_mod_cast hpred
    rw [if_pos h]
    push_cast
    field_simp
    linarith
  · next h =>
    have hcast : (size (x.magnitude - 1) : ℚ) + 2 ^ p = n * 2 ^ p := by exact_mod_cast hpred
    rw [if_neg h]
    push_cast
    field_simp
    linarith

theorem parity_parts (x : Binary64) : x.magnitude % 2 = x.parts.1 % 2 := by
  obtain ⟨p, n, hpacked, hparts⟩ := exists_parts x
  rw [hparts, hpacked.eq, exponentBit_eq]
  omega

/-- The numbers that are rounded to a double are those between its middles. -/
theorem rounds_iff {x : Binary64} (hx : x.magnitude < infiniteMagnitude) (hzero : x.magnitude ≠ 0) (r : ℚ) :
    Rounds r x.magnitude ↔ x.Holds r := by
  have hg : (0 : ℚ) < grains := by exact_mod_cast grains_pos
  have hodd := parity_parts x
  have habove : Beyond x.magnitude r ↔ x.highest < r ∨ x.highest = r ∧ x.magnitude % 2 = 1 := by
    have hhalve : 2 * (r * grains) = 2 * r * grains := by ring
    rw [Beyond, size_add_size_succ, hhalve, mul_lt_mul_iff_left₀ hg, mul_left_inj' (ne_of_gt hg)]
    refine or_congr ⟨fun h => by linarith, fun h => by linarith⟩ (and_congr_left fun _ => ?_)
    exact ⟨fun h => by linarith, fun h => by linarith⟩
  have hbelow : Beyond (x.magnitude - 1) r ↔ x.lowest < r ∨ x.lowest = r ∧ x.magnitude % 2 = 0 := by
    have hhalve : 2 * (r * grains) = 2 * r * grains := by ring
    have hpred : (x.magnitude - 1) % 2 = 1 ↔ x.magnitude % 2 = 0 := by omega
    rw [Beyond, size_pred_add_size hzero, hhalve, mul_lt_mul_iff_left₀ hg, mul_left_inj' (ne_of_gt hg), hpred]
    refine or_congr ⟨fun h => by linarith, fun h => by linarith⟩ (and_congr_left fun _ => ?_)
    exact ⟨fun h => by linarith, fun h => by linarith⟩
  have hbetween : Rounds r x.magnitude ↔ Beyond (x.magnitude - 1) r ∧ ¬ Beyond x.magnitude r := by
    refine ⟨fun h => ⟨?_, ?_⟩, fun h => rounds_of_between hx (fun _ => h.1) h.2⟩
    · exact (h.lt_iff _ (by omega)).mp (by omega)
    · exact fun hbeyond => Nat.lt_irrefl _ ((h.lt_iff _ hx).mpr hbeyond)
  rw [hbetween, hbelow, habove, Holds, ← hodd]
  split
  · next heven =>
    simp only [heven, Nat.zero_ne_one, and_true, and_false, or_false, not_lt, ← le_iff_lt_or_eq]
  · next hne =>
    have hone : x.magnitude % 2 = 1 := by omega
    simp only [hone, Nat.one_ne_zero, and_true, and_false, or_false, ← le_iff_lt_or_eq, not_le]

/-- What is rounded to a double takes all between with it. -/
theorem Rounds.between {r s t : ℚ} {m : Nat} (hr : Rounds r m) (ht : Rounds t m) (hrs : r ≤ s) (hst : s ≤ t) :
    Rounds s m :=
  ⟨hr.le, fun k hk => ⟨fun h => ((hr.lt_iff k hk).mp h).mono hrs, fun h => (ht.lt_iff k hk).mpr (h.mono hst)⟩⟩

/-! ## The interval in whole numbers -/

theorem interval_scale (x : Binary64) :
    ((1 <<< (x.parts.2 - 2).toNat : Nat) : ℚ) / (1 <<< (2 - x.parts.2).toNat : Nat) = x.spacing / 4 := by
  have hneg : 2 - x.parts.2 = -(x.parts.2 - 2) := by omega
  rw [hneg, shifts_eq, spacing, zpow_sub₀ (by norm_num)]
  norm_num

theorem interval_den_pos (x : Binary64) : 0 < x.interval.den := shift_pos Nat.one_pos _

theorem interval_value (x : Binary64) : (x.interval.value : ℚ) / x.interval.den = x.value := by
  have hscale := interval_scale x
  rw [value_eq_spacing]
  simp only [interval, Nat.cast_mul]
  rw [mul_div_assoc, hscale]
  push_cast
  ring

theorem interval_high (x : Binary64) : (x.interval.high : ℚ) / x.interval.den = x.highest := by
  have hscale := interval_scale x
  rw [highest, value_eq_spacing]
  simp only [interval, Nat.cast_mul]
  rw [mul_div_assoc, hscale]
  push_cast
  ring

theorem parts_pos {x : Binary64} (hzero : x.magnitude ≠ 0) : 0 < x.parts.1 := by
  obtain ⟨p, n, hpacked, hparts⟩ := exists_parts x
  have heq := hpacked.eq
  rw [hparts]
  rcases hpacked.normal with rfl | hn
  · simp only
    omega
  · exact Nat.lt_of_lt_of_le (by decide) hn

theorem interval_low {x : Binary64} (hzero : x.magnitude ≠ 0) :
    (x.interval.low : ℚ) / x.interval.den = x.lowest := by
  have hscale := interval_scale x
  have hpos := parts_pos hzero
  rw [lowest, value_eq_spacing]
  simp only [interval, Nat.cast_mul]
  rw [mul_div_assoc, hscale]
  by_cases hnarrow : x.Narrow
  · have hparts : x.parts.1 = exponentBit ∧ x.parts.2 ≠ -1074 := hnarrow
    rw [if_pos hnarrow, if_pos hparts, Nat.cast_sub (by omega)]
    push_cast
    ring
  · have hparts : ¬(x.parts.1 = exponentBit ∧ x.parts.2 ≠ -1074) := hnarrow
    rw [if_neg hnarrow, if_neg hparts, Nat.cast_sub (by omega)]
    push_cast
    ring

namespace Interval

variable {i : Interval}

/-- A power of ten, as the fraction of two whole ones. -/
theorem ten_zpow (k : Int) : (10 : ℚ) ^ k * 10 ^ (-k).toNat = 10 ^ k.toNat := by
  rcases Int.le_total 0 k with hpos | hneg
  · obtain ⟨n, rfl⟩ := Int.eq_ofNat_of_zero_le hpos
    simp
  · obtain ⟨n, hn⟩ := Int.exists_eq_neg_ofNat hneg
    subst hn
    simp [zpow_neg]

/-- What both numbers of a comparison on a grid are counted in. -/
def unit (i : Interval) (k : Int) : ℚ := i.den * 10 ^ (-k).toNat

theorem unit_pos (hden : 0 < i.den) (k : Int) : 0 < i.unit k := by
  have hcast : (0 : ℚ) < i.den := by exact_mod_cast hden
  exact mul_pos hcast (pow_pos (by norm_num) _)

theorem onGrid_fst (c : Nat) (k : Int) (bound : Nat) :
    ((i.onGrid c k bound).1 : ℚ) = c * (10 : ℚ) ^ k * i.unit k := by
  simp only [onGrid, unit, Nat.pow_eq]
  push_cast
  rw [← ten_zpow k]
  ring

theorem onGrid_snd (hden : 0 < i.den) (c : Nat) (k : Int) (bound : Nat) :
    ((i.onGrid c k bound).2 : ℚ) = bound / i.den * i.unit k := by
  have hcast : (i.den : ℚ) ≠ 0 := by exact_mod_cast ne_of_gt hden
  simp only [onGrid, unit, Nat.pow_eq]
  push_cast
  field_simp

/-- The grid point below the value, in steps of the grid. -/
def below (i : Interval) (k : Int) : Nat := i.value * Nat.pow 10 (-k).toNat / (Nat.pow 10 k.toNat * i.den)

theorem below_le (hden : 0 < i.den) (k : Int) : (i.below k : ℚ) * (10 : ℚ) ^ k ≤ i.value / i.den := by
  have hle : i.below k * (Nat.pow 10 k.toNat * i.den) ≤ i.value * Nat.pow 10 (-k).toNat := Nat.div_mul_le_self _ _
  have hunits : (i.onGrid (i.below k) k i.value).1 ≤ (i.onGrid (i.below k) k i.value).2 := by
    simpa only [onGrid, Nat.mul_assoc] using hle
  have hcast : ((i.onGrid (i.below k) k i.value).1 : ℚ) ≤ (i.onGrid (i.below k) k i.value).2 := by
    exact_mod_cast hunits
  rwa [onGrid_fst, onGrid_snd hden, mul_le_mul_iff_left₀ (unit_pos hden k)] at hcast

theorem lt_below_succ (hden : 0 < i.den) (k : Int) :
    (i.value : ℚ) / i.den < ((i.below k + 1 : Nat) : ℚ) * (10 : ℚ) ^ k := by
  have hpos : 0 < Nat.pow 10 k.toNat * i.den := Nat.mul_pos (Nat.pow_pos (by decide)) hden
  have hlt : i.value * Nat.pow 10 (-k).toNat < (i.below k + 1) * (Nat.pow 10 k.toNat * i.den) := by
    rw [Nat.mul_comm (i.below k + 1)]
    exact Nat.lt_mul_div_succ _ hpos
  have hunits : (i.onGrid (i.below k + 1) k i.value).2 < (i.onGrid (i.below k + 1) k i.value).1 := by
    simpa only [onGrid, Nat.mul_assoc] using hlt
  have hcast : ((i.onGrid (i.below k + 1) k i.value).2 : ℚ) < (i.onGrid (i.below k + 1) k i.value).1 := by
    exact_mod_cast hunits
  rwa [onGrid_fst, onGrid_snd hden, mul_lt_mul_iff_left₀ (unit_pos hden k)] at hcast

theorem onGrid?_eq (tie : TieRule) (k : Int) :
    i.onGrid? tie k =
      match i.holds k (i.below k), i.holds k (i.below k + 1) with
      | true, true => some ⟨if i.nearerBelow tie k (i.below k) then i.below k else i.below k + 1, k⟩
      | true, false => some ⟨i.below k, k⟩
      | false, true => some ⟨i.below k + 1, k⟩
      | false, false => none :=
  rfl

/-- What is found on a grid is one of the value's two neighbours there. -/
theorem eq_of_onGrid? {tie : TieRule} {k : Int} {d : Decimal} (h : i.onGrid? tie k = some d) :
    d.exponent = k ∧ i.holds k d.digits = true ∧ (d.digits = i.below k ∨ d.digits = i.below k + 1) := by
  rw [onGrid?_eq] at h
  cases hfirst : i.holds k (i.below k) <;> cases hnext : i.holds k (i.below k + 1) <;>
    simp only [hfirst, hnext] at h <;> cases h
  · exact ⟨rfl, hnext, .inr rfl⟩
  · exact ⟨rfl, hfirst, .inl rfl⟩
  · refine ⟨rfl, ?_, ?_⟩ <;> simp only <;> split
    · exact hfirst
    · exact hnext
    · exact .inl rfl
    · exact .inr rfl

theorem holds_of_onGrid?_eq_none {tie : TieRule} {k : Int} (h : i.onGrid? tie k = none) :
    i.holds k (i.below k) = false ∧ i.holds k (i.below k + 1) = false := by
  rw [onGrid?_eq] at h
  cases hfirst : i.holds k (i.below k) <;> cases hnext : i.holds k (i.below k + 1) <;>
    simp only [hfirst, hnext] at h <;> cases h
  exact ⟨rfl, rfl⟩

end Interval

/-- The search asks for a grid point that is rounded to the double. -/
theorem holds_iff {x : Binary64} (hx : x.magnitude < infiniteMagnitude) (hzero : x.magnitude ≠ 0) (k : Int) (c : Nat) :
    x.interval.holds k c = true ↔ Rounds (c * (10 : ℚ) ^ k) x.magnitude := by
  have hden := interval_den_pos x
  have hunit := Interval.unit_pos hden k
  have hlow : (x.interval.onGrid c k x.interval.low).2 = x.lowest * x.interval.unit k := by
    rw [Interval.onGrid_snd hden, interval_low hzero]
  have hhigh : (x.interval.onGrid c k x.interval.high).2 = x.highest * x.interval.unit k := by
    rw [Interval.onGrid_snd hden, interval_high]
  have hpoint (bound : Nat) := Interval.onGrid_fst (i := x.interval) c k bound
  rw [rounds_iff hx hzero, Holds]
  unfold Interval.holds
  have hclosed : x.interval.closed = (x.parts.1 % 2 == 0) := rfl
  simp only [hclosed, beq_iff_eq]
  split <;> rw [decide_eq_true_iff]
  · have hle (a b : Nat) : a ≤ b ↔ (a : ℚ) ≤ b := Nat.cast_le.symm
    rw [hle, hle, hpoint, hpoint, hlow, hhigh, mul_le_mul_iff_left₀ hunit, mul_le_mul_iff_left₀ hunit]
  · have hlt (a b : Nat) : a < b ↔ (a : ℚ) < b := Nat.cast_lt.symm
    rw [hlt, hlt, hpoint, hpoint, hlow, hhigh, mul_lt_mul_iff_left₀ hunit, mul_lt_mul_iff_left₀ hunit]

end BudgetRules.Binary64
