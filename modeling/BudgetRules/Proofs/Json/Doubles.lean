import BudgetRules.Proofs.Binary64.Exact
import BudgetRules.Proofs.Json.Text

/-!
# Doubles are read back

A double is written with the digits of its shortest decimal, in one of four layouts.  Whatever the layout, the
reader gets a whole number and a power of ten back, and makes a double of them in two roundings:

    Numeral.Reads neg (decimalChars d) d.written.1 d.written.2                       (Numeral.reads_decimalChars)
    x.isFinite → (Number.double x).tree = .num (.ok (.double x.reread))              (Number.tree_double)

The roundings lose nothing if the whole number is a double and the power is no larger than twenty-two:

    x.Steady → x.reread = x                                                          (Binary64.reread_of_steady)
-/

namespace BudgetRules.Json

open Binary64 (digitsOf)

namespace Numeral

/-! ## Scanning -/

theorem scanFraction_point (n : Numeral) {ps r : List Char} (hps : ∀ c ∈ ps, c.isDigit = true) (hne : ps ≠ [])
    (hr : ∀ c ∈ r.head?, c.isDigit = false) :
    scanFraction n ('.' :: (ps ++ r)) = scanExponent { n with part := ps } r := by
  unfold scanFraction
  simp only [spanDigits_append hps hr]

theorem scanExponent_digits (n : Numeral) (down : Bool) (es : List Char) {r : List Char}
    (hes : ∀ c ∈ es, c.isDigit = true) (hne : es ≠ []) (hr : ∀ c ∈ r.head?, c.isDigit = false) :
    scanExponent n ('e' :: (if down then '-' else '+') :: (es ++ r)) =
      .ok ({ n with exponent := some (down, es) }, r) := by
  unfold scanExponent
  cases down with
  | true => simp only [true_or, if_true, spanDigits_append hes hr]
  | false => simp only [true_or, if_true, Bool.false_eq_true, if_false, spanDigits_append hes hr]

/-! ## Value -/

/-- The double of a numeral whose digits, all together, fit 64 bits. -/
theorem value_of_fits {n : Numeral} (hdouble : ¬(n.part = [] ∧ n.exponent = none))
    (h : Nat.ofDigitChars 10 (n.whole ++ n.part) 0 ≤ wordMax) :
    n.value = (withExponent n.negative (Nat.ofDigitChars 10 (n.whole ++ n.part) 0) (-(n.part.length : Int))
      n.exponent).map .double := by
  rw [Nat.ofDigitChars_append] at h ⊢
  have hwhole : Nat.ofDigitChars 10 n.whole 0 ≤ wordMax := by
    refine le_trans ?_ h
    rw [Nat.ofDigitChars_eq_ofDigitChars_zero (l := n.part)]
    have hpos : 1 ≤ 10 ^ n.part.length := Nat.pow_pos (by decide)
    have hmul := Nat.mul_le_mul_right (Nat.ofDigitChars 10 n.whole 0) hpos
    omega
  unfold value
  rw [accumulate_eq hwhole]
  simp only [if_neg hdouble, accumulate_eq h, List.length_nil, Nat.sub_zero, Nat.cast_zero, zero_sub]

/-- Characters that are read as a whole number times a power of ten, whatever follows. -/
def Reads (neg : Bool) (cs : List Char) (s : Nat) (e : Int) : Prop :=
  ∀ r, EndsNumber r → ∃ n, scan neg (cs ++ r) = .ok (n, r) ∧ n.value = (ofParts neg s e).map .double

/-- What is read as a number begins with a digit. -/
theorem Reads.exists_digit {neg : Bool} {cs : List Char} {s : Nat} {e : Int} (h : Reads neg cs s e) :
    ∃ c r, cs = c :: r ∧ c.isDigit = true := by
  obtain ⟨n, hscan, -⟩ := h [] endsNumber_nil
  rw [List.append_nil] at hscan
  unfold scan Binary64.spanDigits at hscan
  cases cs with
  | nil => cases hscan
  | cons c r =>
    refine ⟨c, r, rfl, ?_⟩
    by_contra hc
    rw [List.span_eq_takeWhile_dropWhile, List.takeWhile_cons_of_neg hc] at hscan
    cases hscan

/-- Digits with a point among them. -/
theorem reads_point (neg : Bool) {ds : List Char} (hds : WholeDigits ds) (ps : List Char)
    (hps : ∀ c ∈ ps, c.isDigit = true) (hne : ps ≠ []) (hfit : Nat.ofDigitChars 10 (ds ++ ps) 0 ≤ wordMax) :
    Reads neg (ds ++ '.' :: ps) (Nat.ofDigitChars 10 (ds ++ ps) 0) (-(ps.length : Int)) := by
  intro r hr
  refine ⟨⟨neg, ds, ps, none⟩, ?_, ?_⟩
  · rw [List.append_assoc, List.cons_append,
      scan_whole neg hds fun c hc => by cases hc; decide,
      scanFraction_point _ hps hne fun c hc => (hr c hc).1]
    exact scanExponent_of_endsNumber _ hr
  · exact value_of_fits (fun hno => hne hno.1) hfit

/-- The exponent of a numeral is added to the places after its point. -/
theorem withExponent_digitsOf (neg : Bool) (s : Nat) (e power : Int) (hpower : power.natAbs ≤ exponentMax) :
    withExponent neg s e (some (decide (power < 0), digitsOf power.natAbs)) = ofParts neg s (e + power) := by
  have hvalue : Binary64.digitsValue 0 (digitsOf power.natAbs) = power.natAbs := Nat.ofDigitChars_ten_toDigits
  unfold withExponent
  simp only [hvalue, if_neg (Nat.not_lt.mpr hpower), decide_eq_true_eq]
  congr 1
  split <;> omega

/-- One digit before the point, if there is one, and an exponent. -/
theorem reads_exponent (neg : Bool) {c : Char} {ps : List Char} (hc : c.isDigit = true) (hlead : c ≠ '0')
    (hps : ∀ c ∈ ps, c.isDigit = true) (hfit : Nat.ofDigitChars 10 (c :: ps) 0 ≤ wordMax) (power : Int)
    (hpower : power.natAbs ≤ exponentMax) :
    Reads neg ((if ps = [] then [c] else c :: '.' :: ps) ++
        'e' :: (if decide (power < 0) then '-' else '+') :: digitsOf power.natAbs)
      (Nat.ofDigitChars 10 (c :: ps) 0) (-(ps.length : Int) + power) := by
  intro r hr
  have hwhole : WholeDigits [c] := by
    refine ⟨fun d hd => ?_, List.cons_ne_nil _ _, fun hhead => ?_⟩
    · rw [List.mem_singleton.mp hd]
      exact hc
    · exact absurd (Option.some.inj hhead) hlead
  have hexponent (n : Numeral) := scanExponent_digits n (decide (power < 0)) (digitsOf power.natAbs)
    (fun _ hd => isDigit_of_mem_digitsOf hd) Nat.toDigits_ne_nil (r := r) fun d hd => (hr d hd).1
  refine ⟨⟨neg, [c], ps, some (decide (power < 0), digitsOf power.natAbs)⟩, ?_, ?_⟩
  · split
    · next hnil =>
      rw [List.append_assoc, scan_whole neg hwhole fun d hd => by cases hd; decide]
      exact (hexponent ⟨neg, [c], [], none⟩).trans (by rw [hnil])
    · next hne =>
      have hscan := scan_whole neg hwhole (r := '.' :: (ps ++ ('e' :: (if decide (power < 0) then '-' else '+') ::
        digitsOf power.natAbs) ++ r)) fun d hd => by cases hd; decide
      rw [List.append_assoc] at hscan
      simp only [List.cons_append, List.nil_append, List.append_assoc] at hscan ⊢
      rw [hscan, scanFraction_point _ hps hne fun d hd => by cases hd; decide]
      exact hexponent _
  · have hvalue := value_of_fits (n := ⟨neg, [c], ps, some (decide (power < 0), digitsOf power.natAbs)⟩)
      (fun hno => Option.some_ne_none _ hno.2) hfit
    rw [hvalue]
    exact congrArg _ (withExponent_digitsOf neg _ _ power hpower)

end Numeral

/-! ## Layouts -/

/-- The whole number and the power of ten that a decimal is written with.  A decimal without places gets a zero
behind its point, so its digits go one place up. -/
def writtenParts (d : Binary64.Decimal) : Nat × Int :=
  if 0 ≤ d.exponent ∧ ((digitsOf d.digits).length : Int) + d.exponent ≤ 16 then
    (d.digits * 10 ^ (d.exponent.toNat + 1), -1)
  else (d.digits, d.exponent)

theorem ofDigitChars_digitsOf (n : Nat) : Nat.ofDigitChars 10 (digitsOf n) 0 = n := Nat.ofDigitChars_ten_toDigits

theorem length_digitsOf_pos (n : Nat) : 0 < (digitsOf n).length := Nat.length_toDigits_pos

theorem lt_pow_length_digitsOf (n : Nat) : n < 10 ^ (digitsOf n).length :=
  (Nat.length_toDigits_le_iff (by decide) (length_digitsOf_pos n)).mp (Nat.le_refl _)

theorem isDigit_of_mem_zeros {n : Nat} {c : Char} (h : c ∈ List.replicate n '0') : c.isDigit = true := by
  rw [List.eq_of_mem_replicate h]
  decide

namespace Numeral

variable {d : Binary64.Decimal}

/-- Digits and zeros, and a zero behind the point. -/
theorem reads_whole (neg : Bool) (he : 0 ≤ d.exponent)
    (hpoint : ((digitsOf d.digits).length : Int) + d.exponent ≤ 16) (hzero : d.digits = 0 → d.exponent = 0) :
    Reads neg (digitsOf d.digits ++ List.replicate d.exponent.toNat '0' ++ ['.', '0'])
      (d.digits * 10 ^ (d.exponent.toNat + 1)) (-1) := by
  have hdigits : ∀ c ∈ digitsOf d.digits ++ List.replicate d.exponent.toNat '0', c.isDigit = true := by
    intro c hc
    rcases List.mem_append.mp hc with hc | hc
    · exact isDigit_of_mem_digitsOf hc
    · exact isDigit_of_mem_zeros hc
  have hvalue : Nat.ofDigitChars 10 (digitsOf d.digits ++ List.replicate d.exponent.toNat '0' ++ ['0']) 0 =
      d.digits * 10 ^ (d.exponent.toNat + 1) := by
    have hzeros : List.replicate d.exponent.toNat '0' ++ ['0'] = List.replicate (d.exponent.toNat + 1) '0' :=
      List.replicate_succ'.symm
    rw [List.append_assoc, hzeros, Nat.ofDigitChars_append, ofDigitChars_digitsOf, Nat.ofDigitChars_replicate_zero,
      Nat.mul_comm]
  have hfit : d.digits * 10 ^ (d.exponent.toNat + 1) ≤ wordMax := by
    have hlt := lt_pow_length_digitsOf d.digits
    calc d.digits * 10 ^ (d.exponent.toNat + 1)
        ≤ 10 ^ (digitsOf d.digits).length * 10 ^ (d.exponent.toNat + 1) := Nat.mul_le_mul_right _ (Nat.le_of_lt hlt)
      _ = 10 ^ ((digitsOf d.digits).length + (d.exponent.toNat + 1)) := (Nat.pow_add ..).symm
      _ ≤ 10 ^ 17 := Nat.pow_le_pow_right (by decide) (by omega)
      _ ≤ wordMax := by decide
  have hwhole : WholeDigits (digitsOf d.digits ++ List.replicate d.exponent.toNat '0') := by
    refine ⟨hdigits, List.append_ne_nil_of_left_ne_nil Nat.toDigits_ne_nil _, fun hhead => ?_⟩
    rw [List.head?_append_of_ne_nil _ (wholeDigits_digitsOf d.digits).ne_nil] at hhead
    have hlone := (wholeDigits_digitsOf d.digits).lead hhead
    by_cases hd : d.digits = 0
    · rw [hlone, hzero hd]
      rfl
    · exact absurd hhead (head?_digitsOf hd)
  have hreads := reads_point neg hwhole ['0'] (fun c hc => by rw [List.mem_singleton.mp hc]; decide)
    (List.cons_ne_nil _ _) (by rwa [hvalue])
  rwa [hvalue] at hreads

/-- Places behind the point, with zeros before the digits. -/
theorem reads_below (neg : Bool) (hpoint : ((digitsOf d.digits).length : Int) + d.exponent ≤ 0)
    (hfit : d.digits ≤ wordMax) :
    Reads neg ('0' :: '.' ::
        (List.replicate (-(((digitsOf d.digits).length : Int) + d.exponent)).toNat '0' ++ digitsOf d.digits))
      d.digits d.exponent := by
  have hvalue (n : Nat) : Nat.ofDigitChars 10 (['0'] ++ (List.replicate n '0' ++ digitsOf d.digits)) 0 = d.digits := by
    rw [Nat.ofDigitChars_append, Nat.ofDigitChars_append, Nat.ofDigitChars_replicate_zero]
    show Nat.ofDigitChars 10 (digitsOf d.digits) (10 ^ n * 0) = d.digits
    rw [Nat.mul_zero, ofDigitChars_digitsOf]
  have hreads := reads_point neg (wholeDigits_digitsOf 0)
    (List.replicate (-(((digitsOf d.digits).length : Int) + d.exponent)).toNat '0' ++ digitsOf d.digits)
    (fun c hc => (List.mem_append.mp hc).elim isDigit_of_mem_zeros isDigit_of_mem_digitsOf)
    (List.append_ne_nil_of_right_ne_nil _ Nat.toDigits_ne_nil) (le_of_eq_of_le (hvalue _) hfit)
  have hlength : -((List.replicate (-(((digitsOf d.digits).length : Int) + d.exponent)).toNat '0' ++
      digitsOf d.digits).length : Int) = d.exponent := by
    rw [List.length_append, List.length_replicate]
    omega
  rw [hlength, show digitsOf 0 = ['0'] from rfl, hvalue] at hreads
  exact hreads

/-- A point among the digits. -/
theorem reads_among (neg : Bool) (hd : d.digits ≠ 0) (he : d.exponent < 0)
    (hpoint : 0 < ((digitsOf d.digits).length : Int) + d.exponent) (hfit : d.digits ≤ wordMax) :
    Reads neg ((digitsOf d.digits).take (((digitsOf d.digits).length : Int) + d.exponent).toNat ++ '.' ::
        (digitsOf d.digits).drop (((digitsOf d.digits).length : Int) + d.exponent).toNat)
      d.digits d.exponent := by
  generalize hn : (((digitsOf d.digits).length : Int) + d.exponent).toNat = n
  have hvalue : Nat.ofDigitChars 10 ((digitsOf d.digits).take n ++ (digitsOf d.digits).drop n) 0 = d.digits := by
    rw [List.take_append_drop, ofDigitChars_digitsOf]
  have hwhole : WholeDigits ((digitsOf d.digits).take n) := by
    refine ⟨fun c hc => isDigit_of_mem_digitsOf (List.mem_of_mem_take hc), fun hnil => ?_, fun hhead => ?_⟩
    · rcases List.take_eq_nil_iff.mp hnil with hzero | hnil
      · omega
      · exact Nat.toDigits_ne_nil hnil
    · rw [List.head?_take, if_neg (by omega)] at hhead
      exact absurd hhead (head?_digitsOf hd)
  have hreads := reads_point neg hwhole ((digitsOf d.digits).drop n)
    (fun c hc => isDigit_of_mem_digitsOf (List.mem_of_mem_drop hc))
    (fun hnil => by have := List.drop_eq_nil_iff.mp hnil; omega) (le_of_eq_of_le hvalue hfit)
  have hlength : -(((digitsOf d.digits).drop n).length : Int) = d.exponent := by
    rw [List.length_drop]
    omega
  rwa [hlength, hvalue] at hreads

/-- Digits with an exponent apart. -/
theorem reads_apart (neg : Bool) (hd : d.digits ≠ 0) {c : Char} {ps : List Char} (hds : digitsOf d.digits = c :: ps)
    (hpower : (((digitsOf d.digits).length : Int) + d.exponent - 1).natAbs ≤ exponentMax)
    (hfit : d.digits ≤ wordMax) :
    Reads neg ((if ps = [] then [c] else c :: '.' :: ps) ++
        'e' :: (if decide (((digitsOf d.digits).length : Int) + d.exponent - 1 < 0) then '-' else '+') ::
          digitsOf (((digitsOf d.digits).length : Int) + d.exponent - 1).natAbs)
      d.digits d.exponent := by
  have hvalue : Nat.ofDigitChars 10 (c :: ps) 0 = d.digits := by rw [← hds, ofDigitChars_digitsOf]
  have hmem (b : Char) (hb : b ∈ c :: ps) : b.isDigit = true := isDigit_of_mem_digitsOf (hds ▸ hb)
  have hlead : c ≠ '0' := fun hc => head?_digitsOf hd (by rw [hds, hc]; rfl)
  have hplaces : -(ps.length : Int) + (((digitsOf d.digits).length : Int) + d.exponent - 1) = d.exponent := by
    rw [hds, List.length_cons]
    omega
  have hreads := reads_exponent neg (hmem c List.mem_cons_self) hlead
    (fun b hb => hmem b (List.mem_cons_of_mem _ hb)) (le_of_eq_of_le hvalue hfit) _ hpower
  rwa [hvalue, hplaces] at hreads

/-- A decimal is read as it is written, whatever its layout. -/
theorem reads_decimalChars (neg : Bool) (hzero : d.digits = 0 → d.exponent = 0) (hdigits : d.digits ≤ 10 ^ 17)
    (hexponent : d.exponent.natAbs < 400) :
    Reads neg (decimalChars d) (writtenParts d).1 (writtenParts d).2 := by
  have hfit : d.digits ≤ wordMax := hdigits.trans (by decide)
  have hlength : (digitsOf d.digits).length ≤ 18 :=
    (Nat.length_toDigits_le_iff (by decide) (by decide)).mpr (Nat.lt_of_le_of_lt hdigits (by decide))
  have hpos := length_digitsOf_pos d.digits
  by_cases hd : d.digits = 0
  · have hreads := reads_whole (d := d) neg (by rw [hzero hd]) (by rw [hd, hzero hd]; decide) hzero
    have hchars : decimalChars d = digitsOf d.digits ++ List.replicate d.exponent.toNat '0' ++ ['.', '0'] := by
      rw [decimalChars, if_pos hd, hd, hzero hd]
      rfl
    have hparts : writtenParts d = (d.digits * 10 ^ (d.exponent.toNat + 1), -1) := by
      rw [writtenParts, hd, hzero hd]
      rfl
    rw [hchars, hparts]
    exact hreads
  generalize hpoint : ((digitsOf d.digits).length : Int) + d.exponent = point at *
  unfold decimalChars
  simp only [if_neg hd, hpoint]
  by_cases hplain : -5 < point ∧ point ≤ 16
  · rw [if_pos hplain]
    unfold Binary64.Decimal.positional
    simp only [hpoint]
    by_cases he : 0 ≤ d.exponent
    · have hparts : writtenParts d = (d.digits * 10 ^ (d.exponent.toNat + 1), -1) := if_pos ⟨he, by omega⟩
      rw [if_pos he, if_pos he, hparts]
      exact reads_whole neg he (by omega) hzero
    have hparts : writtenParts d = (d.digits, d.exponent) := if_neg fun h => he h.1
    rw [if_neg he, if_neg he, hparts]
    by_cases hbelow : point ≤ 0
    · rw [if_pos hbelow, ← hpoint]
      exact reads_below neg (by omega) hfit
    · rw [if_neg hbelow, ← hpoint]
      exact reads_among neg hd (by omega) (by omega) hfit
  · have hparts : writtenParts d = (d.digits, d.exponent) := if_neg fun h => hplain (by omega)
    rw [if_neg hplain, hparts]
    cases hds : digitsOf d.digits with
    | nil => exact absurd hds (wholeDigits_digitsOf d.digits).ne_nil
    | cons c ps =>
      have hreads := reads_apart neg hd hds (by rw [exponentMax]; omega) hfit
      rw [hpoint] at hreads
      cases ps <;> simpa using hreads

end Numeral

/-! ## Doubles -/

theorem shortest_of_zero {x : Binary64} (hzero : x.magnitude = 0) (tie : Binary64.TieRule) :
    Binary64.shortest tie x = ⟨0, 0⟩ := if_pos hzero

/-- The whole number and the power of ten that a double is written with. -/
def written (x : Binary64) : Nat × Int := writtenParts (Binary64.shortest .toEven x)

theorem reads_shortest (neg : Bool) {x : Binary64} (hx : x.magnitude < Binary64.infiniteMagnitude) :
    Numeral.Reads neg (decimalChars (Binary64.shortest .toEven x)) (written x).1 (written x).2 := by
  by_cases hzero : x.magnitude = 0
  · rw [written, shortest_of_zero hzero]
    exact Numeral.reads_decimalChars neg (fun _ => rfl) (by decide) (by decide)
  · have hpos := Binary64.shortest_digits_pos hx hzero .toEven
    have hhigh := Binary64.shortest_exponent_lt hx hzero .toEven
    have hlow := Binary64.lt_shortest_exponent hx hzero .toEven
    exact Numeral.reads_decimalChars neg (fun h => by omega) (Binary64.shortest_digits_le hx hzero .toEven) (by omega)

/-- The power is a power of ten that a double has, or one that is divided by twice at most. -/
theorem Numeral.exists_scale {f : Binary64} {e : Int} (hlow : -616 ≤ e)
    (hhigh : 0 ≤ e → e < 309 ∧ (f.mulSize (.ofNat (10 ^ e.toNat))).magnitude < Binary64.infiniteMagnitude) :
    ∃ g, scale 4 f e = .ok g := by
  unfold scale
  split
  · split
    · next hpos =>
      have hfinite : (f.mulSize (.ofNat (Nat.pow 10 e.toNat))).isInfinite = false := by
        unfold Binary64.isInfinite
        rw [beq_eq_false_iff_ne]
        exact Nat.ne_of_lt (hhigh hpos).2
      simp only [hfinite, Bool.false_eq_true, if_false]
      exact ⟨_, rfl⟩
    · exact ⟨_, rfl⟩
  · next hfar =>
    have hneg : ¬0 ≤ e := fun hpos => hfar (by have := (hhigh hpos).1; omega)
    rw [if_neg hneg]
    split
    · exact ⟨_, rfl⟩
    · unfold scale
      rw [if_pos (by omega), if_neg (by omega)]
      exact ⟨_, rfl⟩

/-- The digits that a finite double is written with are read as some double. -/
theorem exists_ofParts (neg : Bool) {x : Binary64} (hx : x.magnitude < Binary64.infiniteMagnitude) :
    ∃ y, Numeral.ofParts neg (written x).1 (written x).2 = .ok y := by
  suffices h : ∃ f, Numeral.scale 4 (.ofNat (written x).1) (written x).2 = .ok f by
    obtain ⟨f, hf⟩ := h
    exact ⟨_, congrArg (Except.map _) hf⟩
  by_cases hzero : x.magnitude = 0
  · rw [written, shortest_of_zero hzero]
    exact Numeral.exists_scale (by decide) fun h => absurd h (by decide)
  · have hhigh := Binary64.shortest_exponent_lt hx hzero .toEven
    have hlow := Binary64.lt_shortest_exponent hx hzero .toEven
    have hfinite := Binary64.magnitude_mulSize_shortest hx hzero
    unfold written writtenParts
    split
    · exact Numeral.exists_scale (e := -1) (by decide) fun h => absurd h (by decide)
    · exact Numeral.exists_scale (by omega) fun he => ⟨hhigh, hfinite he⟩

end BudgetRules.Json

namespace BudgetRules.Binary64

open Json (written)

/-- What a double is read as once it has been written: its digits as a whole number and the power of ten that
goes with it, each rounded to a double, multiplied or divided. -/
def reread (x : Binary64) : Binary64 :=
  match Json.Numeral.ofParts x.negative (written x).1 (written x).2 with
  | .ok y => y
  | .error _ => x

theorem ofParts_written {x : Binary64} (hx : x.magnitude < infiniteMagnitude) :
    Json.Numeral.ofParts x.negative (written x).1 (written x).2 = .ok x.reread := by
  obtain ⟨y, hy⟩ := Json.exists_ofParts x.negative hx
  unfold reread
  rw [hy]

/-! ## Doubles that are read as themselves -/

/-- The digits of a double make up a whole number that is a double, and the power of ten is one. -/
structure Steady (x : Binary64) : Prop where
  exact : (ofNat (written x).1).value = (written x).1
  low : -22 ≤ (written x).2
  high : (written x).2 ≤ 22

theorem ofMagnitude_magnitude (x : Binary64) : ofMagnitude x.negative x.magnitude = x := by
  obtain ⟨bits⟩ := x
  have hlt : bits.toNat < 2 * signBit := bits.toNat_lt
  have hparts : (if decide (signBit ≤ bits.toNat) = true then signBit + bits.toNat % signBit
      else bits.toNat % signBit) = bits.toNat := by
    unfold signBit at *
    simp only [decide_eq_true_eq]
    split <;> omega
  unfold ofMagnitude negative magnitude
  rw [hparts, UInt64.ofNat_toNat]

theorem value_of_zero {x : Binary64} (hzero : x.magnitude = 0) : x.value = 0 := by
  rw [value, hzero, size_zero, Nat.cast_zero, zero_div]

/-- What is written stands for a number that is rounded to the double. -/
theorem rounds_written {x : Binary64} (hx : x.magnitude < infiniteMagnitude) :
    Rounds ((written x).1 * (10 : ℚ) ^ (written x).2) x.magnitude := by
  have hself := rounds_value hx
  unfold written
  by_cases hzero : x.magnitude = 0
  · rw [value_of_zero hzero] at hself
    have hparts : Json.writtenParts ⟨0, 0⟩ = (0, -1) := by decide
    rw [Json.shortest_of_zero hzero, hparts]
    simpa using hself
  · have hshortest := rounds_shortest hx hzero .toEven
    generalize shortest .toEven x = d at hshortest ⊢
    unfold Json.writtenParts
    split
    · next hwhole =>
      obtain ⟨n, hn⟩ := Int.eq_ofNat_of_zero_le hwhole.1
      have hvalue : d.value = ((d.digits * 10 ^ (d.exponent.toNat + 1) : Nat) : ℚ) * (10 : ℚ) ^ (-1 : Int) := by
        rw [Decimal.value, hn, Int.toNat_natCast, zpow_natCast, pow_succ]
        push_cast
        ring
      rw [← hvalue]
      exact hshortest
    · exact hshortest

theorem reread_of_steady {x : Binary64} (hx : x.magnitude < infiniteMagnitude) (h : x.Steady) : x.reread = x := by
  have hread := ofParts_written hx
  have hrounds := rounds_written hx
  have hlow := h.low
  have hhigh := h.high
  suffices hscale : ∃ f, Json.Numeral.scale 4 (.ofNat (written x).1) (written x).2 = .ok f ∧ f.magnitude = x.magnitude by
    obtain ⟨f, hf, hsame⟩ := hscale
    have hparts : Json.Numeral.ofParts x.negative (written x).1 (written x).2 =
        .ok (ofMagnitude x.negative f.magnitude) := congrArg (Except.map _) hf
    rw [hparts, hsame, ofMagnitude_magnitude] at hread
    exact (Except.ok.inj hread).symm
  have hexact := h.exact
  generalize (written x).1 = s at *
  generalize (written x).2 = e at *
  unfold Json.Numeral.scale
  rw [if_pos (by omega)]
  by_cases he : 0 ≤ e
  · obtain ⟨k, rfl⟩ := Int.eq_ofNat_of_zero_le he
    have hproduct := rounds_mulSize (ofNat s) (ofNat (10 ^ k))
    rw [hexact, value_ofNat_pow_ten (by omega), ← zpow_natCast] at hproduct
    have hsame := hproduct.unique hrounds
    have hfinite : ((ofNat s).mulSize (ofNat (Nat.pow 10 k))).isInfinite = false := by
      unfold isInfinite
      rw [beq_eq_false_iff_ne]
      exact fun hinf => Nat.ne_of_lt hx (hsame.symm.trans hinf)
    rw [if_pos he]
    simp only [Int.toNat_natCast, hfinite, Bool.false_eq_true, if_false]
    exact ⟨_, rfl, hsame⟩
  · obtain ⟨k, hk⟩ := Int.exists_eq_neg_ofNat (Int.le_of_not_le he)
    subst hk
    have hten := value_ofNat_pow_ten (k := k) (by omega)
    have hquotient := rounds_divSize (ofNat s) (y := ofNat (10 ^ k)) (by rw [hten]; positivity)
    rw [hexact, hten, div_eq_mul_inv, ← zpow_natCast, ← zpow_neg] at hquotient
    rw [if_neg he, neg_neg, Int.toNat_natCast]
    exact ⟨_, rfl, hquotient.unique hrounds⟩

/-- Both zeros are read as they are. -/
theorem steady_of_zero {x : Binary64} (hzero : x.magnitude = 0) : x.Steady := by
  have hwritten : written x = (0, -1) := by
    rw [written, Json.shortest_of_zero hzero]
    decide
  refine ⟨?_, ?_, ?_⟩ <;> rw [hwritten]
  · exact value_ofNat_of_le (by decide)
  all_goals decide

/-! ## Decimals of few digits -/

/-- A double is steady if its shortest digits and some zeros make up a number up to 2 ^ 53 / 5 with at most
twenty-two places. -/
theorem steady_of_digits {x : Binary64} {a n k : Nat} (ha : a ≤ 1801439850948198) (hpos : 0 < a) (hk : k ≤ 22)
    (hdigits : a = (shortest .toEven x).digits * 10 ^ n) (hexponent : (shortest .toEven x).exponent = n - k) :
    x.Steady := by
  obtain ⟨d, hd⟩ : ∃ d, shortest .toEven x = d := ⟨_, rfl⟩
  rw [hd] at hdigits hexponent
  have hwritten : written x = Json.writtenParts d := congrArg Json.writtenParts hd
  have hle : d.digits ≤ a := by
    rw [hdigits]
    exact Nat.le_mul_of_pos_right _ (Nat.pow_pos (by decide))
  have hfew : n < 16 := by
    have hsome : 1 ≤ d.digits := Nat.pos_of_ne_zero fun hnone => by rw [hdigits, hnone, Nat.zero_mul] at hpos; omega
    have hpow : 10 ^ n < 10 ^ 16 := by
      calc 10 ^ n ≤ d.digits * 10 ^ n := Nat.le_mul_of_pos_left _ hsome
        _ = a := hdigits.symm
        _ < 10 ^ 16 := by omega
    exact (Nat.pow_lt_pow_iff_right (by decide)).mp hpow
  unfold Json.writtenParts at hwritten
  split at hwritten
  · next hwhole =>
    -- the zero behind the point makes the number ten times as large, and a factor of two is free
    obtain ⟨j, hj⟩ := Int.eq_ofNat_of_zero_le hwhole.1
    have hdouble : d.digits * 10 ^ (d.exponent.toNat + 1) = 5 * (d.digits * 10 ^ j) * 2 ^ 1 := by
      rw [hj, Int.toNat_natCast, Nat.pow_succ]
      ring
    have hbound : d.digits * 10 ^ j ≤ a := by
      rw [hdigits]
      exact Nat.mul_le_mul_left _ (Nat.pow_le_pow_right (by decide) (by omega))
    refine ⟨?_, ?_, ?_⟩ <;> rw [hwritten]
    · simp only [hdouble]
      rw [value_ofNat (by rw [exponentBit_eq]; omega) (by decide)]
      push_cast
      rfl
    all_goals omega
  · refine ⟨?_, ?_, ?_⟩ <;> rw [hwritten] <;> simp only
    · exact value_ofNat_of_le (by rw [exponentBit_eq]; omega)
    all_goals omega

/-- A decimal of at most twenty-two places, whose digits make up a number up to 2 ^ 53 / 5, is steady. -/
theorem steady_nearest (neg : Bool) {a k : Nat} (ha : a ≤ 1801439850948198) (hk : k ≤ 22) :
    (nearest neg a (10 ^ k)).magnitude < infiniteMagnitude ∧ (nearest neg a (10 ^ k)).Steady := by
  have hrounds := rounds_nearest neg a (Nat.pow_pos (n := k) (by decide : 0 < 10))
  have hdecimal : (a : ℚ) / (10 ^ k : Nat) = a * (10 : ℚ) ^ (-(k : Int)) := by
    rw [zpow_neg, zpow_natCast, div_eq_mul_inv]
    push_cast
    rfl
  rw [hdecimal] at hrounds
  generalize nearest neg a (10 ^ k) = x at hrounds ⊢
  have hbound : (a : ℚ) * (10 : ℚ) ^ (-(k : Int)) ≤ (1801439850948198 : Nat) :=
    (mul_le_of_le_one_right (Nat.cast_nonneg a) (zpow_le_one_of_nonpos₀ (by norm_num) (by omega))).trans
      (Nat.cast_le.mpr ha)
  have hx : x.magnitude < infiniteMagnitude :=
    Nat.lt_of_le_of_lt (hrounds.mono (rounds_ofNat _) hbound) (by decide)
  refine ⟨hx, ?_⟩
  by_cases hzero : a = 0
  · have hmagnitude : x.magnitude = 0 := by
      rw [hzero, Nat.cast_zero, zero_mul, ← Nat.cast_zero] at hrounds
      exact hrounds.unique (rounds_ofNat 0)
    exact steady_of_zero hmagnitude
  · have hpos := Nat.pos_of_ne_zero hzero
    obtain ⟨n, hdigits, hexponent⟩ := exists_zeros hx hpos (by omega) hk hrounds .toEven
    exact steady_of_digits ha hpos hk hdigits hexponent

end BudgetRules.Binary64

namespace BudgetRules.Json

/-- What a number is read as once it has been written. -/
def Number.reread : Number → Number
  | .int i => .int i
  | .double x => .double x.reread

section

variable {x : Binary64} (hx : x.magnitude < Binary64.infiniteMagnitude)

include hx

theorem doubleChars_eq :
    doubleChars x = if x.negative then '-' :: decimalChars (Binary64.shortest .toEven x)
      else decimalChars (Binary64.shortest .toEven x) :=
  if_pos (decide_eq_true hx)

theorem Number.read_double (fuel : Nat) {r : List Char} (hr : EndsNumber r) :
    Tree.read (fuel + 1) ((Number.double x).chars ++ r) = (.num (.ok (.double x.reread)), some r) := by
  have hreads := reads_shortest x.negative hx
  obtain ⟨n, hscan, hvalue⟩ := hreads r hr
  have hnumber : number x.negative (decimalChars (Binary64.shortest .toEven x) ++ r) =
      (.num (.ok (.double x.reread)), some r) := by
    unfold number
    rw [hscan]
    simp only [hvalue, Binary64.ofParts_written hx]
    rfl
  show Tree.read (fuel + 1) (doubleChars x ++ r) = _
  rw [doubleChars_eq hx]
  by_cases hneg : x.negative = true
  · rw [hneg] at hnumber
    rw [if_pos hneg]
    exact hnumber
  · obtain ⟨c, cs, hcs, hc⟩ := hreads.exists_digit
    rw [Bool.not_eq_true] at hneg
    rw [hneg, hcs, List.cons_append] at hnumber
    rw [if_neg (by rw [hneg]; decide), hcs, List.cons_append, Tree.read_digit hc, hnumber]

theorem Number.tree_double : (Number.double x).tree = .num (.ok (.double x.reread)) := by
  have hread := Number.read_double hx 0 endsNumber_nil
  rw [List.append_nil] at hread
  unfold Number.tree
  rw [hread]

theorem Number.starts_double : Starts (Number.double x).chars := by
  obtain ⟨c, cs, hcs, hc⟩ := (reads_shortest x.negative hx).exists_digit
  show Starts (doubleChars x)
  rw [doubleChars_eq hx]
  split
  · exact ⟨'-', _, rfl, by decide, by decide⟩
  · exact ⟨c, cs, hcs, isSpace_of_isDigit hc, ne_of_isDigit hc (by decide)⟩

/-- A finite double is read back, as what its digits are read as. -/
theorem Number.readable_double : (Number.double x).Readable where
  starts := Number.starts_double hx
  read fuel r hr := by rw [Number.read_double hx fuel hr, Number.tree_double hx]

end

end BudgetRules.Json
