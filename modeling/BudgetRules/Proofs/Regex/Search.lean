import BudgetRules.Regex.Matcher
import Mathlib.Data.Finset.Card
import Mathlib.Data.Nat.Bitwise
import Mathlib.Logic.Function.Iterate

/-!
# The matcher finds what matches

The matcher goes from sets of positions to sets of positions, and from the positions where a match may begin it comes
to those where one ends:

    r.Bounded → m < 2 ^ (text.length + 1) →
      (((plan text r).ends (text.length + 1) m).testBit j = true ↔ ∃ i, m.testBit i = true ∧ Matches text r i j)
                                                                                            (advances_plan)
    r.Bounded → (search r text = true ↔ Found text r)                                       (search_eq_true_iff)

A repetition goes on from positions that have not been reached before.  What it has reached is closed under matches but
for those positions, and each round reaches one more, so as many rounds as there are positions are enough.
-/

namespace BudgetRules.Regex

/-- No repetition has a bound below the least number of times. -/
def Bounded : Regex → Prop
  | .empty => True
  | .set _ _ => True
  | .look _ => True
  | .cat r s => r.Bounded ∧ s.Bounded
  | .alt r s => r.Bounded ∧ s.Bounded
  | .repeat r min max _ => r.Bounded ∧ ∀ m, max = some m → min ≤ m
  | .group r => r.Bounded

/-! ## Matches in a row -/

variable {text : List Char} {r s : Regex} {i j k n : Nat}

mutual

theorem Matches.le_length : ∀ {r : Regex} {i j : Nat}, Matches text r i j → i ≤ text.length ∧ j ≤ text.length
  | _, _, _, .empty h => ⟨h, h⟩
  | _, _, _, .set h _ => by
    have hlt := (List.getElem?_eq_some_iff.1 h).1
    exact ⟨by omega, by omega⟩
  | _, _, _, .look h _ => ⟨h, h⟩
  | _, _, _, .cat hr hs => ⟨hr.le_length.1, hs.le_length.2⟩
  | _, _, _, .altLeft h => h.le_length
  | _, _, _, .altRight h => h.le_length
  | _, _, _, .repeat h _ _ => h.le_length
  | _, _, _, .group h => h.le_length

theorem Times.le_length : ∀ {r : Regex} {n i j : Nat}, Times text r n i j → i ≤ text.length ∧ j ≤ text.length
  | _, _, _, _, .zero h => ⟨h, h⟩
  | _, _, _, _, .succ hr h => ⟨hr.le_length.1, h.le_length.2⟩

end

theorem Times.append {p q : Nat} (h : Times text r p i j) (h' : Times text r q j k) : Times text r (p + q) i k := by
  induction p generalizing i with
  | zero =>
    cases h
    rwa [Nat.zero_add]
  | succ p ih =>
    cases h with
    | succ hr h =>
      rw [Nat.succ_add]
      exact .succ hr (ih h)

theorem Times.split {p q : Nat} (h : Times text r (p + q) i k) : ∃ j, Times text r p i j ∧ Times text r q j k := by
  induction p generalizing i with
  | zero => exact ⟨i, .zero h.le_length.1, by rwa [Nat.zero_add] at h⟩
  | succ p ih =>
    rw [Nat.succ_add] at h
    cases h with
    | succ hr h =>
      obtain ⟨j, hp, hq⟩ := ih h
      exact ⟨j, .succ hr hp, hq⟩

theorem Matches.exists_times {min : Nat} {max : Option Nat} {greedy : Bool}
    (h : Matches text (.repeat r min max greedy) i j) :
    ∃ n, Times text r n i j ∧ min ≤ n ∧ ∀ m, max = some m → n ≤ m := by
  cases h
  exact ⟨_, ‹_›, ‹_›, ‹_›⟩

/-! ## Sets of positions -/

/-- `f` takes the positions where something begins to those where what `r` matches from them ends. -/
def Advances (text : List Char) (f : Nat → Nat) (r : Regex) : Prop :=
  ∀ ⦃m : Nat⦄, m < 2 ^ (text.length + 1) → ∀ j,
    (f m).testBit j = true ↔ ∃ i, m.testBit i = true ∧ Matches text r i j

theorem le_length_of_testBit {m : Nat} (hm : m < 2 ^ (text.length + 1)) (h : m.testBit i = true) : i ≤ text.length := by
  by_contra hi
  have hpow : 2 ^ (text.length + 1) ≤ 2 ^ i := Nat.pow_le_pow_right (by decide) (by omega)
  rw [Nat.testBit_lt_two_pow (by omega)] at h
  cases h

theorem lt_of_testBit {m : Nat} (h : ∀ j, m.testBit j = true → j ≤ text.length) : m < 2 ^ (text.length + 1) := by
  refine Nat.lt_pow_two_of_testBit m fun j hj => ?_
  by_contra hbit
  have := h j (Bool.not_eq_false _ ▸ hbit)
  omega

section

variable {f : Nat → Nat} {m : Nat}

theorem Advances.lt (hf : Advances text f r) (hm : m < 2 ^ (text.length + 1)) : f m < 2 ^ (text.length + 1) := by
  refine lt_of_testBit fun j hj => ?_
  obtain ⟨i, -, h⟩ := (hf hm j).1 hj
  exact h.le_length.2

theorem times_eq_iterate (f : Nat → Nat) (n m : Nat) : times f n m = f^[n] m := by
  induction n generalizing m with
  | zero => rfl
  | succ n ih =>
    rw [times, Function.iterate_succ_apply, ih]
    split
    · next h => rw [h, Function.iterate_fixed h]
    · rfl

theorem Advances.iterate_lt (hf : Advances text f r) (hm : m < 2 ^ (text.length + 1)) :
    f^[n] m < 2 ^ (text.length + 1) := by
  induction n generalizing m with
  | zero => exact hm
  | succ n ih => rw [Function.iterate_succ_apply]; exact ih (hf.lt hm)

theorem Advances.testBit_iterate (hf : Advances text f r) (hm : m < 2 ^ (text.length + 1)) (j : Nat) :
    (f^[n] m).testBit j = true ↔ ∃ i, m.testBit i = true ∧ Times text r n i j := by
  induction n generalizing m with
  | zero =>
    constructor
    · exact fun h => ⟨j, h, .zero (le_length_of_testBit hm h)⟩
    · rintro ⟨i, hi, ht⟩
      cases ht
      exact hi
  | succ n ih =>
    rw [Function.iterate_succ_apply, ih (hf.lt hm)]
    constructor
    · rintro ⟨k, hk, ht⟩
      obtain ⟨i, hi, h⟩ := (hf hm k).1 hk
      exact ⟨i, hi, .succ h ht⟩
    · rintro ⟨i, hi, ht⟩
      cases ht with
      | succ h ht => exact ⟨_, (hf hm _).2 ⟨i, hi, h⟩, ht⟩

/-! ## Going on from new positions -/

variable {acc new : Nat}

/-- The positions that one more round reaches for the first time. -/
def fresh (f : Nat → Nat) (acc new : Nat) : Nat := f new ^^^ (f new &&& acc)

theorem testBit_fresh_iff : (fresh f acc new).testBit j = true ↔ (f new).testBit j = true ∧ acc.testBit j = false := by
  rw [fresh, Nat.testBit_xor, Nat.testBit_and]
  cases (f new).testBit j <;> cases acc.testBit j <;> decide

theorem testBit_or_iff {a b : Nat} : (a ||| b).testBit j = true ↔ a.testBit j = true ∨ b.testBit j = true := by
  rw [Nat.testBit_or, Bool.or_eq_true]

theorem spread_succ (f : Nat → Nat) (n acc new : Nat) :
    spread f (n + 1) acc new =
      if fresh f acc new = 0 then acc else spread f n (acc ||| fresh f acc new) (fresh f acc new) := rfl

theorem testBit_spread_of_acc (f : Nat → Nat) (n new : Nat) (h : acc.testBit j = true) :
    (spread f n acc new).testBit j = true := by
  induction n generalizing acc new with
  | zero => exact h
  | succ n ih =>
    rw [spread_succ]
    split
    · exact h
    · exact ih _ (testBit_or_iff.2 (.inl h))

/-- How far a repetition has come: `acc` holds the positions it has reached, `new` those of them it has still to go on
from. -/
structure Frontier (text : List Char) (r : Regex) (acc new : Nat) : Prop where
  bound : acc < 2 ^ (text.length + 1)
  within : ∀ i, new.testBit i = true → acc.testBit i = true
  closed : ∀ i j, acc.testBit i = true → new.testBit i = false → Matches text r i j → acc.testBit j = true

namespace Frontier

theorem start (hm : m < 2 ^ (text.length + 1)) : Frontier text r m m where
  bound := hm
  within _ hi := hi
  closed i j hi hni := by
    rw [hi] at hni
    cases hni

variable (h : Frontier text r acc new)

include h

theorem new_lt : new < 2 ^ (text.length + 1) := lt_of_testBit fun i hi => le_length_of_testBit h.bound (h.within i hi)

/-- A fresh position is one match away from a position that has been reached. -/
theorem exists_match_of_fresh (hf : Advances text f r) (hj : (fresh f acc new).testBit j = true) :
    ∃ i, acc.testBit i = true ∧ Matches text r i j := by
  obtain ⟨i, hi, hmatch⟩ := (hf h.new_lt j).1 (testBit_fresh_iff.1 hj).1
  exact ⟨i, h.within i hi, hmatch⟩

theorem fresh_lt (hf : Advances text f r) : fresh f acc new < 2 ^ (text.length + 1) :=
  lt_of_testBit fun _ hj => by
    obtain ⟨_, -, hmatch⟩ := h.exists_match_of_fresh hf hj
    exact hmatch.le_length.2

/-- A match leads from where the repetition has come to where it has come or comes next. -/
theorem reached_or_fresh (hf : Advances text f r) (hi : acc.testBit i = true) (hmatch : Matches text r i j) :
    acc.testBit j = true ∨ (fresh f acc new).testBit j = true := by
  cases hj : acc.testBit j with
  | true => exact .inl rfl
  | false =>
    refine .inr (testBit_fresh_iff.2 ⟨(hf h.new_lt j).2 ⟨i, ?_, hmatch⟩, hj⟩)
    by_contra hni
    rw [h.closed i j hi (Bool.not_eq_true _ ▸ hni) hmatch] at hj
    cases hj

/-- A round keeps the frontier. -/
theorem step (hf : Advances text f r) : Frontier text r (acc ||| fresh f acc new) (fresh f acc new) where
  bound := Nat.or_lt_two_pow h.bound (h.fresh_lt hf)
  within _ hi := testBit_or_iff.2 (.inr hi)
  closed i j hi hni hmatch := by
    have hi : acc.testBit i = true := (testBit_or_iff.1 hi).resolve_right (Bool.eq_false_iff.1 hni)
    exact testBit_or_iff.2 (h.reached_or_fresh hf hi hmatch)

/-- Nothing but what matches in a row, at most as often as there are rounds, is reached. -/
theorem exists_times_of_spread (hf : Advances text f r) (hj : (spread f n acc new).testBit j = true) :
    ∃ i k, acc.testBit i = true ∧ k ≤ n ∧ Times text r k i j := by
  induction n generalizing acc new with
  | zero => exact ⟨j, 0, hj, Nat.le_refl _, .zero (le_length_of_testBit h.bound hj)⟩
  | succ n ih =>
    rw [spread_succ] at hj
    split at hj
    · exact ⟨j, 0, hj, Nat.zero_le _, .zero (le_length_of_testBit h.bound hj)⟩
    · obtain ⟨i, k, hi, hk, htimes⟩ := ih (h.step hf) hj
      rcases testBit_or_iff.1 hi with hi | hi
      · exact ⟨i, k, hi, by omega, htimes⟩
      · obtain ⟨i₀, hi₀, hmatch⟩ := h.exists_match_of_fresh hf hi
        exact ⟨i₀, k + 1, hi₀, by omega, .succ hmatch htimes⟩

end Frontier

/-- The positions that are not in a set. -/
def missing (text : List Char) (acc : Nat) : Finset Nat :=
  (Finset.range (text.length + 1)).filter fun i => acc.testBit i = false

theorem card_missing_le (text : List Char) (acc : Nat) : (missing text acc).card ≤ text.length + 1 := by
  refine (Finset.card_filter_le _ _).trans ?_
  rw [Finset.card_range]

/-- With new positions fewer are missing. -/
theorem card_missing_lt {fresh : Nat} (hfresh : fresh < 2 ^ (text.length + 1)) (hne : fresh ≠ 0)
    (happart : ∀ i, fresh.testBit i = true → acc.testBit i = false) :
    (missing text (acc ||| fresh)).card < (missing text acc).card := by
  obtain ⟨i, hi⟩ := Nat.exists_testBit_of_ne_zero hne
  refine Finset.card_lt_card (Finset.ssubset_iff_of_subset ?_ |>.2 ⟨i, ?_, ?_⟩)
  · intro j hj
    simp only [missing, Finset.mem_filter, Nat.testBit_or, Bool.or_eq_false_iff] at hj ⊢
    exact ⟨hj.1, hj.2.1⟩
  · have hlt := le_length_of_testBit hfresh hi
    simp only [missing, Finset.mem_filter, Finset.mem_range]
    exact ⟨by omega, happart i hi⟩
  · simp only [missing, Finset.mem_filter, Nat.testBit_or, hi, Bool.or_true, Bool.true_eq_false, and_false,
      not_false_eq_true]

theorem testBit_of_card_missing (h : (missing text acc).card = 0) (hi : i ≤ text.length) : acc.testBit i = true := by
  by_contra hbit
  have hmem : i ∈ missing text acc := by
    simp only [missing, Finset.mem_filter, Finset.mem_range]
    exact ⟨by omega, Bool.not_eq_true _ ▸ hbit⟩
  rw [Finset.card_eq_zero.1 h] at hmem
  exact absurd hmem (Finset.notMem_empty i)

/-- A set that is closed under matches has all that matches in a row from one of its positions. -/
theorem testBit_of_times (hclosed : ∀ i j, acc.testBit i = true → Matches text r i j → acc.testBit j = true)
    (hi : acc.testBit i = true) (h : Times text r k i j) : acc.testBit j = true := by
  induction k generalizing i with
  | zero => cases h; exact hi
  | succ k ih =>
    cases h with
    | succ hr h => exact ih (hclosed _ _ hi hr) h

/-- All that matches in a row is reached, if there are rounds for as many matches or for all positions missing. -/
theorem Frontier.testBit_spread_of_times (h : Frontier text r acc new) (hf : Advances text f r)
    (hi : acc.testBit i = true) (htimes : Times text r k i j) (hk : k ≤ n ∨ (missing text acc).card ≤ n) :
    (spread f n acc new).testBit j = true := by
  induction n generalizing acc new i k with
  | zero =>
    rw [spread]
    rcases hk with hk | hk
    · obtain rfl := Nat.le_zero.1 hk
      cases htimes
      exact hi
    · exact testBit_of_card_missing (Nat.le_zero.1 hk) htimes.le_length.2
  | succ n ih =>
    rw [spread_succ]
    split
    · next hzero =>
      -- with nothing fresh, what has been reached is closed under matches
      refine testBit_of_times (fun i j hi hmatch => ?_) hi htimes
      refine (h.reached_or_fresh hf hi hmatch).resolve_right fun hj => ?_
      rw [hzero, Nat.zero_testBit] at hj
      cases hj
    · next hne =>
      have hless := card_missing_lt (h.fresh_lt hf) hne fun i hi => (testBit_fresh_iff.1 hi).2
      cases htimes with
      | zero => exact testBit_spread_of_acc f n _ (testBit_or_iff.2 (.inl hi))
      | succ hmatch hrest =>
        have hnext := testBit_or_iff.2 (h.reached_or_fresh hf hi hmatch)
        exact ih (h.step hf) hnext hrest (hk.imp (by omega) (by omega))

end

/-! ## Single characters and conditions -/

theorem testBit_one_shiftLeft (i j : Nat) : (1 <<< i).testBit j = true ↔ j = i := by
  rw [Nat.one_shiftLeft, Nat.testBit_two_pow, decide_eq_true_eq, eq_comm]

theorem testBit_charsWhere (p : Nat → Bool) (i : Nat) (cs : List Char) :
    (charsWhere p i cs).testBit j = true ↔ ∃ k c, j = i + k ∧ cs[k]? = some c ∧ p c.toNat = true := by
  induction cs generalizing i with
  | nil =>
    rw [charsWhere, Nat.zero_testBit]
    constructor
    · intro h; cases h
    · rintro ⟨k, c, -, hc, -⟩; cases hc
  | cons c cs ih =>
    rw [charsWhere, testBit_or_iff, ih]
    constructor
    · rintro (h | ⟨k, d, rfl, hd, hp⟩)
      · split at h
        · next hp => exact ⟨0, c, (testBit_one_shiftLeft i j).1 h, rfl, hp⟩
        · rw [Nat.zero_testBit] at h; cases h
      · exact ⟨k + 1, d, by omega, hd, hp⟩
    · rintro ⟨k, d, rfl, hd, hp⟩
      cases k with
      | zero =>
        cases hd
        left
        rw [if_pos hp]
        exact (testBit_one_shiftLeft i _).2 rfl
      | succ k => exact .inr ⟨k, d, by omega, hd, hp⟩

theorem testBit_looksWhere (l : Look) (i : Nat) (before : Option Char) (cs : List Char) :
    (looksWhere l i before cs).testBit j = true ↔
      ∃ k, j = i + k ∧ k ≤ cs.length ∧ l.holds (if k = 0 then before else cs[k - 1]?) cs[k]? = true := by
  induction cs generalizing i before with
  | nil =>
    rw [looksWhere]
    constructor
    · intro h
      split at h
      · next hl => exact ⟨0, (testBit_one_shiftLeft i j).1 h, Nat.le_refl _, hl⟩
      · rw [Nat.zero_testBit] at h; cases h
    · rintro ⟨k, rfl, hk, hl⟩
      obtain rfl := Nat.le_zero.1 hk
      rw [if_pos (by simpa using hl)]
      exact (testBit_one_shiftLeft i _).2 rfl
  | cons c cs ih =>
    rw [looksWhere, testBit_or_iff, ih]
    constructor
    · rintro (h | ⟨k, rfl, hk, hl⟩)
      · split at h
        · next hl => exact ⟨0, (testBit_one_shiftLeft i j).1 h, Nat.zero_le _, hl⟩
        · rw [Nat.zero_testBit] at h; cases h
      · refine ⟨k + 1, by omega, Nat.succ_le_succ hk, ?_⟩
        cases k <;> exact hl
    · rintro ⟨k, rfl, hk, hl⟩
      cases k with
      | zero =>
        left
        rw [if_pos (by simpa using hl)]
        exact (testBit_one_shiftLeft i _).2 rfl
      | succ k =>
        refine .inr ⟨k, by omega, Nat.le_of_succ_le_succ hk, ?_⟩
        cases k <;> exact hl

/-! ## Plans -/

theorem advances_set (chars : Unicode.Ranges) (ascii : Bool) :
    Advances text (fun m => (m &&& charsWhere chars.contains 0 text) <<< 1) (.set chars ascii) := by
  intro m _ j
  rw [Nat.testBit_shiftLeft, Bool.and_eq_true, decide_eq_true_eq, Nat.testBit_and, Bool.and_eq_true, testBit_charsWhere]
  constructor
  · rintro ⟨hj, hm, k, c, hk, hc, hmem⟩
    obtain rfl : j = k + 1 := by omega
    refine ⟨k, ?_, .set hc hmem⟩
    rwa [Nat.add_sub_cancel] at hm
  · rintro ⟨i, hm, h⟩
    cases h with
    | set hc hmem => exact ⟨by omega, hm, i, _, (Nat.zero_add i).symm, hc, hmem⟩

theorem advances_look (l : Look) : Advances text (fun m => m &&& looksWhere l 0 none text) (.look l) := by
  intro m _ j
  rw [Nat.testBit_and, Bool.and_eq_true, testBit_looksWhere]
  constructor
  · rintro ⟨hm, k, hk, hlength, hl⟩
    obtain rfl : j = k := by omega
    exact ⟨j, hm, .look hlength hl⟩
  · rintro ⟨i, hm, h⟩
    cases h with
    | look hlength hl => exact ⟨hm, j, (Nat.zero_add j).symm, hlength, hl⟩

section

variable {f g : Nat → Nat}

theorem Advances.cat (hf : Advances text f r) (hg : Advances text g s) :
    Advances text (fun m => g (f m)) (.cat r s) := by
  intro m hm j
  rw [hg (hf.lt hm) j]
  constructor
  · rintro ⟨k, hk, h⟩
    obtain ⟨i, hi, h'⟩ := (hf hm k).1 hk
    exact ⟨i, hi, .cat h' h⟩
  · rintro ⟨i, hi, h⟩
    cases h with
    | cat hr hs => exact ⟨_, (hf hm _).2 ⟨i, hi, hr⟩, hs⟩

theorem Advances.alt (hf : Advances text f r) (hg : Advances text g s) :
    Advances text (fun m => f m ||| g m) (.alt r s) := by
  intro m hm j
  rw [testBit_or_iff, hf hm j, hg hm j]
  constructor
  · rintro (⟨i, hi, h⟩ | ⟨i, hi, h⟩)
    · exact ⟨i, hi, .altLeft h⟩
    · exact ⟨i, hi, .altRight h⟩
  · rintro ⟨i, hi, h⟩
    cases h with
    | altLeft h => exact .inl ⟨i, hi, h⟩
    | altRight h => exact .inr ⟨i, hi, h⟩

/-- What is spread from the positions after `min` matches is what more matches reach. -/
theorem Advances.repeat (hf : Advances text f r) {min rounds : Nat} {max : Option Nat} {greedy : Bool}
    (hsound : ∀ k, k ≤ rounds → ∀ m, max = some m → min + k ≤ m)
    (hcomplete : ∀ k, (∀ m, max = some m → min + k ≤ m) → k ≤ rounds ∨ text.length + 1 ≤ rounds) :
    Advances text (fun m => spread f rounds (times f min m) (times f min m)) (.repeat r min max greedy) := by
  intro m hm j
  have hstart : times f min m < 2 ^ (text.length + 1) := by
    rw [times_eq_iterate]
    exact hf.iterate_lt hm
  have hbit : ∀ i, (times f min m).testBit i = true ↔ ∃ i₀, m.testBit i₀ = true ∧ Times text r min i₀ i := by
    rw [times_eq_iterate]
    exact hf.testBit_iterate hm
  constructor
  · intro h
    obtain ⟨i, k, hi, hk, htimes⟩ := (Frontier.start hstart).exists_times_of_spread hf h
    obtain ⟨i₀, hi₀, htimes₀⟩ := (hbit i).1 hi
    exact ⟨i₀, hi₀, .repeat (htimes₀.append htimes) (Nat.le_add_right _ _) (hsound k hk)⟩
  · rintro ⟨i₀, hi₀, h⟩
    obtain ⟨n, h, hmin, hmax⟩ := h.exists_times
    obtain ⟨k, rfl⟩ := Nat.exists_eq_add_of_le hmin
    obtain ⟨i, htimes₀, htimes⟩ := h.split
    exact (Frontier.start hstart).testBit_spread_of_times hf ((hbit i).2 ⟨i₀, hi₀, htimes₀⟩) htimes
      ((hcomplete k hmax).imp_right (card_missing_le text _).trans)

end

/-- From the positions where a match may begin, a plan comes to those where one ends. -/
theorem advances_plan : ∀ {r : Regex}, r.Bounded → Advances text ((plan text r).ends (text.length + 1)) r
  | .empty, _ => by
    intro m hm j
    constructor
    · exact fun h => ⟨j, h, .empty (le_length_of_testBit hm h)⟩
    · rintro ⟨i, hi, h⟩
      cases h
      exact hi
  | .set chars ascii, _ => advances_set chars ascii
  | .look l, _ => advances_look l
  | .cat _ _, h => (advances_plan h.1).cat (advances_plan h.2)
  | .alt _ _, h => (advances_plan h.1).alt (advances_plan h.2)
  | .repeat _ min none _, h =>
    (advances_plan h.1).repeat (fun _ _ _ hm => nomatch hm) fun _ _ => .inr (Nat.le_refl _)
  | .repeat _ min (some max) _, h => by
    have hmin := h.2 max rfl
    refine (advances_plan h.1).repeat (fun k hk m hm => ?_) fun k hk => ?_
    · cases hm
      have hle : k ≤ max - min := hk.trans (Nat.min_le_left _ _)
      omega
    · have hmax := hk max rfl
      rcases Nat.le_total (max - min) (text.length + 1) with hle | hle
      · exact .inl (Nat.le_min.2 ⟨by omega, by omega⟩)
      · exact .inr (Nat.le_min.2 ⟨hle, Nat.le_refl _⟩)
  | .group r, h => by
    have hf : Advances text ((plan text r).ends (text.length + 1)) r := advances_plan (r := r) h
    intro m hm j
    refine (hf hm j).trans ?_
    constructor
    · rintro ⟨i, hi, hr⟩
      exact ⟨i, hi, .group hr⟩
    · rintro ⟨i, hi, hr⟩
      cases hr with
      | group hr => exact ⟨i, hi, hr⟩

/-- The matcher answers whether some stretch of the text is matched. -/
theorem search_eq_true_iff (hr : r.Bounded) : search r text = true ↔ Found text r := by
  have hall : ∀ i, ((1 <<< (text.length + 1)) - 1).testBit i = true ↔ i ≤ text.length := fun i => by
    rw [Nat.one_shiftLeft, Nat.testBit_two_pow_sub_one, decide_eq_true_eq]
    exact Nat.lt_succ_iff
  have hbit := advances_plan hr (lt_of_testBit fun i => (hall i).1)
  unfold search
  rw [bne_iff_ne]
  constructor
  · intro h
    obtain ⟨j, hj⟩ := Nat.exists_testBit_of_ne_zero h
    obtain ⟨i, -, h⟩ := (hbit j).1 hj
    exact ⟨i, j, h⟩
  · rintro ⟨i, j, h⟩ hzero
    have hj := (hbit j).2 ⟨i, (hall i).2 h.le_length.1, h⟩
    rw [hzero, Nat.zero_testBit] at hj
    cases hj

end BudgetRules.Regex
