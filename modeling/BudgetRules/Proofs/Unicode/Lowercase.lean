import BudgetRules.Unicode.Lowercase
import Mathlib.Data.List.Forall2

/-!
# Lower case, piece by piece

Every character has one lower-case form, but for the capital sigma, which has another where it ends a word.  So the
lower-case form of a text is that of its pieces one after the other, as long as the capital sigmas of a piece end
words in the text just where they do in the piece:

    lowercase (p ++ v ++ s) = lowerAmid [] p (v ++ s) ++ lowerAmid p.reverse v s ++ …           (lowercase_append)
    lowerAmid p.reverse v s = lowercase v ↔ KeepsSigmas p v s                       (lowerAmid_eq_lowercase_iff)

Whether a sigma ends a word hangs on the cased letters around it.  The case of the letters of ASCII has no part in this:
in either case they are cased letters, and no search for one passes over them.

    List.Forall₂ Recased cs ds → lowercase cs = lowercase ds                                     (lowercase_recased)
-/

namespace BudgetRules.Unicode

/-! ## The capital sigma -/

/-- The first character is passed over or decides. -/
theorem casedAfterIgnorable_cons (c : Char) (cs : List Char) :
    casedAfterIgnorable (c :: cs) =
      if caseIgnorableRanges.contains c.toNat then casedAfterIgnorable cs else casedRanges.contains c.toNat := by
  rw [casedAfterIgnorable, casedAfterIgnorable, List.dropWhile_cons]
  -- the two cases of a look-up that must not be carried out: evaluation would read the whole table
  by_cases h : caseIgnorableRanges.contains c.toNat = true
  · rw [if_pos h, if_pos h]
  · rw [if_neg h, if_neg h]

/-- Does a sigma end a word, given the characters before it, nearest first, and those after it? -/
def endsWord (before after : List Char) : Bool := casedAfterIgnorable before && !casedAfterIgnorable after

theorem lowerIn_sigma (before after : List Char) :
    lowerIn before 'Σ' after = [if endsWord before after then 'ς' else 'σ'] := by
  unfold lowerIn endsWord
  rw [if_neg (by decide), if_pos (by decide)]
  cases casedAfterIgnorable before && !casedAfterIgnorable after <;> rfl

/-- What stands around a character is of no account unless it is a capital sigma. -/
theorem lowerIn_of_ne {c : Char} (h : c ≠ 'Σ') (before before' after after' : List Char) :
    lowerIn before c after = lowerIn before' c after' := by
  have hn : c.toNat ≠ 0x3a3 := fun he => h (Char.toNat_inj.1 he)
  unfold lowerIn
  rw [if_neg hn, if_neg hn]

theorem length_lowerIn (before before' : List Char) (c : Char) (after after' : List Char) :
    (lowerIn before c after).length = (lowerIn before' c after').length := by
  by_cases h : c = 'Σ'
  · rw [h, lowerIn_sigma, lowerIn_sigma]
    rfl
  · rw [lowerIn_of_ne h before before' after after']

/-- The forms of a character in two places are the same if it ends a word in both, in case it is a capital sigma. -/
theorem lowerIn_eq_iff {before before' : List Char} {c : Char} {after after' : List Char} :
    lowerIn before c after = lowerIn before' c after' ↔
      (c = 'Σ' → endsWord before after = endsWord before' after') := by
  by_cases h : c = 'Σ'
  · subst h
    rw [lowerIn_sigma, lowerIn_sigma]
    cases endsWord before after <;> cases endsWord before' after' <;> simp
  · exact iff_of_true (lowerIn_of_ne h ..) fun he => absurd he h

/-! ## Pieces of a text -/

/-- The lower-case form of a piece of a text, given what stands before the piece, nearest first, and what stands
after it. -/
def lowerAmid (before : List Char) : List Char → List Char → List Char
  | [], _ => []
  | c :: rest, after => lowerIn before c (rest ++ after) ++ lowerAmid (c :: before) rest after

theorem lowerFrom_append (before cs after : List Char) :
    lowerFrom before (cs ++ after) = lowerAmid before cs after ++ lowerFrom (cs.reverse ++ before) after := by
  induction cs generalizing before with
  | nil => rfl
  | cons c rest ih =>
    rw [List.cons_append, lowerFrom, ih, lowerAmid, List.append_assoc, List.reverse_cons, List.append_assoc]
    rfl

theorem lowercase_eq_lowerAmid (cs : List Char) : lowercase cs = lowerAmid [] cs [] := by
  have h := lowerFrom_append [] cs []
  rwa [List.append_nil, lowerFrom, List.append_nil] at h

/-- The lower-case form of a text in three pieces. -/
theorem lowercase_append (p v s : List Char) :
    lowercase (p ++ v ++ s) =
      lowerAmid [] p (v ++ s) ++ lowerAmid p.reverse v s ++ lowerFrom (v.reverse ++ p.reverse) s := by
  unfold lowercase
  rw [List.append_assoc, lowerFrom_append, lowerFrom_append, List.append_nil, List.append_assoc]

theorem length_lowerAmid (before before' cs after after' : List Char) :
    (lowerAmid before cs after).length = (lowerAmid before' cs after').length := by
  induction cs generalizing before before' with
  | nil => rfl
  | cons c rest ih =>
    rw [lowerAmid, lowerAmid, List.length_append, List.length_append, ih (c :: before) (c :: before'),
      length_lowerIn before before']

theorem length_lowerAmid_lowercase (before cs after : List Char) :
    (lowerAmid before cs after).length = (lowercase cs).length := by
  rw [lowercase_eq_lowerAmid]
  exact length_lowerAmid ..

/-- Every capital sigma of a text ends a word between two others just if it does in the text alone. -/
def KeepsSigmas (p v s : List Char) : Prop :=
  ∀ x y, v = x ++ 'Σ' :: y → endsWord (p ++ x).reverse (y ++ s) = endsWord x.reverse y

/-- A piece has the same form in two places if its capital sigmas end words in both alike. -/
theorem lowerAmid_eq_iff {before before' cs after after' : List Char} :
    lowerAmid before cs after = lowerAmid before' cs after' ↔
      ∀ x y, cs = x ++ 'Σ' :: y →
        endsWord (x.reverse ++ before) (y ++ after) = endsWord (x.reverse ++ before') (y ++ after') := by
  induction cs generalizing before before' with
  | nil =>
    refine iff_of_true rfl fun x y h => ?_
    cases x <;> cases h
  | cons c rest ih =>
    have happend : lowerAmid before (c :: rest) after = lowerAmid before' (c :: rest) after' ↔
        lowerIn before c (rest ++ after) = lowerIn before' c (rest ++ after') ∧
          lowerAmid (c :: before) rest after = lowerAmid (c :: before') rest after' := by
      rw [lowerAmid, lowerAmid]
      exact ⟨fun h => List.append_inj h (length_lowerIn ..), fun h => by rw [h.1, h.2]⟩
    rw [happend, lowerIn_eq_iff, ih]
    -- a sigma is the first character, with no `x` before it, or one of the rest, with `c` at the head of `x`
    constructor
    · rintro ⟨hfirst, hrest⟩ x y h
      cases x with
      | nil =>
        obtain ⟨rfl, rfl⟩ := List.cons.inj h
        exact hfirst rfl
      | cons d x =>
        obtain ⟨rfl, rfl⟩ := List.cons.inj h
        rw [List.reverse_cons, List.append_assoc, List.append_assoc]
        exact hrest x y rfl
    · intro h
      refine ⟨fun hc => h [] rest (by rw [hc]; rfl), fun x y hxy => ?_⟩
      have hcons := h (c :: x) y (by rw [hxy]; rfl)
      rwa [List.reverse_cons, List.append_assoc, List.append_assoc] at hcons

theorem lowerAmid_eq_lowercase_iff {p v s : List Char} :
    lowerAmid p.reverse v s = lowercase v ↔ KeepsSigmas p v s := by
  rw [lowercase_eq_lowerAmid, lowerAmid_eq_iff]
  refine forall_congr' fun x => forall_congr' fun y => forall_congr' fun _ => ?_
  rw [List.reverse_append, List.append_nil, List.append_nil]

/-! ## Texts that keep their sigmas -/

theorem keepsSigmas_of_notMem {v : List Char} (h : 'Σ' ∉ v) (p s : List Char) : KeepsSigmas p v s := by
  rintro x y rfl
  exact absurd (List.mem_append_right x List.mem_cons_self) h

/-- What cased letter is found in a text does not hang on another text behind it in which none is found. -/
theorem casedAfterIgnorable_append {cs : List Char} (h : casedAfterIgnorable cs = false) (ds : List Char) :
    casedAfterIgnorable (ds ++ cs) = casedAfterIgnorable ds := by
  induction ds with
  | nil => exact h
  | cons d rest ih => rw [List.cons_append, casedAfterIgnorable_cons, casedAfterIgnorable_cons, ih]

/-- A text keeps its sigmas where no word goes on at either end of it. -/
theorem keepsSigmas_of_wholeWords {p s : List Char} (hp : casedAfterIgnorable p.reverse = false)
    (hs : casedAfterIgnorable s = false) (v : List Char) : KeepsSigmas p v s := by
  intro x y _
  unfold endsWord
  rw [List.reverse_append, casedAfterIgnorable_append hp, casedAfterIgnorable_append hs]

/-- At the start of a text, a part of it is looked for with success if it keeps its sigmas. -/
theorem lowercase_prefix_append_iff {v s : List Char} :
    lowercase v <+: lowercase (v ++ s) ↔ KeepsSigmas [] v s := by
  have hsplit : lowercase (v ++ s) = lowerAmid [] v s ++ lowerFrom v.reverse s := by
    rw [lowercase, lowerFrom_append, List.append_nil]
  rw [hsplit, ← lowerAmid_eq_lowercase_iff, List.reverse_nil]
  constructor
  · rintro ⟨rest, hrest⟩
    exact (List.append_inj hrest (length_lowerAmid_lowercase ..).symm).1.symm
  · intro h
    rw [h]
    exact List.prefix_append ..

/-- And so it is at the end. -/
theorem lowercase_suffix_append_iff {p v : List Char} :
    lowercase v <:+ lowercase (p ++ v) ↔ KeepsSigmas p v [] := by
  have hsplit : lowercase (p ++ v) = lowerAmid [] p v ++ lowerAmid p.reverse v [] := by
    have h := lowercase_append p v []
    rwa [lowerFrom, List.append_nil, List.append_nil, List.append_nil] at h
  rw [hsplit, ← lowerAmid_eq_lowercase_iff]
  constructor
  · rintro ⟨first, hfirst⟩
    exact (List.append_inj' hfirst (length_lowerAmid_lowercase ..).symm).2.symm
  · intro h
    rw [h]
    exact List.suffix_append ..

/-- In between it may be found in another place too. -/
theorem lowercase_infix_append {p v s : List Char} (h : KeepsSigmas p v s) :
    lowercase v <:+: lowercase (p ++ v ++ s) := by
  rw [lowercase_append, lowerAmid_eq_lowercase_iff.2 h]
  exact List.infix_append ..

/-! ## Letters in the tables -/

/-- Letters that the tables know as any reader does: those of ASCII and the capitals of Greek. -/
def plainLetters : Ranges := ⟨[(0x41, 0x5a), (0x61, 0x7a), (0x391, 0x3a1), (0x3a3, 0x3a9)]⟩

theorem Ranges.ofHex_ofList (cs : List Char) :
    ofHex (String.ofList cs) = ⟨((cs.splitOnP (·.isWhitespace)).filter (· ≠ [])).map run⟩ := by
  rw [ofHex, String.toList_ofList]

-- The kernel does not get through the bytes of a long text, but through the list of its characters it does: hence
-- the rewriting before each evaluation of a table.

set_option maxRecDepth 20000 in
theorem plainLetters_within_cased :
    (plainLetters.runs.all fun q => casedRanges.runs.any fun p => p.1 ≤ q.1 && q.2 ≤ p.2) = true := by
  rw [casedRanges, Ranges.ofHex_ofList]
  decide +kernel

set_option maxRecDepth 20000 in
theorem plainLetters_apart_caseIgnorable :
    (plainLetters.runs.all fun q => caseIgnorableRanges.runs.all fun p => p.2 < q.1 || q.2 < p.1) = true := by
  rw [caseIgnorableRanges, Ranges.ofHex_ofList]
  decide +kernel

theorem cased_of_plain {n : Nat} (h : plainLetters.contains n = true) : casedRanges.contains n = true := by
  obtain ⟨q, hq, hn⟩ := Ranges.contains_eq_true_iff.1 h
  obtain ⟨p, hp, hwithin⟩ := List.any_eq_true.1 (List.all_eq_true.1 plainLetters_within_cased q hq)
  simp only [Bool.and_eq_true, decide_eq_true_eq] at hwithin
  exact Ranges.contains_eq_true_iff.2 ⟨p, hp, by omega⟩

theorem caseIgnorable_of_plain {n : Nat} (h : plainLetters.contains n = true) :
    caseIgnorableRanges.contains n = false := by
  obtain ⟨q, hq, hn⟩ := Ranges.contains_eq_true_iff.1 h
  rw [Bool.eq_false_iff, Ne, Ranges.contains_eq_true_iff]
  rintro ⟨p, hp, hmem⟩
  have hapart := List.all_eq_true.1 (List.all_eq_true.1 plainLetters_apart_caseIgnorable q hq) p hp
  simp only [Bool.or_eq_true, decide_eq_true_eq] at hapart
  omega

/-- The search for a cased letter ends at a plain one. -/
theorem casedAfterIgnorable_of_plain {c : Char} (h : plainLetters.contains c.toNat = true) (cs : List Char) :
    casedAfterIgnorable (c :: cs) = true := by
  rw [casedAfterIgnorable_cons, caseIgnorable_of_plain h, cased_of_plain h]
  rfl

set_option maxRecDepth 20000 in
/-- A word does not go on beyond a blank. -/
theorem casedAfterIgnorable_blank (cs : List Char) : casedAfterIgnorable (' ' :: cs) = false := by
  have hignorable : caseIgnorableRanges.contains ' '.toNat = false := by
    rw [caseIgnorableRanges, Ranges.ofHex_ofList]
    decide +kernel
  have hcased : casedRanges.contains ' '.toNat = false := by
    rw [casedRanges, Ranges.ofHex_ofList]
    decide +kernel
  rw [casedAfterIgnorable_cons, hignorable, hcased]
  rfl

/-! ## The letters of ASCII -/

theorem isAlpha_iff {c : Char} :
    c.isAlpha = true ↔ (0x41 ≤ c.toNat ∧ c.toNat ≤ 0x5a) ∨ (0x61 ≤ c.toNat ∧ c.toNat ≤ 0x7a) := by
  have hupper : c.isUpper = true ↔ 0x41 ≤ c.toNat ∧ c.toNat ≤ 0x5a := decide_eq_true_iff
  have hlower : c.isLower = true ↔ 0x61 ≤ c.toNat ∧ c.toNat ≤ 0x7a := by
    change (decide ('a'.val ≤ c.val) && decide (c.val ≤ 'z'.val)) = true ↔ _
    rw [Bool.and_eq_true, decide_eq_true_eq, decide_eq_true_eq]
    exact Iff.rfl
  change (c.isUpper || c.isLower) = true ↔ _
  rw [Bool.or_eq_true, hupper, hlower]

theorem plain_of_isAlpha {c : Char} (h : c.isAlpha = true) : plainLetters.contains c.toNat = true := by
  refine Ranges.contains_eq_true_iff.2 ?_
  rcases isAlpha_iff.1 h with hc | hc
  · exact ⟨(0x41, 0x5a), by decide, hc⟩
  · exact ⟨(0x61, 0x7a), by decide, hc⟩

theorem lowerIn_of_ascii {c : Char} (h : c.toNat < 128) (before after : List Char) :
    lowerIn before c after = [c.toLower] := by
  unfold lowerIn lowerChar
  rw [if_neg (by omega), if_neg (by omega), if_pos h]

theorem lowerIn_of_isAlpha {c : Char} (h : c.isAlpha = true) (before after : List Char) :
    lowerIn before c after = [c.toLower] := by
  have hc := isAlpha_iff.1 h
  exact lowerIn_of_ascii (by omega) before after

theorem lowercase_of_ascii {cs : List Char} (h : ∀ c ∈ cs, c.toNat < 128) : lowercase cs = cs.map Char.toLower := by
  have hfrom : ∀ before, lowerFrom before cs = cs.map Char.toLower := by
    induction cs with
    | nil => exact fun _ => rfl
    | cons c rest ih =>
      intro before
      obtain ⟨hc, hrest⟩ := List.forall_mem_cons.1 h
      rw [lowerFrom, lowerIn_of_ascii hc, ih hrest]
      rfl
  exact hfrom []

/-- The same character, or the same letter of ASCII in one case or the other. -/
def Recased (c d : Char) : Prop := c = d ∨ c.isAlpha = true ∧ d.isAlpha = true ∧ c.toLower = d.toLower

instance (c d : Char) : Decidable (Recased c d) :=
  inferInstanceAs (Decidable (c = d ∨ c.isAlpha = true ∧ d.isAlpha = true ∧ c.toLower = d.toLower))

/-- The case of letters of ASCII is nothing to the search for a cased letter. -/
theorem casedAfterIgnorable_recased {cs ds : List Char} (h : List.Forall₂ Recased cs ds) :
    casedAfterIgnorable cs = casedAfterIgnorable ds := by
  induction h with
  | nil => rfl
  | cons hcd _ ih =>
    rcases hcd with rfl | ⟨hc, hd, -⟩
    · rw [casedAfterIgnorable_cons, casedAfterIgnorable_cons, ih]
    · rw [casedAfterIgnorable_of_plain (plain_of_isAlpha hc), casedAfterIgnorable_of_plain (plain_of_isAlpha hd)]

theorem lowerIn_recased {before before' after after' : List Char} {c d : Char}
    (hbefore : List.Forall₂ Recased before before') (hcd : Recased c d)
    (hafter : List.Forall₂ Recased after after') : lowerIn before c after = lowerIn before' d after' := by
  rcases hcd with rfl | ⟨hc, hd, hlower⟩
  · refine lowerIn_eq_iff.2 fun _ => ?_
    unfold endsWord
    rw [casedAfterIgnorable_recased hbefore, casedAfterIgnorable_recased hafter]
  · rw [lowerIn_of_isAlpha hc, lowerIn_of_isAlpha hd, hlower]

theorem lowerFrom_recased {before before' cs ds : List Char} (hbefore : List.Forall₂ Recased before before')
    (h : List.Forall₂ Recased cs ds) : lowerFrom before cs = lowerFrom before' ds := by
  induction h generalizing before before' with
  | nil => rfl
  | cons hcd hrest ih => rw [lowerFrom, lowerFrom, lowerIn_recased hbefore hcd hrest, ih (.cons hcd hbefore)]

theorem lowercase_recased {cs ds : List Char} (h : List.Forall₂ Recased cs ds) : lowercase cs = lowercase ds :=
  lowerFrom_recased .nil h

end BudgetRules.Unicode
