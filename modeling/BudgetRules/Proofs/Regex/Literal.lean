import BudgetRules.Proofs.Regex.Search
import BudgetRules.Proofs.Unicode.Lowercase
import BudgetRules.Regex.Meaning

/-!
# Patterns of letters, digits and blanks

A pattern without special characters is read as its characters one after the other, with a caret for the start of the
text and a dollar for its end.  In a text of ASCII a letter matches itself in either case, and the Kelvin sign and the
long s, which are in the orbits of k and s, do not occur there:

    (closeUnder caseOrbits (.single c.toNat)).contains d.toNat = true ↔ c.toLower = d.toLower   (contains_caseOrbit_iff)
    Plain v → Ascii text → (Found text (row (v.map itemRegex)) ↔ lowered v <:+: lowered text)           (found_plain_iff)
-/

namespace BudgetRules.Regex

open Unicode

/-! ## Reading -/

/-- Characters that begin something else than an item of one character. -/
def openers : List Char := [')', '|', '[', '?', '*', '+', '{', '(', '\\', '.']

/-- What a character that begins nothing else is read as. -/
def item (c : Char) : Pattern :=
  if c = '^' then .assertion .caret else if c = '$' then .assertion .dollar else .literal ⟨c, false⟩

theorem primitive_item {c : Char} (hc : c ∉ openers) (cs : List Char) :
    ∃ p, primitive false (c :: cs) = some (p, cs) ∧ p.pattern = item c := by
  simp only [openers, List.mem_cons, List.not_mem_nil, or_false, not_or] at hc
  rw [primitive, if_neg hc.2.2.2.2.2.2.2.2.1, if_neg hc.2.2.2.2.2.2.2.2.2, item]
  split
  · exact ⟨_, rfl, rfl⟩
  · split
    · exact ⟨_, rfl, rfl⟩
    · exact ⟨_, rfl, rfl⟩

theorem choice_item {c : Char} (hc : c ∉ openers) (fuel : Nat) (choices items : List Pattern) (names : List String)
    (cs : List Char) :
    choice (fuel + 1) choices items ⟨false, names, c :: cs⟩ =
      choice fuel choices (item c :: items) ⟨false, names, cs⟩ := by
  obtain ⟨p, hp, hitem⟩ := primitive_item hc cs
  simp only [openers, List.mem_cons, List.not_mem_nil, or_false, not_or] at hc
  obtain ⟨h1, h2, h3, h4, h5, h6, h7, h8, -, -⟩ := hc
  rw [choice]
  simp only [space, Bool.false_eq_true, if_false, h1, h2, h3, h4, h5, h6, h7, h8, or_self, hp]
  rw [← hitem]
  rfl

theorem choice_items {cs : List Char} (h : ∀ c ∈ cs, c ∉ openers) (items : List Pattern) (names : List String) :
    choice (cs.length + 1) [] items ⟨false, names, cs⟩ =
      some (.ofItems (items.reverse ++ cs.map item), ⟨false, names, []⟩) := by
  induction cs generalizing items with
  | nil =>
    rw [List.map_nil, List.append_nil]
    rfl
  | cons c rest ih =>
    obtain ⟨hc, hrest⟩ := List.forall_mem_cons.1 h
    rw [List.length_cons, choice_item hc, ih hrest, List.reverse_cons, List.append_assoc]
    rfl

theorem depth_item (c : Char) : (item c).depth = 0 := by
  unfold item
  split
  · rfl
  · split <;> rfl

theorem depth_ofItems (cs : List Char) : (Pattern.ofItems (cs.map item)).depth ≤ 1 := by
  have hall : Pattern.depthAll (cs.map item) = 0 := by
    induction cs with
    | nil => rfl
    | cons c rest ih => rw [List.map_cons, Pattern.depthAll, ih, depth_item]; rfl
  cases cs with
  | nil => exact Nat.zero_le 1
  | cons c rest =>
    cases rest with
    | nil => exact (depth_item c).trans_le (Nat.zero_le 1)
    | cons d rest =>
      show Pattern.depthAll ((c :: d :: rest).map item) + 1 ≤ 1
      rw [hall]

theorem read?_items {cs : List Char} (h : ∀ c ∈ cs, c ∉ openers) :
    Pattern.read? cs = some (.ofItems (cs.map item)) := by
  have hdepth : (Pattern.ofItems (cs.map item)).depth ≤ depthLimit := (depth_ofItems cs).trans (by decide)
  unfold Pattern.read?
  rw [choice_items h]
  exact if_pos ⟨rfl, hdepth⟩

/-! ## Meaning -/

/-- Expressions one after the other. -/
def row : List Regex → Regex
  | [] => .empty
  | r :: rest => .cat r (row rest)

/-- What a character that begins nothing else means. -/
def itemRegex (c : Char) : Regex :=
  if c = '^' then .look .textStart else if c = '$' then .look .textEnd
  else .set (closeUnder caseOrbits (.single c.toNat)) false

theorem interpret_item (c : Char) : (item c).interpret .start = some (itemRegex c, .start) := by
  unfold item itemRegex
  split
  · rfl
  · split <;> rfl

theorem interpretSequence_items (cs : List Char) :
    Pattern.interpretSequence .start (cs.map item) = some (row (cs.map itemRegex), .start) := by
  induction cs with
  | nil => rfl
  | cons c rest ih =>
    rw [List.map_cons, Pattern.interpretSequence, interpret_item]
    show (Pattern.interpretSequence .start (rest.map item)).bind _ = _
    rw [ih]
    rfl

variable {text : List Char} {i j : Nat}

theorem matches_cat_empty_iff {r : Regex} : Matches text (.cat r .empty) i j ↔ Matches text r i j := by
  constructor
  · intro h
    cases h with
    | cat hr hs =>
      cases hs
      exact hr
  · exact fun h => .cat h (.empty h.le_length.2)

theorem bounded_itemRegex (c : Char) : (itemRegex c).Bounded := by
  unfold itemRegex
  split
  · trivial
  · split <;> trivial

theorem bounded_row (cs : List Char) : (row (cs.map itemRegex)).Bounded := by
  induction cs with
  | nil => trivial
  | cons c rest ih => exact ⟨bounded_itemRegex c, ih⟩

/-- A single item is not made a sequence of one, but matches the same. -/
theorem interpret_ofItems (cs : List Char) :
    ∃ r, (Pattern.ofItems (cs.map item)).interpret .start = some (r, .start) ∧ r.Bounded ∧
      ∀ text i j, Matches text r i j ↔ Matches text (row (cs.map itemRegex)) i j := by
  cases cs with
  | nil => exact ⟨.empty, rfl, trivial, fun _ _ _ => Iff.rfl⟩
  | cons c rest =>
    cases rest with
    | nil => exact ⟨itemRegex c, interpret_item c, bounded_itemRegex c, fun _ _ _ => matches_cat_empty_iff.symm⟩
    | cons d rest =>
      exact ⟨_, interpretSequence_items (c :: d :: rest), bounded_row _, fun _ _ _ => Iff.rfl⟩

/-- A pattern of characters that begin nothing else, if it is accepted, is found where what they mean is found one
after the other. -/
theorem search_items {cs : List Char} (h : ∀ c ∈ cs, c ∉ openers) {r : Regex} (hr : ofText? cs = some r)
    (text : List Char) : r.search text = true ↔ Found text (row (cs.map itemRegex)) := by
  obtain ⟨r', hinterpret, hbounded, hmatches⟩ := interpret_ofItems cs
  have hsame : r = r' := by
    unfold ofText? at hr
    rw [read?_items h] at hr
    simp only [Option.bind_eq_bind, Option.bind_some, Pattern.regex?, hinterpret, Option.map_some] at hr
    split at hr
    · exact (Option.some.inj hr).symm
    · cases hr
  rw [hsame, search_eq_true_iff hbounded]
  exact exists_congr fun i => exists_congr fun j => hmatches text i j

/-- Two items or more are accepted if their automata are small enough. -/
theorem ofText?_items {cs : List Char} (h : ∀ c ∈ cs, c ∉ openers) (hlength : 2 ≤ cs.length) :
    ofText? cs = if (row (cs.map itemRegex)).fits then some (row (cs.map itemRegex)) else none := by
  have hseveral : Pattern.ofItems (cs.map item) = .sequence (cs.map item) := by
    cases cs with
    | nil => cases hlength
    | cons c rest =>
      cases rest with
      | nil => exact absurd hlength (Nat.not_succ_le_self 1)
      | cons d rest => rfl
  have hregex : (Pattern.ofItems (cs.map item)).regex? = some (row (cs.map itemRegex)) := by
    rw [hseveral, Pattern.regex?, Pattern.interpret, interpretSequence_items]
    rfl
  unfold ofText?
  rw [read?_items h]
  simp only [Option.bind_eq_bind, Option.bind_some, hregex]

/-! ## Case -/

theorem contains_closeUnder {orbits : List (List Nat)} {r : Ranges} {n : Nat} :
    (closeUnder orbits r).contains n = true ↔
      r.contains n = true ∨ ∃ o ∈ orbits, (∃ m ∈ o, r.contains m = true) ∧ n ∈ o := by
  have hpoint : ∀ p : Nat × Nat, (p.1 ≤ n && n ≤ p.2) = true ↔ p.1 ≤ n ∧ n ≤ p.2 := fun p => by
    rw [Bool.and_eq_true, decide_eq_true_eq, decide_eq_true_eq]
  rw [closeUnder, Ranges.contains_ofRuns, List.any_append, Bool.or_eq_true]
  refine or_congr Iff.rfl ?_
  rw [List.any_eq_true]
  constructor
  · rintro ⟨p, hp, hn⟩
    obtain ⟨m, hm, rfl⟩ := List.mem_map.1 hp
    obtain ⟨o, ho, hmo⟩ := List.mem_flatten.1 hm
    obtain ⟨ho, hany⟩ := List.mem_filter.1 ho
    obtain ⟨hlow, hhigh⟩ := (hpoint (m, m)).1 hn
    obtain rfl : n = m := Nat.le_antisymm hhigh hlow
    exact ⟨o, ho, List.any_eq_true.1 hany, hmo⟩
  · rintro ⟨o, ho, hany, hn⟩
    have hmem : n ∈ (orbits.filter fun o => o.any r.contains).flatten :=
      List.mem_flatten.2 ⟨o, List.mem_filter.2 ⟨ho, List.any_eq_true.2 hany⟩, hn⟩
    exact ⟨(n, n), List.mem_map.2 ⟨n, hmem, rfl⟩, (hpoint (n, n)).2 ⟨Nat.le_refl n, Nat.le_refl n⟩⟩

/-- The orbits that have characters of ASCII in them. -/
theorem asciiOrbits_of_caseOrbits :
    (caseOrbits.filter fun o => o.any (· < 128)) = asciiOrbits ++ [[0x4b, 0x6b, 0x212a], [0x53, 0x73, 0x17f]] := by
  decide +kernel

theorem contains_single {m n : Nat} : (Ranges.single m).contains n = true ↔ n = m := by
  rw [Ranges.contains_eq_true_iff]
  constructor
  · rintro ⟨p, hp, hlow, hhigh⟩
    cases List.mem_singleton.1 hp
    exact Nat.le_antisymm hhigh hlow
  · rintro rfl
    exact ⟨(n, n), List.mem_singleton.2 rfl, Nat.le_refl n, Nat.le_refl n⟩

/-- Within ASCII the orbit of a character is the two cases of a letter. -/
theorem exists_orbit_iff {m n : Nat} (hm : m < 128) (hn : n < 128) :
    (∃ o ∈ caseOrbits, m ∈ o ∧ n ∈ o) ↔ ∃ i < 26, (m = 65 + i ∨ m = 97 + i) ∧ (n = 65 + i ∨ n = 97 + i) := by
  constructor
  · rintro ⟨o, ho, hmo, hno⟩
    have hascii : o ∈ asciiOrbits ++ [[0x4b, 0x6b, 0x212a], [0x53, 0x73, 0x17f]] := by
      rw [← asciiOrbits_of_caseOrbits]
      exact List.mem_filter.2 ⟨ho, List.any_eq_true.2 ⟨m, hmo, decide_eq_true hm⟩⟩
    rcases List.mem_append.1 hascii with hascii | hlarge
    · obtain ⟨i, hi, rfl⟩ := List.mem_map.1 hascii
      exact ⟨i, List.mem_range.1 hi, List.mem_pair.1 hmo, List.mem_pair.1 hno⟩
    · rcases List.mem_pair.1 hlarge with rfl | rfl
      · simp only [List.mem_cons, List.not_mem_nil, or_false] at hmo hno
        exact ⟨10, by omega, by omega, by omega⟩
      · simp only [List.mem_cons, List.not_mem_nil, or_false] at hmo hno
        exact ⟨18, by omega, by omega, by omega⟩
  · rintro ⟨i, hi, hmo, hno⟩
    have hmem : [65 + i, 97 + i] ∈ asciiOrbits := List.mem_map.2 ⟨i, List.mem_range.2 hi, rfl⟩
    exact ⟨_, List.mem_append_left _ (List.mem_append_left _ hmem), List.mem_pair.2 hmo, List.mem_pair.2 hno⟩

theorem toNat_toLower (c : Char) :
    c.toLower.toNat = if 65 ≤ c.toNat ∧ c.toNat ≤ 90 then c.toNat + 32 else c.toNat := by
  by_cases h : 65 ≤ c.toNat ∧ c.toNat ≤ 90
  · have hupper : c.val ≥ 'A'.val ∧ c.val ≤ 'Z'.val := h
    have hsum : (c.val + ('a'.val - 'A'.val)).toNat = (c.toNat + 32) % 2 ^ 32 := UInt32.toNat_add c.val 32
    have hlower : c.toLower.toNat = (c.val + ('a'.val - 'A'.val)).toNat :=
      congrArg Char.toNat (dif_pos hupper : c.toLower = _)
    rw [if_pos h, hlower, hsum]
    omega
  · have hupper : ¬(c.val ≥ 'A'.val ∧ c.val ≤ 'Z'.val) := h
    have hlower : c.toLower = c := dif_neg hupper
    rw [if_neg h, hlower]

/-- The set of a character whose orbit does not go below it. -/
theorem closeUnder_single (n : Nat) (runs : List (Nat × Nat))
    (horbits : ((caseOrbits.filter fun o => o.any (Ranges.single n).contains).flatten.map fun m => (m, m)) = runs)
    (hascending : ((n, n) :: runs).Pairwise fun p q => decide (p.1 ≤ q.1) = true) :
    closeUnder caseOrbits (.single n) = ⟨Ranges.join ((n, n) :: runs)⟩ := by
  rw [closeUnder, horbits]
  show Ranges.ofRuns ((n, n) :: runs) = _
  rw [Ranges.ofRuns, List.mergeSort_of_pairwise hascending]

/-- A character of ASCII is in the closed set of another one if it is the same but for its case. -/
theorem contains_caseOrbit_iff {c d : Char} (hc : c.toNat < 128) (hd : d.toNat < 128) :
    (closeUnder caseOrbits (.single c.toNat)).contains d.toNat = true ↔ c.toLower = d.toLower := by
  have horbit : (∃ o ∈ caseOrbits, (∃ m ∈ o, (Ranges.single c.toNat).contains m = true) ∧ d.toNat ∈ o) ↔
      ∃ o ∈ caseOrbits, c.toNat ∈ o ∧ d.toNat ∈ o := by
    simp only [contains_single, exists_eq_right]
  rw [contains_closeUnder, contains_single, horbit, exists_orbit_iff hc hd, ← Char.toNat_inj, toNat_toLower,
    toNat_toLower]
  constructor
  · rintro (h | ⟨i, hi, hm, hn⟩)
    · rw [h]
    · split <;> split <;> omega
  · intro h
    by_cases hsame : d.toNat = c.toNat
    · exact .inl hsame
    · right
      refine ⟨max c.toNat d.toNat - 97, ?_⟩
      split at h <;> split at h <;> omega

/-! ## Where letters are found -/

/-- An operand of letters and digits of ASCII and blanks. -/
def Plain (v : List Char) : Prop := ∀ c ∈ v, c.isAlphanum = true ∨ c = ' '

def Ascii (text : List Char) : Prop := ∀ c ∈ text, c.toNat < 128

instance (v : List Char) : Decidable (Plain v) := List.decidableBAll (fun c : Char => c.isAlphanum = true ∨ c = ' ') v

instance (text : List Char) : Decidable (Ascii text) := List.decidableBAll (fun c : Char => c.toNat < 128) text

/-- A text up to the case of the letters of ASCII. -/
def lowered (text : List Char) : List Char := text.map Char.toLower

theorem toNat_of_plain {c : Char} (h : c.isAlphanum = true ∨ c = ' ') :
    c.toNat = 32 ∨ (48 ≤ c.toNat ∧ c.toNat ≤ 57) ∨ (65 ≤ c.toNat ∧ c.toNat ≤ 90) ∨ (97 ≤ c.toNat ∧ c.toNat ≤ 122) := by
  rcases h with h | rfl
  · have hdigit : c.isDigit = true ↔ 48 ≤ c.toNat ∧ c.toNat ≤ 57 := by
      change (decide ('0'.val ≤ c.val) && decide (c.val ≤ '9'.val)) = true ↔ _
      rw [Bool.and_eq_true, decide_eq_true_eq, decide_eq_true_eq]
      exact Iff.rfl
    change (c.isAlpha || c.isDigit) = true at h
    rw [Bool.or_eq_true, isAlpha_iff, hdigit] at h
    omega
  · exact .inl rfl

theorem Plain.ascii {v : List Char} (h : Plain v) : Ascii v := fun c hc => by
  have := toNat_of_plain (h c hc)
  omega

theorem Plain.notMem_openers {v : List Char} (h : Plain v) : ∀ c ∈ v, c ∉ openers := by
  intro c hc hmem
  have hplain := toNat_of_plain (h c hc)
  simp only [openers, List.mem_cons, List.not_mem_nil, or_false] at hmem
  rcases hmem with rfl | rfl | rfl | rfl | rfl | rfl | rfl | rfl | rfl | rfl <;> revert hplain <;> decide

theorem notMem_openers_caret {cs : List Char} (h : ∀ c ∈ cs, c ∉ openers) : ∀ c ∈ '^' :: cs, c ∉ openers :=
  List.forall_mem_cons.2 ⟨by decide, h⟩

theorem notMem_openers_dollar {cs : List Char} (h : ∀ c ∈ cs, c ∉ openers) : ∀ c ∈ cs ++ ['$'], c ∉ openers :=
  List.forall_mem_append.2 ⟨h, List.forall_mem_singleton.2 (by decide)⟩

theorem itemRegex_of_plain {c : Char} (h : c.isAlphanum = true ∨ c = ' ') :
    itemRegex c = .set (closeUnder caseOrbits (.single c.toNat)) false := by
  have hplain := toNat_of_plain h
  have hcaret : c ≠ '^' := by rintro rfl; revert hplain; decide
  have hdollar : c ≠ '$' := by rintro rfl; revert hplain; decide
  rw [itemRegex, if_neg hcaret, if_neg hdollar]

theorem drop_of_getElem? {d : Char} (h : text[i]? = some d) : text.drop i = d :: text.drop (i + 1) := by
  obtain ⟨hi, rfl⟩ := List.getElem?_eq_some_iff.1 h
  exact List.drop_eq_getElem_cons hi

/-- A letter matches the same letter in either case. -/
theorem matches_letter_iff {c : Char} (hc : c.isAlphanum = true ∨ c = ' ') (htext : Ascii text) :
    Matches text (itemRegex c) i k ↔ k = i + 1 ∧ ∃ d, text[i]? = some d ∧ c.toLower = d.toLower := by
  have hascii : c.toNat < 128 := (Plain.ascii (List.forall_mem_singleton.2 hc)) c (List.mem_singleton.2 rfl)
  rw [itemRegex_of_plain hc]
  constructor
  · intro h
    cases h with
    | set hd hmem =>
      exact ⟨rfl, _, hd, (contains_caseOrbit_iff hascii (htext _ (List.mem_of_getElem? hd))).1 hmem⟩
  · rintro ⟨rfl, d, hd, hsame⟩
    exact .set hd ((contains_caseOrbit_iff hascii (htext d (List.mem_of_getElem? hd))).2 hsame)

theorem lowered_cons_prefix_iff {c : Char} {v : List Char} :
    lowered (c :: v) <+: lowered (text.drop i) ↔
      (∃ d, text[i]? = some d ∧ c.toLower = d.toLower) ∧ lowered v <+: lowered (text.drop (i + 1)) := by
  cases hd : text[i]? with
  | none =>
    rw [List.drop_eq_nil_of_le (List.getElem?_eq_none_iff.1 hd)]
    constructor
    · intro hbegins
      cases List.prefix_nil.1 hbegins
    · rintro ⟨⟨d, hd, -⟩, -⟩
      cases hd
  | some d =>
    rw [drop_of_getElem? hd, lowered, lowered, List.map_cons, List.map_cons, List.cons_prefix_cons]
    refine and_congr_left fun _ => ⟨fun hsame => ⟨d, rfl, hsame⟩, ?_⟩
    rintro ⟨_, ⟨⟩, hsame⟩
    exact hsame

/-- An operand matches where it stands in either case, and then what follows it matches behind it. -/
theorem matches_row_append_iff {v : List Char} (hv : Plain v) (htext : Ascii text) {rest : List Regex} :
    Matches text (row (v.map itemRegex ++ rest)) i j ↔
      lowered v <+: lowered (text.drop i) ∧ Matches text (row rest) (i + v.length) j := by
  induction v generalizing i with
  | nil =>
    constructor
    · exact fun h => ⟨List.nil_prefix, h⟩
    · exact fun h => h.2
  | cons c v ih =>
    obtain ⟨hc, hv'⟩ := List.forall_mem_cons.1 hv
    have hlength : i + (c :: v).length = i + 1 + v.length := by rw [List.length_cons]; omega
    rw [List.map_cons, List.cons_append, row, hlength, lowered_cons_prefix_iff]
    constructor
    · intro h
      cases h with
      | cat hr hs =>
        obtain ⟨rfl, hletter⟩ := (matches_letter_iff hc htext).1 hr
        obtain ⟨hbegins, hrest⟩ := (ih hv').1 hs
        exact ⟨⟨hletter, hbegins⟩, hrest⟩
    · rintro ⟨⟨hletter, hbegins⟩, hrest⟩
      exact .cat ((matches_letter_iff hc htext).2 ⟨rfl, hletter⟩) ((ih hv').2 ⟨hbegins, hrest⟩)

theorem matches_textStart_iff : Matches text (.look .textStart) i j ↔ i = 0 ∧ j = 0 := by
  constructor
  · intro h
    cases h with
    | look hi hl =>
      cases i with
      | zero => exact ⟨rfl, rfl⟩
      | succ i =>
        have hsome : before text (i + 1) = some text[i] := List.getElem?_eq_getElem (by omega)
        rw [hsome] at hl
        cases hl
  · rintro ⟨rfl, rfl⟩
    exact .look (Nat.zero_le _) rfl

theorem matches_textEnd_iff : Matches text (.look .textEnd) i j ↔ i = text.length ∧ j = text.length := by
  constructor
  · intro h
    cases h with
    | look hi hl =>
      have hnone : text[i]? = none := Option.isNone_iff_eq_none.1 hl
      have hlength := List.getElem?_eq_none_iff.1 hnone
      exact ⟨by omega, by omega⟩
  · rintro ⟨rfl, rfl⟩
    refine .look (Nat.le_refl _) ?_
    show (text[text.length]?).isNone = true
    rw [List.getElem?_eq_none (Nat.le_refl _)]
    rfl

theorem lowered_drop (i : Nat) (text : List Char) : lowered (text.drop i) = (lowered text).drop i := List.map_drop

theorem length_lowered (text : List Char) : (lowered text).length = text.length := List.length_map _

section

variable {v : List Char} (hv : Plain v) (htext : Ascii text)
include hv htext

theorem matches_plain_iff :
    Matches text (row (v.map itemRegex)) i j ↔
      lowered v <+: (lowered text).drop i ∧ i + v.length ≤ text.length ∧ j = i + v.length := by
  rw [← List.append_nil (v.map itemRegex), matches_row_append_iff hv htext, lowered_drop]
  refine and_congr_right fun _ => ?_
  constructor
  · intro h
    cases h
    exact ⟨‹_›, rfl⟩
  · rintro ⟨hlength, rfl⟩
    exact .empty hlength

theorem matches_plain_end_iff :
    Matches text (row ((v ++ ['$']).map itemRegex)) i j ↔
      lowered v = (lowered text).drop i ∧ i + v.length = text.length ∧ j = text.length := by
  rw [List.map_append, matches_row_append_iff hv htext, lowered_drop]
  have hrest : Matches text (row (['$'].map itemRegex)) (i + v.length) j ↔
      i + v.length = text.length ∧ j = text.length := matches_cat_empty_iff.trans matches_textEnd_iff
  rw [hrest]
  constructor
  · rintro ⟨hbegins, hlength, rfl⟩
    refine ⟨hbegins.eq_of_length ?_, hlength, rfl⟩
    rw [List.length_drop, length_lowered, length_lowered]
    omega
  · rintro ⟨hsame, hlength, rfl⟩
    exact ⟨hsame ▸ List.prefix_refl _, hlength, rfl⟩

omit hv htext in
theorem matches_caret_iff {cs : List Char} :
    Matches text (row (('^' :: cs).map itemRegex)) i j ↔ i = 0 ∧ Matches text (row (cs.map itemRegex)) 0 j := by
  constructor
  · intro h
    cases h with
    | cat hr hs =>
      obtain ⟨rfl, rfl⟩ := matches_textStart_iff.1 hr
      exact ⟨rfl, hs⟩
  · rintro ⟨rfl, h⟩
    exact .cat (matches_textStart_iff.2 ⟨rfl, rfl⟩) h

theorem found_plain_iff : Found text (row (v.map itemRegex)) ↔ lowered v <:+: lowered text := by
  rw [List.infix_iff_prefix_suffix]
  constructor
  · rintro ⟨i, j, h⟩
    exact ⟨_, ((matches_plain_iff hv htext).1 h).1, List.drop_suffix i _⟩
  · rintro ⟨t, hbegins, hsuffix⟩
    have hdrop := List.suffix_iff_eq_drop.1 hsuffix
    have hlong := hsuffix.length_le
    have hshort := hbegins.length_le
    rw [length_lowered] at hlong hshort
    rw [hdrop] at hbegins
    refine ⟨_, _, (matches_plain_iff hv htext).2 ⟨hbegins, ?_, rfl⟩⟩
    rw [length_lowered]
    omega

theorem found_caret_iff : Found text (row (('^' :: v).map itemRegex)) ↔ lowered v <+: lowered text := by
  constructor
  · rintro ⟨i, j, h⟩
    exact ((matches_plain_iff hv htext).1 (matches_caret_iff.1 h).2).1
  · intro hbegins
    have hlength := hbegins.length_le
    rw [length_lowered, length_lowered] at hlength
    exact ⟨0, _, matches_caret_iff.2 ⟨rfl, (matches_plain_iff hv htext).2 ⟨hbegins, by omega, rfl⟩⟩⟩

theorem found_dollar_iff : Found text (row ((v ++ ['$']).map itemRegex)) ↔ lowered v <:+ lowered text := by
  constructor
  · rintro ⟨i, j, h⟩
    rw [((matches_plain_end_iff hv htext).1 h).1]
    exact List.drop_suffix i _
  · intro hsuffix
    have hdrop := List.suffix_iff_eq_drop.1 hsuffix
    have hlength := hsuffix.length_le
    rw [length_lowered, length_lowered] at hlength hdrop
    exact ⟨_, _, (matches_plain_end_iff hv htext).2 ⟨hdrop, by omega, rfl⟩⟩

theorem found_caret_dollar_iff : Found text (row (('^' :: (v ++ ['$'])).map itemRegex)) ↔ lowered v = lowered text := by
  constructor
  · rintro ⟨i, j, h⟩
    exact ((matches_plain_end_iff hv htext).1 (matches_caret_iff.1 h).2).1
  · intro hsame
    have hlength := congrArg List.length hsame
    rw [length_lowered, length_lowered] at hlength
    exact ⟨0, _, matches_caret_iff.2 ⟨rfl, (matches_plain_end_iff hv htext).2 ⟨hsame, by omega, rfl⟩⟩⟩

end

end BudgetRules.Regex
