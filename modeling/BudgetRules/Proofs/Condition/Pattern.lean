import BudgetRules.Proofs.Condition
import BudgetRules.Proofs.Regex.Literal

/-!
# Conditions that search for letters

A pattern of letters, digits and blanks looks for what the operators that compare letters look for, as long as the
field is of ASCII:

    v     contains            ^v    startsWith
    v$    endsWith            ^v$   equals

The pattern folds case and the operators lower it on both sides.  The two ways agree on ASCII only: a `k` finds the
Kelvin sign either way, but an `s` finds the long s by its pattern alone.
-/

namespace BudgetRules

open Unicode

/-- A pattern that is accepted: one that is too large is not. -/
def Regex.Accepted (pattern : String) : Prop := (Regex.ofText? pattern.toList).isSome = true

instance (pattern : String) : Decidable (Regex.Accepted pattern) :=
  inferInstanceAs (Decidable ((Regex.ofText? pattern.toList).isSome = true))

namespace Condition

open Regex (Plain Ascii Accepted Found lowered row itemRegex)

variable {f : ConditionField} {r : Record} {a : FieldValue} {v : String}

theorem holds_regex_iff (h : r.present? f.name = some a) (haccepted : Accepted v) {cs : List Char}
    (hcs : v.toList = cs) (hopen : ∀ c ∈ cs, c ∉ Regex.openers) :
    holds ⟨f, .regex, v⟩ r = true ↔ Found a.toText.toList (row (cs.map itemRegex)) := by
  obtain ⟨e, he⟩ := Option.isSome_iff_exists.1 haccepted
  rw [holds_eq_accepts h]
  unfold accepts
  simp only [he]
  rw [hcs] at he
  exact Regex.search_items hopen he _

/-! ## Patterns at an end of the text -/

theorem toList_caret (v : String) : ("^" ++ v).toList = '^' :: v.toList := String.toList_append

theorem toList_dollar (v : String) : (v ++ "$").toList = v.toList ++ ['$'] := String.toList_append

theorem toList_caret_dollar (v : String) : ("^" ++ v ++ "$").toList = '^' :: (v.toList ++ ['$']) := by
  rw [toList_dollar, toList_caret]
  rfl

/-! ## Patterns that are accepted -/

theorem accepted_of_fits {pattern : String} {cs : List Char} (hcs : pattern.toList = cs)
    (hopen : ∀ c ∈ cs, c ∉ Regex.openers) (hlength : 2 ≤ cs.length) (hfits : (row (cs.map itemRegex)).fits = true) :
    Accepted pattern := by
  unfold Accepted
  rw [hcs, Regex.ofText?_items hopen hlength, if_pos hfits]
  rfl

theorem row_go : "GO 7".toList.map itemRegex =
    [.set ⟨[(71, 71), (103, 103)]⟩ false, .set ⟨[(79, 79), (111, 111)]⟩ false, .set ⟨[(32, 32)]⟩ false,
      .set ⟨[(55, 55)]⟩ false] := by
  have hg := Regex.closeUnder_single 71 [(71, 71), (103, 103)] (by decide +kernel) (by decide)
  have ho := Regex.closeUnder_single 79 [(79, 79), (111, 111)] (by decide +kernel) (by decide)
  have hblank := Regex.closeUnder_single 32 [] (by decide +kernel) (by decide)
  have hseven := Regex.closeUnder_single 55 [] (by decide +kernel) (by decide)
  show [Regex.set (Regex.closeUnder Regex.caseOrbits (.single 71)) false,
    .set (Regex.closeUnder Regex.caseOrbits (.single 79)) false,
    .set (Regex.closeUnder Regex.caseOrbits (.single 32)) false,
    .set (Regex.closeUnder Regex.caseOrbits (.single 55)) false] = _
  rw [hg, ho, hblank, hseven]
  rfl

theorem accepted_go : Accepted "GO 7" ∧ Accepted ("^" ++ "GO 7") ∧ Accepted ("GO 7" ++ "$") ∧
    Accepted ("^" ++ "GO 7" ++ "$") := by
  have hplain : Plain "GO 7".toList := by decide
  have hopen := hplain.notMem_openers
  have hdollar := Regex.notMem_openers_dollar hopen
  refine ⟨accepted_of_fits rfl hopen (by decide) ?_,
    accepted_of_fits (toList_caret _) (Regex.notMem_openers_caret hopen) (by decide) ?_,
    accepted_of_fits (toList_dollar _) hdollar (by decide) ?_,
    accepted_of_fits (toList_caret_dollar _) (Regex.notMem_openers_caret hdollar) (by decide) ?_⟩
  · rw [row_go]; decide +kernel
  · rw [List.map_cons, row_go]; decide +kernel
  · rw [List.map_append, row_go]; decide +kernel
  · rw [List.map_cons, List.map_append, row_go]; decide +kernel

/-! ## The operators that compare letters -/

/-- On a field of ASCII, a pattern of letters, digits and blanks has the answer of `contains`, and at an end of the
text that of `startsWith`, `endsWith` or `equals`. -/
theorem holds_regex_plain (f : ConditionField) (r : Record) (v : String) (hv : Plain v.toList)
    (htext : ∀ a, r.present? f.name = some a → Ascii a.toText.toList) :
    (Accepted v → holds ⟨f, .regex, v⟩ r = holds ⟨f, .contains, v⟩ r) ∧
      (Accepted ("^" ++ v) → holds ⟨f, .regex, "^" ++ v⟩ r = holds ⟨f, .startsWith, v⟩ r) ∧
      (Accepted (v ++ "$") → holds ⟨f, .regex, v ++ "$"⟩ r = holds ⟨f, .endsWith, v⟩ r) ∧
      (Accepted ("^" ++ v ++ "$") → holds ⟨f, .regex, "^" ++ v ++ "$"⟩ r = holds ⟨f, .equals, v⟩ r) := by
  cases ha : r.present? f.name with
  | none =>
    have hnone : ∀ o w, holds ⟨f, o, w⟩ r = false := by
      intro o w
      unfold holds
      rw [ha]
    simp only [hnone, implies_true, and_self]
  | some a =>
    have hascii := htext a ha
    have hlower : lowercase v.toList = lowered v.toList := lowercase_of_ascii hv.ascii
    have hlower' : lowercase a.toText.toList = lowered a.toText.toList := lowercase_of_ascii hascii
    have hopen := hv.notMem_openers
    refine ⟨fun h => ?within, fun h => ?start, fun h => ?finish, fun h => ?whole⟩ <;> rw [Bool.eq_iff_iff]
    case within =>
      rw [holds_regex_iff ha h rfl hopen, Regex.found_plain_iff hv hascii, holds_contains_iff ha, hlower, hlower']
    case start =>
      rw [holds_regex_iff ha h (toList_caret v) (Regex.notMem_openers_caret hopen), Regex.found_caret_iff hv hascii,
        holds_startsWith_iff ha, hlower, hlower']
    case finish =>
      rw [holds_regex_iff ha h (toList_dollar v) (Regex.notMem_openers_dollar hopen), Regex.found_dollar_iff hv hascii,
        holds_endsWith_iff ha, hlower, hlower']
    case whole =>
      have hopen' := Regex.notMem_openers_caret (Regex.notMem_openers_dollar hopen)
      rw [holds_regex_iff ha h (toList_caret_dollar v) hopen', Regex.found_caret_dollar_iff hv hascii,
        holds_equals_iff ha, hlower, hlower']
      exact eq_comm

/-- A line break behind the operand ends the text neither for a dollar nor for the operators that compare letters. -/
theorem holds_regex_plain_go :
    let trip := paidTo "go 7\n"
    holds ⟨.payeeName, .regex, "GO 7"⟩ trip = true ∧ holds ⟨.payeeName, .regex, "^" ++ "GO 7"⟩ trip = true ∧
      holds ⟨.payeeName, .regex, "GO 7" ++ "$"⟩ trip = false ∧
      holds ⟨.payeeName, .regex, "^" ++ "GO 7" ++ "$"⟩ trip = false := by
  intro trip
  have hplain : Plain "GO 7".toList := by decide
  have htext : ∀ a, trip.present? ConditionField.payeeName.name = some a → Ascii a.toText.toList := by
    intro a ha
    obtain rfl := Option.some.inj ((present?_paidTo "go 7\n").symm.trans ha)
    decide
  obtain ⟨hwithin, hstart, hfinish, hwhole⟩ := holds_regex_plain .payeeName trip "GO 7" hplain htext
  obtain ⟨h, hcaret, hdollar, hboth⟩ := accepted_go
  rw [hwithin h, hstart hcaret, hfinish hdollar, hwhole hboth]
  decide +kernel

end Condition

end BudgetRules
