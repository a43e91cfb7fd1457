import BudgetRules.Condition
import BudgetRules.Proofs.Unicode.Lowercase

/-!
# Conditions that look for a text

An operator that compares letters looks at the lower-case forms of the field and of its operand:

    equals      lowercase t = lowercase v              startsWith  lowercase v <+: lowercase t
    contains    lowercase v <:+: lowercase t           endsWith    lowercase v <:+ lowercase t

The case of the letters of ASCII in either is therefore nothing to its answer (`holds_recased`).  An operand that
stands in the field letter by letter is found if its capital sigmas end words there just where they do in the operand
(`holds_literal`).  It may be missed if they do not, since the sigma at the end of a word has a form of its own:
`Σ` is not found in `ΟΔΟΣ`, nor `ΟΔΟΣ` in `ΟΔΟΣΗΜΟ` (`holds_misses_sigma`).
-/

namespace BudgetRules

open Unicode

theorem occursIn_iff_infix {part text : List Char} : occursIn part text = true ↔ part <:+: text := by
  induction text with
  | nil => rw [occursIn, List.isEmpty_iff, List.infix_nil]
  | cons c cs ih => rw [occursIn, Bool.or_eq_true, List.isPrefixOf_iff_prefix, ih, List.infix_cons_iff]

namespace Condition

variable {f : ConditionField} {r : Record} {a : FieldValue} {v : String}

/-! ## Operators that compare letters -/

/-- The operators that look at nothing but lower-case letters. -/
def letterOperators : List ConditionOperator := [.equals, .contains, .startsWith, .endsWith]

theorem holds_eq_accepts (h : r.present? f.name = some a) (o : ConditionOperator) (v : String) :
    holds ⟨f, o, v⟩ r = accepts ⟨f, o, v⟩ a := by
  unfold holds
  rw [h]

theorem holds_equals_iff (h : r.present? f.name = some a) :
    holds ⟨f, .equals, v⟩ r = true ↔ lowercase a.toText.toList = lowercase v.toList := by
  rw [holds_eq_accepts h]
  exact beq_iff_eq

theorem holds_contains_iff (h : r.present? f.name = some a) :
    holds ⟨f, .contains, v⟩ r = true ↔ lowercase v.toList <:+: lowercase a.toText.toList := by
  rw [holds_eq_accepts h]
  exact occursIn_iff_infix

theorem holds_startsWith_iff (h : r.present? f.name = some a) :
    holds ⟨f, .startsWith, v⟩ r = true ↔ lowercase v.toList <+: lowercase a.toText.toList := by
  rw [holds_eq_accepts h]
  exact List.isPrefixOf_iff_prefix

theorem holds_endsWith_iff (h : r.present? f.name = some a) :
    holds ⟨f, .endsWith, v⟩ r = true ↔ lowercase v.toList <:+ lowercase a.toText.toList := by
  rw [holds_eq_accepts h]
  exact List.isSuffixOf_iff_suffix

/-- A payment to someone. -/
def paidTo (payee : String) : Record := .ofList [("payee_name", .text payee)]

theorem present?_paidTo (payee : String) :
    (paidTo payee).present? ConditionField.payeeName.name = some (.text payee) := rfl

/-! ## The case of ASCII -/

/-- The case of the letters of ASCII, in the field or in the operand, is nothing to an operator that compares
letters. -/
theorem holds_recased {o : ConditionOperator} (ho : o ∈ letterOperators) {r' : Record} {a' : FieldValue}
    (h : r.present? f.name = some a) (h' : r'.present? f.name = some a')
    (ht : List.Forall₂ Recased a.toText.toList a'.toText.toList) {v' : String}
    (hv : List.Forall₂ Recased v.toList v'.toList) : holds ⟨f, o, v⟩ r = holds ⟨f, o, v'⟩ r' := by
  rw [holds_eq_accepts h, holds_eq_accepts h']
  unfold accepts
  rw [lowercase_recased ht, lowercase_recased hv]
  simp only [letterOperators, List.mem_cons, List.not_mem_nil, or_false] at ho
  -- the operators that look at the texts in another way are not among them
  rcases ho with rfl | rfl | rfl | rfl <;> rfl

/-- A sigma among letters of ASCII, which tell whether it ends a word. -/
theorem holds_recased_unit :
    ConditionOperator.endsWith ∈ letterOperators ∧
      List.Forall₂ Recased "Box KgΣ".toList "BOX kGΣ".toList ∧ List.Forall₂ Recased "GΣ".toList "gΣ".toList ∧
      holds ⟨.payeeName, .endsWith, "GΣ"⟩ (paidTo "Box KgΣ") =
        holds ⟨.payeeName, .endsWith, "gΣ"⟩ (paidTo "BOX kGΣ") := by
  have ht : List.Forall₂ Recased "Box KgΣ".toList "BOX kGΣ".toList := by decide
  have hv : List.Forall₂ Recased "GΣ".toList "gΣ".toList := by decide
  exact ⟨by decide, ht, hv,
    holds_recased (by decide) (present?_paidTo "Box KgΣ") (present?_paidTo "BOX kGΣ") ht hv⟩

/-! ## Operands that stand in a field -/

/-- The field itself is always found.  An operand at its start, at its end or within it is found if its capital sigmas
end words there just where they do in the operand; at the start and at the end it is found in no other case.  This
is so of an operand without a capital sigma, and of one around which no word goes on. -/
theorem holds_literal (f : ConditionField) (r : Record) (p v s : String) :
    (r.present? f.name = some (.text v) → holds ⟨f, .equals, v⟩ r = true) ∧
      (r.present? f.name = some (.text (v ++ s)) →
        (holds ⟨f, .startsWith, v⟩ r = true ↔ KeepsSigmas [] v.toList s.toList)) ∧
      (r.present? f.name = some (.text (p ++ v)) →
        (holds ⟨f, .endsWith, v⟩ r = true ↔ KeepsSigmas p.toList v.toList [])) ∧
      (r.present? f.name = some (.text (p ++ v ++ s)) → KeepsSigmas p.toList v.toList s.toList →
        holds ⟨f, .contains, v⟩ r = true) ∧
      ('Σ' ∉ v.toList ∨ casedAfterIgnorable p.toList.reverse = false ∧ casedAfterIgnorable s.toList = false →
        KeepsSigmas p.toList v.toList s.toList) := by
  refine ⟨fun h => (holds_equals_iff h).2 rfl, fun h => ?start, fun h => ?finish, fun h hk => ?within, ?keeps⟩
  case start =>
    rw [holds_startsWith_iff h, FieldValue.toText, String.toList_append]
    exact lowercase_prefix_append_iff
  case finish =>
    rw [holds_endsWith_iff h, FieldValue.toText, String.toList_append]
    exact lowercase_suffix_append_iff
  case within =>
    rw [holds_contains_iff h, FieldValue.toText, String.toList_append, String.toList_append]
    exact lowercase_infix_append hk
  case keeps =>
    rintro (hv | ⟨hp, hs⟩)
    · exact keepsSigmas_of_notMem hv _ _
    · exact keepsSigmas_of_wholeWords hp hs _

/-- A street before its number, behind one, between two, and alone. -/
theorem holds_literal_street :
    KeepsSigmas "7 ".toList "ΟΔΟΣ".toList " 7".toList ∧
      holds ⟨.payeeName, .equals, "ΟΔΟΣ"⟩ (paidTo "ΟΔΟΣ") = true ∧
      holds ⟨.payeeName, .startsWith, "ΟΔΟΣ"⟩ (paidTo ("ΟΔΟΣ" ++ " 7")) = true ∧
      holds ⟨.payeeName, .endsWith, "ΟΔΟΣ"⟩ (paidTo ("7 " ++ "ΟΔΟΣ")) = true ∧
      holds ⟨.payeeName, .contains, "ΟΔΟΣ"⟩ (paidTo ("7 " ++ "ΟΔΟΣ" ++ " 7")) = true := by
  have hbefore : casedAfterIgnorable "7 ".toList.reverse = false := casedAfterIgnorable_blank ['7']
  have hafter : casedAfterIgnorable " 7".toList = false := casedAfterIgnorable_blank ['7']
  have hkeeps := (holds_literal .payeeName (paidTo "") "7 " "ΟΔΟΣ" " 7").2.2.2.2 (.inr ⟨hbefore, hafter⟩)
  refine ⟨hkeeps, ?alone, ?start, ?finish, ?within⟩
  case alone => exact (holds_literal .payeeName _ "" "ΟΔΟΣ" "").1 (present?_paidTo _)
  case start =>
    exact ((holds_literal .payeeName _ "" "ΟΔΟΣ" " 7").2.1 (present?_paidTo _)).2
      (keepsSigmas_of_wholeWords rfl hafter _)
  case finish =>
    exact ((holds_literal .payeeName _ "7 " "ΟΔΟΣ" "").2.2.1 (present?_paidTo _)).2
      (keepsSigmas_of_wholeWords hbefore rfl _)
  case within => exact (holds_literal .payeeName _ "7 " "ΟΔΟΣ" " 7").2.2.2.1 (present?_paidTo _) hkeeps

/-- The sigma at the end of a word is missed where the operand has it elsewhere, and the other way about. -/
theorem holds_misses_sigma :
    holds ⟨.payeeName, .contains, "Σ"⟩ (paidTo ("ΟΔΟ" ++ "Σ" ++ "")) = false ∧
      holds ⟨.payeeName, .startsWith, "ΟΔΟΣ"⟩ (paidTo ("ΟΔΟΣ" ++ "ΗΜΟ")) = false ∧
      holds ⟨.payeeName, .endsWith, "Σ"⟩ (paidTo ("ΟΔΟ" ++ "Σ")) = false := by
  have hbefore : casedAfterIgnorable ['Ο', 'Δ', 'Ο'] = true := casedAfterIgnorable_of_plain (by decide) _
  have hafter : casedAfterIgnorable ['Η', 'Μ', 'Ο'] = true := casedAfterIgnorable_of_plain (by decide) _
  have halone : casedAfterIgnorable [] = false := rfl
  simp only [← Bool.not_eq_true]
  refine ⟨?within, ?start, ?finish⟩
  case within =>
    have hletters : lowerIn [] 'Ο' ['Δ', 'Ο', 'Σ'] = ['ο'] ∧ lowerIn ['Ο'] 'Δ' ['Ο', 'Σ'] = ['δ'] ∧
        lowerIn ['Δ', 'Ο'] 'Ο' ['Σ'] = ['ο'] := by decide +kernel
    have htext : lowercase ['Ο', 'Δ', 'Ο', 'Σ'] = ['ο', 'δ', 'ο', 'ς'] := by
      obtain ⟨h1, h2, h3⟩ := hletters
      simp only [lowercase, lowerFrom, h1, h2, h3, lowerIn_sigma, endsWord, hbefore, halone]
      rfl
    have hpart : lowercase ['Σ'] = ['σ'] := by
      simp only [lowercase, lowerFrom, lowerIn_sigma, endsWord, halone]
      rfl
    have hwithin : ¬ lowercase ['Σ'] <:+: lowercase ['Ο', 'Δ', 'Ο', 'Σ'] := by
      rw [htext, hpart]
      decide
    rw [holds_contains_iff (present?_paidTo _)]
    exact hwithin
  case start =>
    rw [holds_startsWith_iff (present?_paidTo _), FieldValue.toText, String.toList_append, lowercase_prefix_append_iff]
    intro hkeeps
    have h : endsWord ['Ο', 'Δ', 'Ο'] ['Η', 'Μ', 'Ο'] = endsWord ['Ο', 'Δ', 'Ο'] [] := hkeeps ['Ο', 'Δ', 'Ο'] [] rfl
    rw [endsWord, endsWord, hbefore, hafter, halone] at h
    cases h
  case finish =>
    rw [holds_endsWith_iff (present?_paidTo _), FieldValue.toText, String.toList_append, lowercase_suffix_append_iff]
    intro hkeeps
    have h : endsWord ['Ο', 'Δ', 'Ο'] [] = endsWord [] [] := hkeeps [] [] rfl
    rw [endsWord, endsWord, hbefore, halone] at h
    cases h

end Condition

end BudgetRules
