import BudgetRules.Proofs.Cascade.Turns
import BudgetRules.Proofs.Condition
import BudgetRules.Proofs.Engine

/-!
# What has been added is found

An action that adds its value to a field puts a blank between the value and what was there.  No word goes on beyond a
blank, so the lower-case form of the value stands in that of the field, capital sigmas included (`StandsIn`).  That
stays so while other rules add to the field on either side, up to the rule that looks for the value:

    StandsIn v t → lowercase v <:+: lowercase t                                         (StandsIn.infix_lowercase)
    a.Adds → (a.apply r).Shows a.field a.value                                                       (shows_apply)
    r.Shows f v → (∀ later ∈ rules, …) → (outcome rules r).record.Shows f v                    (outcome_invariant)
-/

namespace BudgetRules

/-! ## Texts between blanks -/

namespace Unicode

/-- Does a text stand in another so that no word goes on at either end of it?  The empty text stands anywhere. -/
def StandsIn (v t : List Char) : Prop :=
  v = [] ∨ ∃ p s, t = p ++ v ++ s ∧ casedAfterIgnorable p.reverse = false ∧ casedAfterIgnorable s = false

variable {v t : List Char}

theorem StandsIn.append_blank (h : StandsIn v t) (w : List Char) : StandsIn v (t ++ ' ' :: w) := by
  rcases h with rfl | ⟨p, s, rfl, hp, hs⟩
  · exact .inl rfl
  · refine .inr ⟨p, s ++ ' ' :: w, by simp, hp, ?_⟩
    rw [casedAfterIgnorable_append (casedAfterIgnorable_blank w), hs]

theorem StandsIn.blank_append (h : StandsIn v t) (w : List Char) : StandsIn v (w ++ ' ' :: t) := by
  rcases h with rfl | ⟨p, s, rfl, hp, hs⟩
  · exact .inl rfl
  · have hreverse : (w ++ ' ' :: p).reverse = p.reverse ++ ' ' :: w.reverse := by simp
    refine .inr ⟨w ++ ' ' :: p, s, by simp, ?_, hs⟩
    rw [hreverse, casedAfterIgnorable_append (casedAfterIgnorable_blank w.reverse), hp]

/-- In an empty text, no other stands. -/
theorem StandsIn.eq_nil (h : StandsIn v []) : v = [] := by
  rcases h with rfl | ⟨p, s, heq, -, -⟩
  · rfl
  · have hparts : p = [] ∧ v = [] ∧ s = [] := by simpa using heq.symm
    exact hparts.2.1

theorem StandsIn.infix_lowercase (h : StandsIn v t) : lowercase v <:+: lowercase t := by
  rcases h with rfl | ⟨p, s, rfl, hp, hs⟩
  · exact List.nil_infix
  · exact lowercase_infix_append (keepsSigmas_of_wholeWords hp hs v)

end Unicode

open Unicode

/-! ## Actions that add to a field -/

namespace ActionField

/-- The field that conditions look at for what an action writes. -/
def toConditionField : ActionField → ConditionField
  | .payeeName => .payeeName
  | .categoryName => .categoryName
  | .memo => .memo

theorem name_toConditionField (f : ActionField) : f.toConditionField.name = f.name := by
  cases f <;> rfl

theorem name_inj {f g : ActionField} (h : f.name = g.name) : f = g := by
  revert h
  cases f <;> cases g <;> decide

end ActionField

namespace Action

/-- Does an action add its value to what a field holds? -/
def Adds (a : Action) : Prop := a.operation = .append ∨ a.operation = .prepend

instance (a : Action) : Decidable a.Adds :=
  inferInstanceAs (Decidable (a.operation = .append ∨ a.operation = .prepend))

/-- Do some actions, if they write a field at all, add to it? -/
def OnlyAdd (actions : List Action) (f : ActionField) : Prop := ∀ a ∈ actions, a.field = f → a.Adds

instance (actions : List Action) (f : ActionField) : Decidable (OnlyAdd actions f) :=
  inferInstanceAs (Decidable (∀ a ∈ actions, a.field = f → a.Adds))

variable {f : ActionField} {v current : String} {a : Action}

theorem newText_of_isEmpty (ha : a.Adds) (h : current.isEmpty = true) : a.newText current = a.value := by
  unfold newText
  rcases ha with ho | ho
  · rw [ho]
    exact if_pos h
  · rw [ho]
    exact if_pos h

theorem toList_newText_append (h : ¬current.isEmpty = true) :
    (newText ⟨f, .append, v⟩ current).toList = current.toList ++ ' ' :: v.toList := by
  have ht : newText ⟨f, .append, v⟩ current = current ++ " " ++ v := if_neg h
  rw [ht]
  simp

theorem toList_newText_prepend (h : ¬current.isEmpty = true) :
    (newText ⟨f, .prepend, v⟩ current).toList = v.toList ++ ' ' :: current.toList := by
  have ht : newText ⟨f, .prepend, v⟩ current = v ++ " " ++ current := if_neg h
  rw [ht]
  simp

/-- An appended value is at the end, and no word goes on into it. -/
theorem exists_newText_append (f : ActionField) (v current : String) :
    ∃ p, (newText ⟨f, .append, v⟩ current).toList = p ++ v.toList ∧ casedAfterIgnorable p.reverse = false := by
  by_cases h : current.isEmpty = true
  · exact ⟨[], congrArg _ (newText_of_isEmpty (.inl rfl) h), rfl⟩
  · refine ⟨current.toList ++ [' '], by rw [toList_newText_append h]; simp, ?_⟩
    rw [List.reverse_append]
    exact casedAfterIgnorable_blank _

/-- A prepended value is at the start, and no word goes on beyond it. -/
theorem exists_newText_prepend (f : ActionField) (v current : String) :
    ∃ s, (newText ⟨f, .prepend, v⟩ current).toList = v.toList ++ s ∧ casedAfterIgnorable s = false := by
  by_cases h : current.isEmpty = true
  · refine ⟨[], ?_, rfl⟩
    rw [newText_of_isEmpty (.inr rfl) h, List.append_nil]
  · exact ⟨' ' :: current.toList, toList_newText_prepend h, casedAfterIgnorable_blank _⟩

theorem standsIn_newText (ha : a.Adds) (current : String) : StandsIn a.value.toList (a.newText current).toList := by
  obtain ⟨f, o, v⟩ := a
  rcases ha with rfl | rfl
  · obtain ⟨p, ht, hp⟩ := exists_newText_append f v current
    exact .inr ⟨p, [], by rw [ht, List.append_nil], hp, rfl⟩
  · obtain ⟨s, ht, hs⟩ := exists_newText_prepend f v current
    exact .inr ⟨[], s, ht, rfl, hs⟩

/-- What stands in a text goes on standing there when something is added. -/
theorem standsIn_newText_of_standsIn (ha : a.Adds) (h : StandsIn v.toList current.toList) :
    StandsIn v.toList (a.newText current).toList := by
  obtain ⟨f, o, w⟩ := a
  by_cases hempty : current.isEmpty = true
  · have hcurrent : current.toList = [] := by simpa using hempty
    rw [hcurrent] at h
    exact .inl h.eq_nil
  · rcases ha with rfl | rfl
    · rw [toList_newText_append hempty]
      exact h.append_blank w.toList
    · rw [toList_newText_prepend hempty]
      exact h.blank_append w.toList

end Action

/-! ## Fields that show a value -/

namespace Record

/-- Does a field hold a text in which a value stands? -/
def Shows (r : Record) (f : ActionField) (v : String) : Prop :=
  ∃ t : String, r.get? f.name = some (.text t) ∧ StandsIn v.toList t.toList

variable {r : Record} {f : ActionField} {v : String}

theorem Shows.holds_contains (h : r.Shows f v) : Condition.holds ⟨f.toConditionField, .contains, v⟩ r = true := by
  obtain ⟨t, ht, hstands⟩ := h
  rw [← f.name_toConditionField, get?_eq_text_iff] at ht
  exact (Condition.holds_contains_iff ht).2 hstands.infix_lowercase

theorem get?_apply_self (a : Action) (r : Record) :
    (a.apply r).get? a.field.name = some (.text (a.newText (r.textOrEmpty a.field.name))) := by
  unfold Action.apply
  rw [get?_set, if_pos rfl]

theorem present?_apply_self (a : Action) (r : Record) :
    (a.apply r).present? a.field.toConditionField.name = some (.text (a.newText (r.textOrEmpty a.field.name))) := by
  rw [← get?_eq_text_iff, a.field.name_toConditionField]
  exact get?_apply_self a r

theorem holds_endsWith_append (f : ActionField) (v : String) (r : Record) :
    Condition.holds ⟨f.toConditionField, .endsWith, v⟩ (Action.apply ⟨f, .append, v⟩ r) = true := by
  obtain ⟨p, ht, hp⟩ := Action.exists_newText_append f v (r.textOrEmpty f.name)
  rw [Condition.holds_endsWith_iff (present?_apply_self ⟨f, .append, v⟩ r), FieldValue.toText, ht,
    lowercase_suffix_append_iff]
  exact keepsSigmas_of_wholeWords hp rfl _

theorem holds_startsWith_prepend (f : ActionField) (v : String) (r : Record) :
    Condition.holds ⟨f.toConditionField, .startsWith, v⟩ (Action.apply ⟨f, .prepend, v⟩ r) = true := by
  obtain ⟨s, ht, hs⟩ := Action.exists_newText_prepend f v (r.textOrEmpty f.name)
  rw [Condition.holds_startsWith_iff (present?_apply_self ⟨f, .prepend, v⟩ r), FieldValue.toText, ht,
    lowercase_prefix_append_iff]
  exact keepsSigmas_of_wholeWords rfl hs _

theorem shows_apply {a : Action} (ha : a.Adds) (r : Record) : (a.apply r).Shows a.field a.value :=
  ⟨_, get?_apply_self a r, Action.standsIn_newText ha _⟩

theorem Shows.apply (h : r.Shows f v) {a : Action} (ha : a.field = f → a.Adds) : (a.apply r).Shows f v := by
  by_cases hf : a.field = f
  · subst hf
    obtain ⟨t, ht, hstands⟩ := h
    refine ⟨_, get?_apply_self a r, ?_⟩
    have htext : r.textOrEmpty a.field.name = t := by
      unfold textOrEmpty
      rw [ht]
      rfl
    rw [htext]
    exact Action.standsIn_newText_of_standsIn (ha rfl) hstands
  · obtain ⟨t, ht, hstands⟩ := h
    refine ⟨t, ?_, hstands⟩
    unfold Action.apply
    rw [get?_set, if_neg fun heq => hf (ActionField.name_inj heq).symm]
    exact ht

theorem Shows.foldl_apply (h : r.Shows f v) {actions : List Action} (hadd : Action.OnlyAdd actions f) :
    (actions.foldl (fun r a => a.apply r) r).Shows f v := by
  induction actions generalizing r with
  | nil => exact h
  | cons a rest ih =>
    exact ih (h.apply (hadd a List.mem_cons_self)) fun b hb => hadd b (List.mem_cons_of_mem a hb)

end Record

/-! ## Up to the rule that looks for it -/

theorem Rule.enabled_of_effect? {rule : Rule} {r next : Record} (h : rule.effect? r = some next) :
    rule.enabled = true := by
  cases he : rule.enabled with
  | true => rfl
  | false =>
    rw [effect?_of_disabled he] at h
    cases h

namespace Cascade

/-- What the actions of every enabled rule keep true of a record is true of the record that comes out. -/
theorem outcome_invariant {P : Record → Prop} {rules : List Rule}
    (hkeep : ∀ rule ∈ rules, rule.enabled = true → ∀ r, P r → P (rule.applyActions r)) {r : Record} (hr : P r) :
    P (outcome rules r).record := by
  induction rules generalizing r with
  | nil => exact hr
  | cons rule rest ih =>
    rw [outcome_cons]
    refine ih (fun later hlater => hkeep later (List.mem_cons_of_mem rule hlater)) ?_
    cases he : rule.effect? r with
    | none => exact hr
    | some next =>
      rw [Rule.eq_of_effect? he]
      exact hkeep rule List.mem_cons_self (Rule.enabled_of_effect? he) r hr

/-- The record that the rules after an enabled rule find if its conditions match. -/
theorem record_around {rule : Rule} (he : rule.enabled = true) (before between : List Rule) (r : Record)
    (hh : rule.holds (outcome before r).record = true) :
    (outcome (before ++ rule :: between) r).record =
      (outcome between (rule.applyActions (outcome before r).record)).record := by
  rw [outcome_append, outcome_cons, ← Rule.apply_eq he, RuleDraft.apply_of_holds hh]

/-- A value that an action has added to a field is found there: whatever the field held, conditions that look for the
value within it and at the end where it was put are satisfied.  Within the field it is found by all later rules, up
to the first that does something else to the field than adding to it. -/
theorem applyRules_shows_added (f : ActionField) (v : String) :
    (∀ r : Record,
      let appended := Action.apply ⟨f, .append, v⟩ r
      let prepended := Action.apply ⟨f, .prepend, v⟩ r
      Condition.holds ⟨f.toConditionField, .contains, v⟩ appended = true ∧
        Condition.holds ⟨f.toConditionField, .endsWith, v⟩ appended = true ∧
        Condition.holds ⟨f.toConditionField, .contains, v⟩ prepended = true ∧
        Condition.holds ⟨f.toConditionField, .startsWith, v⟩ prepended = true) ∧
    ∀ {σ : Type} [EventSink σ] (before between : List Rule) (rule : Rule) (first last : List Action)
      (o : ActionOperation) (r : Record) (now : Timestamp) (s : σ),
      rule.enabled = true → rule.holds (applyRules before r now s).1.record = true →
      rule.actions = first ++ ⟨f, o, v⟩ :: last → o = .append ∨ o = .prepend →
      Action.OnlyAdd last f → (∀ later ∈ between, later.enabled = true → Action.OnlyAdd later.actions f) →
      let found := (applyRules (before ++ rule :: between) r now s).1.record
      Condition.holds ⟨f.toConditionField, .contains, v⟩ found = true := by
  constructor
  · intro r appended prepended
    exact ⟨(Record.shows_apply (.inl rfl) r).holds_contains, Record.holds_endsWith_append f v r,
      (Record.shows_apply (.inr rfl) r).holds_contains, Record.holds_startsWith_prepend f v r⟩
  · intro σ _ before between rule first last o r now s he hh hactions ho hlast hbetween found
    have hfound : found = (outcome between (rule.applyActions (outcome before r).record)).record := by
      rw [record_applyRules] at hh
      rw [← record_around he before between r hh]
      exact record_applyRules _ r now s
    have hadded : (rule.applyActions (outcome before r).record).Shows f v := by
      unfold RuleDraft.applyActions
      rw [hactions, List.foldl_append, List.foldl_cons]
      exact (Record.shows_apply (a := ⟨f, o, v⟩) ho _).foldl_apply hlast
    rw [hfound]
    exact (outcome_invariant (P := fun r => r.Shows f v)
      (fun later hlater hon _ hshows => hshows.foldl_apply (hbetween later hlater hon)) hadded).holds_contains

/-- A rule that tags rides in the memo. -/
def tagging : Rule := { Rule.rides with name := "Tag", actions := [⟨.memo, .append, "#ride"⟩, ⟨.payeeName, .clear, ""⟩] }

/-- A rule that notes in front of the memo what is paid. -/
def prefacing : Rule :=
  ⟨⟨"Note", "", [⟨.outflow, .greaterThan, "0"⟩], [⟨.memo, .prepend, "Paid:"⟩], true, 0, .and⟩, "n"⟩

/-- The memo, a number at first, is tagged and then noted in front of; the rule that clears it is disabled. -/
theorem applyRules_shows_added_tag :
    let wiping := { prefacing with actions := [⟨.memo, .clear, ""⟩], enabled := false }
    let ride := Record.ofList
      [("memo", .number (.ofInt 12)), ("outflow", .number (.ofInt 12)), ("payee_name", .text "Uber")]
    tagging.enabled = true ∧ tagging.holds (applyRules [] ride ⟨0, 0⟩ Silent.mk).1.record = true ∧
      tagging.actions = [] ++ ⟨.memo, .append, "#ride"⟩ :: [⟨.payeeName, .clear, ""⟩] ∧
      Action.OnlyAdd [⟨.payeeName, .clear, ""⟩] .memo ∧
      (∀ later ∈ [prefacing, wiping], later.enabled = true → Action.OnlyAdd later.actions .memo) ∧
      let found := (applyRules ([] ++ tagging :: [prefacing, wiping]) ride ⟨0, 0⟩ Silent.mk).1
      found.applied = ["Tag", "Note"] ∧ Condition.holds ⟨.memo, .contains, "#ride"⟩ found.record = true := by
  intro wiping ride
  have hholds : tagging.holds (applyRules [] ride ⟨0, 0⟩ Silent.mk).1.record = true := by decide +kernel
  have hlast : Action.OnlyAdd [⟨.payeeName, .clear, ""⟩] .memo := by decide
  have hbetween : ∀ later ∈ [prefacing, wiping], later.enabled = true → Action.OnlyAdd later.actions .memo := by decide
  exact ⟨rfl, hholds, rfl, hlast, hbetween, by decide +kernel,
    (applyRules_shows_added .memo "#ride").2 [] [prefacing, wiping] tagging [] [⟨.payeeName, .clear, ""⟩] .append ride
      ⟨0, 0⟩ Silent.mk rfl hholds rfl (.inl rfl) hlast hbetween⟩

end Cascade

end BudgetRules
