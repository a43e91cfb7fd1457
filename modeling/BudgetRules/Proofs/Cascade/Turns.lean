import BudgetRules.Proofs.Cascade
import BudgetRules.Proofs.Rule.Fields

/-!
# A cascade is a fold

The enabled rules take turns: each is applied to what the one before it left.  A rule is named as applied if
its turn changed something.  The rules can be run in two parts, the second over what the first left; outcome,
sink and entries come out as they do in one run:

    (outcome rules r).record = (rules.filter (·.enabled)).foldl (fun r rule => rule.apply r) r
    (outcome rules r).applied = ((turns … r).filter Turn.changes).map (·.rule.name)               (outcome_eq)
    (outcome (a ++ b) r).record = (outcome b (outcome a r).record).record                     (outcome_append)
    emitted rules r now s = EventSink.accepted s (entries now r.label rules r)                    (emitted_eq)

To have changed something is to compare as different, so a NaN anywhere in a record makes every rule that matches one
that has applied.
-/

namespace BudgetRules

/-! ## One rule -/

/-- A record that actions have been at differs from the one before unless it is the same one. -/
theorem Record.Rewritten.eq_of_beq {r s : Record} (h : r.Rewritten s) (hs : (s == r) = true) : s = r := by
  refine Record.ext_get? fun k => ?_
  rcases h k with he | ⟨f, t, -, ht⟩
  · exact he
  · have hk := Record.get?_beq hs k
    rw [ht] at hk
    cases hr : r.get? k with
    | none => rw [hr] at hk; cases hk
    | some v =>
      rw [hr] at hk
      rw [ht, FieldValue.eq_text_of_text_beq hk]

/-- Actions write no NaN. -/
theorem Record.Rewritten.field_hasNaN {r s : Record} (h : r.Rewritten s) {k : String}
    (hr : ∀ v, r.get? k = some v → v.hasNaN = false) : ∀ v, s.get? k = some v → v.hasNaN = false := by
  intro v hv
  rcases h k with he | ⟨f, t, -, ht⟩
  · exact hr v (he ▸ hv)
  · rw [hv] at ht
    cases ht
    rfl

theorem Record.Rewritten.hasNaN {r s : Record} (h : r.Rewritten s) (hr : r.hasNaN = false) :
    s.hasNaN = false :=
  Record.hasNaN_eq_false_iff.2 fun k => h.field_hasNaN (Record.hasNaN_eq_false_iff.1 hr k)

namespace RuleDraft

theorem rewritten_apply (d : RuleDraft) (r : Record) : r.Rewritten (d.apply r) := by
  cases h : d.holds r with
  | true => rw [apply_of_holds h]; exact d.rewritten_applyActions r
  | false => rw [apply_of_not_holds h]; exact .refl r

end RuleDraft

/-- A rule that does not apply leaves the record as it is. -/
theorem Rule.apply_eq {rule : Rule} (he : rule.enabled = true) (r : Record) :
    rule.apply r = (rule.effect? r).getD r := by
  unfold effect?
  rw [he]
  cases hh : rule.holds r with
  | false => rw [RuleDraft.apply_of_not_holds hh]; rfl
  | true =>
    rw [RuleDraft.apply_of_holds hh]
    cases hsame : rule.applyActions r == r with
    | false => rfl
    | true => exact (rule.rewritten_applyActions r).eq_of_beq hsame

/-- Whether a rule applies is a matter of the fields that it looks at and writes, as long as the fields that differ
from themselves are the same. -/
theorem Rule.isSome_effect?_congr {rule : Rule} {r s : Record}
    (h : ∀ k, rule.Reads k ∨ rule.Writes k → r.present? k = s.present? k)
    (hself : ∀ k, ¬rule.Writes k → (r.get? k == r.get? k) = (s.get? k == s.get? k)) :
    (rule.effect? r).isSome = (rule.effect? s).isSome := by
  have hholds : rule.holds r = rule.holds s := RuleDraft.holds_congr fun k hk => h k (.inl hk)
  have hsame : (rule.applyActions r == r) = (rule.applyActions s == s) :=
    RuleDraft.applyActions_beq_congr (fun k hk => h k (.inr hk)) hself
  rw [Bool.eq_iff_iff]
  unfold effect?
  rw [Option.isSome_ite, Option.isSome_ite, hholds, hsame]

theorem Rule.effect?_of_disabled {rule : Rule} (he : rule.enabled = false) (r : Record) :
    rule.effect? r = none := by
  unfold effect?
  rw [he]
  rfl

namespace Cascade

/-! ## Turns -/

/-- The turn of a rule: what it is applied to and what it leaves. -/
structure Turn where
  rule : Rule
  before : Record
  after : Record

/-- The turns of some rules, the first over the given record. -/
def turns : List Rule → Record → List Turn
  | [], _ => []
  | rule :: rest, r => ⟨rule, r, rule.apply r⟩ :: turns rest (rule.apply r)

/-- Did a turn change something?  Without a match of the conditions it did not; with one, it did if the
record that is left compares as different. -/
def Turn.changes (t : Turn) : Bool := t.rule.holds t.before && !(t.after == t.before)

theorem mem_turns {rules : List Rule} {r : Record} {t : Turn} (h : t ∈ turns rules r) :
    t.after = t.rule.apply t.before ∧ r.Rewritten t.before := by
  induction rules generalizing r with
  | nil => cases h
  | cons rule rest ih =>
    rcases List.mem_cons.1 h with rfl | h
    · exact ⟨rfl, .refl r⟩
    · obtain ⟨ha, hb⟩ := ih h
      exact ⟨ha, (rule.rewritten_apply r).trans hb⟩

/-- Where there is no NaN, what compares as different is different. -/
theorem Turn.changes_iff {t : Turn} (ha : t.after = t.rule.apply t.before) (hn : t.before.hasNaN = false) :
    t.changes = true ↔ t.after ≠ t.before := by
  unfold changes
  rw [Bool.and_eq_true, Bool.not_eq_true']
  constructor
  · rintro ⟨-, hne⟩ heq
    rw [heq, Record.beq_self hn] at hne
    cases hne
  · intro hne
    constructor
    · cases hh : t.rule.holds t.before with
      | true => rfl
      | false => exact absurd (ha.trans (RuleDraft.apply_of_not_holds hh)) hne
    · refine Bool.eq_false_iff.2 fun hsame => hne ?_
      rw [ha] at hsame ⊢
      exact (t.rule.rewritten_apply t.before).eq_of_beq hsame

theorem changes_turn {rule : Rule} (he : rule.enabled = true) (r : Record) :
    Turn.changes ⟨rule, r, rule.apply r⟩ = (rule.effect? r).isSome := by
  unfold Turn.changes Rule.effect?
  rw [he]
  cases hh : rule.holds r with
  | false => simp
  | true =>
    rw [RuleDraft.apply_of_holds hh]
    cases rule.applyActions r == r <;> simp

/-- The outcome of some rules, told by the turns of those that are enabled. -/
theorem outcome_eq (rules : List Rule) (r : Record) :
    outcome rules r =
      ⟨(rules.filter (·.enabled)).foldl (fun r rule => rule.apply r) r,
        ((turns (rules.filter (·.enabled)) r).filter Turn.changes).map (·.rule.name)⟩ := by
  induction rules generalizing r with
  | nil => rfl
  | cons rule rest ih =>
    cases he : rule.enabled with
    | false =>
      have hf : (rule :: rest).filter (·.enabled) = rest.filter (·.enabled) :=
        List.filter_cons_of_neg (by simp [he])
      rw [outcome, Rule.effect?_of_disabled he, hf]
      exact ih r
    | true =>
      have hf : (rule :: rest).filter (·.enabled) = rule :: rest.filter (·.enabled) :=
        List.filter_cons_of_pos he
      rw [outcome, hf, turns, List.foldl_cons, List.filter_cons, changes_turn he, Rule.apply_eq he]
      cases rule.effect? r with
      | some next => simp only [ih next, Option.getD_some, Option.isSome_some, if_true, List.map_cons]
      | none => exact ih r

/-! ## Rules in two parts -/

theorem outcome_append (a b : List Rule) (r : Record) :
    outcome (a ++ b) r =
      ⟨(outcome b (outcome a r).record).record,
        (outcome a r).applied ++ (outcome b (outcome a r).record).applied⟩ := by
  induction a generalizing r with
  | nil => rfl
  | cons rule rest ih =>
    rw [List.cons_append, outcome, outcome]
    cases rule.effect? r with
    | some next => simp only [ih, List.cons_append]
    | none => exact ih r

theorem outcome_cons (rule : Rule) (rest : List Rule) (r : Record) :
    outcome (rule :: rest) r =
      ⟨(outcome rest ((rule.effect? r).getD r)).record,
        rule.applied r ++ (outcome rest ((rule.effect? r).getD r)).applied⟩ := by
  unfold Rule.applied
  rw [outcome]
  cases rule.effect? r <;> rfl

theorem entries_append (now : Timestamp) (t : String) (a b : List Rule) (r : Record) :
    entries now t (a ++ b) r = entries now t a r ++ entries now t b (outcome a r).record := by
  induction a generalizing r with
  | nil => rfl
  | cons rule rest ih =>
    rw [List.cons_append, entries, entries, ih, outcome_cons, List.append_assoc]

/-- Rules leave the name under which events speak of a record. -/
theorem label_outcome (rules : List Rule) (r : Record) : (outcome rules r).record.label = r.label := by
  rw [Record.label_eq, Record.label_eq, Record.id?_congr (rewritten_outcome rules r).get?_id]

end Cascade

/-! ## What is put into a sink -/

/-- A sink that notes down what is put into it and else does what the sink in it does. -/
structure Recording (σ : Type) where
  sink : σ
  taken : List Entry

instance {σ : Type} [EventSink σ] : EventSink (Recording σ) where
  enabled w level := EventSink.enabled w.sink level
  emit w e := ⟨EventSink.emit w.sink e, w.taken ++ [e]⟩
  drain w := ((EventSink.drain w.sink).1, { w with sink := (EventSink.drain w.sink).2 })

namespace EventSink

variable {σ : Type} [EventSink σ]

/-- Those of some entries that a sink takes, which is asked at each of them. -/
def accepted (s : σ) : List Entry → List Entry
  | [] => []
  | e :: rest =>
    if enabled s e.level then e :: accepted (emit s e) rest else accepted s rest

theorem accepted_append (s : σ) (l m : List Entry) :
    accepted s (l ++ m) = accepted s l ++ accepted (l.foldl offer s) m := by
  induction l generalizing s with
  | nil => rfl
  | cons e rest ih =>
    rw [List.cons_append, accepted, accepted, List.foldl_cons, offer]
    split
    · rw [ih, List.cons_append]
    · exact ih s

/-- A recording notes down what its sink takes, and its sink takes what it takes alone. -/
theorem foldl_offer_recording (s : σ) (taken entries : List Entry) :
    entries.foldl offer (⟨s, taken⟩ : Recording σ) =
      ⟨entries.foldl offer s, taken ++ accepted s entries⟩ := by
  induction entries generalizing s taken with
  | nil => rw [accepted, List.append_nil]; rfl
  | cons e rest ih =>
    have ho : offer (⟨s, taken⟩ : Recording σ) e =
        if enabled s e.level then ⟨emit s e, taken ++ [e]⟩ else ⟨s, taken⟩ := rfl
    rw [List.foldl_cons, List.foldl_cons, ho, accepted, offer]
    split
    · rw [ih, List.append_assoc, List.singleton_append]
    · exact ih s taken

end EventSink

namespace Cascade

variable {σ : Type} [EventSink σ]

/-- The entries that running some rules puts into a sink. -/
def emitted (rules : List Rule) (r : Record) (now : Timestamp) (s : σ) : List Entry :=
  (applyRules rules r now (⟨s, []⟩ : Recording σ)).2.taken

theorem emitted_eq (rules : List Rule) (r : Record) (now : Timestamp) (s : σ) :
    emitted rules r now s = EventSink.accepted s (entries now r.label rules r) := by
  unfold emitted
  rw [applyRules_eq, EventSink.foldl_offer_recording]
  rfl

/-- Recording the entries has no part in a run. -/
theorem applyRules_recording (rules : List Rule) (r : Record) (now : Timestamp) (s : σ) :
    applyRules rules r now (⟨s, []⟩ : Recording σ) =
      ((applyRules rules r now s).1, ⟨(applyRules rules r now s).2, emitted rules r now s⟩) := by
  rw [emitted_eq, applyRules_eq, applyRules_eq, EventSink.foldl_offer_recording]
  rfl

theorem applyRules_append (a b : List Rule) (r : Record) (now : Timestamp) (s : σ) :
    applyRules (a ++ b) r now s =
      (⟨(outcome b (outcome a r).record).record,
          (outcome a r).applied ++ (outcome b (outcome a r).record).applied⟩,
        (entries now r.label b (outcome a r).record).foldl EventSink.offer
          ((entries now r.label a r).foldl EventSink.offer s)) := by
  rw [applyRules_eq, outcome_append, entries_append, List.foldl_append]

/-- Running some rules folds the enabled ones over the record and names those that match when their turn comes and
leave a record that compares as different, which is to say a different one, where there is no NaN.  Run in two parts,
they give the same outcome, the same sink and the same entries. -/
theorem applyRules_eq_foldl_apply (rules : List Rule) (r : Record) (now : Timestamp) (s : σ) :
    let enabled := rules.filter (·.enabled)
    let o := (applyRules rules r now s).1
    o.record = enabled.foldl (fun r rule => rule.apply r) r ∧
      o.applied = ((turns enabled r).filter Turn.changes).map (·.rule.name) ∧
      (r.hasNaN = false → ∀ t ∈ turns enabled r, t.changes = true ↔ t.after ≠ t.before) ∧
      ∀ a b, rules = a ++ b →
        let first := applyRules a r now s
        let second := applyRules b first.1.record now first.2
        applyRules rules r now s = (⟨second.1.record, first.1.applied ++ second.1.applied⟩, second.2) ∧
          emitted rules r now s = emitted a r now s ++ emitted b first.1.record now first.2 := by
  intro enabled o
  have ho : o = outcome rules r := congrArg Prod.fst (applyRules_eq rules r now s)
  refine ⟨?_, ?_, ?_, ?_⟩
  · rw [ho, outcome_eq]
  · rw [ho, outcome_eq]
  · intro hn t ht
    obtain ⟨ha, hb⟩ := mem_turns ht
    exact Turn.changes_iff ha (hb.hasNaN hn)
  · rintro a b rfl first second
    have hfirst : first = _ := applyRules_eq a r now s
    have hsecond : second = _ := applyRules_eq b first.1.record now first.2
    rw [hfirst, label_outcome] at hsecond
    constructor
    · rw [applyRules_append, hsecond, hfirst]
    · rw [emitted_eq, emitted_eq, emitted_eq, entries_append, EventSink.accepted_append, hfirst, label_outcome]

/-- A rule that sets the memo of a ride. -/
def labelling : Rule :=
  ⟨⟨"Label", "", [⟨.payeeName, .contains, "uber"⟩], [⟨.memo, .set, "ride"⟩], true, 1, .and⟩, "l"⟩

/-- A rule that has no part in rides. -/
def baking : Rule :=
  ⟨⟨"Bread", "", [⟨.payeeName, .contains, "bakery"⟩], [⟨.memo, .set, "bread"⟩], true, 0, .and⟩, "b"⟩

/-- A NaN in a record differs even from itself.  So of two rules that leave the record as it is the one that matches
is named, which is to name neither those whose turn leaves a different record nor those whose turn leaves one that
compares as different. -/
theorem applyRules_names_unchanged :
    let rules := [labelling, baking]
    let ride := Record.ofList [("memo", .text "ride"), ("outflow", .number .nan), ("payee_name", .text "Uber")]
    (applyRules rules ride ⟨0, 0⟩ EventLog.all).1.applied = ["Label"] ∧
      (∀ t ∈ turns (rules.filter (·.enabled)) ride, t.after = t.before) ∧
      ((turns (rules.filter (·.enabled)) ride).filter fun t => !(t.after == t.before)).map (·.rule.name) =
        ["Label", "Bread"] := by
  intro rules ride
  refine ⟨by decide +kernel, ?_, by decide +kernel⟩
  have hlabelling : labelling.apply ride = ride := rfl
  have hbaking : baking.apply ride = ride := rfl
  intro t ht
  rcases List.mem_cons.1 ht with rfl | ht
  · exact hlabelling
  · rw [List.mem_singleton.1 ht]
    show baking.apply (labelling.apply ride) = labelling.apply ride
    rw [hlabelling, hbaking]

end Cascade

end BudgetRules
