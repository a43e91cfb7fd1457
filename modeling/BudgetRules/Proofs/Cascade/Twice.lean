import BudgetRules.Proofs.Cascade.Turns
import BudgetRules.Proofs.Report.Blame

/-!
# Rules that run twice

What a rule sets or clears does not hang on what was there.  So a second run over what the first one left
changes nothing, unless a rule has changed what decides about the rules before it: a field that their conditions
look at, or a field that they write and that it would not write again.

    (turns rules r).Pairwise Turn.Spares →
      rules.foldl apply (rules.foldl apply r) = rules.foldl apply r                       (foldl_apply_twice)

The second run retraces the first (`Retraces`): each field holds what it held in the first run at that point, or
already what it is to hold in the end.
-/

namespace BudgetRules

/-! ## Rules that only set and clear -/

/-- Is the text that an action writes the same whatever was there? -/
def Action.Overwrites (a : Action) : Prop := a.operation = .set ∨ a.operation = .clear

instance (a : Action) : Decidable a.Overwrites := inferInstanceAs (Decidable (_ ∨ _))

theorem Action.newText_congr {a : Action} (h : a.Overwrites) (s t : String) : a.newText s = a.newText t := by
  unfold newText
  rcases h with h | h <;> rw [h]

namespace RuleDraft

variable {d : RuleDraft} {r s : Record} {k : String}

/-- Do all actions of a draft set or clear? -/
def Overwrites (d : RuleDraft) : Prop := ∀ a ∈ d.actions, a.Overwrites

instance (d : RuleDraft) : Decidable d.Overwrites := inferInstanceAs (Decidable (∀ a ∈ d.actions, _))

/-- After actions that only set and clear, a field that was alike in two records is so still, and one that they
write is so now. -/
theorem get?_foldl_congr {actions : List Action} (ho : ∀ a ∈ actions, a.Overwrites)
    (h : r.get? k = s.get? k ∨ ∃ a ∈ actions, a.field.name = k) :
    (actions.foldl (fun r a => a.apply r) r).get? k = (actions.foldl (fun r a => a.apply r) s).get? k := by
  induction actions generalizing r s with
  | nil =>
    rcases h with h | ⟨a, ha, -⟩
    · exact h
    · cases ha
  | cons a rest ih =>
    obtain ⟨hoa, horest⟩ := List.forall_mem_cons.1 ho
    refine ih horest ?_
    unfold Action.apply
    rw [Record.get?_set, Record.get?_set, Action.newText_congr hoa _ (s.textOrEmpty a.field.name)]
    by_cases hk : k = a.field.name
    · exact .inl (by rw [if_pos hk, if_pos hk])
    · rw [if_neg hk, if_neg hk]
      rcases h with h | ⟨b, hb, hbk⟩
      · exact .inl h
      · rcases List.mem_cons.1 hb with rfl | hb
        · exact absurd hbk.symm hk
        · exact .inr ⟨b, hb, hbk⟩

theorem get?_applyActions_congr (ho : d.Overwrites) (hk : d.Writes k) :
    (d.applyActions r).get? k = (d.applyActions s).get? k :=
  get?_foldl_congr ho (.inr hk)

end RuleDraft

namespace Cascade

/-! ## Turns that spare one another -/

namespace Turn

/-- Does a field hold something else after a turn? -/
def Alters (t : Turn) (k : String) : Prop := t.after.get? k ≠ t.before.get? k

/-- Has a turn changed a field that the conditions of its own rule look at, so that they may no longer match? -/
def AltersOwn (t : Turn) : Prop := ∃ k, t.rule.Reads k ∧ t.Alters k

/-- A later turn changes nothing that an earlier one looks at, and if it changes what it looks at itself, then
nothing that the earlier one wrote either. -/
structure Spares (earlier later : Turn) : Prop where
  reads : ∀ k, earlier.rule.Reads k → ¬later.Alters k
  writes : later.AltersOwn → earlier.rule.holds earlier.before = true →
    ∀ k, earlier.rule.Writes k → ¬later.Alters k

end Turn

/-- A field that no turn changes is as it was at the end. -/
theorem get?_foldl_apply {rules : List Rule} {r : Record} {k : String}
    (h : ∀ t ∈ turns rules r, ¬t.Alters k) :
    (rules.foldl (fun r rule => rule.apply r) r).get? k = r.get? k := by
  induction rules generalizing r with
  | nil => rfl
  | cons rule rest ih =>
    obtain ⟨hfirst, hrest⟩ := List.forall_mem_cons.1 h
    rw [List.foldl_cons, ih hrest]
    exact Classical.not_not.1 hfirst

/-! ## The second run -/

/-- Where a second run stands (`second`) when the first had come to `first` and went on to `final`, both with
some rules still to run. -/
structure Retraces (rules : List Rule) (first second final : Record) : Prop where
  field : ∀ k, second.get? k = final.get? k ∨ second.get? k = first.get? k
  /-- what a rule wrote that may not match again is still there -/
  settled : ∀ t ∈ turns rules first, t.AltersOwn → ∀ k, t.Alters k → second.get? k = final.get? k

variable {rule : Rule} {rest : List Rule} {first second final : Record}

/-- One rule more in both runs. -/
theorem Retraces.step (h : Retraces (rule :: rest) first second final) (ho : rule.Overwrites)
    (hs : ∀ t ∈ turns rest (rule.apply first), Turn.Spares ⟨rule, first, rule.apply first⟩ t)
    (hfinal : final = rest.foldl (fun r rule => rule.apply r) (rule.apply first)) :
    Retraces rest (rule.apply first) (rule.apply second) final := by
  have hsettled : ∀ t ∈ turns rest (rule.apply first), t.AltersOwn → ∀ k, t.Alters k →
      second.get? k = final.get? k := fun t ht => h.settled t (List.mem_cons_of_mem _ ht)
  -- what the rule looks at is not changed after its turn
  have hread : ∀ k, rule.Reads k → final.get? k = (rule.apply first).get? k := by
    intro k hk
    rw [hfinal]
    exact get?_foldl_apply fun t ht => (hs t ht).reads k hk
  have hsame : (∀ k, rule.Reads k → (rule.apply first).get? k = first.get? k) →
      rule.holds second = rule.holds first := by
    intro hkeep
    refine RuleDraft.holds_congr fun k hk => Record.present?_congr ?_
    rcases h.field k with hf | hf
    · rw [hf, hread k hk, hkeep k hk]
    · exact hf
  cases hfirst : rule.holds first with
  | false =>
    have hkeep : rule.apply first = first := RuleDraft.apply_of_not_holds hfirst
    have hsecond : rule.holds second = false := by
      rw [hsame fun k _ => by rw [hkeep], hfirst]
    rw [RuleDraft.apply_of_not_holds hsecond]
    exact ⟨fun k => by rw [hkeep]; exact h.field k, hsettled⟩
  | true =>
    cases hsecond : rule.holds second with
    | true =>
      -- the rule writes the same again
      have hwritten : ∀ k, rule.Writes k → (rule.apply second).get? k = (rule.apply first).get? k := by
        intro k hk
        rw [RuleDraft.apply_of_holds hsecond, RuleDraft.apply_of_holds hfirst]
        exact RuleDraft.get?_applyActions_congr ho hk
      constructor
      · intro k
        by_cases hk : rule.Writes k
        · exact .inr (hwritten k hk)
        · rw [RuleDraft.get?_apply_of_not_writes hk, RuleDraft.get?_apply_of_not_writes hk]
          exact h.field k
      · intro t ht hown k hk
        have hnot : ¬rule.Writes k := fun hw => (hs t ht).writes hown hfirst k hw hk
        rw [RuleDraft.get?_apply_of_not_writes hnot]
        exact hsettled t ht hown k hk
    | false =>
      -- the rule has changed what it looks at; what it wrote is still there
      have hown : Turn.AltersOwn ⟨rule, first, rule.apply first⟩ := by
        refine Classical.byContradiction fun hnone => ?_
        have hkeep := hsame fun k hk => Classical.byContradiction fun hne => hnone ⟨k, hk, hne⟩
        rw [hfirst, hsecond] at hkeep
        cases hkeep
      rw [RuleDraft.apply_of_not_holds hsecond]
      refine ⟨fun k => ?_, hsettled⟩
      by_cases hk : (rule.apply first).get? k = first.get? k
      · rw [hk]
        exact h.field k
      · exact .inl (h.settled _ List.mem_cons_self hown k hk)

theorem Retraces.foldl_apply {rules : List Rule} (h : Retraces rules first second final)
    (ho : ∀ rule ∈ rules, rule.Overwrites) (hs : (turns rules first).Pairwise Turn.Spares)
    (hfinal : final = rules.foldl (fun r rule => rule.apply r) first) :
    rules.foldl (fun r rule => rule.apply r) second = final := by
  induction rules generalizing first second with
  | nil =>
    refine Record.ext_get? fun k => ?_
    rcases h.field k with hf | hf
    · exact hf
    · rw [hfinal]; exact hf
  | cons rule rest ih =>
    obtain ⟨hhead, htail⟩ := List.pairwise_cons.1 hs
    obtain ⟨horule, horest⟩ := List.forall_mem_cons.1 ho
    rw [List.foldl_cons]
    exact ih (h.step horule hhead hfinal) horest htail hfinal

/-- A second run starts with what the first left. -/
theorem foldl_apply_twice {rules : List Rule} {r : Record} (ho : ∀ rule ∈ rules, rule.Overwrites)
    (hs : (turns rules r).Pairwise Turn.Spares) :
    let final := rules.foldl (fun r rule => rule.apply r) r
    rules.foldl (fun r rule => rule.apply r) final = final := by
  intro final
  have hstart : Retraces rules r final final := ⟨fun _ => .inl rfl, fun _ _ _ _ _ => rfl⟩
  exact hstart.foldl_apply ho hs rfl

/-! ## Rules that spare one another -/

theorem map_rule_turns (rules : List Rule) (r : Record) : (turns rules r).map (·.rule) = rules := by
  induction rules generalizing r with
  | nil => rfl
  | cons rule rest ih => rw [turns, List.map_cons, ih]

theorem writes_of_alters {rules : List Rule} {r : Record} {t : Turn} (ht : t ∈ turns rules r) {k : String}
    (hk : t.Alters k) : t.rule.Writes k := by
  obtain ⟨hafter, -⟩ := mem_turns ht
  refine Classical.byContradiction fun hw => hk ?_
  rw [hafter, RuleDraft.get?_apply_of_not_writes hw]

end Cascade

/-- A later rule writes nothing that an earlier one looks at, and if it writes what it looks at itself, then
nothing that the earlier one writes either. -/
structure RuleDraft.Spares (earlier later : RuleDraft) : Prop where
  reads : ∀ c ∈ earlier.conditions, ∀ a ∈ later.actions, a.field.name ≠ c.field.name
  writes : (∀ c ∈ later.conditions, ∀ a ∈ later.actions, a.field.name ≠ c.field.name) ∨
    ∀ b ∈ earlier.actions, ∀ a ∈ later.actions, a.field.name ≠ b.field.name

namespace Cascade

/-- Rules that spare one another take turns that do, over any record. -/
theorem pairwise_turns {rules : List Rule}
    (h : rules.Pairwise fun earlier later => earlier.toRuleDraft.Spares later.toRuleDraft) (r : Record) :
    (turns rules r).Pairwise Turn.Spares := by
  have hrules : (turns rules r).Pairwise fun t u => t.rule.toRuleDraft.Spares u.rule.toRuleDraft := by
    rw [← map_rule_turns rules r] at h
    have hmap := List.pairwise_map.1 h
    exact hmap
  refine hrules.imp_of_mem fun {t u} _ hu hspares => ?_
  constructor
  case reads =>
    rintro k ⟨c, hc, rfl⟩ hk
    obtain ⟨a, ha, hac⟩ := writes_of_alters hu hk
    exact hspares.reads c hc a ha hac
  case writes =>
    rintro ⟨own, ⟨c, hc, rfl⟩, hown⟩ - k ⟨b, hb, rfl⟩ hk
    obtain ⟨a, ha, hac⟩ := writes_of_alters hu hown
    obtain ⟨a', ha', hab⟩ := writes_of_alters hu hk
    rcases hspares.writes with hnone | hnone
    · exact hnone c hc a ha hac
    · exact hnone b hb a' ha' hab

/-! ## Running rules over what they left -/

variable {σ τ : Type} [EventSink σ] [EventSink τ]

/-- Rules that only set and clear leave a record that they have been over, if no enabled one has changed what an
earlier one looks at, nor both what it looks at itself and what an earlier one that matched wrote. -/
theorem applyRules_twice {rules : List Rule} (ho : ∀ rule ∈ rules, rule.Overwrites) {r : Record}
    (hs : (turns (rules.filter (·.enabled)) r).Pairwise Turn.Spares) (now later : Timestamp) (s : σ) (t : τ) :
    let first := (applyRules rules r now s).1.record
    (applyRules rules first later t).1.record = first := by
  intro first
  have hfirst : first = (rules.filter (·.enabled)).foldl (fun r rule => rule.apply r) r := by
    rw [show first = _ from record_applyRules rules r now s, outcome_eq]
  rw [record_applyRules, outcome_eq, hfirst]
  exact foldl_apply_twice (fun rule hm => ho rule (List.mem_filter.1 hm).1) hs

/-- A rule that shortens the name of a payee. -/
def shortened : Rule :=
  ⟨⟨"Shorten", "", [⟨.payeeName, .contains, "uber *"⟩], [⟨.payeeName, .set, "Uber"⟩], true, 1, .and⟩, "s"⟩

/-- The first of two rules does not match again, the second does. -/
theorem applyRules_twice_ride :
    let rules := [shortened, .rides]
    let ride := Record.ofList [("id", .text "a"), ("payee_name", .text "UBER *TRIP")]
    (∀ rule ∈ rules, rule.Overwrites) ∧ (turns (rules.filter (·.enabled)) ride).Pairwise Turn.Spares ∧
      let first := (applyRules rules ride ⟨0, 0⟩ EventLog.all).1.record
      (applyRules rules first ⟨1, 0⟩ EventLog.all).1.record = first := by
  intro rules ride
  have ho : ∀ rule ∈ rules, rule.Overwrites := by decide
  have hs : (turns (rules.filter (·.enabled)) ride).Pairwise Turn.Spares :=
    pairwise_turns (List.pairwise_pair.2 ⟨by decide, by decide⟩) ride
  exact ⟨ho, hs, applyRules_twice ho hs ⟨0, 0⟩ ⟨1, 0⟩ EventLog.all EventLog.all⟩

/-- A rule that files what has a note under business. -/
def noted : Rule :=
  ⟨⟨"Business", "", [⟨.memo, .contains, "work"⟩], [⟨.categoryName, .set, "Business"⟩], true, 1, .and⟩, "b"⟩

/-- A rule that makes a note on rides. -/
def noting : Rule :=
  ⟨⟨"Note", "", [⟨.payeeName, .contains, "uber"⟩], [⟨.memo, .set, "work"⟩], true, 0, .and⟩, "n"⟩

/-- What a later rule sets can be what an earlier one waits for. -/
theorem applyRules_twice_noted :
    let rules := [noted, noting]
    let ride := Record.ofList [("id", .text "a"), ("payee_name", .text "Uber")]
    (∀ rule ∈ rules, rule.Overwrites) ∧
      let first := (applyRules rules ride ⟨0, 0⟩ EventLog.all).1.record
      (applyRules rules first ⟨0, 0⟩ EventLog.all).1.record ≠ first := by
  intro rules ride
  refine ⟨by decide, fun heq => ?_⟩
  have hcategory := congrArg (·.textOrEmpty "category_name") heq
  exact absurd hcategory (by decide +kernel)

/-- A rule that marks rides. -/
def marked : Rule :=
  ⟨⟨"Mark", "", [⟨.payeeName, .contains, "uber"⟩], [⟨.memo, .set, "ride"⟩], true, 1, .and⟩, "m"⟩

/-- A rule that is done with what is marked and open, and writes over the mark. -/
def filing : Rule :=
  ⟨⟨"Done", "", [⟨.memo, .equals, "ride"⟩, ⟨.categoryName, .equals, "open"⟩],
    [⟨.memo, .set, "filed"⟩, ⟨.categoryName, .set, "Transport"⟩], true, 0, .and⟩, "d"⟩

/-- A rule that does not match again can have written over what an earlier one writes again.  No turn changes what an
earlier rule looks at. -/
theorem applyRules_twice_filed :
    let rules := [marked, filing]
    let ride := Record.ofList [("category_name", .text "open"), ("id", .text "a"), ("payee_name", .text "Uber")]
    (∀ rule ∈ rules, rule.Overwrites) ∧
      (turns (rules.filter (·.enabled)) ride).Pairwise
        (fun earlier later => ∀ k, earlier.rule.Reads k → ¬later.Alters k) ∧
      let first := (applyRules rules ride ⟨0, 0⟩ EventLog.all).1.record
      (applyRules rules first ⟨0, 0⟩ EventLog.all).1.record ≠ first := by
  intro rules ride
  refine ⟨by decide, List.pairwise_pair.2 ?_, fun heq => ?_⟩
  · -- the first rule looks at the payee, which the second one does not write
    rintro k ⟨c, hc, rfl⟩ hk
    have hturn : (⟨filing, marked.apply ride, filing.apply (marked.apply ride)⟩ : Turn) ∈ turns rules ride :=
      List.mem_cons_of_mem _ List.mem_cons_self
    obtain ⟨a, ha, hac⟩ := writes_of_alters hturn hk
    have hunread : ∀ c ∈ marked.conditions, ∀ a ∈ filing.actions, a.field.name ≠ c.field.name := by decide
    exact hunread c hc a ha hac
  · have hmemo := congrArg (·.textOrEmpty "memo") heq
    exact absurd hmemo (by decide +kernel)

end Cascade

end BudgetRules
