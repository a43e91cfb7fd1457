import BudgetRules.Proofs.Batch
import BudgetRules.Proofs.Cascade.Lockstep

/-!
# Rules that do nothing

A rule that is disabled, has no conditions or has no actions may stand anywhere among others: no record without a NaN
shows that it is there.  If it is disabled, an entry that hardly matters says that it was passed over, and that is
all that a sink gets to know of it:

    rule.Inert → r.hasNaN = false → rule.effect? r = none                                       (effect?_of_inert)
    outcome (a ++ rule :: b) r = outcome (a ++ b) r                                                (outcome_insert)
    (entries … (a ++ rule :: b) r).filter Entry.matters = (entries … (a ++ b) r).filter Entry.matters
                                                                                            (filter_entries_insert)

With a NaN in the record a rule without actions would leave what compares as different, and be named for it.
-/

namespace BudgetRules

/-! ## One rule -/

/-- Is an entry of interest to a reader who asks for no level? -/
def Entry.matters (e : Entry) : Bool := e.level.reaches .info

theorem RuleDraft.holds_of_no_conditions {d : RuleDraft} (h : d.conditions = []) (r : Record) :
    d.holds r = false := by
  unfold holds
  rw [h]
  rfl

theorem RuleDraft.applyActions_of_no_actions {d : RuleDraft} (h : d.actions = []) (r : Record) :
    d.applyActions r = r := by
  unfold applyActions
  rw [h]
  rfl

namespace Rule

/-- Is a rule disabled, without conditions, or without actions? -/
def Inert (rule : Rule) : Prop := rule.enabled = false ∨ rule.conditions = [] ∨ rule.actions = []

instance (rule : Rule) : Decidable rule.Inert :=
  inferInstanceAs (Decidable (rule.enabled = false ∨ rule.conditions = [] ∨ rule.actions = []))

variable {rule : Rule} {r : Record}

theorem effect?_of_inert (h : rule.Inert) (hn : r.hasNaN = false) : rule.effect? r = none := by
  rcases h with hdisabled | hconditions | hactions
  · exact effect?_of_disabled hdisabled r
  · unfold effect?
    rw [RuleDraft.holds_of_no_conditions hconditions, Bool.and_false, Bool.false_and]
    rfl
  · -- its conditions may match, but then it leaves the record that it found
    unfold effect?
    rw [RuleDraft.applyActions_of_no_actions hactions, Record.beq_self hn, Bool.not_true, Bool.and_false]
    rfl

end Rule

namespace Cascade

variable {rule : Rule} {r : Record}

/-- All that is told of a rule that does nothing is that it was passed over, if it is disabled. -/
theorem told_of_inert (h : rule.Inert) (hn : r.hasNaN = false) (now : Timestamp) (transaction : String) :
    told now transaction rule r = if rule.enabled then [] else [skipped now transaction rule] := by
  unfold told
  rw [Rule.effect?_of_inert h hn]
  cases rule.enabled <;> rfl

/-! ## Among other rules -/

theorem outcome_insert (h : rule.Inert) (hn : r.hasNaN = false) (a b : List Rule) :
    outcome (a ++ rule :: b) r = outcome (a ++ b) r := by
  have hthere : (outcome a r).record.hasNaN = false := (rewritten_outcome a r).hasNaN hn
  have hskip : outcome (rule :: b) (outcome a r).record = outcome b (outcome a r).record := by
    rw [outcome, Rule.effect?_of_inert h hthere]
  rw [outcome_append, outcome_append, hskip]

/-- The rules after one that does nothing tell what they would tell without it. -/
theorem entries_insert (h : rule.Inert) (hn : r.hasNaN = false) (a b : List Rule) (now : Timestamp)
    (transaction : String) :
    entries now transaction (a ++ rule :: b) r =
      entries now transaction a r ++
        ((if rule.enabled then [] else [skipped now transaction rule]) ++
          entries now transaction b (outcome a r).record) := by
  have hthere : (outcome a r).record.hasNaN = false := (rewritten_outcome a r).hasNaN hn
  rw [entries_append, entries, Rule.effect?_of_inert h hthere, told_of_inert h hthere]
  rfl

theorem filter_entries_insert (h : rule.Inert) (hn : r.hasNaN = false) (a b : List Rule) (now : Timestamp)
    (transaction : String) :
    (entries now transaction (a ++ rule :: b) r).filter Entry.matters =
      (entries now transaction (a ++ b) r).filter Entry.matters := by
  rw [entries_insert h hn, entries_append, List.filter_append, List.filter_append, List.filter_append]
  cases rule.enabled <;> rfl

end Cascade

/-- A steady sink takes the entries of the levels that it wants at first. -/
theorem EventSink.Steady.accepted_eq {σ : Type} [EventSink σ] {s : σ} (h : Steady s) (entries : List Entry) :
    accepted s entries = entries.filter fun e => enabled s e.level := by
  induction entries generalizing s with
  | nil => rfl
  | cons e rest ih =>
    rw [accepted, List.filter_cons]
    cases he : enabled s e.level with
    | false => exact ih h
    | true => rw [if_pos rfl, if_pos rfl, ih (h.emit e), h.enabled_emit e]

/-- What it takes of the entries of a kind does not hang on the others. -/
theorem EventSink.Steady.filter_accepted {σ : Type} [EventSink σ] {s : σ} (h : Steady s) (kind : Entry → Bool)
    (entries : List Entry) : (accepted s entries).filter kind = accepted s (entries.filter kind) := by
  rw [h.accepted_eq, h.accepted_eq, List.filter_filter, List.filter_filter]
  exact List.filter_congr fun e _ => Bool.and_comm _ _

namespace Cascade

variable {σ : Type} [EventSink σ]

/-- A rule that does nothing may be put anywhere among others: the same record comes out, the same rules are named,
and of the entries that matter the same are offered to whatever sink there is.  A sink that goes on wanting what it
wants takes the same of them.  If the rule is not disabled, any sink comes out the same. -/
theorem applyRules_insert_inert {rule : Rule} (h : rule.Inert) {r : Record} (hn : r.hasNaN = false)
    (a b : List Rule) (now : Timestamp) (s : σ) :
    let one := applyRules (a ++ rule :: b) r now s
    let other := applyRules (a ++ b) r now s
    one.1.record = other.1.record ∧ one.1.applied = other.1.applied ∧
      (let offered := entries now r.label (a ++ rule :: b) r
        let offered' := entries now r.label (a ++ b) r
        one.2 = offered.foldl EventSink.offer s ∧ other.2 = offered'.foldl EventSink.offer s ∧
          offered.filter Entry.matters = offered'.filter Entry.matters) ∧
      (EventSink.Steady s →
        (emitted (a ++ rule :: b) r now s).filter Entry.matters = (emitted (a ++ b) r now s).filter Entry.matters) ∧
      (rule.enabled = true → one = other ∧ emitted (a ++ rule :: b) r now s = emitted (a ++ b) r now s) := by
  intro one other
  have houtcome := outcome_insert h hn a b
  have hmatters := filter_entries_insert h hn a b now r.label
  have hone : one = _ := applyRules_eq (a ++ rule :: b) r now s
  have hother : other = _ := applyRules_eq (a ++ b) r now s
  rw [hone, hother, emitted_eq, emitted_eq]
  refine ⟨by rw [houtcome], by rw [houtcome], ⟨rfl, rfl, hmatters⟩, fun hs => ?_, fun he => ?_⟩
  · rw [hs.filter_accepted, hs.filter_accepted, hmatters]
  · have hentries : entries now r.label (a ++ rule :: b) r = entries now r.label (a ++ b) r := by
      rw [entries_insert h hn, entries_append, if_pos he, List.nil_append]
    rw [houtcome, hentries]
    exact ⟨rfl, rfl⟩

/-- The rule for rides, disabled. -/
def resting : Rule := { Rule.rides with enabled := false }

/-- The rule for rides, for whatever it may be. -/
def aimless : Rule := { Rule.rides with conditions := [] }

/-- The rule for rides, which lets them go on. -/
def idle : Rule := { Rule.rides with actions := [] }

/-- Behind the rule for rides, each of the three does nothing to a ride; the log of all entries shows the first. -/
theorem applyRules_insert_inert_ride :
    let ride := Record.ofList [("id", .text "a"), ("payee_name", .text "Uber")]
    let other := applyRules ([.rides] ++ [paid]) ride ⟨0, 0⟩ EventLog.all
    ride.hasNaN = false ∧ EventSink.Steady EventLog.all ∧ other.2.size = 1 ∧
      (applyRules ([.rides] ++ resting :: [paid]) ride ⟨0, 0⟩ EventLog.all).2.size = 2 ∧
      ∀ rule ∈ [resting, aimless, idle], rule.Inert ∧
        let one := applyRules ([.rides] ++ rule :: [paid]) ride ⟨0, 0⟩ EventLog.all
        one.1.record = other.1.record ∧ one.1.applied = other.1.applied ∧
          (emitted ([.rides] ++ rule :: [paid]) ride ⟨0, 0⟩ EventLog.all).filter Entry.matters =
            (emitted ([.rides] ++ [paid]) ride ⟨0, 0⟩ EventLog.all).filter Entry.matters ∧
          (rule.enabled = true → one = other) := by
  intro ride other
  have hn : ride.hasNaN = false := by decide +kernel
  have hsteady : EventSink.Steady EventLog.all := EventLog.all.steady
  have hinert : ∀ rule ∈ [resting, aimless, idle], rule.Inert := by decide
  refine ⟨hn, hsteady, by decide +kernel, by decide +kernel, fun rule hrule => ⟨hinert rule hrule, ?_⟩⟩
  obtain ⟨hrecord, happlied, -, hemitted, hsame⟩ :=
    applyRules_insert_inert (hinert rule hrule) hn [.rides] [paid] ⟨0, 0⟩ EventLog.all
  exact ⟨hrecord, happlied, hemitted hsteady, fun he => (hsame he).1⟩

end Cascade

end BudgetRules
