import BudgetRules.Proofs.Cascade.Turns
import BudgetRules.Proofs.Engine
import BudgetRules.Proofs.Record.Reading

/-!
# Rules that leave one another alone

A rule sees the record as the rules before it left it.  Where these write nothing that it looks at, that makes no
difference: it matches what it comes to if it matches what the run began with.  Two rules of which neither writes
what the other looks at or writes may run in either order:

    rules.foldl apply r = (rules.filter (·.holds r)).foldl applyActions r              (foldl_apply_of_unread)
    a.Apart b → b.apply (a.apply r) = a.apply (b.apply r)                         (RuleDraft.Apart.apply_comm)
    a.Apart b → (a.effect? (b.apply r)).isSome = (a.effect? r).isSome                   (isSome_effect?_apart)

The last one is about records without a NaN in the fields of `b`.  As long as there is one, a rule that matches
applies, even if it writes what is there already.
-/

namespace BudgetRules

namespace RuleDraft

variable {a b d e : RuleDraft} {r s : Record} {k : String}

/-- A draft that writes nothing that another looks at does not decide whether the other holds. -/
theorem holds_apply (h : ∀ k, e.Writes k → ¬d.Reads k) (r : Record) : d.holds (e.apply r) = d.holds r :=
  holds_congr fun k hk => Record.present?_congr (get?_apply_of_not_writes (fun hw => h k hw hk) r)

theorem get?_apply_congr_field (hholds : d.holds r = d.holds s) (hk : r.get? k = s.get? k) :
    (d.apply r).get? k = (d.apply s).get? k := by
  cases hs : d.holds s with
  | true =>
    rw [apply_of_holds (hholds.trans hs), apply_of_holds hs]
    exact get?_applyActions_congr_field hk
  | false =>
    rw [apply_of_not_holds (hholds.trans hs), apply_of_not_holds hs]
    exact hk

/-- Neither of two drafts writes what the other looks at or writes. -/
structure Apart (a b : RuleDraft) : Prop where
  unread_right : ∀ k, a.Writes k → ¬b.Reads k
  unread_left : ∀ k, b.Writes k → ¬a.Reads k
  unwritten : ∀ k, a.Writes k → ¬b.Writes k

theorem apart_iff :
    a.Apart b ↔ (∀ x ∈ a.actions, ¬b.Reads x.field.name ∧ ¬b.Writes x.field.name) ∧
      ∀ y ∈ b.actions, ¬a.Reads y.field.name := by
  constructor
  · intro h
    exact ⟨fun x hx => ⟨h.unread_right _ ⟨x, hx, rfl⟩, h.unwritten _ ⟨x, hx, rfl⟩⟩,
      fun y hy => h.unread_left _ ⟨y, hy, rfl⟩⟩
  · rintro ⟨ha, hb⟩
    constructor
    case unread_right =>
      rintro k ⟨x, hx, rfl⟩
      exact (ha x hx).1
    case unread_left =>
      rintro k ⟨y, hy, rfl⟩
      exact hb y hy
    case unwritten =>
      rintro k ⟨x, hx, rfl⟩
      exact (ha x hx).2

instance (a b : RuleDraft) : Decidable (a.Apart b) := decidable_of_iff' _ apart_iff

theorem Apart.symm (h : a.Apart b) : b.Apart a :=
  ⟨h.unread_left, h.unread_right, fun k hb ha => h.unwritten k ha hb⟩

/-- Drafts that are apart may be applied in either order. -/
theorem Apart.apply_comm (h : a.Apart b) (r : Record) : b.apply (a.apply r) = a.apply (b.apply r) := by
  refine Record.ext_get? fun k => ?_
  -- at most one of the two writes the field, and the other has no part in what it writes
  by_cases ha : a.Writes k
  · have hb : ¬b.Writes k := h.unwritten k ha
    rw [get?_apply_of_not_writes hb]
    exact get?_apply_congr_field (holds_apply h.unread_left r).symm (get?_apply_of_not_writes hb r).symm
  · rw [get?_apply_of_not_writes ha (b.apply r)]
    exact get?_apply_congr_field (holds_apply h.unread_right r) (get?_apply_of_not_writes ha r)

end RuleDraft

namespace Cascade

/-! ## Matching against the record of the beginning -/

/-- If no rule writes what a later one looks at, the rules that match at the beginning are those that match when
their turns come. -/
theorem foldl_apply_of_unread {rules : List Rule}
    (h : rules.Pairwise fun earlier later => ∀ k, earlier.Writes k → ¬later.Reads k) (r : Record) :
    rules.foldl (fun r rule => rule.apply r) r =
      (rules.filter fun rule => rule.holds r).foldl (fun r rule => rule.applyActions r) r := by
  induction rules generalizing r with
  | nil => rfl
  | cons rule rest ih =>
    obtain ⟨hfirst, hrest⟩ := List.pairwise_cons.1 h
    have hsame : (rest.filter fun later => later.holds (rule.apply r)) =
        rest.filter fun later => later.holds r :=
      List.filter_congr fun later hm => RuleDraft.holds_apply (hfirst later hm) r
    rw [List.foldl_cons, ih hrest, hsame, List.filter_cons]
    cases hh : rule.holds r with
    | true => rw [if_pos rfl, List.foldl_cons, RuleDraft.apply_of_holds hh]
    | false => rw [if_neg Bool.false_ne_true, RuleDraft.apply_of_not_holds hh]

variable {σ : Type} [EventSink σ]

/-- If no enabled rule looks at a field that an enabled rule writes, running the rules is to apply, in their order,
the actions of those enabled ones that match the record at the beginning. -/
theorem applyRules_eq_actions_of_matching {rules : List Rule}
    (h : ∀ reader ∈ rules, reader.enabled = true → ∀ writer ∈ rules, writer.enabled = true →
      ∀ k, writer.Writes k → ¬reader.Reads k)
    (r : Record) (now : Timestamp) (s : σ) :
    (applyRules rules r now s).1.record =
      ((rules.filter fun rule => rule.enabled && rule.holds r).flatMap (·.actions)).foldl
        (fun r a => a.apply r) r := by
  have hunread : (rules.filter (·.enabled)).Pairwise fun earlier later =>
      ∀ k, earlier.Writes k → ¬later.Reads k := by
    refine List.pairwise_iff_forall_sublist.2 fun {writer reader} hsub => ?_
    obtain ⟨hwriter, hw⟩ := List.mem_filter.1 (hsub.subset List.mem_cons_self)
    obtain ⟨hreader, hr⟩ := List.mem_filter.1 (hsub.subset (List.mem_cons_of_mem _ List.mem_cons_self))
    exact h reader hreader hr writer hwriter hw
  have hmatching : (rules.filter fun rule => rule.enabled && rule.holds r) =
      (rules.filter (·.enabled)).filter fun rule => rule.holds r := by
    rw [List.filter_filter]
    exact List.filter_congr fun rule _ => Bool.and_comm _ _
  rw [record_applyRules, outcome_eq, hmatching, List.foldl_flatMap]
  exact foldl_apply_of_unread hunread r

/-- A rule that makes a note of what was paid in cash or was dear, in two words. -/
def cashed : Rule :=
  ⟨⟨"Cash", "", [⟨.accountName, .equals, "cash"⟩, ⟨.outflow, .greaterThan, "100"⟩],
    [⟨.memo, .append, "in"⟩, ⟨.memo, .append, "cash"⟩], true, 1, .or⟩, "c"⟩

/-- A rule that is disabled and looks at what others write. -/
def asleep : Rule :=
  ⟨⟨"Asleep", "", [⟨.memo, .contains, "cash"⟩], [⟨.payeeName, .clear, ""⟩], false, 1, .and⟩, "z"⟩

/-- A ride that was paid in cash: two rules match it, one of them in two steps. -/
theorem applyRules_eq_actions_of_matching_ride :
    let rules := [cashed, asleep, .rides]
    let ride := Record.ofList [("account_name", .text "Cash"), ("memo", .text "home"), ("payee_name", .text "Uber")]
    (∀ reader ∈ rules, reader.enabled = true → ∀ writer ∈ rules, writer.enabled = true →
      ∀ k, writer.Writes k → ¬reader.Reads k) ∧
    (applyRules rules ride ⟨0, 0⟩ EventLog.all).1.record =
      ((rules.filter fun rule => rule.enabled && rule.holds ride).flatMap (·.actions)).foldl
        (fun r a => a.apply r) ride ∧
    (applyRules rules ride ⟨0, 0⟩ EventLog.all).1.record.textOrEmpty "memo" = "home in cash" := by
  intro rules ride
  have h : ∀ reader ∈ rules, reader.enabled = true → ∀ writer ∈ rules, writer.enabled = true →
      ∀ a ∈ writer.actions, ¬reader.Reads a.field.name := by decide
  have hunread : ∀ reader ∈ rules, reader.enabled = true → ∀ writer ∈ rules, writer.enabled = true →
      ∀ k, writer.Writes k → ¬reader.Reads k := by
    rintro reader hreader hr writer hwriter hw k ⟨a, ha, rfl⟩
    exact h reader hreader hr writer hwriter hw a ha
  exact ⟨hunread, applyRules_eq_actions_of_matching hunread ride ⟨0, 0⟩ EventLog.all, by decide +kernel⟩

/-! ## Rules that change places -/

/-- Whether a rule applies is not changed by a rule that is apart from it, if that one writes over no NaN. -/
theorem isSome_effect?_apart {a b : Rule} (h : a.Apart b.toRuleDraft) {r : Record}
    (hn : ∀ k v, b.Writes k → r.get? k = some v → v.hasNaN = false) :
    (a.effect? (b.apply r)).isSome = (a.effect? r).isSome := by
  refine Rule.isSome_effect?_congr (fun k hk => ?_) fun k _ => ?_
  · -- `b` leaves what `a` looks at or writes
    have hb : ¬b.Writes k := by
      rcases hk with hk | hk
      · exact fun hw => h.unread_left k hw hk
      · exact h.unwritten k hk
    exact Record.present?_congr (RuleDraft.get?_apply_of_not_writes hb r)
  · -- and it turns no other field into one that differs from itself, nor back
    by_cases hb : b.Writes k
    · have hr : ∀ v, r.get? k = some v → v.hasNaN = false := fun v => hn k v hb
      rw [Record.get?_beq_self hr, Record.get?_beq_self ((b.rewritten_apply r).field_hasNaN hr)]
    · rw [RuleDraft.get?_apply_of_not_writes hb]

theorem outcome_pair {a b : Rule} (ha : a.enabled = true) (hb : b.enabled = true) (r : Record) :
    outcome [a, b] r = ⟨b.apply (a.apply r), a.applied r ++ b.applied (a.apply r)⟩ := by
  rw [outcome_cons, outcome_cons, ← Rule.apply_eq ha, ← Rule.apply_eq hb, outcome, List.append_nil]

/-- Two rules that are apart leave the same in either order. -/
theorem record_pair_comm {a b : Rule} (ha : a.enabled = true) (hb : b.enabled = true)
    (h : a.Apart b.toRuleDraft) (r : Record) : (outcome [b, a] r).record = (outcome [a, b] r).record := by
  rw [outcome_pair ha hb, outcome_pair hb ha, h.apply_comm]

theorem applied_pair_sublist {a b : Rule} (ha : a.enabled = true) (hb : b.enabled = true) (r : Record) :
    (outcome [a, b] r).applied.Sublist [a.name, b.name] := by
  rw [outcome_pair ha hb]
  exact (a.applied_sublist r).append (b.applied_sublist _)

/-- Two rules that are apart are named in the order in which they run. -/
theorem applied_pair_comm {a b : Rule} (ha : a.enabled = true) (hb : b.enabled = true)
    (h : a.Apart b.toRuleDraft) {r : Record}
    (hn : ∀ k v, a.Writes k ∨ b.Writes k → r.get? k = some v → v.hasNaN = false) :
    (outcome [b, a] r).applied = (outcome [a, b] r).applied.reverse := by
  have hafter : a.applied (b.apply r) = a.applied r :=
    Rule.applied_congr (isSome_effect?_apart h fun k v hk => hn k v (.inr hk))
  have hbefore : b.applied (a.apply r) = b.applied r :=
    Rule.applied_congr (isSome_effect?_apart h.symm fun k v hk => hn k v (.inl hk))
  rw [outcome_pair ha hb, outcome_pair hb ha, List.reverse_append, hafter, hbefore, a.reverse_applied,
    b.reverse_applied]

theorem outcome_around (before pair after : List Rule) (r : Record) :
    let first := outcome before r
    let second := outcome pair first.record
    let third := outcome after second.record
    outcome (before ++ (pair ++ after)) r =
      ⟨third.record, first.applied ++ (second.applied ++ third.applied)⟩ := by
  intro first second third
  rw [outcome_append, outcome_append]

/-- Two rules side by side that are apart may change places.  The record comes out the same, and so do the names
before and after theirs.  Their own change places, if both are there: in every record that is read, and in any
other one where neither rule writes over a NaN. -/
theorem applyRules_swap {a b : Rule} (ha : a.enabled = true) (hb : b.enabled = true)
    (h : a.Apart b.toRuleDraft) (before after : List Rule) (r : Record) (now : Timestamp) (s : σ) :
    let first := (applyRules before r now s).1
    let one := (applyRules (before ++ a :: b :: after) r now s).1
    let other := (applyRules (before ++ b :: a :: after) r now s).1
    other.record = one.record ∧
      ∃ pair pair' rest, pair.Sublist [a.name, b.name] ∧ pair'.Sublist [b.name, a.name] ∧
        one.applied = first.applied ++ (pair ++ rest) ∧ other.applied = first.applied ++ (pair' ++ rest) ∧
        ((∀ k v, a.Writes k ∨ b.Writes k → r.get? k = some v → v.hasNaN = false) → pair' = pair.reverse) ∧
        ∀ text, Json.decodeText Record.decoder text = .ok r → pair' = pair.reverse := by
  intro first one other
  let middle := (outcome before r).record
  have hfirst : first = outcome before r := congrArg Prod.fst (applyRules_eq before r now s)
  have hone : one = _ :=
    (congrArg Prod.fst (applyRules_eq _ r now s)).trans (outcome_around before [a, b] after r)
  have hother : other = _ :=
    (congrArg Prod.fst (applyRules_eq _ r now s)).trans (outcome_around before [b, a] after r)
  have hrecord : (outcome [b, a] middle).record = (outcome [a, b] middle).record :=
    record_pair_comm ha hb h middle
  have hnames : (∀ k v, a.Writes k ∨ b.Writes k → r.get? k = some v → v.hasNaN = false) →
      (outcome [b, a] middle).applied = (outcome [a, b] middle).applied.reverse := by
    intro hn
    exact applied_pair_comm ha hb h fun k v hk =>
      (rewritten_outcome before r).field_hasNaN (fun w => hn k w hk) v
  refine ⟨?_, (outcome [a, b] middle).applied, (outcome [b, a] middle).applied,
    (outcome after (outcome [a, b] middle).record).applied, applied_pair_sublist ha hb middle,
    applied_pair_sublist hb ha middle, ?_, ?_, hnames, fun text hread => ?_⟩
  · rw [hone, hother, hrecord]
  · rw [hone, hfirst]
  · rw [hother, hfirst, hrecord]
  · exact hnames fun k v _ => Record.hasNaN_eq_false_iff.1 (Record.hasNaN_of_decodeText hread) k v

/-- A rule that names the driver of a ride that was paid in cash. -/
def taxi : Rule :=
  ⟨⟨"Taxi", "", [⟨.memo, .endsWith, "in cash"⟩, ⟨.categoryName, .equals, "transport"⟩],
    [⟨.payeeName, .set, "Taxi"⟩], true, 0, .and⟩, "t"⟩

/-- Both rules are named, in either order, and a third one looks at what they have written. -/
theorem applyRules_swap_ride :
    let ride := Record.ofList [("account_name", .text "Cash"), ("memo", .text "home"), ("payee_name", .text "Uber")]
    let first := (applyRules [asleep] ride ⟨0, 0⟩ EventLog.all).1
    let one := (applyRules ([asleep] ++ cashed :: .rides :: [taxi]) ride ⟨0, 0⟩ EventLog.all).1
    let other := (applyRules ([asleep] ++ .rides :: cashed :: [taxi]) ride ⟨0, 0⟩ EventLog.all).1
    cashed.enabled = true ∧ Rule.rides.enabled = true ∧ cashed.Apart Rule.rides.toRuleDraft ∧
      ride.hasNaN = false ∧ other.record = one.record ∧
      (∃ pair rest, pair.Sublist [cashed.name, Rule.rides.name] ∧
        one.applied = first.applied ++ (pair ++ rest) ∧
        other.applied = first.applied ++ (pair.reverse ++ rest)) ∧
      one.applied = ["Cash", "Rides", "Taxi"] ∧ other.applied = ["Rides", "Cash", "Taxi"] := by
  intro ride first one other
  have hn : ride.hasNaN = false := by decide +kernel
  have hapart : cashed.Apart Rule.rides.toRuleDraft := by decide
  obtain ⟨hrecord, pair, pair', rest, hpair, -, hone, hother, hnames, -⟩ :=
    applyRules_swap rfl rfl hapart [asleep] [taxi] ride ⟨0, 0⟩ EventLog.all
  have hreverse : pair' = pair.reverse := hnames fun k v _ => Record.hasNaN_eq_false_iff.1 hn k v
  rw [hreverse] at hother
  exact ⟨rfl, rfl, hapart, hn, hrecord, ⟨pair, rest, hpair, hone, hother⟩, by decide +kernel, by decide +kernel⟩

/-- A ride that was paid in cash and has a NaN for a memo: as long as that is there, to file it again under what it is
filed under counts as a change. -/
theorem applyRules_swap_nan :
    let ride := Record.ofList [("account_name", .text "Cash"), ("category_name", .text "Transport"),
      ("memo", .number .nan), ("payee_name", .text "Uber")]
    cashed.enabled = true ∧ Rule.rides.enabled = true ∧ cashed.Apart Rule.rides.toRuleDraft ∧
      (applyRules [cashed, .rides] ride ⟨0, 0⟩ EventLog.all).1.applied = ["Cash"] ∧
      (applyRules [.rides, cashed] ride ⟨0, 0⟩ EventLog.all).1.applied = ["Rides", "Cash"] :=
  ⟨rfl, rfl, by decide, by decide +kernel, by decide +kernel⟩

end Cascade

end BudgetRules
