import BudgetRules.Proofs.Engine
import BudgetRules.Proofs.Record.Reading
import BudgetRules.Proofs.Report
import BudgetRules.Proofs.Rule.Fields

/-!
# What a modification answers for

A modification lists the fields that the rules left different, in the order of their names.  Each of them has
become a text, and some rule that applied has an action that writes it; nothing else in the record changed:

    (outcome rules r).record.get? k ≠ r.get? k →
      ∃ rule ∈ rules, rule.enabled ∧ rule.name ∈ (outcome rules r).applied ∧ rule.Writes k   (blame_of_changed)
    r.hasNaN = false → modification? rules r = some m →
      m.Answers rules r (outcome rules r).record                                     (answers_of_modification?)

A NaN would be listed as a change to itself.
-/

namespace BudgetRules

/-! ## Fields that are written -/

theorem Rule.get?_effect? {rule : Rule} {r next : Record} (h : rule.effect? r = some next) :
    rule.enabled = true ∧ ∀ k, ¬rule.Writes k → next.get? k = r.get? k := by
  unfold effect? at h
  split at h
  · next hc =>
    cases h
    simp only [Bool.and_eq_true] at hc
    exact ⟨hc.1.1, fun k hk => RuleDraft.get?_applyActions hk r⟩
  · cases h

/-- A field that is left different has been written by a rule that applied. -/
theorem Cascade.blame_of_changed {rules : List Rule} {r : Record} {k : String}
    (h : (outcome rules r).record.get? k ≠ r.get? k) :
    ∃ rule ∈ rules, rule.enabled = true ∧ rule.name ∈ (outcome rules r).applied ∧ rule.Writes k := by
  induction rules generalizing r with
  | nil => exact absurd rfl h
  | cons rule rest ih =>
    unfold outcome at h ⊢
    cases he : rule.effect? r with
    | none =>
      simp only [he] at h ⊢
      obtain ⟨other, hm, hb⟩ := ih h
      exact ⟨other, List.mem_cons_of_mem rule hm, hb⟩
    | some next =>
      simp only [he] at h ⊢
      obtain ⟨hen, hkeep⟩ := Rule.get?_effect? he
      by_cases hw : rule.Writes k
      · exact ⟨rule, List.mem_cons_self, hen, List.mem_cons_self, hw⟩
      · rw [← hkeep k hw] at h
        obtain ⟨other, hm, hen', hname, hb⟩ := ih h
        exact ⟨other, List.mem_cons_of_mem rule hm, hen', List.mem_cons_of_mem rule.name hname, hb⟩

namespace Record

variable {r s : Record}

theorem Rewritten.contains (h : r.Rewritten s) {k : String} (hk : r.contains k = true) :
    s.contains k = true := by
  rw [contains_eq] at hk ⊢
  rcases h k with he | ⟨f, t, -, ht⟩
  · rw [he]; exact hk
  · rw [ht]; rfl

/-! ## Changes -/

/-- Between a record and one that has all its fields, the changes stand in the order of their fields. -/
theorem pairwise_diff (h : ∀ k, r.contains k = true → s.contains k = true) :
    (r.diff s).Pairwise fun c d => c.field < d.field := by
  obtain ⟨changed, gone, heq, hchanged, -, -, hgone⟩ := exists_diff_eq r s
  have hnone : gone = [] := by
    refine List.eq_nil_iff_forall_not_mem.2 fun c hc => ?_
    obtain ⟨hr, hs⟩ := hgone c hc
    rw [h c.field hr] at hs
    cases hs
  rw [heq, hnone, List.append_nil]
  exact hchanged

/-- What rules change becomes a text, other than what it was. -/
theorem Rewritten.text_of_mem_diff (h : r.Rewritten s) (hn : r.hasNaN = false) {c : FieldChange}
    (hc : c ∈ r.diff s) :
    ∃ (f : ActionField) (t : String), c.field = f.name ∧ c.new = some (.text t) ∧ c.old ≠ some (.text t) := by
  rcases mem_diff.1 hc with ⟨v, hs, ho, hnew, hne⟩ | ⟨v, hr, hs, -, -⟩
  · rcases h c.field with he | ⟨f, t, hf, ht⟩
    · rw [hs] at he
      have hself := hne v he.symm
      rw [FieldValue.beq_self (hasNaN_eq_false_iff.1 hn c.field v he.symm)] at hself
      cases hself
    · rw [hs] at ht
      cases ht
      refine ⟨f, t, hf, hnew, fun hsame => ?_⟩
      rw [ho] at hsame
      have hself := hne (.text t) hsame
      rw [FieldValue.beq_self rfl] at hself
      cases hself
  · rcases h c.field with he | ⟨f, t, hf, ht⟩
    · rw [hs, hr] at he
      cases he
    · rw [hs] at ht
      cases ht

end Record

theorem ActionField.name_mem (f : ActionField) : f.name ∈ ["category_name", "memo", "payee_name"] := by
  cases f <;> decide

/-! ## Modifications -/

/-- A modification tells what some rules made of a record, and which of them did it. -/
structure Modification.Answers (m : Modification) (rules : List Rule) (before after : Record) : Prop where
  changes_ne_nil : m.changes ≠ []
  ascending : m.changes.Pairwise fun c d => c.field < d.field
  written : ∀ c ∈ m.changes, c.field ∈ ["category_name", "memo", "payee_name"]
  /-- some enabled rule that the modification names has an action for the field -/
  blamed : ∀ c ∈ m.changes, ∃ rule ∈ rules,
    rule.enabled = true ∧ rule.name ∈ m.applied ∧ ∃ a ∈ rule.actions, a.field.name = c.field
  old : ∀ c ∈ m.changes, c.old = before.get? c.field
  new : ∀ c ∈ m.changes, ∃ t, c.new = some (.text t) ∧ after.get? c.field = c.new ∧ c.new ≠ c.old
  keeps : ∀ k, before.contains k = true → after.contains k = true
  frame : ∀ k, k ∉ m.changes.map (·.field) → after.get? k = before.get? k

namespace Batch

open Cascade

theorem applied_of_modification? {rules : List Rule} {r : Record} {m : Modification}
    (h : modification? rules r = some m) : m.applied = (outcome rules r).applied := by
  rw [(modification?_eq_some h).2]

theorem changes_ne_nil_of_modification? {rules : List Rule} {r : Record} {m : Modification}
    (h : modification? rules r = some m) : m.changes ≠ [] := by
  rw [changes_of_modification? h]
  exact (modification?_eq_some h).1

theorem answers_of_modification? {rules : List Rule} {r : Record} {m : Modification}
    (hn : r.hasNaN = false) (h : modification? rules r = some m) :
    m.Answers rules r (outcome rules r).record := by
  have hw := rewritten_outcome rules r
  have hchanges := changes_of_modification? h
  have htext : ∀ c ∈ m.changes, ∃ (f : ActionField) (t : String),
      c.field = f.name ∧ c.new = some (.text t) ∧ c.old ≠ some (.text t) := by
    intro c hc
    rw [hchanges] at hc
    exact hw.text_of_mem_diff hn hc
  have hold : ∀ c ∈ m.changes, c.old = r.get? c.field := by
    intro c hc
    rw [hchanges] at hc
    exact Record.old_of_mem_diff hc
  have hnew : ∀ c ∈ m.changes, c.new = (outcome rules r).record.get? c.field := by
    intro c hc
    rw [hchanges] at hc
    exact Record.new_of_mem_diff hc
  constructor
  case changes_ne_nil => exact changes_ne_nil_of_modification? h
  case ascending =>
    rw [hchanges]
    exact Record.pairwise_diff fun k => hw.contains
  case written =>
    intro c hc
    obtain ⟨f, t, hf, -, -⟩ := htext c hc
    rw [hf]
    exact f.name_mem
  case blamed =>
    intro c hc
    obtain ⟨f, t, -, ht, hne⟩ := htext c hc
    have hdiffers : (outcome rules r).record.get? c.field ≠ r.get? c.field := by
      rw [← hnew c hc, ← hold c hc, ht]
      exact Ne.symm hne
    rw [applied_of_modification? h]
    exact blame_of_changed hdiffers
  case old => exact hold
  case new =>
    intro c hc
    obtain ⟨f, t, -, ht, hne⟩ := htext c hc
    refine ⟨t, ht, (hnew c hc).symm, ?_⟩
    rw [ht]
    exact Ne.symm hne
  case keeps => exact fun k => hw.contains
  case frame =>
    intro k hk
    rw [hchanges] at hk
    exact (Record.get?_eq_of_notMem_diff hw.agree hk).symm

end Batch

namespace Engine

variable {σ τ : Type} [RuleStore σ] [EventSink τ]

/-- Every modification of a report answers for a record of the batch and what the rules made of it, if the
batch is without a NaN, as all that is read from a text is. -/
theorem process_modifications_answer :
    (∀ text r, Json.decodeText Record.decoder text = .ok r → r.hasNaN = false) ∧
    (∀ text batch, FileLedger.readRecords text = .ok batch → ∀ r ∈ batch, r.hasNaN = false) ∧
    ∀ (e : Engine σ τ) (records : List Record) (dryRun : Bool) (h : Host),
      (∀ r ∈ records, r.hasNaN = false) →
      let rules := (e.loadRules.run h).1
      ∀ m ∈ ((e.process records dryRun).run h).1.1.modifications, ∃ r ∈ records,
        let o := (applyRules rules r e.now e.sink).1
        m.transaction = r.label ∧ m.applied = o.applied ∧ m.Answers rules r o.record := by
  refine ⟨fun _ _ => Record.hasNaN_of_decodeText, fun _ _ => FileLedger.hasNaN_of_readRecords, ?_⟩
  intro e records dryRun h hn rules m hm
  obtain ⟨s, h', hrun⟩ := e.run_process records dryRun h
  rw [hrun, Batch.modifications_report, List.mem_filterMap] at hm
  obtain ⟨r, hr, hmr⟩ := hm
  refine ⟨r, hr, ?_⟩
  rw [applyRules_eq]
  exact ⟨Batch.transaction_of_modification? hmr, Batch.applied_of_modification? hmr,
    Batch.answers_of_modification? (hn r hr) hmr⟩

/-- A rule that files a ride under transport. -/
theorem process_modifications_answer_ride :
    let e : Engine MemoryStore EventLog := ⟨⟨[.rides]⟩, .all, ⟨0, 0⟩⟩
    let ride := Record.ofList [("id", .text "a"), ("payee_name", .text "Uber"), ("outflow", .number (.ofInt 12))]
    let h : Host := ⟨.empty, .seeded 0, [], []⟩
    let rules := (e.loadRules.run h).1
    let modifications := ((e.process [ride] true).run h).1.1.modifications
    (∀ r ∈ [ride], r.hasNaN = false) ∧ modifications.map (·.transaction) = ["a"] ∧
      ∀ m ∈ modifications, ∃ r ∈ [ride],
        let o := (applyRules rules r e.now e.sink).1
        m.transaction = r.label ∧ m.applied = o.applied ∧ m.Answers rules r o.record :=
  ⟨by decide +kernel, by decide +kernel,
    process_modifications_answer.2.2 _ _ true _ (by decide +kernel)⟩

end Engine

end BudgetRules
