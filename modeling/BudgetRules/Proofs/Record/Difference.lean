import BudgetRules.Proofs.Record.Comparison

/-!
# What a difference lists

The difference of two records lists each field that they differ in once, and no other.  Two values differ if they
compare as different: a null and nothing are two things, the two zeros are one.  Written to the first record, the
difference makes it equal to the second:

    k ∈ (r.diff s).map (·.field) ↔ (r.get? k == s.get? k) = false                          (mem_fields_diff_iff)
    ((r.diff s).map (·.field)).Nodup                                                         (nodup_fields_diff)
    r.diff s = [] ↔ (r == s) = true                                                           (diff_eq_nil_iff)
    s.hasNaN = false → (r.applyChanges (r.diff s) == s) = true                            (applyChanges_diff_beq)

A NaN in the second record would be listed, and written, and differ from itself as before.
-/

namespace BudgetRules

namespace Record

variable {r s : Record} {k : String}

/-! ## Fields of a difference -/

/-- Two fields differ if only one of them is there, or if both are and their values differ. -/
theorem get?_beq_eq_false_iff :
    (r.get? k == s.get? k) = false ↔
      r.contains k ≠ s.contains k ∨
        ∃ old new, r.get? k = some old ∧ s.get? k = some new ∧ (old == new) = false := by
  rw [contains_eq, contains_eq]
  cases r.get? k with
  | none =>
    cases s.get? k with
    | none => simp
    | some new => simp
  | some old =>
    cases s.get? k with
    | none => simp
    | some new => simp

theorem nodup_fields_diff (r s : Record) : ((r.diff s).map (·.field)).Nodup := by
  obtain ⟨changed, gone, heq, hchanged, hgone, hthere, hnot⟩ := exists_diff_eq r s
  have hne : ∀ c d : FieldChange, c.field < d.field → c.field ≠ d.field := by
    intro c d hlt hcd
    rw [hcd] at hlt
    exact String.lt_irrefl d.field hlt
  rw [heq]
  refine List.pairwise_map.2 (List.pairwise_append.2 ⟨hchanged.imp (hne _ _), hgone.imp (hne _ _), ?_⟩)
  -- what is changed or new is in the later record, what is gone is not
  intro c hc d hd hcd
  have hs := hthere c hc
  rw [hcd, (hnot d hd).2] at hs
  cases hs

theorem diff_eq_nil_iff : r.diff s = [] ↔ (r == s) = true := by
  rw [beq_iff, ← List.map_eq_nil_iff (f := FieldChange.field), List.eq_nil_iff_forall_not_mem]
  refine forall_congr' fun k => ?_
  rw [mem_fields_diff_iff, Bool.not_eq_false]

/-! ## Writing a difference -/

theorem applyChanges_diff_beq (hs : s.hasNaN = false) : (r.applyChanges (r.diff s) == s) = true := by
  refine beq_iff.2 fun k => ?_
  rw [get?_applyChanges_diff]
  split
  · exact get?_beq_self (hasNaN_eq_false_iff.1 hs k)
  · next hk => rwa [mem_fields_diff_iff, Bool.not_eq_false] at hk

/-- The difference of two records lists the fields in which they differ, each once, with what either holds there.  It
is empty just if they compare equal, and written to the first it makes it equal to the second. -/
theorem diff_exact (r s : Record) :
    ((r.diff s).map (·.field)).Nodup ∧
      (∀ k, k ∈ (r.diff s).map (·.field) ↔ r.contains k ≠ s.contains k ∨
        ∃ old new, r.get? k = some old ∧ s.get? k = some new ∧ (old == new) = false) ∧
      (∀ c ∈ r.diff s, c.old = r.get? c.field ∧ c.new = s.get? c.field) ∧
      (r.diff s = [] ↔ (r == s) = true) ∧
      (s.hasNaN = false → (r.applyChanges (r.diff s) == s) = true) := by
  refine ⟨nodup_fields_diff r s, fun k => ?_, fun c hc => ?_, diff_eq_nil_iff, applyChanges_diff_beq⟩
  · rw [mem_fields_diff_iff, get?_beq_eq_false_iff]
  · exact ⟨old_of_mem_diff hc, new_of_mem_diff hc⟩

/-- One field is new, one has become a text, one is gone that held a null, and a zero has changed its sign. -/
theorem diff_exact_ride :
    let before := ofList [("memo", .null), ("outflow", .number (.ofInt 0)), ("payee_name", .number (.ofInt 5))]
    let after := ofList [("category_name", .text "Transport"), ("outflow", .number (.nearest true 0 1)),
      ("payee_name", .text "5")]
    let changes := before.diff after
    after.hasNaN = false ∧ changes.map (·.field) = ["category_name", "payee_name", "memo"] ∧
      (changes.map (·.field)).Nodup ∧
      (∀ c ∈ changes, c.old = before.get? c.field ∧ c.new = after.get? c.field) ∧
      (before.applyChanges changes == after) = true ∧
      (before.applyChanges changes).textOrEmpty "outflow" = "0" := by
  intro before after changes
  have hn : after.hasNaN = false := by decide +kernel
  obtain ⟨hnodup, -, hvalues, -, happly⟩ := diff_exact before after
  exact ⟨hn, by decide +kernel, hnodup, hvalues, happly hn, by decide +kernel⟩

end Record

end BudgetRules
