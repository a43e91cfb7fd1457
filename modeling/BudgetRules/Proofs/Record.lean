import BudgetRules.Proofs.SortedMap
import BudgetRules.Report

/-!
# Differences of records

A record is what its fields hold.  Changes are written one after the other; the changes that `diff` finds
between two records turn the one into the other, as long as values that compare equal are the same:

    c ∈ r.diff s → c.old = r.get? c.field ∧ c.new = s.get? c.field      (Record.old_of_mem_diff, …)
    Agree r s → r.applyChanges (r.diff s) = s                           (Record.applyChanges_diff)

Comparison is not identity: a NaN differs from itself, and the two zeros are equal.
-/

namespace BudgetRules

namespace Record

variable {r s : Record}

/-! ## Fields -/

@[simp] theorem get?_set (r : Record) (f : String) (v : FieldValue) (k : String) :
    (r.set f v).get? k = if k = f then some v else r.get? k :=
  SortedMap.get?_insert r.fields f v k

@[simp] theorem get?_erase (r : Record) (f k : String) :
    (r.erase f).get? k = if k = f then none else r.get? k :=
  SortedMap.get?_erase r.fields f k

theorem mem_toList {k : String} {v : FieldValue} : (k, v) ∈ r.toList ↔ r.get? k = some v :=
  SortedMap.get?_eq_some_iff.symm

theorem contains_eq (r : Record) (k : String) : r.contains k = (r.get? k).isSome := rfl

/-- Records with the same fields are the same. -/
theorem ext_get? (h : ∀ k, r.get? k = s.get? k) : r = s := by
  have hf : r.fields = s.fields := SortedMap.ext_get? h
  cases r; cases s
  simp only at hf
  rw [hf]

theorem present?_congr {k : String} (h : r.get? k = s.get? k) : r.present? k = s.present? k := by
  rw [present?, present?, h]

theorem get?_eq_text_iff {k t : String} : r.get? k = some (.text t) ↔ r.present? k = some (.text t) := by
  unfold present?
  rw [Option.filter_eq_some_iff]
  exact (and_iff_left rfl).symm

theorem textOrEmpty_eq (r : Record) (k : String) :
    r.textOrEmpty k = ((r.present? k).map FieldValue.toText).getD "" := by
  unfold textOrEmpty present?
  cases r.get? k with
  | none => rfl
  | some v => cases v <;> rfl

theorem textOrEmpty_congr {k : String} (h : r.present? k = s.present? k) : r.textOrEmpty k = s.textOrEmpty k := by
  rw [textOrEmpty_eq, textOrEmpty_eq, h]

theorem textOrEmpty_set (r : Record) (f : String) (v : FieldValue) (k : String) :
    (r.set f v).textOrEmpty k = if k = f then v.toText else r.textOrEmpty k := by
  unfold textOrEmpty
  rw [get?_set]
  by_cases hk : k = f
  · rw [if_pos hk, if_pos hk]
  · rw [if_neg hk, if_neg hk]

theorem id?_congr (h : r.get? "id" = s.get? "id") : r.id? = s.id? := by
  rw [id?, id?, present?_congr h]

/-- The name in events is the identity, where there is one. -/
theorem label_eq (r : Record) : r.label = r.id?.getD "unknown" := by
  unfold label textOrUnknown id?
  cases r.present? "id" <;> rfl

theorem id?_eq_label (h : r.id? ≠ none) : r.id? = some r.label := by
  rw [label_eq]
  cases hr : r.id? with
  | none => exact absurd hr h
  | some t => rfl

/-! ## Changes one after the other -/

theorem applyChanges_cons (r : Record) (c : FieldChange) (l : List FieldChange) :
    r.applyChanges (c :: l) =
      (match c.new with
        | some v => r.set c.field v
        | none => r.erase c.field).applyChanges l := rfl

theorem applyChanges_append (r : Record) (l m : List FieldChange) :
    r.applyChanges (l ++ m) = (r.applyChanges l).applyChanges m :=
  List.foldl_append

/-- What a change leaves in a field. -/
theorem get?_change (r : Record) (c : FieldChange) (k : String) :
    (match c.new with
      | some v => r.set c.field v
      | none => r.erase c.field).get? k = if k = c.field then c.new else r.get? k := by
  cases c.new with
  | some v => exact get?_set r c.field v k
  | none => exact get?_erase r c.field k

/-- A field of which all changes say the same holds that, and what it held if there are none. -/
theorem get?_applyChanges (r : Record) {l : List FieldChange} {k : String} {x : Option FieldValue}
    (h : ∀ c ∈ l, c.field = k → c.new = x) :
    (r.applyChanges l).get? k = if k ∈ l.map (·.field) then x else r.get? k := by
  induction l generalizing r with
  | nil => rfl
  | cons c l ih =>
    rw [applyChanges_cons, ih _ fun d hd => h d (List.mem_cons_of_mem _ hd), get?_change]
    by_cases hk : k = c.field
    · subst hk
      simp [h c List.mem_cons_self rfl]
    · simp [hk]

/-! ## Differences -/

theorem mem_diff {c : FieldChange} :
    c ∈ r.diff s ↔
      (∃ v, s.get? c.field = some v ∧ c.old = r.get? c.field ∧ c.new = some v ∧
        ∀ old, r.get? c.field = some old → (old == v) = false) ∨
      (∃ v, r.get? c.field = some v ∧ s.get? c.field = none ∧ c.old = some v ∧ c.new = none) := by
  obtain ⟨f, old, new⟩ := c
  unfold diff
  rw [List.mem_append, List.mem_filterMap, List.mem_filterMap]
  refine or_congr ⟨?_, ?_⟩ ⟨?_, ?_⟩
  · rintro ⟨⟨k, v⟩, hv, hc⟩
    rw [mem_toList] at hv
    simp only at hc
    cases hr : r.get? k with
    | none =>
      simp only [hr, Option.some.injEq, FieldChange.mk.injEq] at hc
      obtain ⟨rfl, rfl, rfl⟩ := hc
      exact ⟨v, hv, hr.symm, rfl, fun o ho => by simp [hr] at ho⟩
    | some o =>
      simp only [hr] at hc
      split at hc
      · cases hc
      · next hne =>
        simp only [Option.some.injEq, FieldChange.mk.injEq] at hc
        obtain ⟨rfl, rfl, rfl⟩ := hc
        refine ⟨v, hv, hr.symm, rfl, fun o' ho => ?_⟩
        cases hr.symm.trans ho
        simpa using hne
  · rintro ⟨v, hv, ho, hn, hne⟩
    simp only at hv ho hn hne
    subst ho hn
    refine ⟨(f, v), mem_toList.2 hv, ?_⟩
    cases hr : r.get? f with
    | none => simp [hr]
    | some o => simp [hr, hne o hr]
  · rintro ⟨⟨k, v⟩, hv, hc⟩
    rw [mem_toList] at hv
    simp only [contains_eq] at hc
    cases hs : s.get? k with
    | some w => simp [hs] at hc
    | none =>
      simp only [hs, Option.isSome_none, Bool.false_eq_true, if_false, Option.some.injEq,
        FieldChange.mk.injEq] at hc
      obtain ⟨rfl, rfl, rfl⟩ := hc
      exact ⟨v, hv, hs, rfl, rfl⟩
  · rintro ⟨v, hv, hs, ho, hn⟩
    simp only at hv hs ho hn
    subst ho hn
    exact ⟨(f, v), mem_toList.2 hv, by simp [contains_eq, hs]⟩

theorem old_of_mem_diff {c : FieldChange} (h : c ∈ r.diff s) : c.old = r.get? c.field := by
  rcases mem_diff.1 h with ⟨v, -, ho, -, -⟩ | ⟨v, hr, -, ho, -⟩
  · exact ho
  · rw [ho, hr]

theorem new_of_mem_diff {c : FieldChange} (h : c ∈ r.diff s) : c.new = s.get? c.field := by
  rcases mem_diff.1 h with ⟨v, hs, -, hn, -⟩ | ⟨v, -, hs, -, hn⟩
  · rw [hn, hs]
  · rw [hn, hs]

/-- The differences are about the fields that compare as different. -/
theorem mem_fields_diff_iff {k : String} :
    k ∈ (r.diff s).map (·.field) ↔ (r.get? k == s.get? k) = false := by
  rw [List.mem_map]
  constructor
  · rintro ⟨c, hc, rfl⟩
    rcases mem_diff.1 hc with ⟨v, hs, -, -, hne⟩ | ⟨v, hr, hs, -, -⟩
    · rw [hs]
      cases hr : r.get? c.field with
      | none => rfl
      | some old => exact hne old hr
    · rw [hr, hs]
      rfl
  · intro hne
    cases hs : s.get? k with
    | some v =>
      refine ⟨⟨k, r.get? k, some v⟩, mem_diff.2 (.inl ⟨v, hs, rfl, rfl, fun old hr => ?_⟩), rfl⟩
      rw [hr, hs] at hne
      exact hne
    | none =>
      cases hr : r.get? k with
      | some v => exact ⟨⟨k, some v, none⟩, mem_diff.2 (.inr ⟨v, hr, hs, rfl, rfl⟩), rfl⟩
      | none =>
        rw [hr, hs] at hne
        cases hne

/-- A change that a field of the later record makes bears its name. -/
theorem field_of_changed {p : String × FieldValue} {c : FieldChange}
    (h : (match r.get? p.1 with
      | some old => if old == p.2 then none else some ⟨p.1, some old, some p.2⟩
      | none => some ⟨p.1, none, some p.2⟩) = some c) : c.field = p.1 := by
  split at h
  · split at h
    · cases h
    · cases h; rfl
  · cases h; rfl

/-- A change that a field of the earlier record makes bears its name, and the later record is without it. -/
theorem field_of_gone {p : String × FieldValue} {c : FieldChange}
    (h : (if s.contains p.1 then none else some ⟨p.1, some p.2, none⟩) = some c) :
    c.field = p.1 ∧ s.contains p.1 = false := by
  split at h
  · cases h
  · next hs =>
    cases h
    exact ⟨rfl, Bool.eq_false_iff.2 hs⟩

/-- First come fields of the later record, then those that only the earlier one has, both in their order. -/
theorem exists_diff_eq (r s : Record) :
    ∃ changed gone, r.diff s = changed ++ gone ∧
      (changed.Pairwise fun c d => c.field < d.field) ∧ (gone.Pairwise fun c d => c.field < d.field) ∧
      (∀ c ∈ changed, s.contains c.field = true) ∧
      ∀ c ∈ gone, r.contains c.field = true ∧ s.contains c.field = false := by
  refine ⟨_, _, rfl, Sorted.pairwise_filterMap s.fields.ascending fun p c hc => field_of_changed hc,
    Sorted.pairwise_filterMap r.fields.ascending fun p c hc => (field_of_gone hc).1, fun c hc => ?_, fun c hc => ?_⟩
  · obtain ⟨p, hp, hpc⟩ := List.mem_filterMap.1 hc
    rw [field_of_changed hpc, contains_eq, mem_toList.1 hp]
    rfl
  · obtain ⟨p, hp, hpc⟩ := List.mem_filterMap.1 hc
    obtain ⟨hfield, hs⟩ := field_of_gone hpc
    rw [hfield, contains_eq r, mem_toList.1 hp]
    exact ⟨rfl, hs⟩

/-- Values of a field that compare equal are the same. -/
def Agree (r s : Record) : Prop :=
  ∀ k old new, r.get? k = some old → s.get? k = some new → (old == new) = true → old = new

/-- A field without a change holds the same in both records. -/
theorem get?_eq_of_notMem_diff (h : Agree r s) {k : String} (hk : k ∉ (r.diff s).map (·.field)) :
    r.get? k = s.get? k := by
  rw [mem_fields_diff_iff, Bool.not_eq_false] at hk
  cases hr : r.get? k with
  | none =>
    cases hs : s.get? k with
    | none => rfl
    | some new => rw [hr, hs] at hk; cases hk
  | some old =>
    cases hs : s.get? k with
    | none => rw [hr, hs] at hk; cases hk
    | some new =>
      rw [hr, hs] at hk
      rw [h k old new hr hs hk]

/-- What a field of the first record holds once the differences are written to it. -/
theorem get?_applyChanges_diff (r s : Record) (k : String) :
    (r.applyChanges (r.diff s)).get? k = if k ∈ (r.diff s).map (·.field) then s.get? k else r.get? k := by
  refine get?_applyChanges r ?_
  rintro c hc rfl
  exact new_of_mem_diff hc

/-- The differences, written to the first record, make it the second. -/
theorem applyChanges_diff (h : Agree r s) : r.applyChanges (r.diff s) = s := by
  refine ext_get? fun k => ?_
  rw [get?_applyChanges_diff]
  split
  · rfl
  · next hk => exact get?_eq_of_notMem_diff h hk

end Record

end BudgetRules
