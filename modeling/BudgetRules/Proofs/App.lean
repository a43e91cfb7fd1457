import BudgetRules.App
import BudgetRules.Proofs.Engine
import BudgetRules.Proofs.Report

/-!
# Runs over a ledger in memory

A run that is no dry run writes its report to the records:

    (process … false apart).run h =
      ((.ok ⟨report, …⟩, ⟨…, some ⟨writeAll report.modifications records⟩⟩), …)          (run_process)

Records that all have an identity, each its own, all become what the rules make of them.  Without that, a
record may also take changes that were computed for another one, which goes by the same text in the report.
-/

namespace BudgetRules.App

open Cascade Modification Record

variable {σ τ : Type} [RuleStore σ] [EventSink τ]

/-! ## What a run writes -/

theorem run_evaluate (e : Engine σ τ) (records : List Record) (dryRun apart : Bool) (h : Host) :
    ∃ s h', (evaluate e records dryRun apart).run h =
      ((Batch.report (e.loadRules.run h).1 dryRun records, { e with sink := s }), h') := by
  unfold evaluate
  cases apart with
  | false => exact e.run_process records dryRun h
  | true => exact e.run_processApart records dryRun h

theorem run_persist (l : MemoryLedger) (a : Applied) (h : Host) : (persist l a).run h = (a, h) := by
  unfold persist
  by_cases ha : a.changes = 0
  · rw [if_pos ha]; rfl
  · rw [if_neg ha]; rfl

/-- A run reports what its rules do, and writes that to the records. -/
theorem run_process (e : Engine σ τ) (records : List Record) (apart : Bool) (h : Host) :
    let report := Batch.report (e.loadRules.run h).1 false records
    let applied := report.modifications.foldl (Ledger.tally records) ⟨0, []⟩
    ∃ s h', ((⟨e, some ⟨records⟩⟩ : App σ τ MemoryLedger).process false apart).run h =
      ((.ok ⟨report, some applied.changes, applied.failures⟩,
        ⟨{ e with sink := s }, some ⟨writeAll report.modifications records⟩⟩), h') := by
  intro report applied
  obtain ⟨s, h₁, he⟩ := run_evaluate e records false apart h
  obtain ⟨h₂, ha⟩ := Ledger.applyAll_run (fun m hm => Batch.keepsId_of_mem_report hm)
    (⟨records⟩ : MemoryLedger) ⟨0, []⟩ h₁
  have hreal : report.dryRun = false := Batch.dryRun_report ..
  have hw := Ledger.applyReport_of_real hreal (⟨records⟩ : MemoryLedger)
  refine ⟨s, h₂, ?_⟩
  unfold process
  show ((evaluate e records false apart >>= _).run h) = _
  rw [Script.run_andThen, he]
  show ((Ledger.applyReport (⟨records⟩ : MemoryLedger) report >>= _).run h₁) = _
  rw [Script.run_andThen, hw, ha]
  show ((persist _ _ >>= _).run h₂) = _
  rw [Script.run_andThen, run_persist]
  rfl

/-! ## Which record a modification is for -/

/-- What is listed for one record, told from the rest by something that holds of nothing else in the list. -/
theorem filter_filterMap_of_unique {f : Record → Option Modification} {p : Modification → Bool}
    {records : List Record} {i : Nat} {r : Record} (hi : records[i]? = some r)
    (hne : ∀ j s, j ≠ i → records[j]? = some s → ∀ m ∈ f s, p m = false) :
    (records.filterMap f).filter p = (f r).toList.filter p := by
  induction records generalizing i with
  | nil => simp at hi
  | cons first rest ih =>
    have hcons : (first :: rest).filterMap f = (f first).toList ++ rest.filterMap f := by
      rw [List.filterMap_cons]
      cases f first <;> rfl
    rw [hcons, List.filter_append]
    cases i with
    | zero =>
      rw [List.getElem?_cons_zero] at hi
      cases hi
      have hrest : (rest.filterMap f).filter p = [] := by
        rw [List.filter_eq_nil_iff]
        intro m hm
        obtain ⟨s, hs, hms⟩ := List.mem_filterMap.1 hm
        obtain ⟨j, hj⟩ := List.mem_iff_getElem?.1 hs
        rw [hne (j + 1) s (by omega) hj m hms]
        decide
      rw [hrest, List.append_nil]
    | succ i =>
      rw [List.getElem?_cons_succ] at hi
      have hfirst : (f first).toList.filter p = [] := by
        rw [List.filter_eq_nil_iff]
        intro m hm
        rw [hne 0 first (by omega) rfl m (by simpa using hm)]
        decide
      rw [hfirst, List.nil_append]
      exact ih hi fun j s hj hs => hne (j + 1) s (by omega) hs

/-- A record that no other is taken for takes its own changes. -/
theorem applyChanges_of_unlike_others (rules : List Rule) {records : List Record} {i : Nat} {r : Record}
    (hi : records[i]? = some r) (hid : r.id? ≠ none)
    (hother : ∀ j s, j ≠ i → records[j]? = some s → r.id? = some s.label →
      Batch.modification? rules s = none) :
    r.applyChanges (allChanges
        ((records.filterMap (Batch.modification? rules)).filter (meantFor r))) =
      (outcome rules r).record := by
  rw [filter_filterMap_of_unique hi, ← Batch.applyChanges_modification?]
  · congr 2
    rw [List.filter_eq_self]
    intro m hm
    have ht : m.transaction = r.label := Batch.transaction_of_modification? (by simpa using hm)
    exact decide_eq_true (by rw [ht, id?_eq_label hid])
  · intro j s hj hs m hm
    have ht : m.transaction = s.label := Batch.transaction_of_modification? hm
    refine decide_eq_false fun hrs => ?_
    rw [ht] at hrs
    rw [hother j s hj hs hrs] at hm
    cases hm

/-- Records with identities of their own all become what the rules make of them. -/
theorem writeAll_report {rules : List Rule} {records : List Record} (hid : ∀ r ∈ records, r.id? ≠ none)
    (hdistinct : (records.map Record.id?).Nodup) :
    writeAll (Batch.report rules false records).modifications records =
      records.map fun r => (outcome rules r).record := by
  refine List.ext_getElem? fun i => ?_
  rw [List.getElem?_map]
  cases hi : records[i]? with
  | none =>
    rw [List.getElem?_eq_none_iff] at hi
    rw [List.getElem?_eq_none (by rw [length_writeAll]; exact hi)]
    rfl
  | some r =>
    have hlt : i < records.length := (List.getElem?_eq_some_iff.1 hi).1
    have hother : ∀ j s, j ≠ i → records[j]? = some s → r.id? ≠ s.id? := by
      intro j s hj hs heq
      refine hj ((List.getElem?_inj (by rw [List.length_map]; exact hlt) hdistinct).1 ?_).symm
      rw [List.getElem?_map, List.getElem?_map, hi, hs, Option.map_some, Option.map_some, heq]
    have hfirst : r.id? ∉ (records.take i).map Record.id? := by
      intro hm
      obtain ⟨s, hs, heq⟩ := List.mem_map.1 hm
      obtain ⟨j, hj⟩ := List.mem_iff_getElem?.1 hs
      rw [List.getElem?_take] at hj
      split at hj
      · next hji => exact hother j s (by omega) hj heq.symm
      · cases hj
    rw [getElem?_writeAll (fun m hm => Batch.keepsId_of_mem_report hm) hi, if_neg hfirst,
      Batch.modifications_report, applyChanges_of_unlike_others rules hi (hid r (List.mem_of_getElem? hi))]
    · rfl
    · intro j s hj hs hrs
      rw [← id?_eq_label (hid s (List.mem_of_getElem? hs))] at hrs
      exact absurd hrs (hother j s hj hs)

/-- Records with identities of their own all become what the rules make of them, all changes are counted, and
nothing is refused. -/
theorem process_eq_applyRules (e : Engine σ τ) {records : List Record} (hid : ∀ r ∈ records, r.id? ≠ none)
    (hdistinct : (records.map Record.id?).Nodup) (apart : Bool) (h : Host) :
    let rules := (e.loadRules.run h).1
    let report := (Batch.run rules e.now false records e.sink).1
    ∃ e' h', ((⟨e, some ⟨records⟩⟩ : App σ τ MemoryLedger).process false apart).run h =
      ((.ok ⟨report, some report.changeCount, []⟩,
        ⟨e', some ⟨records.map fun r => (applyRules rules r e.now e.sink).1.record⟩⟩), h') := by
  intro rules report
  obtain ⟨s, h', hrun⟩ := run_process e records apart h
  have hreport : report = Batch.report rules false records := Batch.run_fst ..
  have hfound : ∀ m ∈ (Batch.report rules false records).modifications,
      some m.transaction ∈ records.map Record.id? := by
    intro m hm
    rw [Batch.modifications_report] at hm
    obtain ⟨r, hr, hmr⟩ := List.mem_filterMap.1 hm
    rw [Batch.transaction_of_modification? hmr, ← id?_eq_label (hid r hr)]
    exact List.mem_map_of_mem hr
  refine ⟨{ e with sink := s }, h', ?_⟩
  rw [hrun, Ledger.foldl_tally_of_found hfound, ← Batch.changeCount_eq, Nat.zero_add,
    writeAll_report hid hdistinct, hreport]
  simp only [record_applyRules]
  rfl

/-- Two transactions, of which a rule changes the second. -/
theorem process_eq_applyRules_two_records :
    let e : Engine MemoryStore EventLog := ⟨⟨[.rides]⟩, .all, ⟨0, 0⟩⟩
    let records := [Record.ofList [("id", .text "a"), ("payee_name", .text "Bakery")],
      Record.ofList [("id", .text "b"), ("payee_name", .text "Uber")]]
    let h : Host := ⟨.empty, .seeded 0, [], []⟩
    let rules := (e.loadRules.run h).1
    let report := (Batch.run rules e.now false records e.sink).1
    (∀ r ∈ records, r.id? ≠ none) ∧ (records.map Record.id?).Nodup ∧
      ∃ e' h', ((⟨e, some ⟨records⟩⟩ : App MemoryStore EventLog MemoryLedger).process false true).run h =
        ((.ok ⟨report, some report.changeCount, []⟩,
          ⟨e', some ⟨records.map fun r => (applyRules rules r e.now e.sink).1.record⟩⟩), h') :=
  ⟨by decide, by decide, process_eq_applyRules _ (by decide) (by decide) true _⟩

/-! ## Records that share a name -/

/-- A record stays as it was or becomes what the rules make of it, unless another transaction is reported
under its identity.  Then the first record of that identity takes all that is reported under it, and those behind
it take nothing. -/
theorem process_writes_own_or_shared (e : Engine σ τ) (records : List Record) (apart : Bool) (h : Host) :
    let rules := (e.loadRules.run h).1
    let ruled := fun r => (applyRules rules r e.now e.sink).1.record
    let report := (Batch.run rules e.now false records e.sink).1
    ∃ o e' records' h',
      ((⟨e, some ⟨records⟩⟩ : App σ τ MemoryLedger).process false apart).run h =
        ((.ok o, ⟨e', some ⟨records'⟩⟩), h') ∧
      o.report = report ∧ records'.length = records.length ∧
      ∀ i r, records[i]? = some r → ∃ r', records'[i]? = some r' ∧
        (r' = r ∨ r' = ruled r ∨
          (∃ j s, j ≠ i ∧ records[j]? = some s ∧ r.id? = some s.label ∧ s.diff (ruled s) ≠ []) ∧
            r.id? ∉ (records.take i).map Record.id? ∧
            r' = r.applyChanges (allChanges (report.modifications.filter (meantFor r)))) ∧
        (r.id? ∈ (records.take i).map Record.id? → r' = r) ∧
        (r.id? ∉ (records.take i).map Record.id? →
          r' = r.applyChanges (allChanges (report.modifications.filter (meantFor r)))) := by
  intro rules ruled report
  obtain ⟨s, h', hrun⟩ := run_process e records apart h
  have hreport : report = Batch.report rules false records := Batch.run_fst ..
  refine ⟨_, _, _, h', hrun, hreport.symm, length_writeAll .., fun i r hi => ?_⟩
  refine ⟨_, getElem?_writeAll (fun m hm => Batch.keepsId_of_mem_report hm) hi, ?_, fun hbehind => ?_,
    fun hfirst => ?_⟩
  · by_cases hfirst : r.id? ∈ (records.take i).map Record.id?
    · exact .inl (if_pos hfirst)
    rw [if_neg hfirst, hreport]
    by_cases hshared : ∃ j s, j ≠ i ∧ records[j]? = some s ∧ r.id? = some s.label ∧ s.diff (ruled s) ≠ []
    · exact .inr (.inr ⟨hshared, hfirst, rfl⟩)
    rw [Batch.modifications_report]
    by_cases hid : r.id? = none
    · rw [filter_meantFor_of_no_id hid]
      exact .inl rfl
    · refine .inr (.inl ?_)
      show _ = (applyRules rules r e.now e.sink).1.record
      rw [record_applyRules]
      refine applyChanges_of_unlike_others rules hi hid fun j s hj hs hrs => ?_
      have hsame : s.diff (ruled s) = [] := by
        by_cases hd : s.diff (ruled s) = []
        · exact hd
        · exact absurd ⟨j, s, hj, hs, hrs, hd⟩ hshared
      have hruled : ruled s = (outcome rules s).record := record_applyRules ..
      unfold Batch.modification?
      rw [← hruled, hsame]
      simp
  · rw [if_pos hbehind]
  · rw [if_neg hfirst, hreport]

/-- A transaction whose identity is a number. -/
def numbered : Record := .ofList [("id", .number (.ofInt 1)), ("payee_name", .text "Bakery")]

/-- A ride whose identity is the text of that number. -/
def lettered : Record := .ofList [("id", .text "1"), ("payee_name", .text "Uber")]

/-- What is computed for the ride is written to the transaction that goes by the same text. -/
theorem process_writes_to_namesake :
    let e : Engine MemoryStore EventLog := ⟨⟨[.rides]⟩, .all, ⟨0, 0⟩⟩
    let h : Host := ⟨.empty, .seeded 0, [], []⟩
    ∃ o e' records' h',
      ((⟨e, some ⟨[numbered, lettered]⟩⟩ : App MemoryStore EventLog MemoryLedger).process false false).run h =
        ((.ok o, ⟨e', some ⟨records'⟩⟩), h') ∧
      ∃ r', records'[0]? = some r' ∧ r' ≠ numbered ∧
        r' ≠ (applyRules (e.loadRules.run h).1 numbered e.now e.sink).1.record := by
  intro e h
  have hrules : (e.loadRules.run h).1 = [.rides] := List.mergeSort_singleton _
  obtain ⟨s, h', hrun⟩ := run_process e [numbered, lettered] false h
  rw [hrules] at hrun ⊢
  refine ⟨_, _, _, h', hrun, ?_⟩
  have hcategory : ((writeAll (Batch.report [.rides] false [numbered, lettered]).modifications
      [numbered, lettered])[0]?.map fun r => r.textOrEmpty "category_name") = some "Transport" := by
    decide +kernel
  rw [Option.map_eq_some_iff] at hcategory
  obtain ⟨r', hr', hc⟩ := hcategory
  refine ⟨r', hr', ?_, ?_⟩
  · intro hr
    rw [hr] at hc
    exact absurd hc (by decide +kernel)
  · intro hr
    rw [record_applyRules] at hr
    rw [hr] at hc
    exact absurd hc (by decide +kernel)

end BudgetRules.App
