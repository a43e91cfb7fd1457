import BudgetRules.Ledger
import BudgetRules.Proofs.Record
import BudgetRules.Proofs.Script

/-!
# Writing modifications to records

Modifications are written one after the other, each to the first record of its identity.  As long as none
changes the identity that it is written under, a record takes all that are meant for it at once, and leaves
the others to the records after it:

    writeAll mods (r :: rest) =
      r.applyChanges (… meant for r) :: writeAll (… not meant for r) rest                  (writeAll_cons)
    (applyAll mods l a).run h = ((mods.foldl (tally …) a, ⟨writeAll mods l.records⟩), …)    (applyAll_run)
-/

namespace BudgetRules

namespace Modification

/-- Is a modification meant for a record, by its identity? -/
def meantFor (r : Record) (m : Modification) : Bool := decide (r.id? = some m.transaction)

/-- Does a modification find a record of its identity? -/
def finds (records : List Record) (m : Modification) : Bool :=
  decide (some m.transaction ∈ records.map Record.id?)

/-- Written to a record of its identity, a modification leaves the identity. -/
def KeepsId (m : Modification) : Prop :=
  ∀ r : Record, r.id? = some m.transaction → (r.applyChanges m.changes).id? = some m.transaction

/-- All changes of some modifications in their order. -/
def allChanges (mods : List Modification) : List FieldChange := mods.flatMap (·.changes)

variable {r s : Record}

/-- Nothing is meant for a record without an identity. -/
theorem filter_meantFor_of_no_id (h : r.id? = none) (mods : List Modification) :
    mods.filter (meantFor r) = [] := by
  rw [List.filter_eq_nil_iff]
  intro m _
  simp [meantFor, h]

/-- What is not meant for one record is not meant for another of its identity. -/
theorem filter_meantFor_of_same_id (h : r.id? = s.id?) (mods : List Modification) :
    (mods.filter fun m => !m.meantFor s).filter (meantFor r) = [] := by
  rw [List.filter_eq_nil_iff]
  intro m hm
  simpa [meantFor, h] using (List.mem_filter.1 hm).2

/-- Nothing that is meant for one record is meant for another one of another identity. -/
theorem filter_meantFor_of_other_id (h : r.id? ≠ s.id?) (mods : List Modification) :
    (mods.filter fun m => !m.meantFor s).filter (meantFor r) = mods.filter (meantFor r) := by
  rw [List.filter_filter]
  refine List.filter_congr fun m _ => ?_
  cases hm : m.meantFor r with
  | false => rfl
  | true =>
    have hr : r.id? = some m.transaction := of_decide_eq_true hm
    have hs : s.id? ≠ some m.transaction := fun e => h (hr.trans e.symm)
    simp [meantFor, hs]

end Modification

open Modification

namespace Record

/-! ## One modification -/

theorem updateFirst_isSome (id : String) (changes : List FieldChange) (records : List Record) :
    (updateFirst id changes records).isSome ↔ some id ∈ records.map Record.id? := by
  induction records with
  | nil => simp [updateFirst]
  | cons r rest ih =>
    unfold updateFirst
    by_cases hr : r.id? = some id
    · simp [hr]
    · rw [if_neg hr, Option.isSome_map, ih, List.map_cons, List.mem_cons]
      exact ⟨.inr, fun h => h.resolve_left (Ne.symm hr)⟩

/-- The records after a modification; they stay as they are if none has its identity. -/
def write (m : Modification) (records : List Record) : List Record :=
  (updateFirst m.transaction m.changes records).getD records

theorem write_cons (m : Modification) (r : Record) (rest : List Record) :
    write m (r :: rest) =
      if m.meantFor r then r.applyChanges m.changes :: rest else r :: write m rest := by
  rw [write, write, updateFirst, meantFor]
  by_cases hr : r.id? = some m.transaction
  · simp [hr]
  · simp only [hr, if_false, decide_false, Bool.false_eq_true]
    cases updateFirst m.transaction m.changes rest <;> rfl

theorem updateFirst_eq (m : Modification) (records : List Record) :
    updateFirst m.transaction m.changes records =
      if some m.transaction ∈ records.map Record.id? then some (write m records) else none := by
  have hfound := updateFirst_isSome m.transaction m.changes records
  unfold write
  cases hu : updateFirst m.transaction m.changes records with
  | some l => rw [if_pos (hfound.1 (by rw [hu]; rfl))]; rfl
  | none => rw [if_neg fun hm => by simpa [hu] using hfound.2 hm]

theorem length_write (m : Modification) (records : List Record) :
    (write m records).length = records.length := by
  induction records with
  | nil => rfl
  | cons r rest ih =>
    rw [write_cons]
    split
    · rfl
    · rw [List.length_cons, List.length_cons, ih]

/-- A modification that keeps its identity keeps all identities. -/
theorem map_id?_write {m : Modification} (hm : m.KeepsId) (records : List Record) :
    (write m records).map Record.id? = records.map Record.id? := by
  induction records with
  | nil => rfl
  | cons r rest ih =>
    rw [write_cons]
    split
    · next hr =>
      have hr : r.id? = some m.transaction := of_decide_eq_true hr
      rw [List.map_cons, List.map_cons, hm r hr, hr]
    · rw [List.map_cons, List.map_cons, ih]

/-! ## Some modifications -/

/-- The records after some modifications. -/
def writeAll (mods : List Modification) (records : List Record) : List Record :=
  mods.foldl (fun records m => write m records) records

theorem length_writeAll (mods : List Modification) (records : List Record) :
    (writeAll mods records).length = records.length := by
  induction mods generalizing records with
  | nil => rfl
  | cons m rest ih => exact (ih _).trans (length_write m records)

/-- The first record takes what is meant for it, and the others get the rest. -/
theorem writeAll_cons {mods : List Modification} (h : ∀ m ∈ mods, m.KeepsId) (r : Record)
    (rest : List Record) :
    writeAll mods (r :: rest) =
      r.applyChanges (allChanges (mods.filter (meantFor r))) ::
        writeAll (mods.filter fun m => !m.meantFor r) rest := by
  induction mods generalizing r rest with
  | nil => rfl
  | cons m mods ih =>
    have hmods : ∀ m ∈ mods, m.KeepsId := fun m hm => h m (List.mem_cons_of_mem _ hm)
    have hstep : writeAll (m :: mods) (r :: rest) = writeAll mods (write m (r :: rest)) := rfl
    rw [hstep, write_cons]
    cases hm : m.meantFor r with
    | true =>
      have hr : r.id? = some m.transaction := of_decide_eq_true hm
      -- the record keeps its identity, so the same modifications are meant for it afterwards
      have hsame : meantFor (r.applyChanges m.changes) = meantFor r := by
        funext n
        simp only [meantFor, h m List.mem_cons_self r hr, hr]
      rw [if_pos rfl, ih hmods, hsame, List.filter_cons_of_pos hm, List.filter_cons_of_neg (by simp [hm])]
      simp only [allChanges, List.flatMap_cons, applyChanges_append]
    | false =>
      rw [if_neg (by simp), ih hmods, List.filter_cons_of_neg (by simp [hm]),
        List.filter_cons_of_pos (by simp [hm])]
      rfl

/-- A record takes all that is meant for it or, behind another of its identity, nothing. -/
theorem getElem?_writeAll {mods : List Modification} (h : ∀ m ∈ mods, m.KeepsId) {records : List Record}
    {i : Nat} {r : Record} (hi : records[i]? = some r) :
    (writeAll mods records)[i]? =
      some (if r.id? ∈ (records.take i).map Record.id? then r
        else r.applyChanges (allChanges (mods.filter (meantFor r)))) := by
  induction records generalizing mods i with
  | nil => simp at hi
  | cons first rest ih =>
    rw [writeAll_cons h]
    cases i with
    | zero =>
      rw [List.getElem?_cons_zero] at hi ⊢
      cases hi
      rfl
    | succ i =>
      rw [List.getElem?_cons_succ] at hi ⊢
      rw [ih (fun m hm => h m (List.mem_filter.1 hm).1) hi, List.take_succ_cons, List.map_cons]
      by_cases hid : r.id? = first.id?
      · have hmem : r.id? ∈ first.id? :: (rest.take i).map Record.id? := hid ▸ List.mem_cons_self
        rw [filter_meantFor_of_same_id hid, if_pos hmem]
        split <;> rfl
      · rw [filter_meantFor_of_other_id hid]
        simp only [List.mem_cons, hid, false_or]

end Record

/-! ## A ledger in memory -/

namespace Ledger

open Record

/-- What comes of one more modification. -/
def tally (records : List Record) (a : Applied) (m : Modification) : Applied :=
  if some m.transaction ∈ records.map Record.id? then { a with changes := a.changes + m.changes.length }
  else { a with failures := a.failures ++ [.notFound m.transaction] }

theorem update_eq (l : MemoryLedger) (m : Modification) :
    update l m.transaction m.changes =
      if some m.transaction ∈ l.records.map Record.id? then .ok ⟨write m l.records⟩
      else .error (.notFound m.transaction) := by
  show MemoryLedger.update l m.transaction m.changes = _
  rw [MemoryLedger.update, updateFirst_eq]
  by_cases hm : some m.transaction ∈ l.records.map Record.id?
  · rw [if_pos hm, if_pos hm]
  · rw [if_neg hm, if_neg hm]

theorem tally_congr {records records' : List Record}
    (h : records.map Record.id? = records'.map Record.id?) : tally records = tally records' := by
  funext a m
  unfold tally
  rw [h]

theorem applyAll_run_cons (m : Modification) (rest : List Modification) (l : MemoryLedger) (a : Applied)
    (h : Host) :
    ∃ h', (applyAll (m :: rest) l a).run h =
      (applyAll rest (⟨write m l.records⟩ : MemoryLedger) (tally l.records a m)).run h' := by
  rw [applyAll, update_eq, tally]
  by_cases hm : some m.transaction ∈ l.records.map Record.id?
  · rw [if_pos hm, if_pos hm]
    exact ⟨_, Script.run_andThen _ _ _⟩
  · have hkeep : write m l.records = l.records := by rw [write, updateFirst_eq, if_neg hm]; rfl
    rw [if_neg hm, if_neg hm, hkeep]
    exact ⟨_, Script.run_andThen _ _ _⟩

/-- Modifications are written and counted, or refused, one after the other. -/
theorem applyAll_run {mods : List Modification} (hkeep : ∀ m ∈ mods, m.KeepsId) (l : MemoryLedger)
    (a : Applied) (h : Host) :
    ∃ h', (applyAll mods l a).run h =
      ((mods.foldl (tally l.records) a, ⟨writeAll mods l.records⟩), h') := by
  induction mods generalizing l a h with
  | nil => exact ⟨h, rfl⟩
  | cons m rest ih =>
    obtain ⟨h₁, he⟩ := applyAll_run_cons m rest l a h
    obtain ⟨h', hr⟩ := ih (fun n hn => hkeep n (List.mem_cons_of_mem _ hn)) ⟨write m l.records⟩
      (tally l.records a m) h₁
    -- no write changes an identity, so what is refused can be told from the records at the start
    have hsame : tally (write m l.records) = tally l.records :=
      tally_congr (map_id?_write (hkeep m List.mem_cons_self) l.records)
    refine ⟨h', ?_⟩
    rw [he, hr, hsame]
    rfl

/-- The changes that find a record are counted, and the modifications that find none are refused. -/
theorem foldl_tally (mods : List Modification) (records : List Record) (a : Applied) :
    mods.foldl (tally records) a =
      ⟨a.changes + (allChanges (mods.filter (finds records))).length,
        a.failures ++ (mods.filter fun m => !m.finds records).map fun m => .notFound m.transaction⟩ := by
  induction mods generalizing a with
  | nil => simp [allChanges]
  | cons m rest ih =>
    rw [List.foldl_cons, ih]
    unfold tally
    by_cases hm : some m.transaction ∈ records.map Record.id?
    · have hf : m.finds records = true := decide_eq_true hm
      rw [if_pos hm, List.filter_cons_of_pos hf, List.filter_cons_of_neg (by simp [hf])]
      simp only [allChanges, List.flatMap_cons, List.length_append, Nat.add_assoc]
    · have hf : m.finds records = false := decide_eq_false hm
      rw [if_neg hm, List.filter_cons_of_neg (by simp [hf]), List.filter_cons_of_pos (by simp [hf])]
      simp only [List.map_cons, List.append_assoc, List.singleton_append]

/-- When every modification finds its record, all changes are counted and nothing is refused. -/
theorem foldl_tally_of_found {mods : List Modification} {records : List Record}
    (h : ∀ m ∈ mods, some m.transaction ∈ records.map Record.id?) (a : Applied) :
    mods.foldl (tally records) a = ⟨a.changes + (allChanges mods).length, a.failures⟩ := by
  have hfound : ∀ m ∈ mods, m.finds records = true := fun m hm => decide_eq_true (h m hm)
  have hrefused : (mods.filter fun m => !m.finds records) = [] :=
    List.filter_eq_nil_iff.2 fun m hm => by simp [hfound m hm]
  rw [foldl_tally, List.filter_eq_self.2 hfound, hrefused, List.map_nil, List.append_nil]

/-- The report of a real run has all its modifications written. -/
theorem applyReport_of_real {κ : Type} [Ledger κ] {report : Report} (h : report.dryRun = false) (l : κ) :
    applyReport l report = applyAll report.modifications l ⟨0, []⟩ := by
  unfold applyReport
  rw [h]
  rfl

end Ledger

end BudgetRules
