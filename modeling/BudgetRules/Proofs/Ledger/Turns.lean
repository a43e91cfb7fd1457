import BudgetRules.Proofs.Ledger
import BudgetRules.Proofs.Report

/-!
# Modifications take turns

A report may write identities as well, so which record a modification finds is known only at its turn.  There it
changes the first record of its identity, or is refused, and then the next one has its turn:

    InTurn (m :: mods) (first ++ r :: rest) refused last   if r is the first with the identity of m, and
      InTurn mods (first ++ r.applyChanges m.changes :: rest) refused last
    InTurn (m :: mods) records (m :: refused) last         if no record has it, and InTurn mods records refused last

Every list of modifications goes through its turns, and that is how a report is written to a ledger in memory,
whatever its modifications are (`applyReport_in_turn`).
-/

namespace BudgetRules

open Modification (allChanges)

namespace Ledger

/-- From the records at the start to those at the end, where the modifications find a record or are refused in
their order. -/
inductive InTurn : List Modification → List Record → List Modification → List Record → Prop
  | ended (records : List Record) : InTurn [] records [] records
  | written {m : Modification} {mods refused : List Modification} {first rest last : List Record} {r : Record}
      (hfirst : ∀ s ∈ first, s.id? ≠ some m.transaction) (hr : r.id? = some m.transaction)
      (h : InTurn mods (first ++ r.applyChanges m.changes :: rest) refused last) :
      InTurn (m :: mods) (first ++ r :: rest) refused last
  | refused {m : Modification} {mods refused : List Modification} {records last : List Record}
      (hm : ∀ s ∈ records, s.id? ≠ some m.transaction) (h : InTurn mods records refused last) :
      InTurn (m :: mods) records (m :: refused) last

/-- Some record is the first of an identity, or none has it. -/
theorem exists_first_or_forall_ne (id : String) (records : List Record) :
    (∃ first r rest, records = first ++ r :: rest ∧ (∀ s ∈ first, s.id? ≠ some id) ∧ r.id? = some id) ∨
      ∀ s ∈ records, s.id? ≠ some id := by
  cases hf : records.find? fun s => s.id? = some id with
  | none => exact .inr fun s hs => of_decide_eq_false (by simpa using List.find?_eq_none.1 hf s hs)
  | some r =>
    obtain ⟨hr, first, rest, he, hfirst⟩ := List.find?_eq_some_iff_append.1 hf
    exact .inl ⟨first, r, rest, he, fun s hs => by simpa using hfirst s hs, of_decide_eq_true hr⟩

/-- All modifications get their turn. -/
theorem exists_inTurn (mods : List Modification) (records : List Record) :
    ∃ refused last, InTurn mods records refused last := by
  induction mods generalizing records with
  | nil => exact ⟨[], records, .ended records⟩
  | cons m mods ih =>
    obtain ⟨first, r, rest, rfl, hfirst, hr⟩ | hm := exists_first_or_forall_ne m.transaction records
    · obtain ⟨refused, last, h⟩ := ih (first ++ r.applyChanges m.changes :: rest)
      exact ⟨refused, last, .written hfirst hr h⟩
    · obtain ⟨refused, last, h⟩ := ih records
      exact ⟨m :: refused, last, .refused hm h⟩

/-! ## What one turn does -/

/-- A modification is written to the first record of its identity, and the others stay. -/
theorem write_first {m : Modification} {first rest : List Record} {r : Record}
    (hfirst : ∀ s ∈ first, s.id? ≠ some m.transaction) (hr : r.id? = some m.transaction) :
    Record.write m (first ++ r :: rest) = first ++ r.applyChanges m.changes :: rest := by
  induction first with
  | nil => rw [List.nil_append, Record.write_cons, Modification.meantFor, decide_eq_true hr, if_pos rfl]; rfl
  | cons s first ih =>
    have hs : m.meantFor s = false := decide_eq_false (hfirst s List.mem_cons_self)
    rw [List.cons_append, Record.write_cons, hs, if_neg Bool.false_ne_true,
      ih fun t ht => hfirst t (List.mem_cons_of_mem _ ht)]
    rfl

theorem write_refused {m : Modification} {records : List Record}
    (hm : ∀ s ∈ records, s.id? ≠ some m.transaction) : Record.write m records = records := by
  induction records with
  | nil => rfl
  | cons s rest ih =>
    have hs : m.meantFor s = false := decide_eq_false (hm s List.mem_cons_self)
    rw [Record.write_cons, hs, if_neg Bool.false_ne_true, ih fun t ht => hm t (List.mem_cons_of_mem _ ht)]

/-- Writing to one record leaves the places of all others. -/
theorem getElem?_of_ne_length {first : List Record} {i : Nat} (h : i ≠ first.length) (r s : Record)
    (rest : List Record) : (first ++ r :: rest)[i]? = (first ++ s :: rest)[i]? := by
  rw [List.getElem?_append, List.getElem?_append]
  split
  · rfl
  · rw [List.getElem?_cons, List.getElem?_cons, if_neg (by omega), if_neg (by omega)]

theorem tally_first {m : Modification} {first rest : List Record} {r : Record} (hr : r.id? = some m.transaction)
    (a : Applied) : tally (first ++ r :: rest) a m = { a with changes := a.changes + m.changes.length } :=
  if_pos (List.mem_map.2 ⟨r, by simp, hr⟩)

theorem tally_refused {m : Modification} {records : List Record}
    (hm : ∀ s ∈ records, s.id? ≠ some m.transaction) (a : Applied) :
    tally records a m = { a with failures := a.failures ++ [.notFound m.transaction] } :=
  if_neg fun h => by
    obtain ⟨s, hs, he⟩ := List.mem_map.1 h
    exact hm s hs he

/-! ## All turns -/

namespace InTurn

variable {mods refused : List Modification} {records last : List Record}

/-- A run goes through the turns: the changes of what is not refused are counted, and each refusal is told as one
failure. -/
theorem applyAll_run (hturns : InTurn mods records refused last) (a : Applied) (h : Host) :
    ∃ n h', (applyAll mods (⟨records⟩ : MemoryLedger) a).run h =
        ((⟨a.changes + n, a.failures ++ refused.map fun m => .notFound m.transaction⟩, ⟨last⟩), h') ∧
      n + (allChanges refused).length = (allChanges mods).length := by
  induction hturns generalizing a h with
  | ended records => exact ⟨0, h, by simp [applyAll], rfl⟩
  | @written m mods refused first rest last r hfirst hr _ ih =>
    obtain ⟨h₁, hstep⟩ := applyAll_run_cons m mods ⟨first ++ r :: rest⟩ a h
    rw [write_first hfirst hr, tally_first hr] at hstep
    obtain ⟨n, h', hrun, hn⟩ := ih { a with changes := a.changes + m.changes.length } h₁
    refine ⟨m.changes.length + n, h', ?_, ?_⟩
    · rw [hstep, hrun, Nat.add_assoc]
    · rw [Nat.add_assoc, hn]
      simp [allChanges]
  | @refused m mods refused records last hm _ ih =>
    obtain ⟨h₁, hstep⟩ := applyAll_run_cons m mods ⟨records⟩ a h
    rw [write_refused hm, tally_refused hm] at hstep
    obtain ⟨n, h', hrun, hn⟩ := ih { a with failures := a.failures ++ [.notFound m.transaction] } h₁
    refine ⟨n, h', ?_, ?_⟩
    · rw [hstep, hrun, List.append_assoc]
      rfl
    · simp only [allChanges, List.flatMap_cons, List.length_append] at hn ⊢
      omega

theorem sublist (h : InTurn mods records refused last) : refused.Sublist mods := by
  induction h with
  | ended => exact .refl _
  | written _ _ _ ih => exact ih.cons _
  | refused _ _ ih => exact ih.cons_cons _

theorem length_eq (h : InTurn mods records refused last) : last.length = records.length := by
  induction h with
  | ended => rfl
  | written _ _ _ ih => simpa using ih
  | refused _ _ ih => exact ih

/-- The record of a place stays there, and has taken some of the modifications in their order. -/
theorem getElem? (h : InTurn mods records refused last) {i : Nat} {r : Record} (hi : records[i]? = some r) :
    ∃ taken : List Modification, taken.Sublist mods ∧ last[i]? = some (r.applyChanges (allChanges taken)) := by
  induction h generalizing r with
  | ended => exact ⟨[], .refl _, hi⟩
  | @written m mods refused first rest last s _ _ _ ih =>
    by_cases he : i = first.length
    · -- the place of the record that is written
      subst he
      obtain rfl : s = r := by simpa using hi
      obtain ⟨taken, htaken, hlast⟩ := ih (r := s.applyChanges m.changes) (by simp)
      refine ⟨m :: taken, htaken.cons_cons m, hlast.trans ?_⟩
      simp only [allChanges, List.flatMap_cons, Record.applyChanges_append]
    · obtain ⟨taken, htaken, hlast⟩ := ih ((getElem?_of_ne_length he ..).trans hi)
      exact ⟨taken, htaken.cons m, hlast⟩
  | refused _ _ ih =>
    obtain ⟨taken, htaken, hlast⟩ := ih hi
    exact ⟨taken, htaken.cons _, hlast⟩

/-- A record whose identity no modification has stays. -/
theorem getElem?_of_unnamed (h : InTurn mods records refused last) {i : Nat} {r : Record} (hi : records[i]? = some r)
    (hr : ∀ m ∈ mods, r.id? ≠ some m.transaction) : last[i]? = some r := by
  induction h with
  | ended => exact hi
  | @written m mods refused first rest last s _ hs _ ih =>
    have hne : i ≠ first.length := by
      rintro rfl
      obtain rfl : s = r := by simpa using hi
      exact hr m List.mem_cons_self hs
    exact ih ((getElem?_of_ne_length hne ..).trans hi) fun n hn => hr n (List.mem_cons_of_mem _ hn)
  | refused _ _ ih => exact ih hi fun n hn => hr n (List.mem_cons_of_mem _ hn)

end InTurn

/-- The report of a real run is written to a ledger in memory turn by turn.  A modification that finds no record of
its identity at its turn changes none, is one failure and does not stop those after it; the changes written and
those of the refused modifications are all changes of the report.  The records keep their number and order, each
takes some of the modifications in their order, and one whose identity no modification has stays. -/
theorem applyReport_in_turn (report : Report) (records : List Record) (hreal : report.dryRun = false) (h : Host) :
    ∃ a refused last h', (applyReport (⟨records⟩ : MemoryLedger) report).run h = ((a, ⟨last⟩), h') ∧
      InTurn report.modifications records refused last ∧
      refused.Sublist report.modifications ∧ a.failures = refused.map (fun m => .notFound m.transaction) ∧
      a.changes + (allChanges refused).length = report.changeCount ∧
      last.length = records.length ∧
      ∀ (i : Nat) (r : Record), records[i]? = some r →
        (∃ taken : List Modification, taken.Sublist report.modifications ∧
          last[i]? = some (r.applyChanges (allChanges taken))) ∧
        ((∀ m ∈ report.modifications, r.id? ≠ some m.transaction) → last[i]? = some r) := by
  obtain ⟨refused, last, hturns⟩ := exists_inTurn report.modifications records
  obtain ⟨n, h', hrun, hn⟩ := hturns.applyAll_run ⟨0, []⟩ h
  rw [Nat.zero_add, List.nil_append] at hrun
  rw [applyReport_of_real hreal]
  exact ⟨_, refused, last, h', hrun, hturns, hturns.sublist, rfl, hn, hturns.length_eq,
    fun i r hi => ⟨hturns.getElem? hi, hturns.getElem?_of_unnamed hi⟩⟩

/-- The first of three modifications takes the identity that the third one names, and gives its record the identity
that the second one names: the second is written to that record, the third is refused, and a record without an
identity stays. -/
theorem applyReport_in_turn_renamed :
    let rename : Modification := ⟨"a", "Uber", ["Renames"], [⟨"id", some (.text "a"), some (.text "b")⟩]⟩
    let note : Modification := ⟨"b", "Uber", ["Notes"], [⟨"memo", none, some (.text "ride")⟩]⟩
    let late : Modification := ⟨"a", "Uber", ["Marks"], [⟨"flag", none, some (.text "red")⟩]⟩
    let report : Report := ⟨3, 3, .empty, [rename, note, late], false, ""⟩
    let records := [Record.ofList [("payee_name", .text "Lyft")], Record.ofList [("id", .text "a")]]
    let last := [Record.ofList [("payee_name", .text "Lyft")],
      Record.ofList [("id", .text "b"), ("memo", .text "ride")]]
    let h : Host := ⟨.empty, .seeded 0, [], []⟩
    report.dryRun = false ∧
      ∃ refused h', (applyReport (⟨records⟩ : MemoryLedger) report).run h =
          ((⟨2, [.notFound "a"]⟩, ⟨last⟩), h') ∧
        InTurn report.modifications records refused last ∧ refused.Sublist report.modifications ∧
        2 + (allChanges refused).length = report.changeCount ∧ last.length = records.length ∧
        last[0]? = records[0]? := by
  intro rename note late report records last h
  have hcomputed : ∃ h', (applyReport (⟨records⟩ : MemoryLedger) report).run h =
      ((⟨2, [.notFound "a"]⟩, ⟨last⟩), h') := ⟨_, rfl⟩
  obtain ⟨h₁, hcomputed⟩ := hcomputed
  obtain ⟨a, refused, last', h', hrun, hturns, hsub, -, hcount, hlen, hrecords⟩ :=
    applyReport_in_turn report records rfl h
  obtain ⟨rfl, rfl⟩ : a = ⟨2, [.notFound "a"]⟩ ∧ last' = last := by
    simpa using congrArg Prod.fst (hrun.symm.trans hcomputed)
  refine ⟨rfl, refused, h', hrun, hturns, hsub, hcount, hlen, ?_⟩
  refine (hrecords 0 (Record.ofList [("payee_name", .text "Lyft")]) rfl).2 fun m _ => ?_
  have hnone : (Record.ofList [("payee_name", .text "Lyft")]).id? = none := by decide +kernel
  rw [hnone]
  exact (Option.some_ne_none _).symm

end Ledger

end BudgetRules
