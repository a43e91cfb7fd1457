import BudgetRules.Proofs.App
import BudgetRules.Proofs.Ledger.File
import BudgetRules.Proofs.Store.File
import BudgetRules.Proofs.Store.Interrupted

/-!
# Runs over a file of transactions

Loading rules, running them and writing modifications to transactions that have been read ask for nothing to be
changed on the disk.  Only at the end of a run is a file written, if the run is no dry one and some change has
found a transaction:

    (process … true apart).requests h = []                                                 (run_process_dry)
    (process … false apart).requests h =
      if (foundChanges …).length = 0 then [] else [.writeFile l.target …]                  (run_process_file)

So the files at all paths that lead elsewhere stay as they were.
-/

namespace BudgetRules

open Modification Record Script

/-! ## Loading and running rules -/

theorem FileStore.requests_load (s : FileStore) (h : Host) : s.load.requests h = [] := by
  rw [load_eq, requests_andThen, requests_readText, (s.local_afterRead _).requests]
  rfl

theorem FileStore.requests_rules (s : FileStore) (h : Host) : (RuleStore.rules s).requests h = [] := by
  have hload : (RuleStore.load s).requests h = [] := s.requests_load h
  unfold RuleStore.rules
  rw [requests_andThen, hload]
  split <;> rfl

namespace Engine

variable {σ τ : Type}

theorem requests_loadRules (e : Engine FileStore τ) (h : Host) : e.loadRules.requests h = [] := by
  unfold loadRules
  rw [requests_andThen, e.store.requests_rules]
  rfl

theorem requests_settle [EventSink τ] (e : Engine σ τ) (s : τ) (h : Host) : (e.settle s).requests h = [] := by
  unfold settle
  rw [requests_andThen, (local_tellAll _).requests]
  rfl

end Engine

namespace App

variable {τ : Type} [EventSink τ]

theorem requests_evaluate (e : Engine FileStore τ) (records : List Record) (dryRun apart : Bool) (h : Host) :
    (evaluate e records dryRun apart).requests h = [] := by
  unfold evaluate Engine.process Engine.processApart
  cases apart with
  | false => simp [e.requests_loadRules, e.requests_settle]
  | true => simp [e.requests_loadRules, e.requests_settle]

/-! ## The end of a run -/

theorem requests_persist (l : FileLedger) (a : Applied) (h : Host) :
    (persist l a).requests h =
      if a.changes = 0 then [] else [.writeFile l.target (FileLedger.recordsText l.memory.records).toUTF8] := by
  unfold persist
  by_cases ha : a.changes = 0
  · rw [if_pos ha, if_pos ha]
    rfl
  · have hflush : (Ledger.flush l).requests h = l.persist.requests h := rfl
    rw [if_neg ha, if_neg ha, requests_andThen, hflush, l.requests_persist]
    split <;> rfl

theorem changes_persist (l : FileLedger) (a : Applied) (h : Host) :
    ((persist l a).run h).1.changes = a.changes := by
  unfold persist
  by_cases ha : a.changes = 0
  · rw [if_pos ha]
    rfl
  · rw [if_neg ha, run_andThen]
    split <;> rfl

/-! ## Runs -/

/-- The changes of a report that find a transaction. -/
def foundChanges (records : List Record) (report : Report) : List FieldChange :=
  allChanges (report.modifications.filter (finds records))

/-- A dry run reports and asks for nothing. -/
theorem run_process_dry (e : Engine FileStore τ) (l : FileLedger) (apart : Bool) (h : Host) :
    let p := (⟨e, some l⟩ : App FileStore τ FileLedger).process true apart
    let report := Batch.report (e.loadRules.run h).1 true l.memory.records
    p.requests h = [] ∧ ∃ s, (p.run h).1 = (.ok ⟨report, none, []⟩, ⟨{ e with sink := s }, some l⟩) := by
  intro p report
  obtain ⟨s, h', he⟩ := run_evaluate e l.memory.records true apart h
  refine ⟨?_, s, ?_⟩
  · show (evaluate e l.memory.records true apart >>= _).requests h = _
    rw [requests_andThen, requests_evaluate, he]
    rfl
  · show ((evaluate e l.memory.records true apart >>= _).run h).1 = _
    rw [run_andThen, he]
    rfl

/-- A real run writes its report to the transactions, and asks for their file to be written if some change has
found one. -/
theorem run_process_file (e : Engine FileStore τ) (l : FileLedger) (apart : Bool) (h : Host) :
    let p := (⟨e, some l⟩ : App FileStore τ FileLedger).process false apart
    let report := Batch.report (e.loadRules.run h).1 false l.memory.records
    let n := (foundChanges l.memory.records report).length
    let l' := { l with memory := ⟨writeAll report.modifications l.memory.records⟩ }
    (p.requests h =
      if n = 0 then [] else [.writeFile l.target (FileLedger.recordsText l'.memory.records).toUTF8]) ∧
    ∃ failures s, (p.run h).1 = (.ok ⟨report, some n, failures⟩, ⟨{ e with sink := s }, some l'⟩) := by
  intro p report n l'
  let a := report.modifications.foldl (Ledger.tally l.memory.records) ⟨0, []⟩
  have hn : a.changes = n := by
    show (report.modifications.foldl (Ledger.tally l.memory.records) ⟨0, []⟩).changes = n
    rw [Ledger.foldl_tally]
    exact Nat.zero_add n
  obtain ⟨s, h₁, he⟩ := run_evaluate e l.memory.records false apart h
  obtain ⟨h₂, ha⟩ := l.run_applyAll (fun m hm => Batch.keepsId_of_mem_report hm) ⟨0, []⟩ h₁
  have hreal : report.dryRun = false := Batch.dryRun_report ..
  have hw := Ledger.applyReport_of_real hreal l
  constructor
  · show (evaluate e l.memory.records false apart >>= _).requests h = _
    rw [requests_andThen, requests_evaluate, he, List.nil_append]
    show (Ledger.applyReport l report >>= _).requests h₁ = _
    rw [requests_andThen, hw, Ledger.requests_applyAll, ha, List.nil_append]
    show (persist l' a >>= _).requests h₂ = _
    rw [requests_andThen, requests_persist, hn, requests_pure, List.append_nil]
    rfl
  · refine ⟨((persist l' a).run h₂).1.failures, s, ?_⟩
    show ((evaluate e l.memory.records false apart >>= _).run h).1 = _
    rw [run_andThen, he]
    show ((Ledger.applyReport l report >>= _).run h₁).1 = _
    rw [run_andThen, hw, ha]
    show ((persist l' a >>= _).run h₂).1 = _
    rw [run_andThen, run_pure, changes_persist, hn]

/-! ## What is left on the disk -/

/-- Whatever state its store is in, a run over the transactions of a file writes none if it is dry or none of
the changes that it reports finds a transaction.  Otherwise it writes one, the output if there is one, with all
transactions in it.  The files at all paths that lead elsewhere stay, that which was read among them if there is
an output. -/
theorem process_file_writes (e : Engine FileStore τ) (l : FileLedger) (dryRun apart : Bool) (h : Host) :
    let p := (⟨e, some l⟩ : App FileStore τ FileLedger).process dryRun apart
    let report := Batch.report (e.loadRules.run h).1 dryRun l.memory.records
    let changes := foundChanges l.memory.records report
    let target := l.output.getD l.path
    let bytes := (FileLedger.recordsText (writeAll report.modifications l.memory.records)).toUTF8
    let disk := (p.run h).2.disk
    (∃ failures s l', (p.run h).1 =
      (.ok ⟨report, if dryRun then none else some changes.length, failures⟩,
        ⟨{ e with sink := s }, some l'⟩)) ∧
    p.requests h = (if dryRun ∨ changes = [] then [] else [.writeFile target bytes]) ∧
    (dryRun ∨ changes = [] → disk = h.disk) ∧
    (¬dryRun → changes ≠ [] → h.disk.Writable target → disk.file? target = some bytes) ∧
    ∀ path, h.disk.locate path ≠ h.disk.locate target → disk.file? path = h.disk.file? path := by
  intro p report changes target bytes disk
  have hreq : p.requests h = if dryRun ∨ changes = [] then [] else [.writeFile target bytes] := by
    cases dryRun with
    | true => exact (run_process_dry e l apart h).1
    | false =>
      refine (run_process_file e l apart h).1.trans ?_
      simp only [List.length_eq_zero_iff, Bool.false_eq_true, false_or]
      rfl
  have hdisk : disk = (p.requests h).foldl DiskRequest.perform h.disk := disk_run p h
  have hone : p.requests h = [] ∨ p.requests h = [.writeFile target bytes] := by
    rw [hreq]
    split
    · exact .inl rfl
    · exact .inr rfl
  refine ⟨?_, hreq, fun hnone => ?_, fun hreal hsome hwritable => ?_, fun _ => file?_run_elsewhere hone⟩
  · cases dryRun with
    | true =>
      obtain ⟨s, hrun⟩ := (run_process_dry e l apart h).2
      exact ⟨[], s, l, hrun⟩
    | false =>
      obtain ⟨failures, s, hrun⟩ := (run_process_file e l apart h).2
      exact ⟨failures, s, _, hrun⟩
  · rw [hdisk, hreq, if_pos hnone]
    rfl
  · obtain ⟨d, hd⟩ := hwritable.write bytes
    rw [hdisk, hreq, if_neg (not_or.2 ⟨hreal, hsome⟩)]
    show (((h.disk.write target bytes).toOption.getD h.disk).file? target) = _
    rw [hd]
    show (d.read target).toOption = _
    rw [Disk.read_write hd]
    rfl

/-- A ride is filed, and written with its category to another file than it was read from. -/
theorem process_file_writes_ride :
    let e : Engine FileStore EventLog := ⟨⟨"rules.json"⟩, .all, ⟨0, 0⟩⟩
    let l : FileLedger := ⟨"rides.json", some "filed.json",
      ⟨[Record.ofList [("id", .text "a"), ("payee_name", .text "Uber")]]⟩⟩
    let rides := (FileLedger.recordsText l.memory.records).toUTF8
    let d := (Disk.empty.put ["rules.json"] (.file (Rule.listToJson [.rides]).pretty.toUTF8)).put
      ["rides.json"] (.file rides)
    let h : Host := ⟨d, .seeded 0, [], []⟩
    let p := (⟨e, some l⟩ : App FileStore EventLog FileLedger).process false false
    let disk := (p.run h).2.disk
    d.file? "rides.json" = some rides ∧ disk.file? "rides.json" = some rides ∧
      ∃ bytes, bytes ≠ rides ∧ p.requests h = [.writeFile "filed.json" bytes] ∧
        disk.file? "filed.json" = some bytes := by
  intro e l rides d h
  dsimp only
  have hread : d.locate "rides.json" = .ok ["rides.json"] := by decide +kernel
  have hwrite : d.locate "filed.json" = .ok ["filed.json"] := by decide +kernel
  have hbefore : d.file? "rides.json" = some rides :=
    Disk.file?_eq_some_iff.2 ⟨_, hread, Disk.node?_put_self (by decide) _, by decide⟩
  have hnew : d.node? ["filed.json"] = none := by
    rw [Disk.node?_put_of_ne (by decide), Disk.node?_put_of_ne (by decide), Disk.node?_empty (by decide)]
  have hfree : d.Writable "filed.json" := ⟨_, hwrite, by rw [hnew]; exact (nomatch ·), by decide⟩
  have hholds : e.store.Holds h.disk [.rides] := by
    refine .inr (Disk.read_eq_ok.2 ⟨["rules.json"], by decide +kernel, ?_, by decide⟩)
    rw [Disk.node?_put_of_ne (by decide), Disk.node?_put_self (by decide)]
  have hrules : (e.loadRules.run h).1 = [.rides] := by
    unfold Engine.loadRules
    rw [run_andThen, RuleStore.run_rules (FileStore.run_load hholds)]
    exact List.mergeSort_singleton _
  obtain ⟨-, hreq, -, hwritten, hkeep⟩ := process_file_writes e l false false h
  rw [hrules] at hreq hwritten
  have hsome : foundChanges l.memory.records (Batch.report [.rides] false l.memory.records) ≠ [] := by
    decide +kernel
  rw [if_neg (by simpa using hsome)] at hreq
  have helsewhere : d.locate "rides.json" ≠ d.locate "filed.json" := by
    rw [hread, hwrite]
    decide
  refine ⟨hbefore, (hkeep "rides.json" helsewhere).trans hbefore, _, ?_, hreq,
    hwritten (by decide) hsome hfree⟩
  decide +kernel

end App

end BudgetRules
