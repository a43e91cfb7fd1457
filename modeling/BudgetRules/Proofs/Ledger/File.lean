import BudgetRules.Ledger.File
import BudgetRules.Proofs.Ledger
import BudgetRules.Proofs.Script.Requests

/-!
# Writing modifications to a file of transactions

Until it is flushed, a ledger whose transactions come from a file takes modifications as its memory does, and
asks its host to change nothing on the disk:

    (applyAll mods l a).requests h = []                                                  (requests_applyAll)
    (applyAll mods l a).run h =
      ((mods.foldl (tally …) a, { l with memory := ⟨writeAll mods l.memory.records⟩ }), …)    (run_applyAll)
    (persist l).requests h = [.writeFile l.target …]                                      (requests_persist)
-/

namespace BudgetRules

open Record Script

namespace Ledger

variable {κ : Type} [Ledger κ]

theorem local_announce (id : String) (changes : List FieldChange) : (announce id changes).Local := by
  induction changes with
  | nil => exact True.intro
  | cons c rest ih => exact ih

/-- Writing modifications to any ledger asks for nothing, but flushing it may. -/
theorem requests_applyAll (mods : List Modification) (l : κ) (a : Applied) (h : Host) :
    (applyAll mods l a).requests h = [] := by
  induction mods generalizing l a h with
  | nil => rfl
  | cons m rest ih =>
    unfold applyAll
    cases update l m.transaction m.changes with
    | ok l' =>
      simp only [requests_andThen, (local_announce _ _).requests, ih, List.append_nil]
    | error e =>
      simp only [requests_andThen, ih, List.append_nil]
      rfl

end Ledger

namespace FileLedger

/-- A ledger of a file takes a modification as its memory does. -/
theorem update_eq (l : FileLedger) (m : Modification) :
    Ledger.update l m.transaction m.changes =
      (Ledger.update l.memory m.transaction m.changes).map fun memory => { l with memory } := rfl

theorem run_applyAll_memory (mods : List Modification) (l : FileLedger) (a : Applied) (h : Host) :
    (Ledger.applyAll mods l a).run h =
      ((((Ledger.applyAll mods l.memory a).run h).1.1,
        { l with memory := ((Ledger.applyAll mods l.memory a).run h).1.2 }),
        ((Ledger.applyAll mods l.memory a).run h).2) := by
  induction mods generalizing l a h with
  | nil => rfl
  | cons m rest ih =>
    unfold Ledger.applyAll
    rw [update_eq]
    cases Ledger.update l.memory m.transaction m.changes with
    | ok memory => simp only [Except.map, run_andThen, ih]
    | error e => simp only [Except.map, run_andThen, ih]

theorem run_applyAll {mods : List Modification} (hkeep : ∀ m ∈ mods, m.KeepsId) (l : FileLedger)
    (a : Applied) (h : Host) :
    ∃ h', (Ledger.applyAll mods l a).run h =
      ((mods.foldl (Ledger.tally l.memory.records) a,
        { l with memory := ⟨writeAll mods l.memory.records⟩ }), h') := by
  obtain ⟨h', hrun⟩ := Ledger.applyAll_run hkeep l.memory a h
  exact ⟨h', by rw [run_applyAll_memory, hrun]⟩

/-- Flushing asks for one file to be written. -/
theorem requests_persist (l : FileLedger) (h : Host) :
    l.persist.requests h = [.writeFile l.target (recordsText l.memory.records).toUTF8] := by
  unfold persist
  rw [requests_andThen, requests_writeText]
  split <;> rfl

end FileLedger

end BudgetRules
