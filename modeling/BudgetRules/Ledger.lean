import BudgetRules.Report
import BudgetRules.Script

/-!
# Ledgers

A `Ledger` supplies transactions and takes changes to them.  The changes of a report are written one
transaction at a time; one that is refused does not stop the others.
-/

namespace BudgetRules

/-- Why a ledger cannot do something. -/
inductive LedgerError
  | fetchFailed (reason : String)
  | updateFailed (transaction : String) (reason : String)
  | notFound (transaction : String)
deriving DecidableEq

def LedgerError.text : LedgerError → String
  | .fetchFailed reason => s!"Failed to fetch transactions: {reason}"
  | .updateFailed transaction reason => s!"Failed to update transaction {transaction}: {reason}"
  | .notFound transaction => s!"Transaction not found: {transaction}"

/-- A type whose values hold transactions. -/
class Ledger (κ : Type) where
  fetch : κ → Except LedgerError (List Record)
  /-- writes changes to the transaction of an identity; a ledger that refuses stays as it is -/
  update : κ → String → List FieldChange → Except LedgerError κ
  /-- makes the changes last -/
  flush : κ → Script (Except LedgerError Unit)

namespace Record

/-- The records with some changes to the first of an identity. -/
def updateFirst (id : String) (changes : List FieldChange) : List Record → Option (List Record)
  | [] => none
  | r :: rest =>
    if r.id? = some id then some (r.applyChanges changes :: rest)
    else (updateFirst id changes rest).map (r :: ·)

end Record

/-- Transactions kept as a value. -/
structure MemoryLedger where
  records : List Record

namespace MemoryLedger

def update (l : MemoryLedger) (id : String) (changes : List FieldChange) :
    Except LedgerError MemoryLedger :=
  match Record.updateFirst id changes l.records with
  | some records => .ok ⟨records⟩
  | none => .error (.notFound id)

instance : Ledger MemoryLedger where
  fetch l := .ok l.records
  update := update
  flush _ := return .ok ()

end MemoryLedger

/-! ## Writing a report -/

/-- What came of writing changes to a ledger. -/
structure Applied where
  /-- how many field changes were written -/
  changes : Nat
  /-- the refusals, in their order -/
  failures : List LedgerError
deriving DecidableEq

namespace Ledger

variable {κ : Type} [Ledger κ]

/-- Tells of every change to a transaction. -/
def announce (id : String) : List FieldChange → Script Unit
  | [] => return ()
  | c :: rest => do
    Script.tell .info "updated transaction" [("transaction_id", id), ("field", c.field)]
    announce id rest

/-- Writes modifications one after the other. -/
def applyAll : List Modification → κ → Applied → Script (Applied × κ)
  | [], l, a => return (a, l)
  | m :: rest, l, a => do
    match update l m.transaction m.changes with
    | .ok l =>
      announce m.transaction m.changes
      applyAll rest l { a with changes := a.changes + m.changes.length }
    | .error e =>
      Script.tell .error "update failed" [("error", e.text), ("transaction_id", m.transaction)]
      applyAll rest l { a with failures := a.failures ++ [e] }

/-- Writes the modifications of a report, unless it is of a dry run. -/
def applyReport (l : κ) (r : Report) : Script (Applied × κ) :=
  if r.dryRun then return (⟨0, []⟩, l) else applyAll r.modifications l ⟨0, []⟩

end Ledger

end BudgetRules
