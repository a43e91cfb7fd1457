import BudgetRules.Engine
import BudgetRules.Ledger
import BudgetRules.Settings
import BudgetRules.Store.File

/-!
# Rules over a ledger

An `App` is an engine and perhaps a ledger.  A run takes the transactions of the ledger, runs the rules over
them and, unless it is a dry run, writes the changes back.
-/

namespace BudgetRules

/-- An engine and the ledger that it works on. -/
structure App (σ τ κ : Type) where
  engine : Engine σ τ
  ledger : Option κ

/-- Why a run cannot be made. -/
inductive RunError
  | noLedger
  | ledger (e : LedgerError)
deriving DecidableEq

def RunError.text : RunError → String
  | .noLedger =>
    "Engine error: No transaction source configured: attach a transaction source before processing"
  | .ledger e => s!"Source error: {e.text}"

/-- What came of a run. -/
structure RunOutcome where
  report : Report
  /-- how many field changes were written; `none` for a dry run -/
  changes : Option Nat
  failures : List LedgerError

namespace App

variable {σ τ κ : Type} [RuleStore σ] [EventSink τ] [Ledger κ]

/-- Makes changes last if there are any, and adds a refusal to the others. -/
def persist (l : κ) (a : Applied) : Script Applied := do
  if a.changes = 0 then return a
  match ← Ledger.flush l with
  | .ok _ => return a
  | .error e =>
    Script.tell .error "failed to persist transaction updates" [("error", e.text)]
    return { a with failures := a.failures ++ [e] }

/-- The rules over some records, in one of the two ways. -/
def evaluate (e : Engine σ τ) (records : List Record) (dryRun apart : Bool) :
    Script (Report × Engine σ τ) :=
  if apart then e.processApart records dryRun else e.process records dryRun

/-- Runs the rules over the transactions of the ledger and writes the changes back. -/
def process (a : App σ τ κ) (dryRun apart : Bool) :
    Script (Except RunError RunOutcome × App σ τ κ) := do
  match a.ledger with
  | none => return (.error .noLedger, a)
  | some l =>
    match Ledger.fetch l with
    | .error e => return (.error (.ledger e), a)
    | .ok records =>
      let (report, engine) ← evaluate a.engine records dryRun apart
      if dryRun then return (.ok ⟨report, none, []⟩, ⟨engine, some l⟩)
      let (applied, l) ← Ledger.applyReport l report
      let applied ← persist l applied
      return (.ok ⟨report, some applied.changes, applied.failures⟩, ⟨engine, some l⟩)

/-- The app whose rules are in the file that settings name, with events passed on as notices and no ledger.
The directory of the settings is made first. -/
def ofSettings (s : Settings) (now : Timestamp) :
    Script (Except SettingsError (App FileStore Forwarder κ)) := do
  match ← s.ensureDirectory with
  | .error e => return .error e
  | .ok _ =>
    Script.tell .info "using rule storage" [("path", s.rulesPath)]
    return .ok ⟨⟨⟨s.rulesPath⟩, ⟨[]⟩, now⟩, none⟩

end App

end BudgetRules
