import BudgetRules.Ledger

/-!
# Transactions in a file

A `FileLedger` reads its transactions when it is opened, takes changes in memory and writes all of them
when it is flushed, to another file if one was named.
-/

namespace BudgetRules

/-- Transactions that were read from a file. -/
structure FileLedger where
  path : String
  /-- where to write, if not back to the file -/
  output : Option String
  memory : MemoryLedger

namespace FileLedger

/-- The transactions of a text. -/
def readRecords (text : String) : Except Json.DecodeError (List Record) :=
  Json.decodeText (Json.Decoder.list Record.decoder) text

/-- The text of transactions. -/
def recordsText (records : List Record) : String := (Json.arr (records.map Record.toJson)).pretty

/-- Reads the transactions of a file. -/
def openFile (path : String) (output : Option String) : Script (Except LedgerError FileLedger) := do
  match ← Script.readText path with
  | .error e => return .error (.fetchFailed (path ++ ": " ++ e.text))
  | .ok text =>
    match readRecords text with
    | .error e => return .error (.fetchFailed (path ++ ": " ++ e.text))
    | .ok records =>
      Script.tell .debug "transactions loaded"
        [("path", path), ("count", s!"{records.length}")]
      return .ok ⟨path, output, ⟨records⟩⟩

/-- The file that is written. -/
def target (l : FileLedger) : String := l.output.getD l.path

/-- Writes all transactions. -/
def persist (l : FileLedger) : Script (Except LedgerError Unit) := do
  match ← Script.writeText l.target (recordsText l.memory.records) with
  | .ok _ => return .ok ()
  | .error e => return .error (.updateFailed "*" (l.target ++ ": " ++ e.text))

instance : Ledger FileLedger where
  fetch l := .ok l.memory.records
  update l id changes := (l.memory.update id changes).map fun m => { l with memory := m }
  flush := persist

end FileLedger

end BudgetRules
