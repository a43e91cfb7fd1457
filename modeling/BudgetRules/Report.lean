import BudgetRules.Record

/-!
# What a batch changed

A `Report` counts the transactions of a batch and those that rules applied to, and lists for each
transaction that came out different which fields changed, from what and to what.
-/

namespace BudgetRules

/-- A field that differs between two records. -/
structure FieldChange where
  field : String
  /-- what it held; `none` if it was not there -/
  old : Option FieldValue
  /-- what it holds; `none` if it is gone -/
  new : Option FieldValue

/-- The fields that differ: those changed or new in the order of their names, then those that are gone. -/
def Record.diff (before after : Record) : List FieldChange :=
  (after.toList.filterMap fun (k, v) =>
    match before.get? k with
    | some old => if old == v then none else some ⟨k, some old, some v⟩
    | none => some ⟨k, none, some v⟩) ++
  (before.toList.filterMap fun (k, v) =>
    if after.contains k then none else some ⟨k, some v, none⟩)

/-- The record after some changes. -/
def Record.applyChanges (r : Record) (changes : List FieldChange) : Record :=
  changes.foldl (fun r c =>
    match c.new with
    | some v => r.set c.field v
    | none => r.erase c.field) r

/-- A transaction that came out different. -/
structure Modification where
  /-- its identity before the rules -/
  transaction : String
  /-- its payee before the rules -/
  payee : String
  /-- the names of the rules that applied, in their order -/
  applied : List String
  changes : List FieldChange

/-- What a batch changed, or would change. -/
structure Report where
  total : Nat
  /-- how many transactions some rule applied to, whether they came out different or not -/
  modified : Nat
  /-- how often rules of a name applied -/
  rulesApplied : SortedMap Nat
  modifications : List Modification
  dryRun : Bool
  /-- the fingerprint of the rules -/
  fingerprint : String

namespace Report

/-- The report of no transactions. -/
def empty (dryRun : Bool) (fingerprint : String) : Report := ⟨0, 0, .empty, [], dryRun, fingerprint⟩

/-- One more for a name. -/
def count (m : SortedMap Nat) (name : String) : SortedMap Nat :=
  m.insert name ((m.get? name).getD 0 + 1)

/-- The report with one more transaction: what it was, what it is, and which rules applied. -/
def add (r : Report) (before after : Record) (applied : List String) : Report :=
  if applied.isEmpty then { r with total := r.total + 1 }
  else
    let changes := before.diff after
    { r with
      total := r.total + 1
      modified := r.modified + 1
      rulesApplied := applied.foldl count r.rulesApplied
      modifications :=
        if changes.isEmpty then r.modifications
        else
          r.modifications ++
            [⟨before.label, before.textOrUnknown "payee_name", applied, changes⟩] }

/-- How many fields changed. -/
def changeCount (r : Report) : Nat := (r.modifications.flatMap (·.changes)).length

/-- The report in a few lines. -/
def text (r : Report) : String :=
  s!"Processed {r.total} transactions\nModified: {r.modified}\nField changes: {r.changeCount}\n" ++
    if r.rulesApplied.isEmpty then ""
    else
      "\nRules applied:\n" ++
        String.join (r.rulesApplied.entries.map fun (name, n) => s!"- {name}: {n} transaction(s)\n")

end Report

end BudgetRules
