import BudgetRules.Report

/-!
# Reports in storage

A report is an object with its fields in their order.  A change may leave out a value that was not there;
one that is null is read as not there.
-/

namespace BudgetRules

/-- A value, or null where there is none. -/
def FieldValue.toJson? : Option FieldValue → Json
  | some v => v.toJson
  | none => .null

namespace FieldChange

def toJson (c : FieldChange) : Json :=
  .obj [("field", .str c.field), ("old_value", FieldValue.toJson? c.old),
    ("new_value", FieldValue.toJson? c.new)]

/-- A change of which some fields have been read. -/
structure Parts where
  field : Option String
  old : Option (Option FieldValue)
  new : Option (Option FieldValue)

open Json in
def fields : List (Json.Field Parts) :=
  [.of "field" (·.field) (fun p a => { p with field := some a }) Decoder.text false,
    .of "old_value" (·.old) (fun p a => { p with old := some a })
      (Decoder.option FieldValue.decoder) false,
    .of "new_value" (·.new) (fun p a => { p with new := some a })
      (Decoder.option FieldValue.decoder) false]

def decoder : Json.Decoder FieldChange := fun depth t => do
  let p ← Json.Decoder.struct "FieldChange" fields ⟨none, none, none⟩ depth t
  return ⟨← Json.required "field" p.field, p.old.getD none, p.new.getD none⟩

end FieldChange

namespace Modification

def toJson (m : Modification) : Json :=
  .obj [("transaction_id", .str m.transaction), ("payee_name", .str m.payee),
    ("applied_rules", .ofTexts m.applied), ("changes", .arr (m.changes.map FieldChange.toJson))]

/-- A modification of which some fields have been read. -/
structure Parts where
  transaction : Option String
  payee : Option String
  applied : Option (List String)
  changes : Option (List FieldChange)

open Json in
def fields : List (Json.Field Parts) :=
  [.of "transaction_id" (·.transaction) (fun p a => { p with transaction := some a })
      Decoder.text false,
    .of "payee_name" (·.payee) (fun p a => { p with payee := some a }) Decoder.text false,
    .of "applied_rules" (·.applied) (fun p a => { p with applied := some a })
      (Decoder.list Decoder.text) false,
    .of "changes" (·.changes) (fun p a => { p with changes := some a })
      (Decoder.list FieldChange.decoder) false]

def decoder : Json.Decoder Modification := fun depth t => do
  let p ← Json.Decoder.struct "Modification" fields ⟨none, none, none, none⟩ depth t
  return ⟨← Json.required "transaction_id" p.transaction, ← Json.required "payee_name" p.payee,
    ← Json.required "applied_rules" p.applied, ← Json.required "changes" p.changes⟩

end Modification

namespace Report

def toJson (r : Report) : Json :=
  .obj [("total_transactions", .ofNat r.total), ("modified_transactions", .ofNat r.modified),
    ("rules_applied", .obj (r.rulesApplied.entries.map fun (name, n) => (name, .ofNat n))),
    ("modifications", .arr (r.modifications.map Modification.toJson)), ("dry_run", .bool r.dryRun),
    ("rules_fingerprint", .str r.fingerprint)]

/-- A report of which some fields have been read. -/
structure Parts where
  total : Option Nat
  modified : Option Nat
  rulesApplied : Option (SortedMap Nat)
  modifications : Option (List Modification)
  dryRun : Option Bool
  fingerprint : Option String

def Parts.empty : Parts := ⟨none, none, none, none, none, none⟩

open Json in
def fields : List (Json.Field Parts) :=
  [.of "total_transactions" (·.total) (fun p a => { p with total := some a }) Decoder.count false,
    .of "modified_transactions" (·.modified) (fun p a => { p with modified := some a })
      Decoder.count false,
    .of "rules_applied" (·.rulesApplied) (fun p a => { p with rulesApplied := some a })
      (Decoder.map Decoder.count) false,
    .of "modifications" (·.modifications) (fun p a => { p with modifications := some a })
      (Decoder.list Modification.decoder) false,
    .of "dry_run" (·.dryRun) (fun p a => { p with dryRun := some a }) Decoder.bool false,
    .of "rules_fingerprint" (·.fingerprint) (fun p a => { p with fingerprint := some a })
      Decoder.text false]

def decoder : Json.Decoder Report := fun depth t => do
  let p ← Json.Decoder.struct "ChangeReport" fields .empty depth t
  return {
    total := ← Json.required "total_transactions" p.total
    modified := ← Json.required "modified_transactions" p.modified
    rulesApplied := ← Json.required "rules_applied" p.rulesApplied
    modifications := ← Json.required "modifications" p.modifications
    dryRun := ← Json.required "dry_run" p.dryRun
    fingerprint := ← Json.required "rules_fingerprint" p.fingerprint }

end Report

end BudgetRules
