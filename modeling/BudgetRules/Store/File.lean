import BudgetRules.Rule.Stored
import BudgetRules.Store

/-!
# Rules in a file

A `FileStore` keeps its rules in one file.  A file that is not there holds no rules; one that cannot be
read is left as it is.  Rules are written to a file beside, which is then moved into place, so that nobody
comes upon a file that is only half written.
-/

namespace BudgetRules

/-- Rules kept in a file. -/
structure FileStore where
  path : String
deriving DecidableEq

namespace StoredRule

/-- The rules that were read; those that are written without an identity get a new one. -/
def identify : List StoredRule → Script (List Rule)
  | [] => return []
  | s :: rest =>
    match s.id with
    | some id => do return ⟨s.draft, id⟩ :: (← identify rest)
    | none => do
      let id ← Script.freshId
      return ⟨s.draft, id⟩ :: (← identify rest)

end StoredRule

namespace FileStore

/-- The rules of a text. -/
def rulesOf (s : FileStore) (text : String) : Script (Except StoreError (List Rule)) :=
  match Rule.readList text with
  | .ok l => return .ok (← StoredRule.identify l)
  | .error e => return .error (.corrupt s.path e.text)

def load (s : FileStore) : Script (Except StoreError (List Rule)) := do
  match ← Script.readText s.path with
  | .ok text => s.rulesOf text
  | .error .notFound => return .ok []
  | .error e => return .error (.file s.path e)

/-- The file beside, which becomes the file. -/
def staging (s : FileStore) : String := Path.withExtension s.path "json.tmp"

/-- Makes the directory that the file stands in. -/
def ensureParent (s : FileStore) : Script (Except FileError Unit) :=
  match Path.parent? s.path with
  | some p => if p.isEmpty then return .ok () else Script.ensureDirs p
  | none => return .ok ()

/-- Replaces the rules in the file. -/
def write (s : FileStore) (rules : List Rule) : Script (Except StoreError Unit) := do
  match ← s.ensureParent with
  | .error e => return .error (.file s.path e)
  | .ok _ =>
    match ← Script.writeText s.staging (Rule.listToJson rules).pretty with
    | .error e => return .error (.file s.path e)
    | .ok _ =>
      match ← Script.rename s.staging s.path with
      | .error e => return .error (.file s.path e)
      | .ok _ =>
        Script.tell .debug "rules written"
          [("path", s.path), ("count", s!"{rules.length}")]
        return .ok ()

/-- Saves a rule, unless the rules before cannot be read. -/
def save (s : FileStore) (rule : Rule) : Script (Except StoreError Unit) := do
  match ← s.load with
  | .error e => return .error e
  | .ok rules => s.write (upsert rules rule)

/-- Takes away the rules of an identity; writes nothing if there are none. -/
def delete (s : FileStore) (id : String) : Script (Except StoreError Bool) := do
  match ← s.load with
  | .error e => return .error e
  | .ok rules =>
    let rest := without rules id
    if rest.length = rules.length then return .ok false
    else
      match ← s.write rest with
      | .error e => return .error e
      | .ok _ => return .ok true

instance : RuleStore FileStore where
  load := load
  save s rule := do return (← s.save rule, s)
  delete s id := do return (← s.delete id, s)

end FileStore

end BudgetRules
