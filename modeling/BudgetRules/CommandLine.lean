import BudgetRules.App
import BudgetRules.CommandLine.Arguments
import BudgetRules.CommandLine.Clauses
import BudgetRules.Ledger.File
import BudgetRules.Report.Stored
import BudgetRules.Settings.EnvFile

/-!
# The command line

`CommandLine.run` takes an environment and arguments to an exit code: 0 if all went well, 1 for a failure, 2 for
arguments that are no command.  Commands print as they go, and what they print has to be taken; a program that cannot
print is broken off with exit code 101.  What is printed last, the text of a failure or how the program is used, may be
lost.
-/

namespace BudgetRules.CommandLine

/-- What the program finds when it starts. -/
structure Environment where
  vars : Variables
  /-- the directory of the user's account, if there is one -/
  account : Option String
  /-- how many directories the working directory stands in -/
  depth : Nat

/-- The exit code of the program, and what it prints in the end if that can be printed. -/
structure Output where
  code : Nat
  stdout : String
  stderr : String
deriving DecidableEq

/-- The output of a command that failed, if it did. -/
def Output.ofResult : Option Failure → Output
  | none => ⟨0, "", ""⟩
  | some f => ⟨1, "", f.text⟩

/-- The exit code of a program that cannot print. -/
def brokenCode : Nat := 101

/-- The app of a command. -/
abbrev Console := App FileStore Forwarder FileLedger

/-! ## Commands -/

/-- Prints the warnings about a rule, a line each. -/
def warn (rule : Rule) : Script Unit :=
  Script.sayAll .stderr (rule.warnings.map fun w => "Warning: " ++ w.text ++ "\n")

def missing (id : String) : Failure := .of s!"no rule with id '{id}'"

/-- Lists all rules in the order in which they run. -/
def list (app : Console) : Script (Option Failure) := do
  let rules ← app.engine.loadRules
  if rules.isEmpty then Script.say .stdout "No rules defined.\n"
  Script.sayAll .stdout (rules.flatMap fun r => [r.id ++ "\n", r.text ++ "\n"])
  return none

/-- Prints one rule as it is stored. -/
def print (app : Console) (id : String) : Script (Option Failure) := do
  match ← RuleStore.find? app.engine.store id with
  | none => return some (missing id)
  | some rule =>
    Script.say .stdout (rule.toJson.pretty ++ "\n")
    return none

/-- The draft of a new rule. -/
def NewRule.draft (n : NewRule) : Except Failure RuleDraft := do
  let logic ← readLogic n.logic
  let conditions ← n.conditions.mapM readCondition
  let actions ← n.actions.mapM readAction
  return ⟨n.name, n.description, conditions, actions, !n.disabled, n.priority, logic⟩

/-- Saves a rule after its warnings, and prints a text if that worked. -/
def saveRule (app : Console) (rule : Rule) (notice text : String) : Script (Option Failure) := do
  warn rule
  match ← RuleStore.put app.engine.store rule with
  | (true, _) =>
    Script.tell .info notice [("rule_id", rule.id)]
    Script.say .stdout text
    return none
  | (false, _) => return some (.of s!"failed to save rule '{rule.name}'")

/-- Makes a rule. -/
def add (app : Console) (n : NewRule) : Script (Option Failure) := do
  match n.draft with
  | .error f => return some f
  | .ok draft =>
    let id ← Script.freshId
    match draft.toRule id with
    | .error e => return some (.of e.text)
    | .ok rule => saveRule app rule "rule created" (rule.id ++ "\n")

/-- A draft with the given fields in place of its own. -/
def Edits.apply (e : Edits) (d : RuleDraft) : Except Failure RuleDraft := do
  let logic ← match e.logic with
    | some raw => readLogic raw
    | none => pure d.logic
  let conditions ←
    if e.conditions.isEmpty then pure d.conditions else e.conditions.mapM readCondition
  let actions ← if e.actions.isEmpty then pure d.actions else e.actions.mapM readAction
  return {
    name := e.name.getD d.name
    description := e.description.getD d.description
    conditions := conditions
    actions := actions
    enabled := if e.disable then false else if e.enable then true else d.enabled
    priority := e.priority.getD d.priority
    logic := logic }

/-- Changes fields of a rule. -/
def edit (app : Console) (id : String) (e : Edits) : Script (Option Failure) := do
  match ← RuleStore.find? app.engine.store id with
  | none => return some (missing id)
  | some rule =>
    match e.apply rule.toRuleDraft with
    | .error f => return some f
    | .ok draft =>
      match rule.revise draft with
      | .error e => return some (.of e.text)
      | .ok rule => saveRule app rule "rule updated" (rule.text ++ "\n")

/-- Takes a rule away. -/
def delete (app : Console) (id : String) : Script (Option Failure) := do
  match ← RuleStore.remove app.engine.store id with
  | (true, _) =>
    Script.say .stdout s!"Deleted {id}\n"
    return none
  | (false, _) => return some (.of s!"no rule with id '{id}' was deleted")

/-- Saves some rules, each after its warnings, and counts those for which that worked. -/
def saveAll (store : FileStore) : List Rule → Script Nat
  | [] => return 0
  | rule :: rest => do
    warn rule
    let (saved, store) ← RuleStore.put store rule
    return (if saved then 1 else 0) + (← saveAll store rest)

/-- Saves the rules of a file. -/
def importFrom (app : Console) (file : String) : Script (Option Failure) := do
  match ← Script.readText file with
  | .error e => return some ⟨s!"failed to read {file}", [e.text]⟩
  | .ok text =>
    match Rule.readList text with
    | .error e => return some ⟨s!"failed to parse rules in {file}", [e.text]⟩
    | .ok stored =>
      let rules ← StoredRule.identify stored
      let saved ← saveAll app.engine.store rules
      Script.say .stdout s!"Imported {saved} of {rules.length} rules\n"
      return none

/-- Prints what a run over transactions came to. -/
def showOutcome (o : RunOutcome) : Script (Option Failure) := do
  Script.say .stdout (o.report.toJson.pretty ++ "\n")
  Script.say .stderr o.report.text
  Script.say .stderr <|
    match o.changes with
    | some n => s!"Applied {n} change(s)\n"
    | none => "Dry run: no changes written\n"
  return if o.failures.isEmpty then none else some (.of s!"{o.failures.length} update(s) failed")

/-- Runs the rules over the transactions of a file. -/
def process (app : Console) (transactions : String) (dryRun apart : Bool) (write : Option String) :
    Script (Option Failure) := do
  match ← FileLedger.openFile transactions write with
  | .error e => return some (.of e.text)
  | .ok ledger =>
    match ← App.process { app with ledger := some ledger } dryRun apart with
    | (.error e, _) =>
      return some ⟨e.text, match e with
        | .ledger e => [e.text]
        | .noLedger => []⟩
    | (.ok o, _) => showOutcome o

/-- Does what a command says. -/
def perform (app : Console) : Command → Script (Option Failure)
  | .list => list app
  | .print id => print app id
  | .add rule => add app rule
  | .edit id edits => edit app id edits
  | .delete id => delete app id
  | .importFrom file => importFrom app file
  | .process transactions dryRun apart write => process app transactions dryRun apart write

/-! ## The program -/

/-- What is printed for arguments that are no command. -/
def usageText : String :=
  "Usage: ynab-rules [--config-dir <DIR>] [--rules-file <FILE>] <COMMAND>\n\n" ++
    "Commands: list, show, add, edit, delete, import, process\n"

/-- Why there are no settings. -/
def homeless : Failure :=
  ⟨"failed to load configuration", ["Could not determine the home directory; set YNAB_RULES_CONFIG_DIR"]⟩

/-- The settings of an invocation: its own before those of the variables. -/
def Invocation.settings (i : Invocation) (base : Settings) : Settings := base.override i.directory i.rulesFile

/-- Performs the command of an invocation. -/
def invoke (base : Settings) (i : Invocation) : Script (Option Failure) := do
  match ← App.ofSettings (i.settings base) .epoch with
  | .error e => return some ⟨"failed to prepare rule storage", [e.text, e.error.text]⟩
  | .ok app => perform app i.command

/-- Runs the program. -/
def run (env : Environment) (args : List String) : Script Output := do
  let (vars, ok) ← EnvFile.load env.depth env.vars
  match Invocation.read vars args with
  | .error .usage => return ⟨2, "", usageText⟩
  | .error .help => return ⟨0, usageText, ""⟩
  | .ok i =>
    match Settings.ofVariables (Settings.home? env.account vars) vars with
    | none => return .ofResult (some homeless)
    | some base =>
      if !ok then Script.tell .warn "ignoring unreadable .env file" []
      return .ofResult (← invoke base i)

end BudgetRules.CommandLine
