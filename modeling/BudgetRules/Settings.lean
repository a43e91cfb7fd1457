import BudgetRules.Script
import BudgetRules.Text.Quoted
import BudgetRules.Unicode.Blank

/-!
# Settings

Settings come from variables, and what is given on the command line goes before them.  A variable that is
blank counts as not set.
-/

namespace BudgetRules

/-- What a remote ledger asks for. -/
structure Credentials where
  apiKey : String
  budgetId : String
deriving DecidableEq

/-- The credentials as they may be shown. -/
def Credentials.shown (c : Credentials) : String :=
  "LedgerCredentials \x7b api_key: \"<redacted>\", budget_id: " ++ Text.quoted c.budgetId ++ " \x7d"

/-- Where things are kept. -/
structure Settings where
  directory : String
  /-- the file of the rules, if it is not the usual one in the directory -/
  rulesFile : Option String
  logFilter : String
  credentials : Option Credentials
deriving DecidableEq

/-- A directory that cannot be made. -/
structure SettingsError where
  path : String
  error : FileError
deriving DecidableEq

def SettingsError.text (e : SettingsError) : String :=
  s!"Cannot create config directory {e.path}: {e.error.text}"

/-- Variables and their texts; of two with one name the first counts. -/
abbrev Variables := List (String × String)

namespace Settings

def directoryVariable : String := "YNAB_RULES_CONFIG_DIR"
def rulesFileVariable : String := "YNAB_RULES_FILE"
def logFilterVariable : String := "YNAB_RULES_LOG"
def apiKeyVariable : String := "YNAB_API_KEY"
def budgetIdVariable : String := "YNAB_BUDGET_ID"

/-- The text of a variable unless it is blank. -/
def setting? (vars : Variables) (name : String) : Option String :=
  (vars.lookup name).filter fun v => !Unicode.allBlank v

/-- The directory of the user: what the variable for it says, or else that of the account, if there is one. -/
def home? (account : Option String) (vars : Variables) : Option String :=
  ((vars.lookup "HOME").filter fun h => !h.isEmpty).or account

/-- The settings of some variables; `home` is the directory of the user.  There are none if neither says where the
directory is. -/
def ofVariables (home : Option String) (vars : Variables) : Option Settings := do
  let directory ← (setting? vars directoryVariable).or (home.map fun h => Path.join h ".ynab_rules")
  return {
    directory
    rulesFile := setting? vars rulesFileVariable
    logFilter := (setting? vars logFilterVariable).getD "info"
    credentials :=
      match setting? vars apiKeyVariable, setting? vars budgetIdVariable with
      | some key, some budget => some ⟨key, budget⟩
      | _, _ => none }

/-- The settings with a directory and a file of rules in place of theirs, if given. -/
def override (s : Settings) (directory rulesFile : Option String) : Settings :=
  { s with
    directory := directory.getD s.directory
    rulesFile := rulesFile.or s.rulesFile }

/-- The file of the rules. -/
def rulesPath (s : Settings) : String := s.rulesFile.getD (Path.join s.directory "rules.json")

/-- Makes the directory. -/
def ensureDirectory (s : Settings) : Script (Except SettingsError Unit) := do
  match ← Script.ensureDirs s.directory with
  | .ok _ => return .ok ()
  | .error e => return .error ⟨s.directory, e⟩

end Settings

end BudgetRules
