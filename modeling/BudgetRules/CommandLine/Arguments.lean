import BudgetRules.Settings

/-!
# Arguments of the command line

A command is a word, before and after which options may stand.  An option that takes a value has it after
a `=` or as the next argument, which may not look like an option itself unless the option says so.  After a
lone `--` nothing is an option.  An option that is not repeatable may be given once.

What is wrong with a value that is an argument of its own comes to light only where the next option or
word begins or the arguments end.  So whoever asks for help gets it unless something is known to be wrong
by then.
-/

namespace BudgetRules.CommandLine

/-! ## Values -/

/-- A signed number of 64 bits in decimal digits. -/
def readInt64? (text : String) : Option Int64 :=
  let digits (cs : List Char) : Option Int :=
    if cs.isEmpty ∨ !cs.all Char.isDigit then none
    else some (cs.foldl (fun n c => 10 * n + (c.toNat - 48)) 0 : Nat)
  do
    let i ← match text.toList with
      | '-' :: cs => (digits cs).map (- ·)
      | '+' :: cs => digits cs
      | cs => digits cs
    if Int64.minValue.toInt ≤ i ∧ i ≤ Int64.maxValue.toInt then some (Int64.ofInt i) else none

/-- What a value may be. -/
inductive ValueKind
  | text
  /-- the path of a file, which is not empty -/
  | path
  /-- a signed number of 64 bits -/
  | number
deriving DecidableEq

def ValueKind.accepts : ValueKind → String → Bool
  | .text, _ => true
  | .path, v => !v.isEmpty
  | .number, v => (readInt64? v).isSome

/-! ## Options -/

/-- How often an option may be given, and whether it has a value. -/
inductive OptionKind
  | flag
  | single
  | repeatable
deriving DecidableEq

/-- An option of a command. -/
structure OptionSpec where
  name : String
  kind : OptionKind
  value : ValueKind
  /-- may its value look like an option? -/
  anyValue : Bool
deriving DecidableEq

/-- What has been given: options with their values in their order, and the other arguments. -/
structure Given where
  options : List (String × String)
  words : List String
deriving DecidableEq

namespace Given

def empty : Given := ⟨[], []⟩

def has (g : Given) (name : String) : Bool := (g.options.lookup name).isSome

/-- The value of an option. -/
def value? (g : Given) (name : String) : Option String := g.options.lookup name

/-- All values of an option. -/
def values (g : Given) (name : String) : List String :=
  (g.options.filter fun o => o.1 = name).map (·.2)

end Given

/-- Why arguments are not a command. -/
inductive Refusal
  | usage
  | help
deriving DecidableEq

/-- Does an argument look like an option? -/
def looksLikeOption (arg : String) : Bool :=
  match arg.toList with
  | ['-'] => false
  | '-' :: _ => true
  | _ => false

/-- What has not been looked at yet. -/
inductive Pending
  | nothing
  /-- an option whose value comes next -/
  | option (o : OptionSpec)
  | value (o : OptionSpec) (text : String)
  | word (kind : ValueKind) (text : String)

/-- Where a reader of arguments stands. -/
structure Reader where
  given : Given
  pending : Pending
  /-- after a lone `--`? -/
  onlyWords : Bool
  /-- the words that may still come -/
  places : List ValueKind

namespace Reader

/-- The start of a reader for some words. -/
def start (places : List ValueKind) : Reader := ⟨.empty, .nothing, false, places⟩

/-- Notes an option with its value. -/
def note (r : Reader) (o : OptionSpec) (value : String) : Except Refusal Reader :=
  if !o.value.accepts value then .error .usage
  else if o.kind ≠ .repeatable ∧ r.given.has o.name then .error .usage
  else .ok { r with given := { r.given with options := r.given.options ++ [(o.name, value)] } }

/-- Looks at what is pending. -/
def settle (r : Reader) : Except Refusal Reader :=
  let done : Reader := { r with pending := .nothing }
  match r.pending with
  | .nothing => .ok done
  | .option _ => .error .usage
  | .value o text => done.note o text
  | .word kind text =>
    if kind.accepts text then
      .ok { done with given := { r.given with words := r.given.words ++ [text] } }
    else .error .usage

/-- Help is given where nothing is wrong by then. -/
def help (r : Reader) : Except Refusal Reader := r.settle.bind fun _ => .error .help

/-- An argument that looks like an option. -/
def option (specs : List OptionSpec) (r : Reader) (arg : String) : Except Refusal Reader :=
  match arg.toList with
  | ['-', '-'] => .ok { r with onlyWords := true }
  | '-' :: 'h' :: _ => r.help
  | '-' :: '-' :: cs => do
    let name := String.ofList (cs.takeWhile (· ≠ '='))
    let attached := cs.dropWhile (· ≠ '=')
    match specs.find? (·.name = name) with
    | none => if name = "help" ∧ attached = [] then r.help else .error .usage
    | some o =>
      match o.kind, attached with
      | .flag, [] => (← r.settle).note o ""
      | .flag, _ => .error .usage
      | _, [] => return { ← r.settle with pending := .option o }
      | _, _ :: value => (← r.settle).note o (String.ofList value)
  | _ => .error .usage

/-- What an argument is: a word, or something that only changes the reader. -/
def step (specs : List OptionSpec) (r : Reader) (arg : String) :
    Except Refusal (Reader ⊕ String) :=
  match r.pending with
  | .option o =>
    if o.anyValue || !looksLikeOption arg then .ok (.inl { r with pending := .value o arg })
    else .error .usage
  | _ =>
    if r.onlyWords || !looksLikeOption arg then .ok (.inr arg)
    else (r.option specs arg).map .inl

/-- Takes a word, if there is a place for it. -/
def word (r : Reader) (text : String) : Except Refusal Reader :=
  match r.places with
  | [] => .error .usage
  | kind :: places => r.settle.map fun r => { r with pending := .word kind text, places }

/-- Reads all arguments. -/
def readAll (specs : List OptionSpec) : Reader → List String → Except Refusal Given
  | r, [] => r.settle.map (·.given)
  | r, arg :: rest => do
    match ← r.step specs arg with
    | .inl r => readAll specs r rest
    | .inr w => readAll specs (← r.word w) rest

/-- Reads the arguments before the first word; gives the reader as it stands in front of that word, the
word and the arguments after it. -/
def readFirst (specs : List OptionSpec) : Reader → List String →
    Except Refusal (Reader × String × List String)
  | _, [] => .error .usage
  | r, arg :: rest => do
    match ← r.step specs arg with
    | .inl r => readFirst specs r rest
    | .inr w => if r.onlyWords then throw .usage else return (r, w, rest)

end Reader

/-! ## Commands -/

/-- What `edit` changes of a rule; what is not given stays. -/
structure Edits where
  name : Option String
  description : Option String
  priority : Option Int64
  logic : Option String
  enable : Bool
  disable : Bool
  /-- none of them leaves the conditions as they are -/
  conditions : List String
  /-- none of them leaves the actions as they are -/
  actions : List String
deriving DecidableEq

/-- What `add` makes a rule of. -/
structure NewRule where
  name : String
  description : String
  priority : Int64
  logic : String
  disabled : Bool
  conditions : List String
  actions : List String
deriving DecidableEq

/-- What to do. -/
inductive Command
  | list
  | print (id : String)
  | add (rule : NewRule)
  | edit (id : String) (edits : Edits)
  | delete (id : String)
  | importFrom (file : String)
  | process (transactions : String) (dryRun apart : Bool) (write : Option String)
deriving DecidableEq

/-- A command with what was said about the place of the rules. -/
structure Invocation where
  directory : Option String
  rulesFile : Option String
  command : Command
deriving DecidableEq

def flag (name : String) : OptionSpec := ⟨name, .flag, .text, false⟩
def single (name : String) : OptionSpec := ⟨name, .single, .text, false⟩
def path (name : String) : OptionSpec := ⟨name, .single, .path, false⟩
def repeatable (name : String) : OptionSpec := ⟨name, .repeatable, .text, false⟩
def number (name : String) : OptionSpec := ⟨name, .single, .number, true⟩

/-- The options that may stand anywhere. -/
def globalSpecs : List OptionSpec := [path "config-dir", path "rules-file"]

/-- Something that must be given. -/
def needed : Option α → Except Refusal α
  | some a => .ok a
  | none => .error .usage

/-- The one word of a command. -/
def onlyWord (g : Given) : Except Refusal String := needed g.words.head?

/-- The options and the words of a command. -/
def shape? (word : String) : Option (List OptionSpec × List ValueKind) :=
  match word with
  | "list" => some ([], [])
  | "show" => some ([], [.text])
  | "add" =>
    some ([single "name", single "description", number "priority", single "logic",
      flag "disabled", repeatable "condition", repeatable "action"], [])
  | "edit" =>
    some ([single "name", single "description", number "priority", single "logic",
      flag "enable", flag "disable", repeatable "condition", repeatable "action"], [.text])
  | "delete" => some ([], [.text])
  | "import" => some ([], [.path])
  | "process" => some ([path "transactions", flag "dry-run", flag "parallel", path "write"], [])
  | _ => none

/-- The command of a word and what was given for it. -/
def Command.ofGiven (word : String) (g : Given) : Except Refusal Command := do
  let priority := (g.value? "priority").bind readInt64?
  match word with
  | "list" => return .list
  | "show" => return .print (← onlyWord g)
  | "add" =>
    return .add {
      name := ← needed (g.value? "name")
      description := (g.value? "description").getD ""
      priority := priority.getD 0
      logic := (g.value? "logic").getD "and"
      disabled := g.has "disabled"
      conditions := g.values "condition"
      actions := g.values "action" }
  | "edit" =>
    if g.has "enable" ∧ g.has "disable" then throw .usage
    return .edit (← onlyWord g) {
      name := g.value? "name"
      description := g.value? "description"
      priority := priority
      logic := g.value? "logic"
      enable := g.has "enable"
      disable := g.has "disable"
      conditions := g.values "condition"
      actions := g.values "action" }
  | "delete" => return .delete (← onlyWord g)
  | "import" => return .importFrom (← onlyWord g)
  | "process" =>
    return .process (← needed (g.value? "transactions")) (g.has "dry-run") (g.has "parallel")
      (g.value? "write")
  | _ => throw .usage

/-- The value of an option that may stand before and after the word of a command: the one after it, else the
one before it, else that of a variable, which may not be empty where it is needed. -/
def globalValue (vars : Variables) (variableName name : String) (before after : Given) :
    Except Refusal (Option String) :=
  match before.value? name, after.value? name, vars.lookup variableName with
  | some _, some v, _ => .ok (some v)
  | _, _, some "" => .error .usage
  | _, some v, _ => .ok (some v)
  | some v, none, _ => .ok (some v)
  | none, none, v => .ok v

/-- What comes of asking for help with some words: at most one, which is a command. -/
def helpFor : List String → Refusal
  | [] => .help
  | [word] => if word = "help" ∨ (shape? word).isSome then .help else .usage
  | _ => .usage

/-- The command of some arguments, where variables stand in for options that may stand anywhere. -/
def Invocation.read (vars : Variables) (args : List String) : Except Refusal Invocation := do
  let (before, word, rest) ← (Reader.start []).readFirst globalSpecs args
  match shape? word with
  | none => throw (if word = "help" then helpFor rest else .usage)
  | some (specs, places) =>
    let after ← (Reader.start places).readAll (specs ++ globalSpecs) rest
    let before := (← before.settle).given
    return {
      directory := ← globalValue vars Settings.directoryVariable "config-dir" before after
      rulesFile := ← globalValue vars Settings.rulesFileVariable "rules-file" before after
      command := ← Command.ofGiven word after }

end BudgetRules.CommandLine
