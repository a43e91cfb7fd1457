import BudgetRules.Timestamp.Text
import BudgetRules.Vocabulary

/-!
# Events

Applying rules gives `Entry`s: what happened, when, to which transaction and by which rule.  A `Notice` is
what the library tells its host while it works; entries can be passed on as notices.
-/

namespace BudgetRules

/-- How much an event matters. -/
inductive Level
  | trace
  | debug
  | info
  | warn
  | error
deriving DecidableEq

namespace Level

instance : Vocabulary Level where
  kind := "level"
  all := [.trace, .debug, .info, .warn, .error]
  word
    | .trace => "Trace"
    | .debug => "Debug"
    | .info => "Info"
    | .warn => "Warn"
    | .error => "Error"

def rank : Level → Nat
  | .trace => 0
  | .debug => 1
  | .info => 2
  | .warn => 3
  | .error => 4

/-- Does an event of level `l` matter at least as much as one of level `min`? -/
def reaches (l min : Level) : Bool := min.rank ≤ l.rank

/-- The level as notices name it. -/
def label : Level → String
  | .trace => "TRACE"
  | .debug => "DEBUG"
  | .info => "INFO"
  | .warn => "WARN"
  | .error => "ERROR"

end Level

/-- What the library tells its host: a message and some named texts. -/
structure Notice where
  level : Level
  message : String
  fields : List (String × String)
deriving DecidableEq

/-- Something that happened while rules were applied. -/
structure Entry where
  level : Level
  timestamp : Timestamp
  /-- the transaction it is about, if it is about one -/
  transaction : Option String
  /-- the name of the rule it is about, if it is about one -/
  rule : Option String
  message : String
  metadata : List (String × String)
deriving DecidableEq

namespace Entry

/-- An entry as it is passed on. -/
def toNotice (e : Entry) : Notice where
  level := e.level
  message := e.message
  fields := [("transaction_id", e.transaction.getD "-"), ("rule", e.rule.getD "-"),
    ("metadata", String.intercalate " " (e.metadata.map fun (k, v) => k ++ "=" ++ v))]

def toJson (e : Entry) : Json :=
  .obj [("level", Vocabulary.toJson e.level), ("timestamp", .str e.timestamp.text),
    ("transaction_id", .ofText? e.transaction), ("rule_name", .ofText? e.rule),
    ("message", .str e.message),
    ("metadata", .arr (e.metadata.map fun (k, v) => .arr [.str k, .str v]))]

/-- A timestamp in a JSON text. -/
def timestampDecoder : Json.Decoder Timestamp
  | _, .str (.ok s) =>
    match Timestamp.read s with
    | .ok t => .ok t
    | .error e => .error (.refused e.text)
  | _, t => Json.refuse "an RFC 3339 formatted date and time string" t

/-- An entry of which some fields have been read. -/
structure Parts where
  level : Option Level
  timestamp : Option Timestamp
  transaction : Option (Option String)
  rule : Option (Option String)
  message : Option String
  metadata : Option (List (String × String))

def Parts.empty : Parts := ⟨none, none, none, none, none, none⟩

open Json in
def fields : List (Json.Field Parts) :=
  [.of "level" (·.level) (fun p a => { p with level := some a }) Vocabulary.decoder false,
    .of "timestamp" (·.timestamp) (fun p a => { p with timestamp := some a }) timestampDecoder
      false,
    .of "transaction_id" (·.transaction) (fun p a => { p with transaction := some a })
      (Decoder.option Decoder.text) false,
    .of "rule_name" (·.rule) (fun p a => { p with rule := some a })
      (Decoder.option Decoder.text) false,
    .of "message" (·.message) (fun p a => { p with message := some a }) Decoder.text false,
    .of "metadata" (·.metadata) (fun p a => { p with metadata := some a })
      (Decoder.list (Decoder.pair Decoder.text Decoder.text)) false]

def decoder : Json.Decoder Entry := fun depth t => do
  let p ← Json.Decoder.struct "LogEntry" fields .empty depth t
  return {
    level := ← Json.required "level" p.level
    timestamp := ← Json.required "timestamp" p.timestamp
    transaction := p.transaction.getD none
    rule := p.rule.getD none
    message := ← Json.required "message" p.message
    metadata := ← Json.required "metadata" p.metadata }

end Entry

end BudgetRules
