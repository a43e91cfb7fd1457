import BudgetRules.Event

/-!
# Where entries go

An `EventSink` takes entries.  It says beforehand which levels it wants, so that no entry is made that
nobody keeps.  `EventLog` keeps entries from a level on, `Forwarder` passes them on as notices, and
`Silent` drops them.
-/

namespace BudgetRules

/-- A type whose values take entries. -/
class EventSink (σ : Type) where
  /-- are entries of a level wanted? -/
  enabled : σ → Level → Bool
  emit : σ → Entry → σ
  /-- the notices that have been passed on since they were last taken, and the sink without them -/
  drain : σ → List Notice × σ

namespace EventSink

variable {σ : Type} [EventSink σ]

/-- The sink after an entry, if it wants one of that level. -/
def offer (s : σ) (e : Entry) : σ := if enabled s e.level then emit s e else s

end EventSink

/-- The entries from a level on, in their order. -/
structure EventLog where
  entries : List Entry
  minLevel : Level
deriving DecidableEq

namespace EventLog

/-- An empty log of the entries from a level on. -/
def keeping (minLevel : Level) : EventLog := ⟨[], minLevel⟩

/-- An empty log of all entries. -/
def all : EventLog := .keeping .trace

/-- An empty log of the entries that a reader wants who asks for no level. -/
def standard : EventLog := .keeping .info

def enabled (l : EventLog) (level : Level) : Bool := level.reaches l.minLevel

def emit (l : EventLog) (e : Entry) : EventLog :=
  if l.enabled e.level then { l with entries := l.entries ++ [e] } else l

instance : EventSink EventLog where
  enabled := enabled
  emit := emit
  drain l := ([], l)

def size (l : EventLog) : Nat := l.entries.length

/-- The entries of exactly this level. -/
def ofLevel (l : EventLog) (level : Level) : List Entry := l.entries.filter (·.level = level)

/-- The entries about a transaction. -/
def aboutTransaction (l : EventLog) (id : String) : List Entry :=
  l.entries.filter (·.transaction = some id)

/-- The entries about the rules of a name. -/
def aboutRule (l : EventLog) (name : String) : List Entry := l.entries.filter (·.rule = some name)

def toJson (l : EventLog) : Json :=
  .obj [("entries", .arr (l.entries.map Entry.toJson)), ("min_level", Vocabulary.toJson l.minLevel)]

/-- A log of which some fields have been read. -/
structure Parts where
  entries : Option (List Entry)
  minLevel : Option Level

def fields : List (Json.Field Parts) :=
  [.of "entries" (·.entries) (fun p a => { p with entries := some a })
      (Json.Decoder.list Entry.decoder) false,
    .of "min_level" (·.minLevel) (fun p a => { p with minLevel := some a }) Vocabulary.decoder
      false]

def decoder : Json.Decoder EventLog := fun depth t => do
  let p ← Json.Decoder.struct "RuleLog" fields ⟨none, none⟩ depth t
  return ⟨← Json.required "entries" p.entries, ← Json.required "min_level" p.minLevel⟩

end EventLog

/-- Passes every entry on; those that have not been taken yet are kept in their order. -/
structure Forwarder where
  pending : List Notice
deriving DecidableEq

instance : EventSink Forwarder where
  enabled _ _ := true
  emit f e := ⟨f.pending ++ [e.toNotice]⟩
  drain f := (f.pending, ⟨[]⟩)

/-- Wants no entry and keeps none. -/
structure Silent where
deriving DecidableEq

instance : EventSink Silent where
  enabled _ _ := false
  emit s _ := s
  drain s := ([], s)

end BudgetRules
