import BudgetRules.Json.Printer
import BudgetRules.Json.Tree
import BudgetRules.Text.Quoted
import BudgetRules.SortedMap

/-!
# Decoding JSON

A decoder takes the tree of a text to a value of another type, or says what is wrong first.  It
reads from left to right, so a text with two faults is reported for the first of them.

Lists and objects may stand in one another up to a depth of 127; what is only passed over, such
as a member of an unknown name, has no such bound.
-/

namespace BudgetRules.Json

/-! ## Errors -/

/-- What stands where something else is expected. -/
inductive Found
  | null
  | bool (b : Bool)
  | num (n : Number)
  | str (s : String)
  | list
  | object

/-- What is wrong with a text for a decoder. -/
inductive DecodeError
  | fault (f : Fault)
  | wrongType (found : Found) (expected : String)
  | outOfRange (value : Int) (expected : String)
  | wrongLength (length : Nat) (expected : String)
  | missingField (name : String)
  | duplicateField (name : String)
  | unknownTag (tag : String) (known : List String)
  /-- a text that a field of a special form refuses -/
  | refused (reason : String)

def Found.text : Found → String
  | .null => "null"
  | .bool b => s!"boolean `{b}`"
  | .num (.int i) => s!"integer `{i}`"
  | .num (.double x) => s!"floating point `{String.ofList (doubleChars x)}`"
  | .str s => s!"string {Text.quoted s}"
  | .list => "sequence"
  | .object => "map"

/-- The tags that would have been right. -/
def knownTags (known : List String) : String :=
  match known.map fun k => s!"`{k}`" with
  | [] => "there are no variants"
  | [a] => s!"expected {a}"
  | [a, b] => s!"expected {a} or {b}"
  | l => "expected one of " ++ ", ".intercalate l

/-- The words for an error. -/
def DecodeError.text : DecodeError → String
  | .fault f => f.text
  | .wrongType found expected => s!"invalid type: {found.text}, expected {expected}"
  | .outOfRange i expected => s!"invalid value: integer `{i}`, expected {expected}"
  | .wrongLength n expected => s!"invalid length {n}, expected {expected}"
  | .missingField name => s!"missing field `{name}`"
  | .duplicateField name => s!"duplicate field `{name}`"
  | .unknownTag tag known => s!"unknown variant `{tag}`, {knownTags known}"
  | .refused reason => reason

/-! ## Faults of the ends -/

/-- The fault of a list that is wanted. -/
def Stop.listFault? : Stop → Option Fault
  | .closed => none
  | .unfinished => some .eofInList
  | .trailingComma => some .trailingComma
  | .endAfterComma => some .eofInValue
  | .noComma => some .expectedListCommaOrEnd

/-- The fault of an object that is wanted. -/
def Stop.objectFault? : Stop → Option Fault
  | .closed => none
  | .unfinished => some .eofInObject
  | .trailingComma => some .trailingComma
  | .endAfterComma => some .eofInValue
  | .noComma => some .expectedObjectCommaOrEnd

/-- The fault of a list that is passed over. -/
def Stop.passedListFault? : Stop → Option Fault
  | .trailingComma => some .expectedValue
  | s => s.listFault?

/-- The fault of an object that is passed over. -/
def Stop.passedObjectFault? : Stop → Option Fault
  | .trailingComma => some .keyMustBeString
  | .endAfterComma => some .eofInObject
  | s => s.objectFault?

mutual

/-- The first fault of a value that is passed over; the sizes of numbers and the pairing of
surrogates are not looked at. -/
def Tree.passedFault? : Tree → Option Fault
  | .list items => items.passedFault?
  | .object members => members.passedFault?
  | .absent => some .eofInValue
  | .unreached f => some f
  | .brokenString b => some b.passed
  | .broken b => some b.passed
  | .null => none
  | .bool _ => none
  | .num _ => none
  | .str _ => none

def Items.passedFault? : Items → Option Fault
  | .stop s => s.passedListFault?
  | .item t rest => t.passedFault?.orElse fun _ => rest.passedFault?

def Members.passedFault? : Members → Option Fault
  | .stop s => s.passedObjectFault?
  | .strayKey _ => some .keyMustBeString
  | .brokenKey b => some b.passed
  | .member _ t rest => t.passedFault?.orElse fun _ => rest.passedFault?

end

/-! ## Decoders -/

/-- A decoder; the number is how many lists and objects may still be opened, plus one. -/
abbrev Decoder (α : Type) := Nat → Tree → Except DecodeError α

/-- How many lists and objects may be open, plus one. -/
def depthLimit : Nat := 128

def fail (f : Fault) : Except DecodeError α := .error (.fault f)

/-- A value that is not the expected one, named by what it is. -/
def refuse (expected : String) : Tree → Except DecodeError α
  | .null => .error (.wrongType .null expected)
  | .bool b => .error (.wrongType (.bool b) expected)
  | .num (.ok n) => .error (.wrongType (.num n) expected)
  | .num (.error f) => fail f
  | .str (.ok s) => .error (.wrongType (.str s) expected)
  | .str (.error f) => fail f
  | .list _ => .error (.wrongType .list expected)
  | .object _ => .error (.wrongType .object expected)
  | .absent => fail .eofInValue
  | .unreached f => fail f
  | .brokenString b => fail b.wanted
  | .broken b => fail b.wanted

/-- Opens a list or an object. -/
def enter (depth : Nat) (inside : Nat → Except DecodeError α) : Except DecodeError α :=
  if depth ≤ 1 then fail .recursionLimit else inside (depth - 1)

def Decoder.text : Decoder String
  | _, .str (.ok s) => .ok s
  | _, t => refuse "a string" t

def Decoder.bool : Decoder Bool
  | _, .bool b => .ok b
  | _, t => refuse "a boolean" t

def Decoder.unit : Decoder Unit
  | _, .null => .ok ()
  | _, t => refuse "unit" t

/-- A whole number from `low` to `high`, called by the name of its type. -/
def Decoder.int (low high : Int) (name : String) : Decoder Int
  | _, .num (.ok (.int i)) => if low ≤ i ∧ i ≤ high then .ok i else .error (.outOfRange i name)
  | _, t => refuse name t

/-- A signed number of 64 bits. -/
def Decoder.int64 : Decoder Int64 := fun depth t =>
  (Decoder.int Int64.minValue.toInt Int64.maxValue.toInt "i64" depth t).map Int64.ofInt

/-- A count of 64 bits. -/
def Decoder.count : Decoder Nat := fun depth t =>
  (Decoder.int 0 (UInt64.size - 1) "usize" depth t).map Int.toNat

/-- A null or a value. -/
def Decoder.option (d : Decoder α) : Decoder (Option α)
  | _, .null => .ok none
  | depth, t => (d depth t).map some

/-- The items of the rest of a list. -/
def Items.decode (d : Decoder α) (depth : Nat) : Items → Except DecodeError (List α)
  | .stop s =>
    match s.listFault? with
    | none => .ok []
    | some f => fail f
  | .item t rest => do
    let a ← d depth t
    let l ← rest.decode d depth
    return a :: l

def Decoder.list (d : Decoder α) : Decoder (List α)
  | depth, .list items => enter depth fun depth => items.decode d depth
  | _, t => refuse "a sequence" t

/-- What follows the last wanted item of a list of fixed length. -/
def Items.close : Items → Except DecodeError Unit
  | .stop .closed => .ok ()
  | .stop .unfinished => fail .eofInList
  | .stop .trailingComma => fail .trailingComma
  | .stop .endAfterComma => fail .trailingCharacters
  | .stop .noComma => fail .trailingCharacters
  | .item _ _ => fail .trailingCharacters

/-- The next item of a list of fixed length. -/
def Items.next (d : Decoder α) (depth : Nat) : Items → Except DecodeError (Option (α × Items))
  | .item t rest => (d depth t).map fun a => some (a, rest)
  | .stop s =>
    match s.listFault? with
    | none => .ok none
    | some f => fail f

/-- A list of two items. -/
def Decoder.pair (d : Decoder α) (e : Decoder β) : Decoder (α × β)
  | depth, .list items => enter depth fun depth => do
    let expected := "a tuple of size 2"
    match ← items.next d depth with
    | none => .error (.wrongLength 0 expected)
    | some (a, items) =>
      match ← items.next e depth with
      | none => .error (.wrongLength 1 expected)
      | some (b, items) =>
        items.close
        return (a, b)
  | _, t => refuse "a tuple of size 2" t

/-- The members of the rest of an object; of two members with one name the later one counts. -/
def Members.decodeMap (d : Decoder α) (depth : Nat) (acc : SortedMap α) :
    Members → Except DecodeError (SortedMap α)
  | .stop s =>
    match s.objectFault? with
    | none => .ok acc
    | some f => fail f
  | .strayKey _ => fail .keyMustBeString
  | .brokenKey b => fail b.wanted
  | .member (.error f) _ _ => fail f
  | .member (.ok k) t rest => do
    let a ← d depth t
    rest.decodeMap d depth (acc.insert k a)

/-- An object with any names. -/
def Decoder.map (d : Decoder α) : Decoder (SortedMap α)
  | depth, .object members => enter depth fun depth => members.decodeMap d depth .empty
  | _, t => refuse "a map" t

/-! ## Any value -/

mutual

/-- Any value. -/
def Tree.decodeJson : Nat → Tree → Except DecodeError Json
  | _, .null => .ok .null
  | _, .bool b => .ok (.bool b)
  | _, .num (.ok n) => .ok (.num n)
  | _, .str (.ok s) => .ok (.str s)
  | depth, .list items => enter depth fun depth => (items.decodeJson depth).map .arr
  | depth, .object members =>
    enter depth fun depth => (members.decodeJson depth []).map .obj
  | _, t => refuse "any value" t

def Items.decodeJson : Nat → Items → Except DecodeError (List Json)
  | _, .stop s =>
    match s.listFault? with
    | none => .ok []
    | some f => fail f
  | depth, .item t rest => do
    let a ← t.decodeJson depth
    let l ← rest.decodeJson depth
    return a :: l

def Members.decodeJson : Nat → List (String × Json) → Members →
    Except DecodeError (List (String × Json))
  | _, acc, .stop s =>
    match s.objectFault? with
    | none => .ok acc
    | some f => fail f
  | _, _, .strayKey _ => fail .keyMustBeString
  | _, _, .brokenKey b => fail b.wanted
  | _, _, .member (.error f) _ _ => fail f
  | depth, acc, .member (.ok k) t rest => do
    let a ← t.decodeJson depth
    rest.decodeJson depth (Sorted.insert k a acc)

end

def Decoder.json : Decoder Json := fun depth t => t.decodeJson depth

/-! ## Tags -/

/-- What follows the null of a tag written as an object. -/
def Members.closeTag : Members → Except DecodeError Unit
  | .stop .closed => .ok ()
  | .stop .unfinished => fail .eofInObject
  | _ => fail .expectedValue

/-- One of some known texts, written as a text or as an object with that name and a null. -/
def Decoder.tag (known : List String) : Decoder String
  | _, .str (.ok s) => if s ∈ known then .ok s else .error (.unknownTag s known)
  | _, .str (.error f) => fail f
  | _, .brokenString b => fail b.wanted
  | _, .absent => fail .eofInValue
  | _, .unreached f => fail f
  | depth, .object members => enter depth fun depth =>
    match members with
    | .member (.ok k) t rest => do
      if k ∈ known then pure () else .error (.unknownTag k known)
      Decoder.unit depth t
      rest.closeTag
      return k
    | .member (.error f) _ _ => fail f
    | .brokenKey b => fail b.wanted
    | .strayKey _ => fail .keyMustBeString
    | .stop .unfinished => fail .eofInObject
    | .stop _ => fail .expectedValue
  | _, _ => fail .expectedValue

/-! ## Structures -/

/-- A field of a structure that is being read into a `σ`. -/
structure Field (σ : Type) where
  name : String
  isSet : σ → Bool
  read : σ → Decoder σ
  /-- may the field be missing at the end of a structure written as a list? -/
  hasDefault : Bool

/-- A field that is kept as an option in `σ`. -/
def Field.of (name : String) (get : σ → Option α) (set : σ → α → σ) (d : Decoder α)
    (hasDefault : Bool) : Field σ :=
  { name, hasDefault
    isSet := fun s => (get s).isSome
    read := fun s depth t => (d depth t).map (set s) }

/-- Reads the members of an object into a structure; members of other names are passed over. -/
def Members.decodeFields (fields : List (Field σ)) (depth : Nat) (s : σ) :
    Members → Except DecodeError σ
  | .stop e =>
    match e.objectFault? with
    | none => .ok s
    | some f => fail f
  | .strayKey _ => fail .keyMustBeString
  | .brokenKey b => fail b.wanted
  | .member (.error f) _ _ => fail f
  | .member (.ok k) t rest =>
    match fields.find? fun f => f.name == k with
    | none =>
      match t.passedFault? with
      | some f => fail f
      | none => rest.decodeFields fields depth s
    | some f =>
      if f.isSet s then .error (.duplicateField k)
      else do
        let s ← f.read s depth t
        rest.decodeFields fields depth s

/-- Reads the items of a list into the fields in their order; `n` fields have been passed. -/
def Items.decodeFields (expected : String) (depth : Nat) :
    Nat → List (Field σ) → σ → Items → Except DecodeError σ
  | _, [], s, items => items.close.map fun _ => s
  | n, f :: fs, s, items => do
    match ← items.next (f.read s) depth with
    | some (s, items) => Items.decodeFields expected depth (n + 1) fs s items
    | none =>
      if f.hasDefault then Items.decodeFields expected depth (n + 1) fs s items
      else .error (.wrongLength n expected)

/-- A structure, written as an object or as the list of its fields. -/
def Decoder.struct (name : String) (fields : List (Field σ)) (start : σ) : Decoder σ
  | depth, .object members => enter depth fun depth => members.decodeFields fields depth start
  | depth, .list items => enter depth fun depth =>
    items.decodeFields s!"struct {name} with {fields.length} elements" depth 0 fields start
  | _, t => refuse s!"struct {name}" t

/-- The value of a field without a default. -/
def required (name : String) : Option α → Except DecodeError α
  | some a => .ok a
  | none => .error (.missingField name)

/-! ## Texts -/

/-- Decodes a text that holds one value and nothing else. -/
def decodeText (d : Decoder α) (text : String) : Except DecodeError α := do
  let (t, more) := Tree.ofText text.toList
  let a ← d depthLimit t
  if more then fail .trailingCharacters else return a

end BudgetRules.Json
