import BudgetRules.Regex.Property.Age
import BudgetRules.Regex.Property.Binary
import BudgetRules.Regex.Property.Break
import BudgetRules.Regex.Property.Category
import BudgetRules.Regex.Property.Script
import BudgetRules.Regex.Property.ScriptExtensions
import BudgetRules.Unicode.Ranges

/-!
# Properties by their names

A name alone speaks of a property that a character has or has not, of a general category or of a
script; the name of a property with that of a value speaks of the characters with the value.
Case, blanks, hyphens and underscores in names do not matter.
-/

namespace BudgetRules.Regex

open Unicode

/-- A class such as `\p{Greek}` or `\p{script=Greek}`. -/
inductive PropertyName
  | plain (name : String)
  | value (property value : String)
deriving DecidableEq

/-- The name of a property or a value without case, separators and a leading `is`. -/
def normalizeName (s : String) : String :=
  let plain (cs : List Char) : List Char :=
    (cs.filter fun c => c != ' ' && c != '_' && c != '-' && c.toNat < 128).map Char.toLower
  let cs := s.toList
  match cs with
  | a :: b :: r =>
    if a.toLower = 'i' ∧ b.toLower = 's' then
      if plain r = ['c'] then "isc" else String.ofList (plain r)
    else String.ofList (plain cs)
  | cs => String.ofList (plain cs)

/-- The categories that a name of several categories stands for. -/
def categoryGroups : List (List String × List String) :=
  [(["l", "letter"], ["lu", "ll", "lt", "lm", "lo"]),
    (["lc", "casedletter"], ["lu", "ll", "lt"]),
    (["m", "mark", "combiningmark"], ["mn", "mc", "me"]),
    (["n", "number"], ["nd", "nl", "no"]),
    (["p", "punctuation", "punct"], ["pc", "pd", "ps", "pe", "pi", "pf", "po"]),
    (["s", "symbol"], ["sm", "sc", "sk", "so"]),
    (["z", "separator"], ["zs", "zl", "zp"])]

/-- The characters of any of some categories. -/
def categoryUnion (names : List String) : Ranges :=
  names.foldl (fun r n => r.union (row categories n)) ⟨[]⟩

/-- The surrogates, which no text holds. -/
def surrogates : Ranges := ⟨[(0xd800, 0xdfff)]⟩

/-- The characters of a category or a group of categories.  The surrogates stand among the other ones,
so that a run may pass over them. -/
def category? (name : String) : Option Ranges :=
  if name = "any" then some ⟨[(0, Ranges.last)]⟩
  else if name = "assigned" then some (row categories "cn").complement
  else if name = "ascii" then some ⟨[(0, 127)]⟩
  else if name = "c" ∨ name = "other" then
    some ((categoryUnion ["cc", "cf", "cn", "co"]).union surrogates)
  else
    match categoryGroups.find? fun g => g.1.contains name with
    | some (_, l) => some (categoryUnion l)
    | none => row? categories name

/-- The characters that a version of Unicode has, which came with it or before it. -/
def age? (name : String) : Option Ranges :=
  (ages.findIdx? fun r => r.1.contains name).map fun i =>
    .ofRuns ((ages.take (i + 1)).flatMap fun r => (Ranges.ofHex r.2).runs)

/-- The characters in use with a script. -/
def extended? (name : String) : Option Ranges :=
  (row? scriptExtensions name).orElse fun _ => row? scripts name

/-- The properties that have values, by their names. -/
def valuedProperties : List (List String × (String → Option Ranges)) :=
  [(["gc", "generalcategory"], category?),
    (["sc", "script"], row? scripts),
    (["scx", "scriptextensions"], extended?),
    (["age"], age?),
    (["gcb", "graphemeclusterbreak"], row? graphemeBreaks),
    (["wb", "wordbreak"], row? wordBreaks),
    (["sb", "sentencebreak"], row? sentenceBreaks)]

/-- The characters that a name alone speaks of: a property, a category or a script.  Three names of
categories are names of properties too; they speak of the category. -/
def named? (name : String) : Option Ranges :=
  let name := normalizeName name
  let property :=
    if name = "cf" ∨ name = "sc" ∨ name = "lc" then none else row? binaryProperties name
  (property.orElse fun _ => category? name).orElse fun _ => row? scripts name

/-- The characters with a value of a property. -/
def valued? (property value : String) : Option Ranges := do
  let (_, values) ← valuedProperties.find? fun p => p.1.contains (normalizeName property)
  values (normalizeName value)

def PropertyName.chars? : PropertyName → Option Ranges
  | .plain name => named? name
  | .value name v => valued? name v

end BudgetRules.Regex
