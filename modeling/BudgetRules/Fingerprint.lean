import BudgetRules.Blake3
import BudgetRules.Rule

/-!
# Fingerprint of a rule sequence

A rule is written as bytes, field by field in their order: a text or a list as its length and its
contents, a member of a vocabulary as its place in it, a flag as one byte and a priority as eight.  All
lengths take eight bytes, so what follows a rule cannot be taken for a part of it:

    r.bytes ++ x = s.bytes ++ y → r = s ∧ x = y

The fingerprint of a sequence of rules is the hash of their number and, for each rule, the bytes of its
identity and those of the rule.
-/

namespace BudgetRules

namespace Bytes

/-- A text in UTF-8. -/
def utf8 (s : String) : List UInt8 := s.toUTF8.toList

/-- A length in eight bytes. -/
def ofLength (n : Nat) : List UInt8 := littleEndian 8 n

def ofText (s : String) : List UInt8 := ofLength (utf8 s).length ++ utf8 s

def ofList (item : α → List UInt8) (l : List α) : List UInt8 := ofLength l.length ++ l.flatMap item

/-- The place of a member in its vocabulary. -/
def ofMember [Vocabulary α] [DecidableEq α] (a : α) : List UInt8 :=
  littleEndian 4 ((Vocabulary.all : List α).idxOf a)

def ofFlag (b : Bool) : List UInt8 := [if b then 1 else 0]

/-- A signed number of 64 bits, in two's complement. -/
def ofInt64 (i : Int64) : List UInt8 := littleEndian 8 i.toUInt64.toNat

end Bytes

open Bytes

def Condition.bytes (c : Condition) : List UInt8 :=
  ofMember c.field ++ ofMember c.operator ++ ofText c.value

def Action.bytes (a : Action) : List UInt8 := ofMember a.field ++ ofMember a.operation ++ ofText a.value

namespace Rule

def bytes (r : Rule) : List UInt8 :=
  ofText r.id ++ ofText r.name ++ ofText r.description ++ ofList Condition.bytes r.conditions ++
    ofList Action.bytes r.actions ++ ofFlag r.enabled ++ ofInt64 r.priority ++ ofMember r.logic

/-- What is hashed of a sequence of rules. -/
def sequenceBytes (rules : List Rule) : List UInt8 :=
  ofLength rules.length ++ rules.flatMap fun r => utf8 r.id ++ r.bytes

/-- The hash of a sequence of rules in base sixteen. -/
def fingerprint (rules : List Rule) : String :=
  String.ofList (hex (Blake3.hash (sequenceBytes rules)))

end Rule

end BudgetRules
