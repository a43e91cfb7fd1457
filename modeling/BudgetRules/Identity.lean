import BudgetRules.ChaCha8
import BudgetRules.Rule

/-!
# Identities of rules

An identity is sixteen bytes written as a version 4 UUID.  Where the bytes come from is an `IdSource`:
a stream of which a number has been drawn.  A source made from a seed gives the same identities every
time, and a copy of it starts again at the first.
-/

namespace BudgetRules

/-- Sixteen bytes marked as version 4, written in lower case with hyphens. -/
def uuid (bytes : List UInt8) : String :=
  let marked := bytes.zipIdx.map fun (b, i) =>
    if i = 6 then (b &&& 0x0f) ||| 0x40 else if i = 8 then (b &&& 0x3f) ||| 0x80 else b
  let h := Bytes.hex marked
  String.ofList (h.take 8 ++ '-' :: (h.drop 8).take 4 ++ '-' :: (h.drop 12).take 4 ++
    '-' :: (h.drop 16).take 4 ++ '-' :: h.drop 20)

/-- A stream of identities and how many have been drawn. -/
structure IdSource where
  stream : Nat → String
  drawn : Nat

namespace IdSource

/-- The stream of a seed, from its start. -/
def seeded (seed : UInt64) : IdSource := ⟨fun n => uuid (ChaCha8.sixteen seed n), 0⟩

/-- The next identity, and the source after it. -/
def next (s : IdSource) : String × IdSource := (s.stream s.drawn, { s with drawn := s.drawn + 1 })

/-- A copy, which starts again at the first identity. -/
def copy (s : IdSource) : IdSource := { s with drawn := 0 }

/-- The next `n` identities, and the source after them. -/
def take : Nat → IdSource → List String × IdSource
  | 0, s => ([], s)
  | n + 1, s =>
    let (id, s) := s.next
    let (l, s) := take n s
    (id :: l, s)

end IdSource

/-- A rule made of a draft under a new identity, and the source after it.  The identity is drawn even if the
draft is refused. -/
def RuleDraft.build (d : RuleDraft) (ids : IdSource) : Except InvalidRule Rule × IdSource :=
  let (id, ids) := ids.next
  (d.toRule id, ids)

end BudgetRules
