/-!
# Sets of characters as runs

Tables of character properties are written as runs of code points in hexadecimal, `61-7a` for
a run and `aa` for one code point, with blanks or line breaks between them.

The operations on sets give their runs in ascending order, none of which could be joined with the next.
Texts hold no surrogates: a run may pass over them, but none begins or ends with one.
-/

namespace BudgetRules.Unicode

/-- A set of code points, as the first and last of each run. -/
structure Ranges where
  runs : List (Nat × Nat)
deriving DecidableEq

namespace Ranges

def contains (r : Ranges) (n : Nat) : Bool := r.runs.any fun (a, b) => a ≤ n && n ≤ b

theorem contains_eq_true_iff {r : Ranges} {n : Nat} :
    r.contains n = true ↔ ∃ p ∈ r.runs, p.1 ≤ n ∧ n ≤ p.2 := by
  simp [contains]

/-- The set of one code point. -/
def single (n : Nat) : Ranges := ⟨[(n, n)]⟩

/-! ## Joining runs -/

/-- Ascending runs behind a run, with runs that touch or overlap joined. -/
def joinAfter : Nat × Nat → List (Nat × Nat) → List (Nat × Nat)
  | r, [] => [r]
  | (a, b), (c, d) :: rest =>
    if c ≤ b + 1 then joinAfter (a, max b d) rest else (a, b) :: joinAfter (c, d) rest

/-- Ascending runs, with runs that touch or overlap joined. -/
def join : List (Nat × Nat) → List (Nat × Nat)
  | [] => []
  | r :: rest => joinAfter r rest

/-- The set of the members of any runs. -/
def ofRuns (l : List (Nat × Nat)) : Ranges := ⟨join (l.mergeSort fun p q => p.1 ≤ q.1)⟩

def union (r s : Ranges) : Ranges := ofRuns (r.runs ++ s.runs)

private theorem mem_joinAfter (n : Nat) (r : Nat × Nat) (l : List (Nat × Nat))
    (h : (r :: l).Pairwise fun p q => p.1 ≤ q.1) :
    (∃ p ∈ joinAfter r l, p.1 ≤ n ∧ n ≤ p.2) ↔ ∃ p ∈ r :: l, p.1 ≤ n ∧ n ≤ p.2 := by
  fun_induction joinAfter r l with
  | case1 r => simp
  | case2 a b c d rest hc ih =>
    have hac : a ≤ c := (List.pairwise_cons.1 h).1 (c, d) (by simp)
    have hrest := (List.pairwise_cons.1 h).2
    have hall : ((a, max b d) :: rest).Pairwise fun p q => p.1 ≤ q.1 :=
      List.pairwise_cons.2 ⟨fun q hq => (List.pairwise_cons.1 h).1 q (by simp [hq]),
        (List.pairwise_cons.1 hrest).2⟩
    rw [ih hall]
    simp only [List.mem_cons, exists_eq_or_imp]
    constructor
    · rintro (h | h)
      · by_cases hb : n ≤ b
        · exact .inl ⟨h.1, hb⟩
        · exact .inr (.inl ⟨by omega, by omega⟩)
      · exact .inr (.inr h)
    · rintro (h | h | h)
      · exact .inl ⟨h.1, by omega⟩
      · exact .inl ⟨by omega, by omega⟩
      · exact .inr h
  | case3 a b c d rest hc ih =>
    simp only [List.mem_cons, exists_eq_or_imp] at ih ⊢
    rw [ih (List.pairwise_cons.1 h).2]

theorem contains_ofRuns (l : List (Nat × Nat)) (n : Nat) :
    (ofRuns l).contains n = l.any fun (a, b) => a ≤ n && n ≤ b := by
  have hs : (l.mergeSort fun p q => p.1 ≤ q.1).Pairwise fun p q => p.1 ≤ q.1 :=
    (List.pairwise_mergeSort (by simp; omega) (by simp; omega) l).imp (by simp)
  have hm : ∀ p, p ∈ l.mergeSort (fun p q => p.1 ≤ q.1) ↔ p ∈ l := fun p => List.mem_mergeSort
  rw [Bool.eq_iff_iff, contains_eq_true_iff, ofRuns]
  cases hl : l.mergeSort fun p q => p.1 ≤ q.1 with
  | nil =>
    have : l = [] := List.eq_nil_iff_forall_not_mem.2 fun p hp => by
      have := (hm p).2 hp
      simp [hl] at this
    simp [join, this]
  | cons r rest =>
    rw [join, mem_joinAfter n r rest (hl ▸ hs), ← hl]
    simp

theorem contains_union (r s : Ranges) (n : Nat) :
    (r.union s).contains n = (r.contains n || s.contains n) := by
  rw [union, contains_ofRuns, List.any_append]
  rfl

/-! ## Other operations -/

/-- The character behind another one. -/
def next (n : Nat) : Nat := if n = 0xd7ff then 0xe000 else n + 1

/-- The character in front of another one. -/
def prev (n : Nat) : Nat := if n = 0xe000 then 0xd7ff else n - 1

/-- The last code point. -/
def last : Nat := 0x10ffff

/-- What is left behind a run that ends with `b`, between the runs behind it.  Between two runs that have
only the surrogates between them stands nothing, and then the ends of both runs are what is left. -/
def gapsAfter (b : Nat) : List (Nat × Nat) → List (Nat × Nat)
  | [] => if b < last then [(next b, last)] else []
  | (c, d) :: rest => (min (next b) (prev c), max (next b) (prev c)) :: gapsAfter d rest

/-- The complement. -/
def complement (r : Ranges) : Ranges :=
  match r.runs with
  | [] => ⟨[(0, last)]⟩
  | (a, b) :: rest => ⟨(if 0 < a then [(0, prev a)] else []) ++ gapsAfter b rest⟩

/-- What two runs share. -/
def overlap? (p q : Nat × Nat) : Option (Nat × Nat) :=
  if max p.1 q.1 ≤ min p.2 q.2 then some (max p.1 q.1, min p.2 q.2) else none

def inter (r s : Ranges) : Ranges := ⟨r.runs.flatMap fun p => s.runs.filterMap (overlap? p)⟩

theorem contains_inter (r s : Ranges) (n : Nat) :
    (r.inter s).contains n = (r.contains n && s.contains n) := by
  rw [Bool.eq_iff_iff, Bool.and_eq_true, contains_eq_true_iff, contains_eq_true_iff,
    contains_eq_true_iff]
  simp only [inter, List.mem_flatMap, List.mem_filterMap, overlap?]
  constructor
  · rintro ⟨x, ⟨p, hp, q, hq, h⟩, hn⟩
    split at h
    · cases h
      exact ⟨⟨p, hp, by omega⟩, ⟨q, hq, by omega⟩⟩
    · cases h
  · rintro ⟨⟨p, hp, hpn⟩, ⟨q, hq, hqn⟩⟩
    exact ⟨(max p.1 q.1, min p.2 q.2), ⟨p, hp, q, hq, if_pos (by omega)⟩, by omega⟩

/-- What is left of a run when ascending runs are taken away. -/
def cut : Nat × Nat → List (Nat × Nat) → List (Nat × Nat)
  | r, [] => [r]
  | (a, b), (c, d) :: rest =>
    if d < a ∨ b < c then cut (a, b) rest
    else
      (if a < c then [(a, prev c)] else []) ++
        (if d < b then cut (next d, b) rest else [])

def diff (r s : Ranges) : Ranges := ⟨r.runs.flatMap fun p => cut p s.runs⟩

def symmDiff (r s : Ranges) : Ranges := (r.union s).diff (r.inter s)

/-! ## Tables -/

def hexDigit (c : Char) : Nat :=
  if c.isDigit then c.toNat - 48 else c.toNat - 87

/-- One run; a single code point is a run of its own. -/
def run (word : List Char) : Nat × Nat :=
  let value (cs : List Char) := cs.foldl (fun n c => 16 * n + hexDigit c) 0
  let first := word.takeWhile (· ≠ '-')
  match word.drop first.length with
  | [] => (value first, value first)
  | _ :: last => (value first, value last)

/-- The set that a table's text describes. -/
def ofHex (text : String) : Ranges :=
  ⟨((text.toList.splitOnP (·.isWhitespace)).filter (· ≠ [])).map run⟩

end Ranges

/-- The set of a row that has the given name, if a row has it. -/
def row? (table : List (List String × String)) (name : String) : Option Ranges :=
  (table.find? fun r => r.1.contains name).map fun r => .ofHex r.2

/-- The set of a row, empty if there is no such row. -/
def row (table : List (List String × String)) (name : String) : Ranges :=
  (row? table name).getD ⟨[]⟩

end BudgetRules.Unicode
