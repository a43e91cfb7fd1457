import BudgetRules.SortedMap

/-!
# Laws of maps with sorted names

A map is what its look-ups answer: `get?` after `insert` and `erase`, and two maps that answer alike are
the same map.

    (m.insert k v).get? j = if j = k then some v else m.get? j     (SortedMap.get?_insert)
    (∀ k, m.get? k = n.get? k) → m = n                             (SortedMap.ext_get?)
-/

namespace BudgetRules

namespace Sorted

theorem lookup_cons (m : String) (w : α) (l : List (String × α)) (j : String) :
    ((m, w) :: l).lookup j = if j = m then some w else l.lookup j := by
  by_cases hj : j = m
  · simp [hj]
  · have hjm : (j == m) = false := by simpa using hj
    rw [List.lookup_cons, hjm, if_neg hj]

theorem lookup_insert (k : String) (v : α) (l : List (String × α)) (j : String) :
    (insert k v l).lookup j = if j = k then some v else l.lookup j := by
  induction l with
  | nil => rw [insert, lookup_cons]
  | cons q r ih =>
    obtain ⟨m, w⟩ := q
    unfold insert
    split
    · rw [lookup_cons]
    · split
      · next hk => subst hk; simp only [lookup_cons]; split <;> rfl
      · next hk =>
        simp only [lookup_cons, ih]
        by_cases hj : j = m
        · simp [hj, Ne.symm hk]
        · simp [hj]

theorem lookup_filter_ne (k : String) (l : List (String × α)) (j : String) :
    (l.filter fun p => p.1 ≠ k).lookup j = if j = k then none else l.lookup j := by
  induction l with
  | nil => simp
  | cons q r ih =>
    obtain ⟨m, w⟩ := q
    by_cases hm : m = k
    · subst hm
      rw [List.filter_cons_of_neg (by simp), ih, lookup_cons]
      split <;> rfl
    · rw [List.filter_cons_of_pos (by simpa using hm), lookup_cons, lookup_cons, ih]
      by_cases hj : j = m
      · simp [hj, hm]
      · simp [hj]

theorem lookup_eq_none {k : String} {l : List (String × α)} (h : ∀ p ∈ l, k < p.1) : l.lookup k = none := by
  rw [List.lookup_eq_none_iff]
  intro p hp
  have hne : k ≠ p.1 := fun e => String.lt_irrefl k (by have := h p hp; rwa [← e] at this)
  simpa using hne

/-- In a list of ascending names, the value under a name is the only one. -/
theorem lookup_eq_some_iff {l : List (String × α)} (h : Ascending l) {k : String} {v : α} :
    l.lookup k = some v ↔ (k, v) ∈ l := by
  induction l with
  | nil => simp
  | cons q r ih =>
    obtain ⟨m, w⟩ := q
    obtain ⟨hm, hr⟩ := List.pairwise_cons.1 h
    rw [lookup_cons, List.mem_cons, Prod.mk.injEq]
    by_cases hk : k = m
    · subst hk
      have hn : (k, v) ∉ r := fun hv => String.lt_irrefl k (hm (k, v) hv)
      simp [hn, eq_comm]
    · simp [hk, ih hr]

theorem ascending_map (f : α → β) {l : List (String × α)} (h : Ascending l) :
    Ascending (l.map fun p => (p.1, f p.2)) := by
  unfold Ascending
  rw [List.pairwise_map]
  exact h

/-- What is made of a list of ascending names is in ascending order, if it bears their names. -/
theorem pairwise_filterMap {l : List (String × α)} (h : Ascending l) {f : String × α → Option β}
    {name : β → String} (hf : ∀ p b, f p = some b → name b = p.1) :
    (l.filterMap f).Pairwise fun b c => name b < name c := by
  refine h.filterMap f fun p q hpq b hb c hc => ?_
  rw [hf p b hb, hf q c hc]
  exact hpq

/-- A name beyond all others goes to the end. -/
theorem insert_of_forall_lt {k : String} {v : α} {l : List (String × α)} (h : ∀ p ∈ l, p.1 < k) :
    insert k v l = l ++ [(k, v)] := by
  induction l with
  | nil => rfl
  | cons q r ih =>
    obtain ⟨m, w⟩ := q
    have hm : m < k := h (m, w) List.mem_cons_self
    have hlt : ¬k < m := fun hk => String.lt_irrefl k (String.lt_trans hk hm)
    have hne : ¬k = m := fun hk => String.lt_irrefl k (by rwa [← hk] at hm)
    rw [insert, if_neg hlt, if_neg hne, ih fun p hp => h p (List.mem_cons_of_mem _ hp)]
    rfl

/-- The first of some ascending names goes to the end of what stands before all of them, and the others follow. -/
theorem insert_behind {β : Type} {k : String} {w : β} {acc : List (String × α)} {rest : List (String × β)}
    (hl : Ascending ((k, w) :: rest)) (hacc : ∀ p ∈ acc, ∀ q ∈ (k, w) :: rest, p.1 < q.1) (v : α) :
    insert k v acc = acc ++ [(k, v)] ∧ ∀ p ∈ insert k v acc, ∀ q ∈ rest, p.1 < q.1 := by
  have hlast : insert k v acc = acc ++ [(k, v)] :=
    insert_of_forall_lt fun p hp => hacc p hp (k, w) List.mem_cons_self
  refine ⟨hlast, fun p hp q hq => ?_⟩
  rw [hlast] at hp
  rcases List.mem_append.1 hp with hp | hp
  · exact hacc p hp q (List.mem_cons_of_mem _ hq)
  · rw [List.mem_singleton.1 hp]
    exact (List.pairwise_cons.1 hl).1 q hq

/-- A name that is found is the first one or comes after it. -/
theorem eq_or_lt_of_lookup {j k : String} {w : α} {l : List (String × α)} (h : Ascending ((j, w) :: l))
    (hk : ((j, w) :: l).lookup k ≠ none) : k = j ∨ j < k := by
  obtain ⟨v, hv⟩ := Option.ne_none_iff_exists'.1 hk
  rcases List.mem_cons.1 ((lookup_eq_some_iff h).1 hv) with e | hmem
  · exact .inl (congrArg Prod.fst e)
  · exact .inr ((List.pairwise_cons.1 h).1 _ hmem)

/-- Lists of ascending names whose answers compare equal compare equal. -/
theorem beq_of_lookup [BEq α] {l m : List (String × α)} (hl : Ascending l) (hm : Ascending m)
    (h : ∀ k, (l.lookup k == m.lookup k) = true) : (l == m) = true := by
  induction l generalizing m with
  | nil =>
    cases m with
    | nil => rfl
    | cons q r =>
      obtain ⟨j, w⟩ := q
      have hq := h j
      simp at hq
  | cons p r ih =>
    obtain ⟨k, v⟩ := p
    obtain ⟨hk, hr⟩ := List.pairwise_cons.1 hl
    cases m with
    | nil =>
      have hp := h k
      simp at hp
    | cons q s =>
      obtain ⟨j, w⟩ := q
      obtain ⟨hj, hs⟩ := List.pairwise_cons.1 hm
      -- the first names agree: each is found in the other list, where nothing smaller stands
      have hkj : k = j := by
        have hfirst : k = j ∨ j < k := by
          refine eq_or_lt_of_lookup hm fun hnone => ?_
          have hk' := h k
          simp [hnone] at hk'
        have hsecond : j = k ∨ k < j := by
          refine eq_or_lt_of_lookup hl fun hnone => ?_
          have hj' := h j
          simp [hnone] at hj'
        rcases hfirst with rfl | hjk
        · rfl
        · rcases hsecond with rfl | hkj
          · rfl
          · exact absurd (String.lt_trans hjk hkj) (String.lt_irrefl _)
      subst hkj
      have hvw : (v == w) = true := by
        have hp := h k
        rwa [lookup_cons, lookup_cons, if_pos rfl, if_pos rfl] at hp
      have hrest : ∀ a, (r.lookup a == s.lookup a) = true := by
        intro a
        by_cases ha : a = k
        · subst ha
          rw [lookup_eq_none fun p hp => hk p hp, lookup_eq_none fun p hp => hj p hp]
          rfl
        · have ha' := h a
          rwa [lookup_cons, lookup_cons, if_neg ha, if_neg ha] at ha'
      exact Bool.and_eq_true_iff.2
        ⟨Bool.and_eq_true_iff.2 ⟨beq_self_eq_true k, hvw⟩, ih hr hs hrest⟩

/-- Lists of ascending names that answer alike are the same. -/
theorem eq_of_lookup {l m : List (String × α)} (hl : Ascending l) (hm : Ascending m)
    (h : ∀ k, l.lookup k = m.lookup k) : l = m := by
  classical
  refine eq_of_beq (beq_of_lookup hl hm fun k => ?_)
  rw [h k]
  exact beq_self_eq_true _

end Sorted

namespace SortedMap

@[simp] theorem get?_empty (k : String) : (empty : SortedMap α).get? k = none := rfl

@[simp] theorem get?_insert (m : SortedMap α) (k : String) (v : α) (j : String) :
    (m.insert k v).get? j = if j = k then some v else m.get? j :=
  Sorted.lookup_insert k v m.entries j

@[simp] theorem get?_erase (m : SortedMap α) (k j : String) :
    (m.erase k).get? j = if j = k then none else m.get? j :=
  Sorted.lookup_filter_ne k m.entries j

theorem get?_eq_some_iff {m : SortedMap α} {k : String} {v : α} :
    m.get? k = some v ↔ (k, v) ∈ m.entries :=
  Sorted.lookup_eq_some_iff m.ascending

/-- The values of a map under the same names, each changed. -/
def map (f : α → β) (m : SortedMap α) : SortedMap β :=
  ⟨m.entries.map fun p => (p.1, f p.2), Sorted.ascending_map f m.ascending⟩

@[simp] theorem get?_map (f : α → β) (m : SortedMap α) (k : String) : (m.map f).get? k = (m.get? k).map f := by
  obtain ⟨l, hl⟩ := m
  show (l.map fun p => (p.1, f p.2)).lookup k = (l.lookup k).map f
  clear hl
  induction l with
  | nil => rfl
  | cons p rest ih =>
    obtain ⟨j, a⟩ := p
    rw [List.map_cons, Sorted.lookup_cons, Sorted.lookup_cons, ih]
    split <;> rfl

/-- Maps that answer alike are the same. -/
theorem ext_get? {m n : SortedMap α} (h : ∀ k, m.get? k = n.get? k) : m = n := by
  have he : m.entries = n.entries := Sorted.eq_of_lookup m.ascending n.ascending h
  cases m; cases n
  simp only at he
  subst he
  rfl

@[simp] theorem map_id (m : SortedMap α) : m.map id = m := ext_get? fun k => by rw [get?_map, Option.map_id_apply]

end SortedMap

end BudgetRules
