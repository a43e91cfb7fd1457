import BudgetRules.Proofs.SortedMap
import BudgetRules.Store

/-!
# A store in memory is a map

Users save rules and take rules away.  The list of a store may hold several rules of one identity: saving replaces
the first of them, taking away removes all of them, and the first is found.  So each edit changes the list in one of
four ways (`Step`), and whatever the edits, the store is asked as a map from identities to rules would be:

    Step edit rules answer rules' → byId rules' = edit.update (byId rules)                            (Step.byId_eq)
    Steps edits rules as rules' → as = answers edits (byId rules) ∧ byId rules' = edits.foldl update (byId rules)
                                                                                                      (Steps.map_eq)
-/

namespace BudgetRules

/-! ## Edits -/

/-- What users do to the rules of a store. -/
inductive StoreEdit
  | put (rule : Rule)
  | remove (id : String)

namespace StoreEdit

/-- One edit of a store. -/
def perform {σ : Type} [RuleStore σ] (s : σ) : StoreEdit → Script (Bool × σ)
  | .put rule => RuleStore.put s rule
  | .remove id => RuleStore.remove s id

/-- Some edits of a store, one after the other, and their answers in order. -/
def performAll {σ : Type} [RuleStore σ] : List StoreEdit → σ → Script (List Bool × σ)
  | [], s => return ([], s)
  | edit :: rest, s => do
    let (answer, s) ← edit.perform s
    let (answers, s) ← performAll rest s
    return (answer :: answers, s)

/-- What one edit answers and what it makes of a list of rules: a saved rule takes the place of the first one with its
identity, or comes to the end if there is none; rules are taken away with all others left in their order, or there are
none to take away. -/
inductive Step : StoreEdit → List Rule → Bool → List Rule → Prop
  | replaced {first rest : List Rule} {old rule : Rule} (hfirst : ∀ r ∈ first, r.id ≠ rule.id)
      (hold : old.id = rule.id) : Step (.put rule) (first ++ old :: rest) true (first ++ rule :: rest)
  | added {rules : List Rule} {rule : Rule} (hnew : ∀ r ∈ rules, r.id ≠ rule.id) :
      Step (.put rule) rules true (rules ++ [rule])
  | removed {rules : List Rule} {id : String} (hold : ∃ r ∈ rules, r.id = id) :
      Step (.remove id) rules true (rules.filter fun r => r.id ≠ id)
  | missed {rules : List Rule} {id : String} (hnone : ∀ r ∈ rules, r.id ≠ id) : Step (.remove id) rules false rules

/-- Some edits, one after the other. -/
inductive Steps : List StoreEdit → List Rule → List Bool → List Rule → Prop
  | nil {rules : List Rule} : Steps [] rules [] rules
  | cons {edit : StoreEdit} {edits : List StoreEdit} {rules next last : List Rule} {answer : Bool}
      {answers : List Bool} (hstep : Step edit rules answer next) (hsteps : Steps edits next answers last) :
      Steps (edit :: edits) rules (answer :: answers) last

/-! ## Maps -/

/-- The first rule of each identity. -/
def byId (rules : List Rule) : SortedMap Rule := rules.foldr (fun rule m => m.insert rule.id rule) .empty

/-- What an edit makes of a map from identities to rules. -/
def update (m : SortedMap Rule) : StoreEdit → SortedMap Rule
  | .put rule => m.insert rule.id rule
  | .remove id => m.erase id

/-- What a map answers to an edit. -/
def answer (m : SortedMap Rule) : StoreEdit → Bool
  | .put _ => true
  | .remove id => m.contains id

/-- What a map answers to some edits, one after the other. -/
def answers : List StoreEdit → SortedMap Rule → List Bool
  | [], _ => []
  | edit :: rest, m => edit.answer m :: answers rest (edit.update m)

theorem get?_byId (rules : List Rule) (id : String) : (byId rules).get? id = rules.find? (·.id = id) := by
  induction rules with
  | nil => rfl
  | cons rule rest ih =>
    have hcons : byId (rule :: rest) = (byId rest).insert rule.id rule := rfl
    rw [hcons, SortedMap.get?_insert, ih, List.find?_cons]
    by_cases hid : id = rule.id
    · simp [hid]
    · simp [hid, Ne.symm hid]

theorem contains_byId_iff (rules : List Rule) (id : String) :
    (byId rules).contains id = true ↔ ∃ r ∈ rules, r.id = id := by
  unfold SortedMap.contains
  rw [get?_byId, List.find?_isSome]
  simp

theorem find?_eq_none_of_ne {rules : List Rule} {id : String} (h : ∀ r ∈ rules, r.id ≠ id) :
    rules.find? (·.id = id) = none := by
  rw [List.find?_eq_none]
  simpa using h

/-! ## What a step says -/

variable {edit : StoreEdit} {rules next : List Rule} {a : Bool}

/-- A step changes the map of a list as the edit changes maps. -/
theorem Step.byId_eq (h : Step edit rules a next) : byId next = edit.update (byId rules) := by
  refine SortedMap.ext_get? fun k => ?_
  cases h with
  | @replaced first rest old rule hfirst hold =>
    rw [update, SortedMap.get?_insert, get?_byId, get?_byId, List.find?_append, List.find?_append, List.find?_cons,
      List.find?_cons, hold]
    by_cases hk : k = rule.id
    · subst hk
      simp [find?_eq_none_of_ne hfirst]
    · simp [hk, Ne.symm hk]
  | @added _ rule hnew =>
    rw [update, SortedMap.get?_insert, get?_byId, get?_byId, List.find?_append, List.find?_singleton]
    by_cases hk : k = rule.id
    · subst hk
      simp [find?_eq_none_of_ne hnew]
    · simp [hk, Ne.symm hk]
  | @removed _ id hold =>
    rw [update, SortedMap.get?_erase, get?_byId, get?_byId, List.find?_filter]
    by_cases hk : k = id
    · subst hk
      simp
    · rw [if_neg hk]
      refine congrArg (List.find? · rules) (funext fun r => ?_)
      by_cases hr : r.id = k
      · simp [hr, hk]
      · simp [hr]
  | @missed _ id hnone =>
    rw [update, SortedMap.get?_erase, get?_byId]
    by_cases hk : k = id
    · rw [if_pos hk, hk, find?_eq_none_of_ne hnone]
    · rw [if_neg hk]

/-- A step answers what the map of the list answers. -/
theorem Step.answer_eq (h : Step edit rules a next) : a = edit.answer (byId rules) := by
  cases h with
  | replaced _ _ => rfl
  | added _ => rfl
  | removed hold => exact ((contains_byId_iff _ _).2 hold).symm
  | missed hnone =>
    refine (Bool.eq_false_iff.2 fun h => ?_).symm
    obtain ⟨r, hr, hid⟩ := (contains_byId_iff _ _).1 h
    exact hnone r hr hid

/-- No step makes a second rule of an identity. -/
theorem Step.nodup (h : Step edit rules a next) (hn : (rules.map (·.id)).Nodup) : (next.map (·.id)).Nodup := by
  cases h with
  | replaced hfirst hold =>
    rw [List.map_append, List.map_cons] at hn ⊢
    rwa [← hold]
  | added hnew =>
    rw [List.map_append]
    refine List.nodup_append.2 ⟨hn, by simp, ?_⟩
    rintro id hid _ hrule rfl
    obtain ⟨r, hr, rfl⟩ := List.mem_map.1 hid
    exact hnew r hr (List.mem_singleton.1 hrule)
  | removed _ => exact hn.sublist (List.filter_sublist.map _)
  | missed _ => exact hn

theorem Steps.map_eq {edits : List StoreEdit} {as : List Bool} (h : Steps edits rules as next) :
    as = answers edits (byId rules) ∧ byId next = edits.foldl update (byId rules) := by
  induction h with
  | nil => exact ⟨rfl, rfl⟩
  | cons hstep _ ih =>
    rw [hstep.byId_eq] at ih
    rw [answers, ← hstep.answer_eq, List.foldl_cons, ← ih.1]
    exact ⟨rfl, ih.2⟩

theorem Steps.nodup {edits : List StoreEdit} {as : List Bool} (h : Steps edits rules as next)
    (hn : (rules.map (·.id)).Nodup) : (next.map (·.id)).Nodup := by
  induction h with
  | nil => exact hn
  | cons hstep _ ih => exact ih (hstep.nodup hn)

/-! ## Rules in memory -/

theorem step_upsert (rules : List Rule) (rule : Rule) : Step (.put rule) rules true (upsert rules rule) := by
  induction rules with
  | nil => exact .added fun q hq => absurd hq List.not_mem_nil
  | cons r rest ih =>
    unfold upsert
    by_cases hid : r.id = rule.id
    · rw [if_pos hid]
      exact @Step.replaced [] rest r rule (fun q hq => absurd hq List.not_mem_nil) hid
    · rw [if_neg hid]
      -- what happens to the rest happens behind one more rule of another identity
      have hne : ∀ {l : List Rule}, (∀ q ∈ l, q.id ≠ rule.id) → ∀ q ∈ r :: l, q.id ≠ rule.id := by
        intro l hl q hq
        rcases List.mem_cons.1 hq with rfl | hq
        · exact hid
        · exact hl q hq
      generalize upsert rest rule = next at ih
      cases ih with
      | @replaced first _ _ _ hfirst hold => exact @Step.replaced (r :: first) _ _ _ (hne hfirst) hold
      | added hnew => exact .added (hne hnew)

theorem step_without (rules : List Rule) (id : String) :
    Step (.remove id) rules (decide ((without rules id).length < rules.length)) (without rules id) := by
  by_cases hold : ∃ r ∈ rules, r.id = id
  · have hlt : (without rules id).length < rules.length := by
      obtain ⟨r, hr, hid⟩ := hold
      exact List.length_filter_lt_length_iff_exists.2 ⟨r, hr, by simp [hid]⟩
    rw [decide_eq_true hlt]
    exact .removed hold
  · have hnone : ∀ r ∈ rules, r.id ≠ id := fun r hr hid => hold ⟨r, hr, hid⟩
    have hsame : without rules id = rules := List.filter_eq_self.2 fun r hr => by simpa using hnone r hr
    rw [hsame, decide_eq_false (Nat.lt_irrefl _)]
    exact .missed hnone

theorem exists_perform (edit : StoreEdit) (rules : List Rule) :
    ∃ a next, edit.perform (⟨rules⟩ : MemoryStore) = pure (a, ⟨next⟩) ∧ Step edit rules a next := by
  cases edit with
  | put rule => exact ⟨_, _, rfl, step_upsert rules rule⟩
  | remove id => exact ⟨_, _, rfl, step_without rules id⟩

theorem find?_memory (rules : List Rule) (id : String) :
    RuleStore.find? (⟨rules⟩ : MemoryStore) id = pure ((byId rules).get? id) := by
  rw [get?_byId]
  rfl

theorem exists_performAll (edits : List StoreEdit) (rules : List Rule) :
    ∃ as kept, performAll edits (⟨rules⟩ : MemoryStore) = pure (as, ⟨kept⟩) ∧ Steps edits rules as kept := by
  induction edits generalizing rules with
  | nil => exact ⟨[], rules, rfl, .nil⟩
  | cons edit rest ih =>
    obtain ⟨a, next, hperform, hstep⟩ := exists_perform edit rules
    obtain ⟨as, kept, hrest, hsteps⟩ := ih next
    refine ⟨a :: as, kept, ?_, .cons hstep hsteps⟩
    rw [performAll, hperform]
    show (performAll rest (⟨next⟩ : MemoryStore) >>= _) = _
    rw [hrest]
    rfl

/-- A store in memory, however it has been edited, answers as the map of its rules does that is edited in the same
way: to each edit, and to whoever asks for a rule afterwards.  Every edit changes the list in one of the four ways of
`Step`, and if all rules have identities of their own, they go on having them. -/
theorem performAll_eq_map (rules : List Rule) (edits : List StoreEdit) :
    ∃ kept, performAll edits (⟨rules⟩ : MemoryStore) = pure (answers edits (byId rules), ⟨kept⟩) ∧
      Steps edits rules (answers edits (byId rules)) kept ∧
      (∀ id, RuleStore.find? (⟨kept⟩ : MemoryStore) id = pure ((edits.foldl update (byId rules)).get? id)) ∧
      ((rules.map (·.id)).Nodup → (kept.map (·.id)).Nodup) := by
  obtain ⟨as, kept, hperform, hsteps⟩ := exists_performAll edits rules
  obtain ⟨rfl, hmap⟩ := hsteps.map_eq
  refine ⟨kept, hperform, hsteps, fun id => ?_, hsteps.nodup⟩
  rw [find?_memory, hmap]

/-- Of two rules the first is saved anew, the second is taken away twice, and a third is saved. -/
theorem performAll_eq_map_two_rules :
    let rules : List Rule := [⟨.named "Rides", "r"⟩, ⟨.named "Meals", "m"⟩]
    let edits := [.put ⟨.named "Trips", "r"⟩, .remove "m", .remove "m", .put ⟨.named "Rent", "t"⟩]
    (rules.map (·.id)).Nodup ∧ answers edits (byId rules) = [true, true, false, true] ∧
      ∃ kept, performAll edits (⟨rules⟩ : MemoryStore) = pure (answers edits (byId rules), ⟨kept⟩) ∧
        Steps edits rules (answers edits (byId rules)) kept ∧
        (∀ id, RuleStore.find? (⟨kept⟩ : MemoryStore) id = pure ((edits.foldl update (byId rules)).get? id)) ∧
        (kept.map (·.id)).Nodup := by
  intro rules edits
  have hn : (rules.map (·.id)).Nodup := by decide
  obtain ⟨kept, hperform, hsteps, hfind, hnodup⟩ := performAll_eq_map rules edits
  exact ⟨hn, by decide +kernel, kept, hperform, hsteps, hfind, hnodup hn⟩

end StoreEdit

end BudgetRules
