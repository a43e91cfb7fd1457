import BudgetRules.Proofs.Engine

/-!
# The order in which rules run

No rule runs after one of a lower priority, and rules of one priority run in the order of the store.  That settles the
order, so two stores whose rules of each priority are the same, one after the other, are the same to an engine:

    l = byPriority rules ↔ Descending l ∧ ∀ p, ofPriority l p = ofPriority rules p                 (eq_byPriority_iff)
    byPriority rules = byPriority rules' ↔ ∀ p, ofPriority rules p = ofPriority rules' p       (byPriority_eq_iff)
-/

namespace BudgetRules

/-! ## Rules of one priority -/

/-- The rules of a priority, in their order. -/
def ofPriority (rules : List Rule) (p : Int64) : List Rule := rules.filter (·.priority = p)

/-- Does no rule come after one of a lower priority? -/
def Descending (rules : List Rule) : Prop := rules.Pairwise fun a b => b.priority ≤ a.priority

instance (rules : List Rule) : Decidable (Descending rules) :=
  inferInstanceAs (Decidable (rules.Pairwise fun a b => b.priority ≤ a.priority))

variable {rules l m : List Rule} {a b : Rule} {p : Int64}

theorem ofPriority_cons_self (a : Rule) (l : List Rule) :
    ofPriority (a :: l) a.priority = a :: ofPriority l a.priority :=
  List.filter_cons_of_pos (decide_eq_true rfl)

theorem ofPriority_cons_of_ne (h : a.priority ≠ p) (l : List Rule) : ofPriority (a :: l) p = ofPriority l p :=
  List.filter_cons_of_neg (by simpa using h)

theorem ofPriority_eq_nil (h : ∀ rule ∈ l, rule.priority ≠ p) : ofPriority l p = [] :=
  List.filter_eq_nil_iff.2 fun rule hrule hp => h rule hrule (of_decide_eq_true hp)

/-- To compare the rules of each priority, those priorities will do that there are. -/
theorem ofPriority_eq_of_mem (ps : List Int64) (hl : ∀ rule ∈ l, rule.priority ∈ ps)
    (hm : ∀ rule ∈ m, rule.priority ∈ ps) (h : ps.map (ofPriority l) = ps.map (ofPriority m)) (p : Int64) :
    ofPriority l p = ofPriority m p := by
  by_cases hp : p ∈ ps
  · exact List.map_inj_left.1 h p hp
  · have hl' : ofPriority l p = [] := ofPriority_eq_nil fun rule hrule heq => hp (heq ▸ hl rule hrule)
    have hm' : ofPriority m p = [] := ofPriority_eq_nil fun rule hrule heq => hp (heq ▸ hm rule hrule)
    rw [hl', hm']

/-- The first rule has the highest priority. -/
theorem Descending.le_head (h : Descending (b :: m)) (ha : a ∈ b :: m) : a.priority ≤ b.priority := by
  rcases List.mem_cons.1 ha with rfl | ha
  · exact Int64.le_refl _
  · exact (List.pairwise_cons.1 h).1 a ha

/-- The first of some rules has no higher priority than the first of others that hold the same of each priority. -/
theorem Descending.head_le (hm : Descending (b :: m)) (h : ∀ p, ofPriority (a :: l) p = ofPriority (b :: m) p) :
    a.priority ≤ b.priority := by
  have ha : a ∈ ofPriority (b :: m) a.priority := by
    rw [← h, ofPriority_cons_self]
    exact List.mem_cons_self
  exact hm.le_head (List.mem_filter.1 ha).1

/-- Rules in order are settled by those of each priority. -/
theorem Descending.eq_of_ofPriority (hl : Descending l) (hm : Descending m)
    (h : ∀ p, ofPriority l p = ofPriority m p) : l = m := by
  induction l generalizing m with
  | nil =>
    cases m with
    | nil => rfl
    | cons b m =>
      have hb := h b.priority
      rw [ofPriority_cons_self] at hb
      cases hb
  | cons a l ih =>
    cases m with
    | nil =>
      have ha := h a.priority
      rw [ofPriority_cons_self] at ha
      cases ha
    | cons b m =>
      have hab : a.priority = b.priority :=
        Int64.le_antisymm (hm.head_le h) (hl.head_le fun p => (h p).symm)
      -- both lists begin with the first rule of their highest priority, which is the same
      have hhead := h a.priority
      rw [ofPriority_cons_self, hab, ofPriority_cons_self] at hhead
      obtain ⟨rfl, htail⟩ := List.cons.inj hhead
      refine congrArg (a :: ·) (ih (List.pairwise_cons.1 hl).2 (List.pairwise_cons.1 hm).2 fun p => ?_)
      by_cases hp : a.priority = p
      · rw [← hp, htail]
      · have hrest := h p
        rwa [ofPriority_cons_of_ne hp, ofPriority_cons_of_ne hp] at hrest

/-! ## Sorting -/

theorem le_priority_trans (a b c : Rule) (hab : decide (b.priority ≤ a.priority) = true)
    (hbc : decide (c.priority ≤ b.priority) = true) : decide (c.priority ≤ a.priority) = true :=
  decide_eq_true (Int64.le_trans (of_decide_eq_true hbc) (of_decide_eq_true hab))

theorem le_priority_total (a b : Rule) :
    (decide (b.priority ≤ a.priority) || decide (a.priority ≤ b.priority)) = true := by
  rw [Bool.or_eq_true, decide_eq_true_eq, decide_eq_true_eq]
  exact Int64.le_total _ _

theorem perm_byPriority (rules : List Rule) : (byPriority rules).Perm rules := List.mergeSort_perm _ _

theorem descending_byPriority (rules : List Rule) : Descending (byPriority rules) :=
  (List.pairwise_mergeSort le_priority_trans le_priority_total rules).imp of_decide_eq_true

/-- Sorting leaves the rules of one priority in their order. -/
theorem ofPriority_byPriority (rules : List Rule) (p : Int64) : ofPriority (byPriority rules) p = ofPriority rules p := by
  have hlevel : (ofPriority rules p).Pairwise fun a b => decide (b.priority ≤ a.priority) = true := by
    refine List.pairwise_filter.2 (List.pairwise_of_forall fun a b ha hb => decide_eq_true ?_)
    rw [of_decide_eq_true ha, of_decide_eq_true hb]
    exact Int64.le_refl p
  -- rules in order come out of the sort as they went in, and those of one priority are in order
  have hsub : (ofPriority rules p).Sublist (byPriority rules) :=
    List.sublist_mergeSort le_priority_trans le_priority_total hlevel List.filter_sublist
  have hsub' : (ofPriority (ofPriority rules p) p).Sublist (ofPriority (byPriority rules) p) := hsub.filter _
  have hsame : ofPriority (ofPriority rules p) p = ofPriority rules p := by
    unfold ofPriority
    rw [List.filter_filter]
    simp only [Bool.and_self]
  have hlength : (ofPriority rules p).length = (ofPriority (byPriority rules) p).length :=
    ((perm_byPriority rules).filter _).length_eq.symm
  rw [hsame] at hsub'
  exact (hsub'.eq_of_length hlength).symm

theorem eq_byPriority_iff : l = byPriority rules ↔ Descending l ∧ ∀ p, ofPriority l p = ofPriority rules p := by
  constructor
  · rintro rfl
    exact ⟨descending_byPriority rules, ofPriority_byPriority rules⟩
  · rintro ⟨hl, h⟩
    exact hl.eq_of_ofPriority (descending_byPriority rules) fun p => (h p).trans (ofPriority_byPriority rules p).symm

theorem byPriority_eq_iff : byPriority l = byPriority rules ↔ ∀ p, ofPriority l p = ofPriority rules p := by
  rw [eq_byPriority_iff, and_iff_right (descending_byPriority l)]
  exact forall_congr' fun p => by rw [ofPriority_byPriority]

/-! ## Engines -/

namespace Engine

variable {σ τ : Type} [RuleStore σ] [EventSink τ]

/-- An engine loads the rules of its store in the one order in which no rule comes after one of a lower priority and
those of each priority stand as they do in the store.  Any other engine, whose store holds the same rules of each
priority in the same order, loads the same, and makes the same of one record and of a batch. -/
theorem loadRules_in_order (e : Engine σ τ) (h : Host) :
    let stored := ((RuleStore.rules e.store).run h).1
    let loaded := (e.loadRules.run h).1
    loaded.Perm stored ∧
      (∀ l, l = loaded ↔ Descending l ∧ ∀ p, ofPriority l p = ofPriority stored p) ∧
      ∀ {σ' τ' : Type} [RuleStore σ'] [EventSink τ'] (e' : Engine σ' τ') (h' : Host),
        (∀ p, ofPriority ((RuleStore.rules e'.store).run h').1 p = ofPriority stored p) →
        (e'.loadRules.run h').1 = loaded ∧
          (∀ r, ((e'.processOne r).run h').1.1 = ((e.processOne r).run h).1.1) ∧
          ∀ records dryRun,
            ((e'.process records dryRun).run h').1.1 = ((e.process records dryRun).run h).1.1 ∧
              ((e'.processApart records dryRun).run h').1.1 = ((e.processApart records dryRun).run h).1.1 := by
  intro stored loaded
  have hloaded : loaded = byPriority stored := e.run_loadRules h
  refine ⟨hloaded ▸ perm_byPriority stored, fun l => hloaded ▸ eq_byPriority_iff, ?_⟩
  intro σ' τ' _ _ e' h' hsame
  have hrules : (e'.loadRules.run h').1 = (e.loadRules.run h).1 := by
    rw [e'.run_loadRules, e.run_loadRules]
    exact byPriority_eq_iff.2 hsame
  refine ⟨hrules, fun r => ?one, fun records dryRun => ⟨?batch, ?apart⟩⟩
  case one =>
    obtain ⟨s, k, hrun⟩ := e.run_processOne r h
    obtain ⟨s', k', hrun'⟩ := e'.run_processOne r h'
    rw [hrun, hrun', hrules]
  case batch =>
    obtain ⟨s, k, hrun⟩ := e.run_process records dryRun h
    obtain ⟨s', k', hrun'⟩ := e'.run_process records dryRun h'
    rw [hrun, hrun', hrules]
  case apart =>
    obtain ⟨s, k, hrun⟩ := e.run_processApart records dryRun h
    obtain ⟨s', k', hrun'⟩ := e'.run_processApart records dryRun h'
    rw [hrun, hrun', hrules]

/-- A rule of the lowest priority there is. -/
def trailing : Rule := { Rule.rides with name := "Trailing", priority := Int64.minValue }

/-- A rule of the highest priority there is. -/
def leading : Rule := { Rule.rides with name := "Leading", priority := Int64.maxValue }

/-- Two rules of the lowest priority, one of the highest and one between them, stored in two ways. -/
theorem loadRules_in_order_interleaved :
    let e : Engine MemoryStore Silent := ⟨⟨[trailing, .rides, { trailing with id := "s" }, leading]⟩, ⟨⟩, ⟨0, 0⟩⟩
    let e' : Engine MemoryStore EventLog :=
      ⟨⟨[leading, trailing, { trailing with id := "s" }, .rides]⟩, .all, ⟨1, 0⟩⟩
    let h : Host := ⟨.empty, .seeded 0, [], []⟩
    let ride := Record.ofList [("id", .text "a"), ("payee_name", .text "Uber")]
    (∀ p, ofPriority ((RuleStore.rules e'.store).run h).1 p = ofPriority ((RuleStore.rules e.store).run h).1 p) ∧
      (e.loadRules.run h).1 = [leading, .rides, trailing, { trailing with id := "s" }] ∧
      (e'.loadRules.run h).1 = (e.loadRules.run h).1 ∧
      ((e'.processOne ride).run h).1.1 = ((e.processOne ride).run h).1.1 ∧
      ((e'.process [ride] true).run h).1.1 = ((e.process [ride] true).run h).1.1 := by
  intro e e' h ride
  have hsame : ∀ p, ofPriority ((RuleStore.rules e'.store).run h).1 p =
      ofPriority ((RuleStore.rules e.store).run h).1 p :=
    ofPriority_eq_of_mem [Int64.minValue, 0, Int64.maxValue] (by decide) (by decide) rfl
  obtain ⟨-, horder, hother⟩ := e.loadRules_in_order h
  obtain ⟨hload, hone, hbatch⟩ := hother e' h hsame
  have hloaded : [leading, .rides, trailing, { trailing with id := "s" }] = (e.loadRules.run h).1 :=
    (horder _).2 ⟨by decide,
      ofPriority_eq_of_mem [Int64.minValue, 0, Int64.maxValue] (by decide) (by decide) rfl⟩
  exact ⟨hsame, hloaded.symm, hload, hone ride, (hbatch [ride] true).1⟩

end Engine

end BudgetRules
