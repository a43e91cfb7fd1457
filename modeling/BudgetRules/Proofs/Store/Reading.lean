import BudgetRules.Proofs.Engine
import BudgetRules.Proofs.Except
import BudgetRules.Proofs.Report
import BudgetRules.Proofs.Store.File

/-!
# Reading a file of rules more than once

A rule that is written without an identity gets a new one from every read:

    s.Lists h.disk l → ((rules s).run h).1 = named h.ids.stream h.ids.drawn l             (run_rules_of_lists)

So a file in which all rules have one answers every read alike, and whatever identity one read shows is known to
the next.  Of any other file a read shows an identity that no later one knows, unless it is drawn again:

    Identified l → named stream n l = named stream' n' l                                 (named_of_identified)
    ¬Identified l → ∃ rule ∈ named stream n l, rule.id = stream n             (exists_named_of_not_identified)
-/

namespace BudgetRules

open Script

namespace StoredRule

variable {l : List StoredRule}

/-- Is every rule of a list written with an identity? -/
def Identified (l : List StoredRule) : Prop := ∀ r ∈ l, r.id.isSome

instance (l : List StoredRule) : Decidable (Identified l) := inferInstanceAs (Decidable (∀ r ∈ l, _))

/-- The rules of a list, those without an identity named by a stream from a place on. -/
def named (stream : Nat → String) : Nat → List StoredRule → List Rule
  | _, [] => []
  | n, r :: rest =>
    match r.id with
    | some id => ⟨r.draft, id⟩ :: named stream n rest
    | none => ⟨r.draft, stream n⟩ :: named stream (n + 1) rest

theorem run_identify {δ : Type} [FileSystem δ] (l : List StoredRule) (h : Machine δ) :
    ∃ ids, (identify l).run h = (named h.ids.stream h.ids.drawn l, { h with ids := ids }) := by
  induction l generalizing h with
  | nil => exact ⟨h.ids, rfl⟩
  | cons r rest ih =>
    unfold identify named
    cases r.id with
    | some id =>
      obtain ⟨ids, hrest⟩ := ih h
      refine ⟨ids, ?_⟩
      show (identify rest >>= _).run h = _
      rw [run_andThen, hrest]
      rfl
    | none =>
      obtain ⟨ids, hrest⟩ := ih { h with ids := h.ids.next.2 }
      refine ⟨ids, ?_⟩
      show (identify rest >>= _).run { h with ids := h.ids.next.2 } = _
      rw [run_andThen, hrest]
      rfl

/-- Where every rule has an identity, no stream is asked. -/
theorem named_of_identified (hl : Identified l) (stream stream' : Nat → String) (n n' : Nat) :
    named stream n l = named stream' n' l := by
  induction l with
  | nil => rfl
  | cons r rest ih =>
    obtain ⟨hr, hrest⟩ := List.forall_mem_cons.1 hl
    obtain ⟨id, hid⟩ := Option.isSome_iff_exists.1 hr
    unfold named
    rw [hid]
    exact congrArg _ (ih hrest)

/-- An identity is written or comes from the stream. -/
theorem id_of_mem_named {stream : Nat → String} {n : Nat} {rule : Rule} (h : rule ∈ named stream n l) :
    (∃ r ∈ l, r.id = some rule.id) ∨ ∃ m, n ≤ m ∧ stream m = rule.id := by
  induction l generalizing n with
  | nil => cases h
  | cons r rest ih =>
    unfold named at h
    cases hid : r.id with
    | some id =>
      rw [hid] at h
      rcases List.mem_cons.1 h with rfl | h
      · exact .inl ⟨r, List.mem_cons_self, hid⟩
      · rcases ih h with ⟨q, hq, hqid⟩ | hm
        · exact .inl ⟨q, List.mem_cons_of_mem r hq, hqid⟩
        · exact .inr hm
    | none =>
      rw [hid] at h
      rcases List.mem_cons.1 h with rfl | h
      · exact .inr ⟨n, Nat.le_refl n, rfl⟩
      · rcases ih h with ⟨q, hq, hqid⟩ | ⟨m, hm, hmid⟩
        · exact .inl ⟨q, List.mem_cons_of_mem r hq, hqid⟩
        · exact .inr ⟨m, Nat.le_of_succ_le hm, hmid⟩

/-- The first rule without an identity gets the first of the stream. -/
theorem exists_named_of_not_identified (hl : ¬Identified l) (stream : Nat → String) (n : Nat) :
    ∃ rule ∈ named stream n l, rule.id = stream n := by
  induction l with
  | nil => exact absurd (List.forall_mem_nil _) hl
  | cons r rest ih =>
    unfold named
    cases hid : r.id with
    | some id =>
      have hrest : ¬Identified rest := fun hrest => hl (List.forall_mem_cons.2 ⟨by rw [hid]; rfl, hrest⟩)
      obtain ⟨rule, hrule, hruleid⟩ := ih hrest
      exact ⟨rule, List.mem_cons_of_mem _ hrule, hruleid⟩
    | none => exact ⟨_, List.mem_cons_self, rfl⟩

end StoredRule

/-! ## Rules and their identities -/

theorem length_without_eq_iff {rules : List Rule} {id : String} :
    (without rules id).length = rules.length ↔ ∀ rule ∈ rules, rule.id ≠ id := by
  unfold without
  rw [List.length_filter_eq_length_iff]
  simp only [decide_eq_true_eq]

namespace FileStore

variable {s : FileStore} {l : List StoredRule} {h : Host}

/-- The file of a store is a text that lists some rules. -/
def Lists (s : FileStore) (d : Disk) (l : List StoredRule) : Prop :=
  ∃ text : String, d.read s.path = .ok text.toUTF8 ∧ Rule.readList text = .ok l

theorem run_load_of_lists (hl : s.Lists h.disk l) :
    ∃ ids, s.load.run h =
      (.ok (StoredRule.named h.ids.stream h.ids.drawn l), { h with ids := ids }) := by
  obtain ⟨text, hr, ht⟩ := hl
  obtain ⟨ids, hids⟩ := StoredRule.run_identify l h
  refine ⟨ids, ?_⟩
  unfold load
  rw [run_andThen, run_readText_of_ok hr]
  show (s.rulesOf text).run h = _
  unfold rulesOf
  rw [ht]
  show (StoredRule.identify l >>= _).run h = _
  rw [run_andThen, hids]
  rfl

theorem run_rules_of_lists (hl : s.Lists h.disk l) :
    ((RuleStore.rules s).run h).1 = StoredRule.named h.ids.stream h.ids.drawn l := by
  obtain ⟨ids, hload⟩ := run_load_of_lists hl
  rw [RuleStore.run_rules hload]

theorem run_find?_of_lists (hl : s.Lists h.disk l) (id : String) :
    ((RuleStore.find? s id).run h).1 =
      (StoredRule.named h.ids.stream h.ids.drawn l).find? (·.id = id) := by
  unfold RuleStore.find?
  rw [run_andThen, run_rules_of_lists hl]
  rfl

/-- Deleting finds nothing exactly for an identity that no rule has. -/
theorem run_delete_eq_false_iff (hl : s.Lists h.disk l) (id : String) :
    ((s.delete id).run h).1 = .ok false ↔
      ∀ rule ∈ StoredRule.named h.ids.stream h.ids.drawn l, rule.id ≠ id := by
  obtain ⟨ids, hload⟩ := run_load_of_lists hl
  rw [← length_without_eq_iff]
  unfold delete
  rw [run_andThen, hload]
  generalize StoredRule.named h.ids.stream h.ids.drawn l = rules
  by_cases hlen : (without rules id).length = rules.length
  · simp only [hlen, if_true, run_pure]
  · simp only [hlen, if_false, iff_false, run_andThen]
    split
    · intro h; cases h
    · intro h; cases h

theorem run_delete_of_mem (hl : s.Lists h.disk l) {rule : Rule}
    (hr : rule ∈ StoredRule.named h.ids.stream h.ids.drawn l) (hu : (s.delete rule.id).unhindered h) :
    ((s.delete rule.id).run h).1 = .ok true := by
  obtain ⟨ids, hload⟩ := run_load_of_lists hl
  unfold delete at hu ⊢
  obtain ⟨-, hu⟩ := unhindered_andThen.1 hu
  rw [hload] at hu
  rw [run_andThen, hload]
  generalize StoredRule.named h.ids.stream h.ids.drawn l = rules at hr hu
  have hlen : ¬(without rules rule.id).length = rules.length := fun hlen =>
    length_without_eq_iff.1 hlen rule hr rfl
  simp only [hlen, if_false] at hu ⊢
  obtain ⟨h', hw, -⟩ := run_write (unhindered_andThen.1 hu).1
  rw [run_andThen, hw]
  rfl

/-- An identity that is neither written nor drawn again is unknown. -/
theorem ne_of_unknown {id : String} (hw : ∀ r ∈ l, r.id ≠ some id)
    (hd : ∀ n, h.ids.drawn ≤ n → h.ids.stream n ≠ id) :
    ∀ rule ∈ StoredRule.named h.ids.stream h.ids.drawn l, rule.id ≠ id := by
  rintro rule hrule rfl
  rcases StoredRule.id_of_mem_named hrule with ⟨r, hr, hid⟩ | ⟨n, hn, hid⟩
  · exact hw r hr hid
  · exact hd n hn hid

end FileStore

/-! ## Two reads -/

/-- A host on which a store shows some rules, knows each of them by its identity and runs them. -/
structure FileStore.Knows (s : FileStore) (h : Host) (rules : List Rule) : Prop where
  shows : ((RuleStore.rules s).run h).1 = rules
  finds : ∀ rule ∈ rules, ∃ found, ((RuleStore.find? s rule.id).run h).1 = some found ∧ found.id = rule.id
  deletes : ∀ rule ∈ rules, ((s.delete rule.id).run h).1 ≠ .ok false
  /-- where the file can be written, the rules of the identity are taken away -/
  removes : ∀ rule ∈ rules, (s.delete rule.id).unhindered h →
    ((RuleStore.remove s rule.id).run h).1.1 = true
  fingerprint : ∀ {τ : Type} [EventSink τ] (e : Engine FileStore τ) (records : List Record) (dryRun : Bool),
    e.store = s →
      ((e.process records dryRun).run h).1.1.fingerprint = Rule.fingerprint (byPriority rules)

namespace FileStore

variable {s : FileStore} {l : List StoredRule} {h : Host}

theorem knows_of_lists (hl : s.Lists h.disk l) :
    s.Knows h (StoredRule.named h.ids.stream h.ids.drawn l) := by
  constructor
  case shows => exact run_rules_of_lists hl
  case finds =>
    intro rule hrule
    rw [run_find?_of_lists hl]
    cases hf : (StoredRule.named h.ids.stream h.ids.drawn l).find? (·.id = rule.id) with
    | none => exact absurd (decide_eq_true rfl) (List.find?_eq_none.1 hf rule hrule)
    | some found =>
      have hid := List.find?_some hf
      exact ⟨found, rfl, of_decide_eq_true hid⟩
  case deletes =>
    intro rule hrule
    rw [Ne, run_delete_eq_false_iff hl]
    exact fun hnone => hnone rule hrule rfl
  case removes =>
    intro rule hrule hu
    unfold RuleStore.remove
    have hdelete : ((RuleStore.delete s rule.id).run h).1 = (.ok true, s) := by
      show (((s.delete rule.id >>= _ : Script (Except StoreError Bool × FileStore)).run h).1) = _
      rw [run_andThen, run_delete_of_mem hl hrule hu]
      rfl
    rw [run_andThen, hdelete]
    rfl
  case fingerprint =>
    rintro τ _ e records dryRun rfl
    obtain ⟨sink, h', hrun⟩ := e.run_process records dryRun h
    rw [hrun, Batch.fingerprint_report]
    unfold Engine.loadRules
    rw [run_andThen, run_rules_of_lists hl]
    rfl

/-- A later read knows all that an earlier one showed if every rule of the file is written with its identity.
Otherwise the earlier one showed an identity that the later one does not know, unless it is drawn again. -/
theorem rereads_know_identified (h h' : Host) (hl : s.Lists h.disk l) (hl' : s.Lists h'.disk l) :
    let rules := ((RuleStore.rules s).run h).1
    (StoredRule.Identified l → s.Knows h' rules) ∧
    (¬StoredRule.Identified l → ∃ rule ∈ rules, rule.id = h.ids.next.1 ∧
      ((∀ r ∈ l, r.id ≠ some rule.id) → (∀ n, h'.ids.drawn ≤ n → h'.ids.stream n ≠ rule.id) →
        rule ∉ ((RuleStore.rules s).run h').1 ∧
        ((RuleStore.find? s rule.id).run h').1 = none ∧ ((s.delete rule.id).run h').1 = .ok false)) := by
  intro rules
  have hrules : rules = StoredRule.named h.ids.stream h.ids.drawn l := run_rules_of_lists hl
  constructor
  · intro hid
    rw [hrules, StoredRule.named_of_identified hid h.ids.stream h'.ids.stream h.ids.drawn h'.ids.drawn]
    exact knows_of_lists hl'
  · intro hid
    rw [hrules]
    obtain ⟨rule, hrule, hdrawn⟩ := StoredRule.exists_named_of_not_identified hid h.ids.stream h.ids.drawn
    refine ⟨rule, hrule, hdrawn, fun hw hd => ?_⟩
    have hne := ne_of_unknown hw hd
    refine ⟨?_, ?_, (run_delete_eq_false_iff hl' rule.id).2 hne⟩
    · rw [run_rules_of_lists hl']
      exact fun hmem => hne rule hmem rfl
    · rw [run_find?_of_lists hl', List.find?_eq_none]
      intro other hother
      simpa using hne other hother

/-- A file that lists one rule with its identity, read on two hosts. -/
theorem rereads_know_identified_ride :
    let s : FileStore := ⟨"rules.json"⟩
    let text := "[\x7b\"id\":\"r\",\"name\":\"Rides\",\"conditions\":[],\"actions\":[]\x7d]"
    let d := Disk.empty.put ["rules.json"] (.file text.toUTF8)
    let l : List StoredRule := [⟨some "r", .named "Rides"⟩]
    s.Lists d l ∧ StoredRule.Identified l ∧
      s.Knows ⟨d, .seeded 1, [], []⟩ ((RuleStore.rules s).run ⟨d, .seeded 0, [], []⟩).1 := by
  intro s text d l
  have hl : s.Lists d l :=
    ⟨text, eq_ok_of_toOption (by decide +kernel), eq_ok_of_toOption (by decide +kernel)⟩
  exact ⟨hl, by decide,
    (rereads_know_identified ⟨d, .seeded 0, [], []⟩ ⟨d, .seeded 1, [], []⟩ hl hl).1 (by decide)⟩

/-- A rule that is written without an identity is shown under one that no later call knows. -/
theorem reread_forgets_unidentified_ride :
    let s : FileStore := ⟨"rules.json"⟩
    let text := "[\x7b\"name\":\"Rides\",\"conditions\":[],\"actions\":[]\x7d]"
    let h : Host := ⟨Disk.empty.put ["rules.json"] (.file text.toUTF8), .seeded 0, [], []⟩
    let first := (RuleStore.rules s).run h
    let again := (RuleStore.rules s).run first.2
    first.1.length = 1 ∧ again.1 ≠ first.1 ∧
      (∀ rule ∈ first.1, ((RuleStore.find? s rule.id).run first.2).1 = none) ∧
      ∀ rule ∈ first.1, ((RuleStore.remove s rule.id).run first.2).1.1 = false := by
  decide +kernel

end FileStore

end BudgetRules
