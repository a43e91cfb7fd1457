import BudgetRules.Proofs.Disk.Steps
import BudgetRules.Proofs.Rule.Stored
import BudgetRules.Proofs.Store.Interrupted
import BudgetRules.Proofs.Store.Reading

/-!
# What is stored

A draft is stored in a place if the file there lists a rule of it.  Whether a path leads to the place at the moment
does not matter, so making directories stores nothing new:

    Spared path d d' → d'.Stores (goal path) x → d.Stores (goal path) x                     (Spared.stores)

Saving and deleting store only what was stored before and what they may bring, however far they have got:

    s.Edited paths new fine many d d' → d'.Stores (goal s.path) x →
      d.Stores (goal s.path) x ∨ new x                                                        (Edited.stores)
-/

namespace BudgetRules

open Script

namespace Disk

variable {d d' : Disk} {path : String} {x : RuleDraft}

/-- Does the file in a place list a rule with some contents? -/
def Stores (d : Disk) (p : Place) (x : RuleDraft) : Prop :=
  ∃ bytes text l, d.node? p = some (.file bytes) ∧ textOf bytes = .ok text ∧ Rule.readList text = .ok l ∧
    ∃ r ∈ l, r.draft = x

theorem Spared.stores (h : Spared path d d') (hx : d'.Stores (goal path) x) : d.Stores (goal path) x := by
  obtain ⟨bytes, text, l, hn, hlist⟩ := hx
  exact ⟨bytes, text, l, h.node?_of_file hn, hlist⟩

/-- What is read from a path is stored in its place. -/
theorem stores_of_read {text : String} {l : List StoredRule} {r : StoredRule}
    (hread : (d.read path).bind textOf = .ok text) (hlist : Rule.readList text = .ok l) (hr : r ∈ l) :
    d.Stores (goal path) r.draft := by
  cases hbytes : d.read path with
  | error e => rw [hbytes] at hread; cases hread
  | ok bytes =>
    rw [hbytes] at hread
    obtain ⟨p, hp, hn, -⟩ := read_eq_ok.1 hbytes
    obtain rfl := eq_goal_of_locate hp
    exact ⟨bytes, text, l, hn, hread, hlist, r, hr, rfl⟩

/-- A file of rules that has been written stores their drafts. -/
theorem stores_iff_of_written {rules : List Rule}
    (hfile : d.file? path = some (Rule.listToJson rules).pretty.toUTF8) :
    d.Stores (goal path) x ↔ ∃ rule ∈ rules, rule.toRuleDraft = x := by
  obtain ⟨p, hp, hn, -⟩ := file?_eq_some_iff.1 hfile
  obtain rfl := eq_goal_of_locate hp
  have hlist : (∃ r ∈ rules.map Rule.stored, r.draft = x) ↔ ∃ rule ∈ rules, rule.toRuleDraft = x := by
    simp only [List.mem_map, exists_exists_and_eq_and]
    rfl
  rw [← hlist]
  constructor
  · rintro ⟨bytes, text, l, hn', htext, hl, hx⟩
    rw [hn] at hn'
    cases hn'
    rw [textOf_toUTF8] at htext
    cases htext
    rw [Rule.readList_pretty] at hl
    cases hl
    exact hx
  · intro hx
    exact ⟨_, _, _, hn, textOf_toUTF8 _, Rule.readList_pretty rules, hx⟩

end Disk

/-! ## Rules that are read -/

theorem StoredRule.draft_of_mem_named {stream : Nat → String} {n : Nat} {l : List StoredRule} {rule : Rule}
    (h : rule ∈ named stream n l) : ∃ r ∈ l, r.draft = rule.toRuleDraft := by
  induction l generalizing n with
  | nil => cases h
  | cons r rest ih =>
    have hcases : rule.toRuleDraft = r.draft ∨ ∃ m, rule ∈ named stream m rest := by
      unfold named at h
      cases hid : r.id with
      | some id =>
        rw [hid] at h
        rcases List.mem_cons.1 h with rfl | h
        · exact .inl rfl
        · exact .inr ⟨_, h⟩
      | none =>
        rw [hid] at h
        rcases List.mem_cons.1 h with rfl | h
        · exact .inl rfl
        · exact .inr ⟨_, h⟩
    rcases hcases with heq | ⟨m, hm⟩
    · exact ⟨r, List.mem_cons_self, heq.symm⟩
    · obtain ⟨q, hq, hqd⟩ := ih hm
      exact ⟨q, List.mem_cons_of_mem r hq, hqd⟩

theorem StoredRule.draft_of_reaches_identify {δ : Type} [FileSystem δ] {l : List StoredRule}
    {rules : List Rule} {h h' : Machine δ} (hr : Reaches (identify l, h) (.done rules, h')) {rule : Rule}
    (hrule : rule ∈ rules) :
    ∃ r ∈ l, r.draft = rule.toRuleDraft := by
  obtain ⟨ids, hids⟩ := run_identify l h
  have hrun := ((local_identify l).reaches hr).2.2
  rw [hids] at hrun
  obtain rfl : rules = named h.ids.stream h.ids.drawn l := congrArg Prod.fst hrun
  exact draft_of_mem_named hrule

namespace FileStore

variable {s : FileStore} {h h' : Host} {rule : Rule} {new : RuleDraft → Prop}

/-- Rules that have been loaded are stored. -/
theorem stores_of_load {rules : List Rule} (hload : (s.load.run h).1 = .ok rules) (hr : rule ∈ rules) :
    h.disk.Stores (Disk.goal s.path) rule.toRuleDraft := by
  rw [load_eq, run_andThen, run_readText] at hload
  cases hread : (FileSystem.read h.disk s.path).bind textOf with
  | error e =>
    rw [hread] at hload
    by_cases he : e = .notFound
    · rw [he] at hload
      cases hload
      cases hr
    · rw [afterRead_error he] at hload
      cases hload
  | ok text =>
    rw [hread] at hload
    have hrules : ((s.rulesOf text).run h).1 = .ok rules := hload
    unfold rulesOf at hrules
    cases hlist : Rule.readList text with
    | error e => rw [hlist] at hrules; cases hrules
    | ok l =>
      rw [hlist] at hrules
      obtain ⟨ids, hids⟩ := StoredRule.run_identify l h
      simp only [run_andThen, hids, run_pure, Except.ok.injEq] at hrules
      rw [← hrules] at hr
      obtain ⟨r, hrl, hrd⟩ := StoredRule.draft_of_mem_named hr
      rw [← hrd]
      exact Disk.stores_of_read hread hlist hrl

theorem spared_of_prepares {paths : List String} {d d' : Disk} (h : s.Prepares paths d d') :
    Disk.Spared s.path d d' := by
  obtain ⟨d₁, hg, hw⟩ := h
  exact ((Disk.grown_of_grows hg).spared s.path).trans
    (Disk.spared_of_writes (Disk.spared_write (by decide) (by decide)) hw)

/-- A file that has been replaced holds all of the new rules. -/
theorem file?_of_replaces {paths : List String} {rules : List Rule} {d d' : Disk} (h : s.Replaces paths rules d d') :
    d'.file? s.path = some (Rule.listToJson rules).pretty.toUTF8 := by
  obtain ⟨d₁, d₂, -, hw, hm⟩ := h
  unfold Disk.file?
  rw [Disk.read_rename hm (Disk.read_write hw)]
  rfl

/-- What one call has made of the disk stores what was stored before and what the call may bring. -/
theorem Turn.stores {paths : List String} {d d' : Disk} {x : RuleDraft} (h : s.Turn paths new d d')
    (hx : d'.Stores (Disk.goal s.path) x) : d.Stores (Disk.goal s.path) x ∨ new x := by
  rcases h with hp | ⟨h, before, after, rfl, hload, hafter, hr⟩
  · exact .inl ((spared_of_prepares hp).stores hx)
  · obtain ⟨r, hr, rfl⟩ := (Disk.stores_iff_of_written (file?_of_replaces hr)).1 hx
    exact (hafter r hr).imp_left (stores_of_load hload)

theorem Edited.stores {paths : List String} {fine many : Prop} {d d' : Disk} {x : RuleDraft}
    (h : s.Edited paths new fine many d d') (hx : d'.Stores (Disk.goal s.path) x) :
    d.Stores (Disk.goal s.path) x ∨ new x := by
  have hturns := h.turns
  clear h
  induction hturns with
  | refl => exact .inl hx
  | tail _ hturn ih =>
    rcases hturn.stores hx with hx | hx
    · exact ih hx
    · exact .inr hx

end FileStore

end BudgetRules
