import BudgetRules.Proofs.CommandLine.Rules
import BudgetRules.Proofs.Store.Linked

/-!
# Commands that fail

A command line for rules that exits with a failure leaves the rules file as it was, whatever the machine has refused on
the way (`failed_run_keeps_rules`), with the exceptions that there are for a single save: the directory of the settings
is made before every command, so that a path can come to show a file that stood there all along, and a file beside that
is tangled up with the rules file is written through.

There is one more.  Each rule is saved before that is told to the user, so a program that is broken off since it cannot
print has failed after it has saved some rules.
-/

namespace BudgetRules.CommandLine

open Relation (ReflTransGen)
open Script
open LinkedDisk (Kept)

/-- A run of the program exits: with the code of its output, or with that of a program that cannot print. -/
inductive Exits {δ : Type} [FileSystem δ] (env : Environment) (args : List String) (h : Machine δ) :
    Nat → Machine δ → Prop
  | ends {out : Output} {h' : Machine δ} (hr : Reaches (run env args, h) (.done out, h')) : Exits env args h out.code h'
  | breaks {t : Script Output} {h' : Machine δ} (hr : Reaches (run env args, h) (t, h')) (ht : t.Speaks) :
      Exits env args h brokenCode h'

variable {env : Environment} {args : List String} {base : Settings} {i : Invocation} {code : Nat} {fine : Prop}
  {d d' : LinkedDisk} {h h' : Machine LinkedDisk}

/-- The paths that an invocation makes directories for. -/
def Invocation.ways (i : Invocation) (base : Settings) : List String :=
  (i.settings base).directory :: (i.store base).ways

/-- After some complete saves, and no more than one unless the command is an import, the path of the rules file shows
the file as the last of them has left it. -/
def Invocation.Saves (i : Invocation) (base : Settings) (d d' : LinkedDisk) : Prop :=
  i.command.Saves ∧ ∃ d₁, Grows [(i.settings base).directory] d d₁ ∧
    ((i.store base).Called (i.command.Brings d₁) d₁ d' ∨
      (∃ file, i.command = .importFrom file) ∧ ReflTransGen ((i.store base).Called (i.command.Brings d₁)) d₁ d')

/-- The rules file is as it was, unless all is `fine` and rules have been saved. -/
theorem Invocation.Edits.kept_or_saves (h : i.Edits base fine d d') :
    Kept (i.rulesPath base) d d' ∨ (i.store base).WroteThrough (i.ways base) d d' ∨ fine ∧ i.Saves base d d' := by
  obtain ⟨d₁, hgrows, hprepared | ⟨⟨hsaves, hfine⟩, hturns⟩⟩ := h
  · have hways : (i.store base).Prepares (i.ways base) d d' := by
      refine (hprepared.mono (List.subset_cons_self _ _)).after (hgrows.mono ?_)
      exact List.cons_subset_cons _ (List.nil_subset _)
    exact hways.kept.imp_right .inl
  · refine .inr (.inr ⟨hfine, hsaves, d₁, hgrows, ?_⟩)
    exact hturns.imp FileStore.Turn.called
      (And.imp_right (ReflTransGen.mono (fun _ _ => FileStore.Turn.called) _ _))

/-- A run of the program that exits with a failure has changed nothing on the disk or come to an invocation.  If the
command of that is one for rules, the path of the rules file shows the file as it was, or the file has been written
through, or the program could not print after it had saved rules. -/
theorem failed_run_keeps_rules (hx : Exits env args h code h') (hfail : code ≠ 0) :
    h'.disk = h.disk ∨
      ∃ vars base i t, Calls env args h vars base i t h' ∧
        (i.command.OnRules →
          Kept (i.rulesPath base) h.disk h'.disk ∨
            (i.store base).WroteThrough (i.ways base) h.disk h'.disk ∨
            code = brokenCode ∧ i.Saves base h.disk h'.disk) := by
  cases hx with
  | ends hr =>
    refine (same_or_calls hr).imp_right fun ⟨vars, base, i, hcalls⟩ => ⟨vars, base, i, _, hcalls, fun hi => ?_⟩
    refine (hcalls.edits hi).kept_or_saves.imp_right (Or.imp_right fun ⟨hfine, _⟩ => ?_)
    exact absurd (hfine _ rfl) hfail
  | breaks hr ht =>
    refine (same_or_calls hr).imp_right fun ⟨vars, base, i, hcalls⟩ => ⟨vars, base, i, _, hcalls, fun hi => ?_⟩
    exact (hcalls.edits hi).kept_or_saves.imp_right (Or.imp_right fun ⟨_, hsaves⟩ => ⟨rfl, hsaves⟩)

/-- Deleting a rule from a file that cannot be decoded. -/
theorem failed_run_keeps_rules_corrupt :
    let env : Environment := ⟨[], some "home", 0⟩
    let args := ["--rules-file", "rules.json", "delete", "r"]
    let h : Machine LinkedDisk := ⟨LinkedDisk.empty.create ["rules.json"] "[".toUTF8, .seeded 0, [], []⟩
    let o := (run env args).run h
    o.1.code ≠ 0 ∧
      (o.2.disk = h.disk ∨
        ∃ vars base i t, Calls env args h vars base i t o.2 ∧
          (i.command.OnRules →
            Kept (i.rulesPath base) h.disk o.2.disk ∨
              (i.store base).WroteThrough (i.ways base) h.disk o.2.disk ∨
              o.1.code = brokenCode ∧ i.Saves base h.disk o.2.disk)) := by
  intro env args h o
  have hfail : o.1.code ≠ 0 := by decide +kernel
  exact ⟨hfail, failed_run_keeps_rules (.ends (reaches_run _ h)) hfail⟩

/-- A rule that is not there is to be shown.  The path a/../rules.json leads nowhere, since a is missing; but a is the
directory of the settings, and once it has been made the path shows the file rules.json. -/
theorem failed_run_uncovers_rules :
    let env : Environment := ⟨[], some "home", 0⟩
    let path := "a/../rules.json"
    let h : Machine LinkedDisk := ⟨LinkedDisk.empty.create ["rules.json"] "[]".toUTF8, .seeded 0, [], []⟩
    let o := (run env ["--config-dir", "a", "--rules-file", path, "show", "r"]).run h
    Exits env ["--config-dir", "a", "--rules-file", path, "show", "r"] h 1 o.2 ∧
      h.disk.file? path = none ∧ o.2.disk.file? path = some "[]".toUTF8 := by
  intro env path h o
  have hcode : o.1.code = 1 := by decide +kernel
  exact ⟨hcode ▸ .ends (reaches_run _ h), by decide +kernel, by decide +kernel⟩

/-- A rule is deleted, and then the program cannot print that it was. -/
theorem broken_run_deletes_rule :
    let env : Environment := ⟨[], some "home", 0⟩
    let args := ["--config-dir", "c", "--rules-file", "rules.json", "delete", "r"]
    let rules := "[\x7b\"id\":\"r\",\"name\":\"Rides\",\"conditions\":[],\"actions\":[]\x7d]".toUTF8
    let h : Machine LinkedDisk := ⟨LinkedDisk.empty.create ["rules.json"] rules, .seeded 0, [], []⟩
    let stopped := follow (List.replicate 7 true) (run env args) h
    Exits env args h brokenCode stopped.2 ∧
      h.disk.file? "rules.json" = some rules ∧ stopped.2.disk.file? "rules.json" = some "[]".toUTF8 := by
  intro env args rules h stopped
  exact ⟨.breaks (reaches_follow _ _ h) (by decide +kernel), by decide +kernel, by decide +kernel⟩

/-- Where rules.json.tmp is a link to rules.json and the machine does not allow moving it, deleting a rule fails after
the rule has gone. -/
theorem failed_run_writes_through_link :
    let env : Environment := ⟨[], some "home", 0⟩
    let args := ["--config-dir", "c", "--rules-file", "rules.json", "delete", "r"]
    let rules := "[\x7b\"id\":\"r\",\"name\":\"Rides\",\"conditions\":[],\"actions\":[]\x7d]".toUTF8
    let d := (LinkedDisk.empty.create ["rules.json"] rules).put ["rules.json.tmp"] (.link "rules.json")
    let h : Machine LinkedDisk := ⟨d, .seeded 0, [], []⟩
    let stopped := follow [true, true, true, true, true, false, true, true] (run env args) h
    Exits env args h 1 stopped.2 ∧
      h.disk.file? "rules.json" = some rules ∧ stopped.2.disk.file? "rules.json" = some "[]".toUTF8 := by
  intro env args rules d h stopped
  have hdone : stopped.1 = .done (.ofResult (some (.of "no rule with id 'r' was deleted"))) :=
    eq_done_of_result? (by decide +kernel)
  have hr : Reaches (run env args, h) (stopped.1, stopped.2) := reaches_follow _ _ h
  rw [hdone] at hr
  exact ⟨.ends hr, by decide +kernel, by decide +kernel⟩

end BudgetRules.CommandLine
