import BudgetRules.Proofs.CommandLine.Rules

/-!
# Histories of a rules file

A history starts where a place stores no rules.  Others may change anything but what stands in that place, and the
program is run with commands for rules whose file has the place; each run may be stopped anywhere, and its host may
refuse anything.  Whatever is stored in the end has a name that is not blank or comes from a file that was imported:

    History p calls h → h.disk.Stores p x →
      ¬allBlank x.name ∨ ∃ c ∈ calls, ∃ file, c.2 = .importFrom file ∧ c.1.Stores (goal file) x

Names in a file that is imported are not looked at, so a blank one gets in.
-/

namespace BudgetRules

theorem Disk.stores_congr {d d' : Disk} {p : Place} {x : RuleDraft} (h : d'.node? p = d.node? p) :
    d'.Stores p x ↔ d.Stores p x := by
  unfold Stores
  rw [h]

theorem Disk.not_stores_of_node? {d : Disk} {p : Place} (h : d.node? p = none) (x : RuleDraft) : ¬d.Stores p x := by
  rintro ⟨bytes, text, l, hn, -⟩
  rw [h] at hn
  cases hn

namespace CommandLine

open Script Disk

/-- The ways in which a place that stored no rules can have got to where it is: the commands that were given to the
program, the last of them first, each with the disk it found. -/
inductive History (p : Place) : List (Disk × Command) → Host → Prop
  | empty {h : Host} (hempty : ∀ x, ¬h.disk.Stores p x) : History p [] h
  | elsewhere {calls : List (Disk × Command)} {h h' : Host} (hist : History p calls h)
      (hsame : h'.disk.node? p = h.disk.node? p) : History p calls h'
  | command {calls : List (Disk × Command)} {env : Environment} {vars : Variables} {args : List String}
      {base : Settings} {i : Invocation} {t : Script Output} {h h' : Host} (hist : History p calls h)
      (hcalls : Calls env args h vars base i t h') (hrules : i.command.OnRules)
      (hplace : goal (i.rulesPath base) = p) : History p ((h.disk, i.command) :: calls) h'

/-- One run where there is no file of variables. -/
theorem History.run {p : Place} {env : Environment} {args : List String} {base : Settings} {i : Invocation} {h : Host}
    (hempty : ∀ x, ¬h.disk.Stores p x)
    (henv : ∀ path ∈ EnvFile.candidates env.depth, FileSystem.read h.disk path = .error .notFound)
    (hread : Invocation.read env.vars args = .ok i)
    (hsettled : Settings.ofVariables (Settings.home? env.account env.vars) env.vars = some base)
    (hrules : i.command.OnRules) (hplace : goal (i.rulesPath base) = p) :
    History p [(h.disk, i.command)] ((CommandLine.run env args).run h).2 :=
  .command (.empty hempty) (calls_run henv hread hsettled) hrules hplace

/-- Whatever is stored in the end has a name that is not blank, or was stored in a file that was imported. -/
theorem History.named_or_imported {p : Place} {calls : List (Disk × Command)} {h : Host} {x : RuleDraft}
    (hist : History p calls h) (hx : h.disk.Stores p x) :
    ¬Unicode.allBlank x.name ∨
      ∃ c ∈ calls, ∃ file, c.2 = .importFrom file ∧ c.1.Stores (goal file) x := by
  induction hist with
  | empty hempty => exact absurd hx (hempty x)
  | elsewhere hist hsame ih => exact ih ((stores_congr hsame).1 hx)
  | @command calls env vars args base i t h h' hist hcalls hrules hplace ih =>
    rw [← hplace] at hx ih
    rcases (hcalls.edits hrules).stores hx with hold | hnamed | ⟨file, hfile, himported⟩
    · refine (ih hold).imp_right ?_
      rintro ⟨c, hc, hrest⟩
      exact ⟨c, List.mem_cons_of_mem _ hc, hrest⟩
    · exact .inl hnamed
    · exact .inr ⟨_, List.mem_cons_self, file, hfile, himported⟩

/-- A rule is added where there were none. -/
theorem named_or_imported_rides :
    let h : Host := ⟨Disk.empty, .seeded 0, [], []⟩
    let c : Command := .add ⟨"Rides", "", 0, "and", false, [], []⟩
    let o := (run ⟨[], some "/root", 0⟩ ["--config-dir", "c", "add", "--name", "Rides"]).run h
    let p := goal "c/rules.json"
    let x := RuleDraft.named "Rides"
    History p [(h.disk, c)] o.2 ∧ o.2.disk.Stores p x ∧
      (¬Unicode.allBlank x.name ∨
        ∃ c' ∈ [(h.disk, c)], ∃ file, c'.2 = .importFrom file ∧ c'.1.Stores (goal file) x) := by
  intro h c o p x
  have hnone : h.disk.node? p = none := node?_empty (by decide +kernel)
  have hist : History p [(h.disk, c)] o.2 :=
    History.run (i := ⟨some "c", none, c⟩) (not_stores_of_node? hnone) (by decide +kernel)
      (eq_ok_of_toOption (by decide +kernel)) rfl True.intro (by decide +kernel)
  have hfile : o.2.disk.file? "c/rules.json" =
      some (Rule.listToJson [⟨x, h.ids.next.1⟩]).pretty.toUTF8 := by rfl
  have hx : o.2.disk.Stores p x := (stores_iff_of_written hfile).2 ⟨_, List.mem_singleton_self _, rfl⟩
  exact ⟨hist, hx, hist.named_or_imported hx⟩

/-- A file with a rule of a blank name is imported where there were none, and the rule is stored. -/
theorem import_stores_blank_name :
    let text := "[\x7b\"id\":\"r\",\"name\":\" \",\"conditions\":[],\"actions\":[]\x7d]"
    let h : Host := ⟨Disk.empty.put ["new.json"] (.file text.toUTF8), .seeded 0, [], []⟩
    let o := (run ⟨[], some "/root", 0⟩ ["--config-dir", "c", "import", "new.json"]).run h
    let p := goal "c/rules.json"
    let x := RuleDraft.named " "
    History p [(h.disk, .importFrom "new.json")] o.2 ∧ o.1.code = 0 ∧ o.2.disk.Stores p x ∧
      Unicode.allBlank x.name := by
  intro text h o p x
  have hnone : h.disk.node? p = none := by
    rw [node?_put_of_ne (by decide +kernel)]
    exact node?_empty (by decide +kernel)
  have hfile : o.2.disk.file? "c/rules.json" = some (Rule.listToJson [⟨x, "r"⟩]).pretty.toUTF8 := by
    decide +kernel
  refine ⟨?_, by decide +kernel, ?_, by decide⟩
  · exact History.run (i := ⟨some "c", none, .importFrom "new.json"⟩) (not_stores_of_node? hnone)
      (by decide +kernel) (eq_ok_of_toOption (by decide +kernel)) rfl True.intro (by decide +kernel)
  · exact (stores_iff_of_written hfile).2 ⟨_, List.mem_singleton_self _, rfl⟩

end CommandLine

end BudgetRules
