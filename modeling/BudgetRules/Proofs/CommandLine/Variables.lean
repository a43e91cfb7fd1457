import BudgetRules.Proofs.CommandLine.Rules
import BudgetRules.Proofs.Except

/-!
# Variables that stand in for options

A variable says where the rules are in two ways: the settings read it, and it stands in for an option that is not
given.  The settings pass over a blank one.  The option takes it as it is, and goes before the settings.  So the
two come to one file just if the variable that decides, that for the file or else that for the directory, is not
blank:

    ofVariables home vars = some base → (∀ v, deciding? vars = some v → ¬allBlank v) →
      (literal vars base).rulesPath = base.rulesPath                                         (rulesPath_literal_eq)
    ofVariables home vars = some base → deciding? vars = some v → allBlank v → v ≠ "" →
      goal (literal vars base).rulesPath ≠ goal base.rulesPath                                    (goal_literal_ne)

Arguments that give neither option are read as the variables say, and refused where one of them is empty:

    Silent args c → Invocation.read vars args =
      .ok ⟨vars.lookup directoryVariable, vars.lookup rulesFileVariable, c⟩                          (read_literal)
-/

namespace BudgetRules

open Disk

/-! ## Blank names -/

theorem Path.isName_of_allBlank {s : String} (h : Unicode.allBlank s = true) (hne : s ≠ "") : IsName s := by
  refine ⟨fun hslash => absurd (List.all_eq_true.1 h _ hslash) (by decide), hne, ?_, ?_⟩
  · rintro rfl
    exact absurd h (by decide +kernel)
  · rintro rfl
    exact absurd h (by decide +kernel)

/-- A blank name leads to no place with a name that is not blank. -/
theorem Disk.goal_ne_of_allBlank {s name : String} (hblank : Unicode.allBlank s = true) (hne : s ≠ "")
    (hname : ¬Unicode.allBlank name) (p : Place) : goal s ≠ p ++ [name] := by
  rw [goal_name (Path.isName_of_allBlank hblank hne)]
  intro heq
  have heq : [] ++ [s] = p ++ [name] := heq
  obtain ⟨-, hlast⟩ := List.append_inj' heq rfl
  rw [List.singleton_inj.1 hlast] at hblank
  exact hname hblank

/-! ## Settings -/

namespace Settings

variable {vars : Variables} {name v : String}

theorem setting?_of_allBlank (hv : vars.lookup name = some v) (h : Unicode.allBlank v = true) :
    setting? vars name = none := by
  unfold setting?
  rw [hv, Option.filter_some, h]
  rfl

theorem setting?_of_not_allBlank (hv : vars.lookup name = some v) (h : ¬Unicode.allBlank v) :
    setting? vars name = some v := by
  unfold setting?
  rw [hv, Option.filter_some, Bool.eq_false_iff.2 h]
  rfl

theorem setting?_of_none (hv : vars.lookup name = none) : setting? vars name = none := by
  unfold setting?
  rw [hv]
  rfl

/-- The settings with the texts of the variables in place of what they say themselves. -/
def literal (vars : Variables) (base : Settings) : Settings :=
  base.override (vars.lookup directoryVariable) (vars.lookup rulesFileVariable)

/-- The text of the variable that decides where the rules are. -/
def deciding? (vars : Variables) : Option String :=
  (vars.lookup rulesFileVariable).or (vars.lookup directoryVariable)

variable {home : Option String} {base : Settings}

/-- The directory of settings is what the variable for it says, or else the usual one of the user. -/
theorem eq_of_ofVariables (h : ofVariables home vars = some base) :
    base.rulesFile = setting? vars rulesFileVariable ∧
      (setting? vars directoryVariable = some base.directory ∨
        setting? vars directoryVariable = none ∧ ∃ user, base.directory = Path.join user ".ynab_rules") := by
  unfold ofVariables at h
  obtain ⟨directory, hdirectory, h⟩ := Option.bind_eq_some_iff.1 h
  cases h
  refine ⟨rfl, ?_⟩
  rcases Option.or_eq_some_iff.1 hdirectory with hset | ⟨hnone, husual⟩
  · exact .inl hset
  · obtain ⟨user, -, hjoin⟩ := Option.map_eq_some_iff.1 husual
    exact .inr ⟨hnone, user, hjoin.symm⟩

theorem rulesPath_literal (vars : Variables) (base : Settings) :
    (literal vars base).rulesPath = ((vars.lookup rulesFileVariable).or base.rulesFile).getD
      (Path.join ((vars.lookup directoryVariable).getD base.directory) "rules.json") := rfl

theorem rulesPath_literal_eq (hbase : ofVariables home vars = some base)
    (h : ∀ v, deciding? vars = some v → ¬Unicode.allBlank v) : (literal vars base).rulesPath = base.rulesPath := by
  obtain ⟨hrules, hdirectory⟩ := eq_of_ofVariables hbase
  unfold deciding? at h
  rw [rulesPath_literal, rulesPath, hrules]
  cases hfile : vars.lookup rulesFileVariable with
  | some file =>
    rw [setting?_of_not_allBlank hfile (h file (by rw [hfile]; rfl))]
    rfl
  | none =>
    cases hvar : vars.lookup directoryVariable with
    | none => rfl
    | some directory =>
      rw [setting?_of_not_allBlank hvar (h directory (by rw [hfile, hvar]; rfl))] at hdirectory
      rcases hdirectory with hset | ⟨hnone, -⟩
      · rw [Option.some.inj hset]
        rfl
      · cases hnone

theorem goal_literal_ne (hbase : ofVariables home vars = some base) (hv : deciding? vars = some v)
    (hblank : Unicode.allBlank v = true) (hne : v ≠ "") :
    goal (literal vars base).rulesPath ≠ goal base.rulesPath := by
  have hname : Path.IsName "rules.json" := by decide +kernel
  have husual : Path.IsName ".ynab_rules" := by decide +kernel
  obtain ⟨hrules, hdirectory⟩ := eq_of_ofVariables hbase
  rw [rulesPath_literal, rulesPath, hrules]
  rcases Option.or_eq_some_iff.1 hv with hfile | ⟨hfile, hvar⟩
  · rw [hfile, setting?_of_allBlank hfile hblank]
    show goal v ≠ goal (Path.join _ "rules.json")
    rw [goal_join hname]
    exact goal_ne_of_allBlank hblank hne (by decide +kernel) _
  · rw [setting?_of_allBlank hvar hblank] at hdirectory
    rcases hdirectory with hset | ⟨-, user, hjoin⟩
    · cases hset
    rw [hfile, setting?_of_none hfile, hvar, hjoin]
    show goal (Path.join v "rules.json") ≠ goal (Path.join (Path.join user ".ynab_rules") "rules.json")
    rw [goal_join hname, goal_join hname, goal_join husual]
    intro heq
    obtain ⟨habove, -⟩ := List.append_inj' heq rfl
    exact goal_ne_of_allBlank hblank hne (by decide +kernel) _ habove

end Settings

namespace CommandLine

open Script

/-! ## Options that are not given -/

/-- Arguments that come to a command and do not say where the rules are: where no variable is set, nothing does. -/
def Silent (args : List String) (c : Command) : Prop := Invocation.read [] args = .ok ⟨none, none, c⟩

instance (args : List String) (c : Command) : Decidable (Silent args c) :=
  inferInstanceAs (Decidable (_ = _))

/-- The text of a variable, which may not be empty. -/
def standIn (vars : Variables) (variableName : String) : Except Refusal (Option String) :=
  if vars.lookup variableName = some "" then .error .usage else .ok (vars.lookup variableName)

/-- An option that nothing says where no variable is set is given nowhere, so the variable stands in for it. -/
theorem globalValue_of_silent {variableName name : String} {before after : Given}
    (h : globalValue [] variableName name before after = .ok none) (vars : Variables) :
    globalValue vars variableName name before after = standIn vars variableName := by
  obtain ⟨hbefore, hafter⟩ : before.value? name = none ∧ after.value? name = none := by
    unfold globalValue at h
    split at h
    · cases h
    · cases h
    · cases h
    · cases h
    · next hbefore hafter _ => exact ⟨hbefore, hafter⟩
  unfold globalValue standIn
  rw [hbefore, hafter]
  cases vars.lookup variableName with
  | none => rfl
  | some v =>
    by_cases hv : v = ""
    · subst hv
      rfl
    · have hsome : some v ≠ some "" := fun heq => hv (Option.some.inj heq)
      rw [if_neg hsome]
      split
      · next hnone _ => cases hnone
      · next hempty _ => exact absurd hempty hsome
      · next hnone _ _ => cases hnone
      · next hnone _ _ => cases hnone
      · rfl

theorem Silent.read_eq {args : List String} {c : Command} (h : Silent args c) (vars : Variables) :
    Invocation.read vars args =
      standIn vars Settings.directoryVariable >>= fun directory =>
        standIn vars Settings.rulesFileVariable >>= fun rulesFile => .ok ⟨directory, rulesFile, c⟩ := by
  unfold Silent Invocation.read at h
  obtain ⟨⟨before, word, rest⟩, hfirst, h⟩ := exists_ok_of_bind h
  dsimp only at h
  split at h
  · cases h
  · next specs places hshape =>
    obtain ⟨after, hafter, h⟩ := exists_ok_of_bind h
    obtain ⟨settled, hsettled, h⟩ := exists_ok_of_bind h
    obtain ⟨directory, hdirectory, h⟩ := exists_ok_of_bind h
    obtain ⟨rulesFile, hrulesFile, h⟩ := exists_ok_of_bind h
    obtain ⟨command, hcommand, h⟩ := exists_ok_of_bind h
    cases h
    unfold Invocation.read
    simp only [hfirst, hshape, hafter, hsettled, hcommand, ok_bind, globalValue_of_silent hdirectory vars,
      globalValue_of_silent hrulesFile vars]
    rfl

section

open Settings

variable {args : List String} {c : Command} {env : Environment} {vars : Variables} {h : Host} {ok : Bool}

theorem Silent.read_refused (hargs : Silent args c)
    (hempty : vars.lookup directoryVariable = some "" ∨ vars.lookup rulesFileVariable = some "") :
    Invocation.read vars args = .error .usage := by
  rw [hargs.read_eq]
  by_cases hdirectory : vars.lookup directoryVariable = some ""
  · rw [standIn, if_pos hdirectory]
    rfl
  · rw [standIn, if_neg hdirectory, standIn, if_pos (hempty.resolve_left hdirectory)]
    rfl

theorem Silent.read_literal (hargs : Silent args c)
    (hempty : ¬(vars.lookup directoryVariable = some "" ∨ vars.lookup rulesFileVariable = some "")) :
    Invocation.read vars args = .ok ⟨vars.lookup directoryVariable, vars.lookup rulesFileVariable, c⟩ := by
  rw [not_or] at hempty
  rw [hargs.read_eq, standIn, if_neg hempty.1, standIn, if_neg hempty.2]
  rfl

theorem ne_empty_of_deciding? {v : String} (hv : deciding? vars = some v)
    (hempty : ¬(vars.lookup directoryVariable = some "" ∨ vars.lookup rulesFileVariable = some "")) : v ≠ "" := by
  rintro rfl
  rcases Option.or_eq_some_iff.1 hv with hfile | ⟨-, hdirectory⟩
  · exact hempty (.inr hfile)
  · exact hempty (.inl hdirectory)

/-- A run that is given neither option is refused if one of the two variables is empty.  If none is, it fails where
neither a variable nor the account of the user says where the settings are.  Otherwise it comes to an invocation of its
command, and works on the file of the settings just if the variable that decides is not blank: if it is, on one in
another place. -/
theorem Silent.settled_or_elsewhere (hargs : Silent args c)
    (hload : Reaches (EnvFile.load env.depth env.vars, h) (.done (vars, ok), h)) :
    let directory := vars.lookup directoryVariable
    let file := vars.lookup rulesFileVariable
    let settings := Settings.ofVariables (Settings.home? env.account vars) vars
    let rest := proceed env.account args (vars, ok)
    (directory = some "" ∨ file = some "" → rest = return ⟨2, "", usageText⟩) ∧
      (¬(directory = some "" ∨ file = some "") →
        (settings = none → rest = return .ofResult (some homeless)) ∧
        ∀ base, settings = some base →
          ∃ i, Calls env args h vars base i rest h ∧ i.command = c ∧
            ((∀ v, file.or directory = some v → ¬Unicode.allBlank v) → i.rulesPath base = base.rulesPath) ∧
            ∀ v, file.or directory = some v → Unicode.allBlank v →
              goal (i.rulesPath base) ≠ goal base.rulesPath) := by
  intro directory file settings rest
  refine ⟨fun hempty => ?_, fun hempty => ⟨fun hnone => ?_, fun base hbase => ?_⟩⟩
  · show proceed env.account args (vars, ok) = _
    unfold proceed
    simp only [hargs.read_refused hempty]
  · show proceed env.account args (vars, ok) = _
    unfold proceed
    simp only [hargs.read_literal hempty, show Settings.ofVariables _ _ = none from hnone]
  · have hread := hargs.read_literal hempty
    refine ⟨⟨directory, file, c⟩, ⟨⟨ok, hload, .refl⟩, hread, hbase⟩, rfl, fun hplain => ?_,
      fun v hv hblank => ?_⟩
    · exact rulesPath_literal_eq hbase hplain
    · exact goal_literal_ne hbase hv hblank (ne_empty_of_deciding? hv hempty)

end

/-- A blank variable for the directory does not matter where the one for the file decides. -/
theorem settled_or_elsewhere_file :
    let vars := [("YNAB_RULES_CONFIG_DIR", " "), ("YNAB_RULES_FILE", "r.json")]
    let env : Environment := ⟨vars, some "/root", 0⟩
    let h : Host := ⟨Disk.empty, .seeded 0, [], []⟩
    let args := ["show", "r"]
    let base : Settings := ⟨"/root/.ynab_rules", some "r.json", "info", none⟩
    Silent args (.print "r") ∧ Reaches (EnvFile.load env.depth env.vars, h) (.done (vars, true), h) ∧
      Settings.ofVariables (Settings.home? env.account vars) vars = some base ∧
      ∃ i, Calls env args h vars base i (proceed env.account args (vars, true)) h ∧ i.command = .print "r" ∧
        i.rulesPath base = base.rulesPath := by
  intro vars env h args base
  have hargs : Silent args (.print "r") := by decide +kernel
  have hload : Reaches (EnvFile.load env.depth env.vars, h) (.done (vars, true), h) := by
    have hreaches := reaches_run (EnvFile.load env.depth env.vars) h
    rwa [run_loadEnv vars (by decide +kernel)] at hreaches
  have hbase : Settings.ofVariables (Settings.home? env.account vars) vars = some base := by decide +kernel
  have hempty : ¬(vars.lookup Settings.directoryVariable = some "" ∨
      vars.lookup Settings.rulesFileVariable = some "") := by decide +kernel
  obtain ⟨i, hcalls, hc, hsettled, -⟩ := ((hargs.settled_or_elsewhere hload).2 hempty).2 base hbase
  refine ⟨hargs, hload, hbase, i, hcalls, hc, hsettled fun v hv => ?_⟩
  obtain rfl : v = "r.json" := by cases hv; rfl
  decide +kernel

/-- A variable with a blank hides the rules in the directory that the settings know. -/
theorem blank_variable_hides_rules :
    let text := "[\x7b\"id\":\"r\",\"name\":\"Rides\",\"conditions\":[],\"actions\":[]\x7d]"
    let h : Host := ⟨(Disk.empty.put ["c"] .directory).put ["c", "rules.json"] (.file text.toUTF8), .seeded 0, [], []⟩
    let vars := [("YNAB_RULES_CONFIG_DIR", "c"), ("YNAB_RULES_FILE", " ")]
    let env : Environment := ⟨vars, some "/root", 0⟩
    let args := ["show", "r"]
    let base : Settings := ⟨"c", none, "info", none⟩
    let i : Invocation := ⟨some "c", some " ", .print "r"⟩
    let o := (run env args).run h
    Silent args (.print "r") ∧ Calls env args h vars base i (.done o.1) o.2 ∧ i.rulesPath base = " " ∧
      base.rulesPath = "c/rules.json" ∧ o.1.code = 1 ∧
      ((run { env with vars := vars.take 1 } args).run h).1.code = 0 := by
  intro text h vars env args base i o
  refine ⟨by decide +kernel, ?_, by decide +kernel, by decide +kernel, by decide +kernel, by decide +kernel⟩
  exact calls_run (by decide +kernel) (eq_ok_of_toOption (by decide +kernel)) (by decide +kernel)

end CommandLine

end BudgetRules
