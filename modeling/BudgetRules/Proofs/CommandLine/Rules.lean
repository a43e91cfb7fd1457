import BudgetRules.CommandLine
import BudgetRules.Proofs.Store.Contents

/-!
# What commands do to the rules

A command that does not run the rules edits their file, whatever kind of files there are, and brings only drafts that
it may bring: those with a name that is not blank, and for an import those that the imported file lists.  If it
fails, it has prepared a change at most:

    Reaches (perform app c, h) (t, h') → c.OnRules →
      app.engine.store.Edited app.engine.store.ways (c.Brings h.disk) (c.Saves ∧ Succeeds t)
        (∃ file, c = .importFrom file) h.disk h'.disk                                           (edited_perform)

A run of the program leaves the disk as it was, or comes to an invocation, which works on one file of rules:

    Reaches (run env args, h) (t, h') →
      h'.disk = h.disk ∨ ∃ vars base i, Calls env args h vars base i t h'                        (same_or_calls)
-/

namespace BudgetRules

theorem RuleDraft.name_of_toRule {d : RuleDraft} {id : String} {rule : Rule} (h : d.toRule id = .ok rule) :
    ¬Unicode.allBlank rule.name := by
  unfold toRule at h
  split at h
  · cases h
  · next hname => cases h; exact hname

namespace Script

theorem local_sayAll (stream : Stream) (texts : List String) : (sayAll stream texts).Local := by
  induction texts with
  | nil => exact True.intro
  | cons text rest ih => exact ih

end Script

namespace CommandLine

open Relation (ReflTransGen)
open Script

variable {δ : Type} [FileSystem δ] {app : Console} {h h' : Machine δ} {t : Script (Option Failure)}
  {new : RuleDraft → Prop} {many : Prop}

/-- Does a command do something else than run the rules? -/
def Command.OnRules : Command → Prop
  | .process .. => False
  | _ => True

/-- Is a command for rules one that saves or deletes some? -/
def Command.Saves : Command → Prop
  | .list => False
  | .print _ => False
  | .process .. => False
  | _ => True

/-- Does the file at a path list a rule with some contents? -/
def Lists (d : δ) (path : String) (x : RuleDraft) : Prop :=
  ∃ text l, (FileSystem.read d path).bind textOf = .ok text ∧ Rule.readList text = .ok l ∧ ∃ r ∈ l, r.draft = x

/-- The drafts that a command may bring: those with a name that is not blank, and those that the file to import
lists. -/
def Command.Brings (c : Command) (d : δ) (x : RuleDraft) : Prop :=
  ¬Unicode.allBlank x.name ∨ ∃ file, c = .importFrom file ∧ Lists d file x

/-- Is a command still at work, or has it come to an end without a failure? -/
def Succeeds (t : Script (Option Failure)) : Prop := ∀ r, t = .done r → r = none

/-! ## Commands -/

theorem local_warn (rule : Rule) : (warn rule).Local := local_sayAll _ _

theorem edited_saveRule {rule : Rule} {notice text : String} (hname : ¬Unicode.allBlank rule.name)
    (hr : Reaches (saveRule app rule notice text, h) (t, h')) :
    app.engine.store.Edited app.engine.store.ways (fun x => ¬Unicode.allBlank x.name) (Succeeds t)
      many h.disk h'.disk := by
  unfold saveRule at hr
  refine FileStore.edited_andThen hr (fun hwarn => ((local_warn rule).reaches hwarn).2.1) fun _ hr => ?_
  obtain ⟨u, h₁, hput, hdisk, hdone⟩ := reaches_andThen_local hr
    fun r => by rcases r with ⟨_ | _, _⟩ <;> exact True.intro
  rw [hdisk]
  refine (FileStore.edited_put hname hput).imp (fun _ hx => hx) (fun hsaved r hr => ?_) id
  obtain ⟨⟨saved, s⟩, hu, rfl⟩ := hdone r hr
  obtain rfl : saved = true := hsaved _ hu
  rfl

theorem edited_add {n : NewRule} (hr : Reaches (add app n, h) (t, h')) :
    app.engine.store.Edited app.engine.store.ways (fun x => ¬Unicode.allBlank x.name) (Succeeds t)
      many h.disk h'.disk := by
  unfold add at hr
  cases hdraft : n.draft with
  | error f =>
    rw [hdraft] at hr
    exact FileStore.edited_of_local hr True.intro
  | ok draft =>
    rw [hdraft] at hr
    have hid : freshId.Local := fun _ => True.intro
    refine FileStore.edited_andThen hr (fun hdraw => (hid.reaches hdraw).2.1) fun {id h₁} _ hr => ?_
    cases hrule : draft.toRule id with
    | error e =>
      rw [hrule] at hr
      exact FileStore.edited_of_local hr True.intro
    | ok rule =>
      rw [hrule] at hr
      exact edited_saveRule (RuleDraft.name_of_toRule hrule) hr

theorem edited_edit {id : String} {e : Edits} (hr : Reaches (edit app id e, h) (t, h')) :
    app.engine.store.Edited app.engine.store.ways (fun x => ¬Unicode.allBlank x.name) (Succeeds t)
      many h.disk h'.disk := by
  unfold edit at hr
  refine FileStore.edited_andThen hr FileStore.reaches_find? fun {found h₁} _ hr => ?_
  cases found with
  | none => exact FileStore.edited_of_local hr True.intro
  | some rule =>
    cases hdraft : e.apply rule.toRuleDraft with
    | error f =>
      simp only [hdraft] at hr
      exact FileStore.edited_of_local hr True.intro
    | ok draft =>
      simp only [hdraft] at hr
      cases hrule : rule.revise draft with
      | error e =>
        rw [hrule] at hr
        exact FileStore.edited_of_local hr True.intro
      | ok revised =>
        rw [hrule] at hr
        exact edited_saveRule (RuleDraft.name_of_toRule hrule) hr

theorem edited_delete {id : String} (hr : Reaches (delete app id, h) (t, h')) :
    app.engine.store.Edited app.engine.store.ways new (Succeeds t) many h.disk h'.disk := by
  unfold delete at hr
  obtain ⟨u, h₁, hremove, hdisk, hdone⟩ := reaches_andThen_local hr
    fun r => by rcases r with ⟨_ | _, _⟩ <;> exact True.intro
  rw [hdisk]
  refine (FileStore.edited_remove hremove).imp (fun _ hx => hx) (fun hremoved r hr => ?_) fun hm => hm
  obtain ⟨⟨removed, s⟩, hu, rfl⟩ := hdone r hr
  obtain rfl : removed = true := hremoved _ hu
  rfl

theorem turns_saveAll {store : FileStore} {rules : List Rule} (hnew : ∀ rule ∈ rules, new rule.toRuleDraft)
    {t : Script Nat} (hr : Reaches (saveAll store rules, h) (t, h')) :
    ReflTransGen (store.Turn store.ways new) h.disk h'.disk := by
  induction rules generalizing h h' t with
  | nil =>
    obtain ⟨-, rfl⟩ := reaches_done hr
    exact .refl
  | cons rule rest ih =>
    obtain ⟨hfirst, hrest⟩ := List.forall_mem_cons.1 hnew
    rcases reaches_bind hr with ⟨s', -, -, hwarn⟩ | ⟨_, h₁, hwarn, hr⟩
    · rw [((local_warn rule).reaches hwarn).2.1]
    rw [← ((local_warn rule).reaches hwarn).2.1]
    rcases reaches_bind hr with ⟨s', -, -, hput⟩ | ⟨⟨saved, s⟩, h₂, hput, hnext⟩
    · exact .single (FileStore.edited_put hfirst hput).turn
    · obtain rfl : s = store := FileStore.store_of_put hput
      obtain ⟨u, h₃, hall, hdisk, -⟩ := reaches_andThen_local hnext fun _ => True.intro
      rw [hdisk]
      exact .head (FileStore.edited_put hfirst hput).turn (ih hrest hall)

/-- An import cannot fail any more once its file has been decoded. -/
theorem edited_importFrom {file : String} (hr : Reaches (importFrom app file, h) (t, h')) :
    app.engine.store.Edited app.engine.store.ways (Lists h.disk file) (Succeeds t) True h.disk h'.disk := by
  unfold importFrom at hr
  have hsame {t : Script (Except FileError String)} {h₁ : Machine δ} (hread : Reaches (readText file, h) (t, h₁)) :
      h₁.disk = h.disk := by rw [(reaches_readText hread).1]
  refine FileStore.edited_andThen hr hsame fun {r h₁} hread hr => ?_
  cases r with
  | error e => exact FileStore.edited_of_local hr True.intro
  | ok text =>
    cases hlist : Rule.readList text with
    | error e =>
      simp only [hlist] at hr
      exact FileStore.edited_of_local hr True.intro
    | ok stored =>
      simp only [hlist] at hr
      refine FileStore.edited_andThen hr
        (fun hid => ((StoredRule.local_identify stored).reaches hid).2.1) fun {rules h₂} hid hr => ?_
      have hnew : ∀ rule ∈ rules, Lists h.disk file rule.toRuleDraft := by
        intro rule hrule
        obtain ⟨r, hr, hdraft⟩ := StoredRule.draft_of_reaches_identify hid hrule
        rw [← hdraft]
        rcases (reaches_readText hread).2 _ rfl with htext | ⟨e, -, htext⟩
        · exact ⟨text, stored, htext.symm, hlist, r, hr, rfl⟩
        · cases htext
      obtain ⟨u, h₃, hall, hdisk, hdone⟩ := reaches_andThen_local hr fun _ => True.intro
      rw [hdisk]
      refine .inr ⟨fun r hr => ?_, .inr ⟨True.intro, turns_saveAll hnew hall⟩⟩
      obtain ⟨saved, -, rfl⟩ := hdone r hr
      rfl

theorem reaches_list (hr : Reaches (list app, h) (t, h')) : h'.disk = h.disk := by
  unfold list at hr
  have hshow (rules : List Rule) : Local (do
      if rules.isEmpty then Script.say .stdout "No rules defined.\n"
      Script.sayAll .stdout (rules.flatMap fun r => [r.id ++ "\n", r.text ++ "\n"])
      return none : Script (Option Failure)) := by
    split
    · exact Local.bind (s := say _ _) True.intro fun _ => Local.bind (local_sayAll _ _) fun _ => True.intro
    · exact Local.bind (local_sayAll _ _) fun _ => True.intro
  obtain ⟨u, h₁, hload, hdisk, -⟩ := reaches_andThen_local hr hshow
  obtain ⟨v, h₂, hrules, hdisk', -⟩ := reaches_andThen_local hload fun _ => True.intro
  rw [hdisk, hdisk', FileStore.reaches_rules hrules]

theorem reaches_print {id : String} (hr : Reaches (print app id, h) (t, h')) : h'.disk = h.disk := by
  unfold print at hr
  obtain ⟨u, h₁, hfind, hdisk, -⟩ := reaches_andThen_local hr fun rule => by cases rule <;> exact True.intro
  rw [hdisk, FileStore.reaches_find? hfind]

/-- Only an import calls the store many times. -/
theorem edited_perform {c : Command} (hc : c.OnRules) (hr : Reaches (perform app c, h) (t, h')) :
    app.engine.store.Edited app.engine.store.ways (c.Brings h.disk) (c.Saves ∧ Succeeds t)
      (∃ file, c = .importFrom file) h.disk h'.disk := by
  cases c with
  | list => exact .of_eq (reaches_list hr)
  | print id => exact .of_eq (reaches_print hr)
  | add n => exact (edited_add hr).imp (fun _ hx => .inl hx) (.intro True.intro) id
  | edit rule e => exact (edited_edit hr).imp (fun _ hx => .inl hx) (.intro True.intro) id
  | delete rule => exact (edited_delete hr).imp (fun _ hx => hx) (.intro True.intro) id
  | importFrom file =>
    exact (edited_importFrom hr).imp (fun _ hx => .inr ⟨file, rfl, hx⟩) (.intro True.intro) fun _ => ⟨file, rfl⟩
  | process => exact hc.elim

/-! ## The program -/

/-- The file of rules that an invocation works on. -/
def Invocation.rulesPath (i : Invocation) (base : Settings) : String := (i.settings base).rulesPath

/-- The store of an invocation. -/
def Invocation.store (i : Invocation) (base : Settings) : FileStore := ⟨i.rulesPath base⟩

theorem reaches_ofSettings {s : Settings} {now : Timestamp} {t : Script (Except SettingsError Console)}
    (hr : Reaches (App.ofSettings s now, h) (t, h')) :
    Grows [s.directory] h.disk h'.disk ∧ ∀ app, t = .done (.ok app) → app.engine.store = ⟨s.rulesPath⟩ := by
  unfold App.ofSettings at hr
  obtain ⟨u, h₁, hensure, hdisk, hdone⟩ := reaches_andThen_local hr fun r => by cases r <;> exact True.intro
  unfold Settings.ensureDirectory at hensure
  obtain ⟨v, h₂, hmake, hdisk', -⟩ := reaches_andThen_local hensure fun r => by cases r <;> exact True.intro
  rw [hdisk, hdisk']
  refine ⟨reaches_ensureDirs hmake, fun app happ => ?_⟩
  obtain ⟨r, -, hrun⟩ := hdone _ happ
  cases r with
  | error e => cases hrun
  | ok _ => cases hrun; rfl

/-- The directory of the settings has been made, and then an invocation for rules has edited their file; what it brings
comes from what it has found then. -/
def Invocation.Edits (i : Invocation) (base : Settings) (fine : Prop) (d d' : δ) : Prop :=
  ∃ d₁, Grows [(i.settings base).directory] d d₁ ∧
    (i.store base).Edited (i.store base).ways (i.command.Brings d₁) (i.command.Saves ∧ fine)
      (∃ file, i.command = .importFrom file) d₁ d'

theorem Invocation.Edits.imp {i : Invocation} {base : Settings} {fine fine' : Prop} {d d' : δ}
    (h : i.Edits base fine d d') (hfine : fine → fine') : i.Edits base fine' d d' := by
  obtain ⟨d₁, hgrown, hedited⟩ := h
  exact ⟨d₁, hgrown, hedited.imp (fun _ hx => hx) (And.imp_right hfine) id⟩

theorem edits_invoke {base : Settings} {i : Invocation} (hi : i.command.OnRules)
    (hr : Reaches (invoke base i, h) (t, h')) : i.Edits base (Succeeds t) h.disk h'.disk := by
  unfold invoke at hr
  rcases reaches_bind hr with ⟨s', -, -, hsettings⟩ | ⟨r, h₁, hsettings, hr⟩
  · exact ⟨_, (reaches_ofSettings hsettings).1, .of_eq rfl⟩
  obtain ⟨hgrown, hstore⟩ := reaches_ofSettings hsettings
  cases r with
  | error e => exact ⟨_, hgrown, FileStore.edited_of_local hr True.intro⟩
  | ok app =>
    have hedited := edited_perform hi hr
    rw [hstore app rfl] at hedited
    exact ⟨_, hgrown, hedited⟩

/-- What the program does once the file of variables has been looked at. -/
def proceed (account : Option String) (args : List String) : Variables × Bool → Script Output
  | (vars, ok) =>
    match Invocation.read vars args with
    | .error .usage => return ⟨2, "", usageText⟩
    | .error .help => return ⟨0, usageText, ""⟩
    | .ok i =>
      match Settings.ofVariables (Settings.home? account vars) vars with
      | none => return .ofResult (some homeless)
      | some base => do
        if !ok then Script.tell .warn "ignoring unreadable .env file" []
        return .ofResult (← invoke base i)

theorem run_eq (env : Environment) (args : List String) :
    run env args = EnvFile.load env.depth env.vars >>= proceed env.account args := rfl

theorem reaches_nearest {paths : List String} {t : Script (Except FileError ByteArray)}
    (hr : Reaches (EnvFile.nearest paths, h) (t, h')) : h' = h := by
  induction paths generalizing h with
  | nil => exact (reaches_done hr).2
  | cons path rest ih =>
    rcases reaches_bind hr with ⟨s', -, -, hread⟩ | ⟨r, h₁, hread, hnext⟩
    · exact reaches_read hread
    · rw [← reaches_read hread]
      rcases r with (_ | _ | _ | _ | _ | _ | _ | _) | bytes
      case error.notFound => exact ih hnext
      case error.isDirectory => exact ih hnext
      all_goals exact (reaches_done hnext).2

theorem reaches_loadEnv {depth : Nat} {vars : Variables} {t : Script (Variables × Bool)}
    (hr : Reaches (EnvFile.load depth vars, h) (t, h')) : h' = h := by
  unfold EnvFile.load at hr
  rcases reaches_bind hr with ⟨s', -, -, hread⟩ | ⟨r, h₁, hread, hnext⟩
  · exact reaches_nearest hread
  · rw [← reaches_nearest hread]
    rcases r with e | bytes
    · cases e <;> exact (reaches_done hnext).2
    · exact (reaches_done hnext).2

/-- A run of the program comes to an invocation: the variables are those after the file of variables has been
looked at, and the settings are theirs. -/
structure Calls (env : Environment) (args : List String) (h : Machine δ) (vars : Variables) (base : Settings)
    (i : Invocation) (t : Script Output) (h' : Machine δ) : Prop where
  reached : ∃ ok, Reaches (EnvFile.load env.depth env.vars, h) (.done (vars, ok), h) ∧
    Reaches (proceed env.account args (vars, ok), h) (t, h')
  read : Invocation.read vars args = .ok i
  settled : Settings.ofVariables (Settings.home? env.account vars) vars = some base

/-- A run of the program leaves the disk as it was, or it comes to an invocation. -/
theorem same_or_calls {env : Environment} {args : List String} {t : Script Output}
    (hr : Reaches (run env args, h) (t, h')) :
    h'.disk = h.disk ∨ ∃ vars base i, Calls env args h vars base i t h' := by
  rw [run_eq] at hr
  rcases reaches_bind hr with ⟨s', -, -, hload⟩ | ⟨⟨vars, ok⟩, h₁, hload, hnext⟩
  · left
    rw [reaches_loadEnv hload]
  obtain rfl := reaches_loadEnv hload
  cases hread : Invocation.read vars args with
  | ok i =>
    cases hsettled : Settings.ofVariables (Settings.home? env.account vars) vars with
    | some base => exact .inr ⟨vars, base, i, ⟨ok, hload, hnext⟩, hread, hsettled⟩
    | none =>
      left
      unfold proceed at hnext
      simp only [hread, hsettled] at hnext
      rw [(reaches_done hnext).2]
  | error e =>
    left
    unfold proceed at hnext
    simp only [hread] at hnext
    cases e with
    | usage => rw [(reaches_done hnext).2]
    | help => rw [(reaches_done hnext).2]

theorem run_loadEnv {depth : Nat} (vars : Variables)
    (henv : ∀ path ∈ EnvFile.candidates depth, FileSystem.read h.disk path = .error .notFound) :
    (EnvFile.load depth vars).run h = ((vars, true), h) := by
  have hnone (paths : List String) (hpaths : ∀ path ∈ paths, FileSystem.read h.disk path = .error .notFound) :
      (EnvFile.nearest paths).run h = (.error .notFound, h) := by
    induction paths with
    | nil => rfl
    | cons path rest ih =>
      obtain ⟨hfirst, hrest⟩ := List.forall_mem_cons.1 hpaths
      have hread : (Script.read path).run h = (.error .notFound, h) := congrArg (·, h) hfirst
      unfold EnvFile.nearest
      rw [run_andThen, hread]
      exact ih hrest
  unfold EnvFile.load
  rw [run_andThen, hnone _ henv]
  rfl

/-- Where there is no file of variables, the run of the program comes to the invocation of its arguments. -/
theorem calls_run {env : Environment} {args : List String} {base : Settings} {i : Invocation}
    (henv : ∀ path ∈ EnvFile.candidates env.depth, FileSystem.read h.disk path = .error .notFound)
    (hread : Invocation.read env.vars args = .ok i)
    (hsettled : Settings.ofVariables (Settings.home? env.account env.vars) env.vars = some base) :
    Calls env args h env.vars base i (.done ((run env args).run h).1) ((run env args).run h).2 := by
  have hload := run_loadEnv env.vars henv
  refine ⟨⟨true, ?_, ?_⟩, hread, hsettled⟩
  · have hreaches := reaches_run (EnvFile.load env.depth env.vars) h
    rwa [hload] at hreaches
  · rw [run_eq, run_andThen, hload]
    exact reaches_run _ h

theorem edits_ofResult {base : Settings} {i : Invocation} {t : Script Output} (hi : i.command.OnRules)
    (hr : Reaches (do return .ofResult (← invoke base i), h) (t, h')) :
    i.Edits base (∀ out, t = .done out → out.code = 0) h.disk h'.disk := by
  obtain ⟨u, h₁, hinvoke, hdisk, hdone⟩ := reaches_andThen_local hr fun _ => True.intro
  rw [hdisk]
  refine (edits_invoke hi hinvoke).imp fun hsucceeds out hout => ?_
  obtain ⟨r, hu, rfl⟩ := hdone out hout
  rw [hsucceeds r hu]
  rfl

/-- An invocation for rules has edited their file; if it comes to an exit code other than zero, it has prepared a change
at most. -/
theorem Calls.edits {env : Environment} {vars : Variables} {args : List String} {base : Settings} {i : Invocation}
    {t : Script Output} (hc : Calls env args h vars base i t h') (hi : i.command.OnRules) :
    i.Edits base (∀ out, t = .done out → out.code = 0) h.disk h'.disk := by
  obtain ⟨ok, -, hr⟩ := hc.reached
  unfold proceed at hr
  simp only [hc.read, hc.settled] at hr
  cases ok with
  | true => exact edits_ofResult hi hr
  | false =>
    have hwarning : (tell .warn "ignoring unreadable .env file" []).Local := True.intro
    rcases reaches_bind hr with ⟨s', -, -, hwarn⟩ | ⟨_, h₁, hwarn, hr⟩
    · exact ⟨_, .refl, .of_eq (hwarning.reaches hwarn).2.1⟩
    · rw [← (hwarning.reaches hwarn).2.1]
      exact edits_ofResult hi hr

/-! ## In a tree of files -/

/-- An invocation admits into the file of rules only drafts that have a name that is not blank or that were stored in
the place of a file that it imports. -/
theorem Invocation.Edits.stores {i : Invocation} {base : Settings} {fine : Prop} {d d' : Disk} {x : RuleDraft}
    (h : i.Edits base fine d d') (hx : d'.Stores (Disk.goal (i.rulesPath base)) x) :
    d.Stores (Disk.goal (i.rulesPath base)) x ∨ ¬Unicode.allBlank x.name ∨
      ∃ file, i.command = .importFrom file ∧ d.Stores (Disk.goal file) x := by
  obtain ⟨d₁, hgrown, hedited⟩ := h
  have hgrown := Disk.grown_of_grows hgrown
  rcases hedited.stores hx with hold | hnamed | ⟨file, hfile, text, l, hread, hlist, r, hr, rfl⟩
  · exact .inl ((hgrown.spared _).stores hold)
  · exact .inr (.inl hnamed)
  · -- the directory that has been made stores nothing
    exact .inr (.inr ⟨file, hfile, (hgrown.spared file).stores (Disk.stores_of_read hread hlist hr)⟩)

end CommandLine

end BudgetRules
