import BudgetRules.Proofs.Script.Steps
import BudgetRules.Store.File

/-!
# A store that is interrupted

Saving and deleting make directories and write the new rules to the file beside, and then move that into place.
However far they have got, and whatever kind of files there are, they have prepared the change or the file beside has
been moved, with all of the new rules in it:

    Reaches (s.save rule, h) (t, h') →
      s.Changes s.ways h (upsert · rule) (∀ r, t = .done r → r = .ok ()) h'.disk                        (reaches_save)
    Reaches (s.delete id, h) (t, h') →
      s.Changes s.ways h (without · id) (∀ r, t = .done r → r = .ok true) h'.disk                     (reaches_delete)

What users call does this once for each call (`Edited`).
-/

namespace BudgetRules

open Relation (ReflTransGen)
open Script

theorem StoredRule.local_identify (l : List StoredRule) : (identify l).Local := by
  induction l with
  | nil => exact True.intro
  | cons r rest ih =>
    unfold identify
    cases r.id with
    | some id => exact Local.bind ih fun _ => True.intro
    | none => exact fun id => Local.bind ih fun _ => True.intro

theorem mem_of_mem_upsert {rules : List Rule} {rule r : Rule} (h : r ∈ upsert rules rule) :
    r ∈ rules ∨ r = rule := by
  induction rules with
  | nil => exact .inr (List.mem_singleton.1 h)
  | cons first rest ih =>
    unfold upsert at h
    split at h
    · rcases List.mem_cons.1 h with heq | h
      · exact .inr heq
      · exact .inl (List.mem_cons_of_mem _ h)
    · rcases List.mem_cons.1 h with heq | h
      · exact .inl (heq ▸ List.mem_cons_self)
      · exact (ih h).imp_left (List.mem_cons_of_mem _)

namespace FileStore

variable {δ : Type} [FileSystem δ] {s : FileStore} {h h' : Machine δ}

theorem local_rulesOf (s : FileStore) (text : String) : (s.rulesOf text).Local := by
  unfold rulesOf
  cases Rule.readList text with
  | ok l => exact Local.bind (StoredRule.local_identify l) fun _ => True.intro
  | error e => exact True.intro

/-- The rules of what has been read. -/
def afterRead (s : FileStore) : Except FileError String → Script (Except StoreError (List Rule))
  | .ok text => s.rulesOf text
  | .error .notFound => return .ok []
  | .error e => return .error (.file s.path e)

theorem load_eq (s : FileStore) : s.load = readText s.path >>= s.afterRead := by
  refine congrArg (readText s.path).bind (funext fun r => ?_)
  rcases r with (_ | _) | _ <;> rfl

theorem local_afterRead (s : FileStore) (r : Except FileError String) : (s.afterRead r).Local := by
  unfold afterRead
  split
  · exact local_rulesOf s _
  · exact True.intro
  · exact True.intro

theorem afterRead_error {e : FileError} (he : e ≠ .notFound) :
    s.afterRead (.error e) = .done (.error (.file s.path e)) := by
  cases e with
  | notFound => exact absurd rfl he
  | _ => rfl

/-- Loading changes nothing on the disk, and if it works, the rules are those of the file. -/
theorem reaches_load {t : Script (Except StoreError (List Rule))} (hr : Reaches (s.load, h) (t, h')) :
    h'.disk = h.disk ∧ ∀ rules, t = .done (.ok rules) → (s.load.run h).1 = .ok rules := by
  rw [load_eq] at hr ⊢
  rw [run_andThen, run_readText]
  rcases reaches_bind hr with ⟨s', hp, rfl, hread⟩ | ⟨r, h₁, hread, hr⟩
  · obtain ⟨rfl, -⟩ := reaches_readText hread
    exact ⟨rfl, fun rules ht => absurd ht (hp.bind _ _)⟩
  · obtain ⟨rfl, hr₁⟩ := reaches_readText hread
    rcases hr₁ r rfl with rfl | ⟨e, he, rfl⟩
    · -- what follows reading is settled by what was read
      obtain ⟨-, hdisk, hrun⟩ := (s.local_afterRead _).reaches hr
      refine ⟨hdisk, ?_⟩
      rintro rules rfl
      rw [← hrun]
      rfl
    · rw [afterRead_error he] at hr
      obtain ⟨rfl, rfl⟩ := reaches_done hr
      exact ⟨rfl, fun rules ht => (nomatch ht)⟩

/-- The paths that directories are made for. -/
def ways (s : FileStore) : List String := (Path.parent? s.path).toList

theorem reaches_ensureParent {t : Script (Except FileError Unit)} (hr : Reaches (s.ensureParent, h) (t, h')) :
    Grows s.ways h.disk h'.disk := by
  unfold ensureParent at hr
  unfold ways
  split at hr
  · next p hp =>
    split at hr
    · obtain ⟨-, rfl⟩ := reaches_done hr
      exact .refl
    · rw [hp]
      exact reaches_ensureDirs hr
  · obtain ⟨-, rfl⟩ := reaches_done hr
    exact .refl

/-! ## Writing -/

/-- Directories have been made for some paths, and then the file beside has been written to, each as far as it
went. -/
def Prepares (s : FileStore) (paths : List String) (d d' : δ) : Prop :=
  ∃ d₁, Grows paths d d₁ ∧ ReflTransGen (Writes s.staging) d₁ d'

/-- The file beside has been written to, the last time with the whole of some rules, and then moved into place. -/
def Replaces (s : FileStore) (paths : List String) (rules : List Rule) (d d' : δ) : Prop :=
  ∃ d₁ d₂, s.Prepares paths d d₁ ∧
    FileSystem.write d₁ s.staging (Rule.listToJson rules).pretty.toUTF8 = .ok d₂ ∧
    FileSystem.rename d₂ s.staging s.path = .ok d'

theorem prepares_of_grows {paths : List String} {d d' : δ} (h : Grows paths d d') : s.Prepares paths d d' :=
  ⟨d', h, .refl⟩

theorem Prepares.refl (s : FileStore) (paths : List String) (d : δ) : s.Prepares paths d d :=
  prepares_of_grows .refl

theorem Prepares.of_eq {paths : List String} {d d' : δ} (h : d' = d) : s.Prepares paths d d' := h ▸ .refl s paths d

theorem Prepares.mono {paths paths' : List String} {d d' : δ} (h : s.Prepares paths d d') (hsub : paths ⊆ paths') :
    s.Prepares paths' d d' := by
  obtain ⟨d₁, hg, hw⟩ := h
  exact ⟨d₁, hg.mono hsub, hw⟩

theorem Prepares.after {paths : List String} {d d' d'' : δ} (h : s.Prepares paths d' d'') (hg : Grows paths d d') :
    s.Prepares paths d d'' := by
  obtain ⟨d₁, hg', hw⟩ := h
  exact ⟨d₁, hg.trans hg', hw⟩

/-- While new rules are being put in the file, the change is being prepared, or the file has been replaced and nothing
has failed. -/
theorem reaches_write {rules : List Rule} {t : Script (Except StoreError Unit)}
    (hr : Reaches (s.write rules, h) (t, h')) :
    s.Prepares s.ways h.disk h'.disk ∧ t ≠ .done (.ok ()) ∨
      (∀ r, t = .done r → r = .ok ()) ∧ s.Replaces s.ways rules h.disk h'.disk := by
  unfold write at hr
  rcases reaches_bind hr with ⟨s', hp, rfl, hparent⟩ | ⟨r, h₁, hparent, hr⟩
  · exact .inl ⟨prepares_of_grows (reaches_ensureParent hparent), hp.bind _ _⟩
  have hgrown := reaches_ensureParent hparent
  cases r with
  | error e =>
    obtain ⟨rfl, rfl⟩ := reaches_done hr
    exact .inl ⟨prepares_of_grows hgrown, fun h => nomatch h⟩
  | ok _ =>
  rcases reaches_bind hr with ⟨s', hp, rfl, hwrite⟩ | ⟨r, h₂, hwrite, hr⟩
  · exact .inl ⟨⟨_, hgrown, (Script.reaches_write hwrite).1⟩, hp.bind _ _⟩
  obtain ⟨hwrites, hwhole⟩ := Script.reaches_write hwrite
  have hprepared : s.Prepares s.ways h.disk h₂.disk := ⟨_, hgrown, hwrites⟩
  cases r with
  | error e =>
    obtain ⟨rfl, rfl⟩ := reaches_done hr
    exact .inl ⟨hprepared, fun h => nomatch h⟩
  | ok _ =>
  obtain ⟨d, hbefore, hlast⟩ := hwhole rfl
  rcases reaches_bind hr with ⟨s', hp, rfl, hrename⟩ | ⟨r, h₃, hrename, hr⟩
  · rcases reaches_rename hrename with ⟨rfl, -⟩ | ⟨rfl, -⟩
    · exact .inl ⟨hprepared, hp.bind _ _⟩
    · exact absurd rfl (hp _)
  rcases reaches_rename hrename with ⟨rfl, hne⟩ | ⟨hdone, hmoved⟩
  · cases r with
    | error e =>
      obtain ⟨rfl, rfl⟩ := reaches_done hr
      exact .inl ⟨hprepared, fun h => nomatch h⟩
    | ok _ => exact absurd rfl hne
  · cases hdone
    -- the file has been moved, and giving notice of it cannot fail
    right
    have hlocal : Local (do
        tell .debug "rules written" [("path", s.path), ("count", s!"{rules.length}")]
        return .ok () : Script (Except StoreError Unit)) := True.intro
    obtain ⟨-, hdisk, hrun⟩ := hlocal.reaches hr
    constructor
    · rintro r rfl
      exact congrArg Prod.fst hrun
    · rw [hdisk]
      exact ⟨d, _, ⟨_, hgrown, hbefore⟩, hlast, hmoved⟩

/-! ## Saving and deleting -/

/-- A change of the rules is being prepared, or the file has been replaced by one with all of the rules that the change
makes of those that were loaded; the latter only if all is `fine`. -/
def Changes (s : FileStore) (paths : List String) (h : Machine δ) (change : List Rule → List Rule) (fine : Prop)
    (d : δ) : Prop :=
  s.Prepares paths h.disk d ∨
    fine ∧ ∃ rules, (s.load.run h).1 = .ok rules ∧ s.Replaces paths (change rules) h.disk d

/-- What follows loading settles what becomes of the file. -/
theorem reaches_afterLoad {α : Type} {change : List Rule → List Rule} {fine : Prop}
    {next : Except StoreError (List Rule) → Script (Except StoreError α)} {t : Script (Except StoreError α)}
    (hr : Reaches (s.load >>= next, h) (t, h')) (herror : ∀ e, next (.error e) = .done (.error e))
    (hok : ∀ {rules : List Rule} {h₁ : Machine δ}, Reaches (next (.ok rules), h₁) (t, h') →
      s.Prepares s.ways h₁.disk h'.disk ∨ fine ∧ s.Replaces s.ways (change rules) h₁.disk h'.disk) :
    s.Changes s.ways h change fine h'.disk := by
  rcases reaches_bind hr with ⟨s', -, rfl, hload⟩ | ⟨r, h₁, hload, hr⟩
  · exact .inl (.of_eq (reaches_load hload).1)
  obtain ⟨hdisk, hrules⟩ := reaches_load hload
  cases r with
  | error e =>
    rw [herror] at hr
    obtain ⟨-, rfl⟩ := reaches_done hr
    exact .inl (.of_eq hdisk)
  | ok rules =>
    have hafter := hok hr
    rw [hdisk] at hafter
    rcases hafter with hprepared | ⟨hfine, hreplaced⟩
    · exact .inl hprepared
    · exact .inr ⟨hfine, rules, hrules rules rfl, hreplaced⟩

theorem reaches_save {rule : Rule} {t : Script (Except StoreError Unit)} (hr : Reaches (s.save rule, h) (t, h')) :
    s.Changes s.ways h (upsert · rule) (∀ r, t = .done r → r = .ok ()) h'.disk :=
  reaches_afterLoad hr (fun _ => rfl) fun hr => (reaches_write hr).imp_left And.left

theorem reaches_delete {id : String} {t : Script (Except StoreError Bool)}
    (hr : Reaches (s.delete id, h) (t, h')) :
    s.Changes s.ways h (without · id) (∀ r, t = .done r → r = .ok true) h'.disk := by
  refine reaches_afterLoad hr (fun _ => rfl) fun {rules h₁} hr => ?_
  by_cases hlen : (without rules id).length = rules.length
  · simp only [hlen, if_true] at hr
    obtain ⟨-, rfl⟩ := reaches_done hr
    exact .inl (.refl _ _ _)
  simp only [hlen, if_false] at hr
  rcases reaches_bind hr with ⟨s', hp, rfl, hwrite⟩ | ⟨r, h₂, hwrite, hr⟩
  · exact (reaches_write hwrite).imp And.left fun hnew => ⟨fun r hr => absurd hr (hp.bind _ r), hnew.2⟩
  cases r with
  | error e =>
    obtain ⟨rfl, rfl⟩ := reaches_done hr
    exact (reaches_write hwrite).imp And.left fun hnew => nomatch hnew.1 _ rfl
  | ok _ =>
    obtain ⟨rfl, rfl⟩ := reaches_done hr
    exact (reaches_write hwrite).imp And.left fun hnew => ⟨fun r hr => by cases hr; rfl, hnew.2⟩

/-! ## What users call -/

/-- Asking for rules leaves the disk alone. -/
theorem reaches_rules {t : Script (List Rule)} (hr : Reaches (RuleStore.rules s, h) (t, h')) :
    h'.disk = h.disk := by
  unfold RuleStore.rules at hr
  obtain ⟨u, h₁, hload, hdisk, -⟩ := reaches_andThen_local hr fun r => by cases r <;> exact True.intro
  rw [hdisk, (reaches_load hload).1]

theorem reaches_find? {id : String} {t : Script (Option Rule)}
    (hr : Reaches (RuleStore.find? s id, h) (t, h')) : h'.disk = h.disk := by
  unfold RuleStore.find? at hr
  obtain ⟨u, h₁, hrules, hdisk, -⟩ := reaches_andThen_local hr fun _ => True.intro
  rw [hdisk, reaches_rules hrules]

/-- One call has changed the disk: it has prepared a change, or the file has been replaced by one with rules that were
loaded or are of a kind. -/
def Turn (s : FileStore) (paths : List String) (new : RuleDraft → Prop) (d d' : δ) : Prop :=
  s.Prepares paths d d' ∨
    ∃ (h : Machine δ) (before after : List Rule), h.disk = d ∧ (s.load.run h).1 = .ok before ∧
      (∀ r ∈ after, r ∈ before ∨ new r.toRuleDraft) ∧ s.Replaces paths after d d'

/-- One call has changed the disk, or if it is for `many`, some have, one after the other; unless all is `fine`, a
change has been prepared at most. -/
def Edited (s : FileStore) (paths : List String) (new : RuleDraft → Prop) (fine many : Prop) (d d' : δ) : Prop :=
  s.Prepares paths d d' ∨
    fine ∧ (s.Turn paths new d d' ∨ many ∧ ReflTransGen (s.Turn paths new) d d')

section

variable {paths : List String} {new new' : RuleDraft → Prop} {fine fine' many many' : Prop} {d d' : δ}

theorem Edited.of_eq (h : d' = d) : s.Edited paths new fine many d d' := .inl (.of_eq h)

theorem edited_of_local {α : Type} {p t : Script α} (hr : Reaches (p, h) (t, h')) (hp : p.Local) :
    s.Edited paths new fine many h.disk h'.disk := .of_eq (hp.reaches hr).2.1

theorem Turn.imp (h : s.Turn paths new d d') (hnew : ∀ x, new x → new' x) : s.Turn paths new' d d' := by
  rcases h with hp | ⟨h, before, after, hd, hload, hafter, hr⟩
  · exact .inl hp
  · exact .inr ⟨h, before, after, hd, hload, fun r hr => (hafter r hr).imp_right (hnew _), hr⟩

theorem Edited.turn (h : s.Edited paths new fine False d d') : s.Turn paths new d d' := by
  rcases h with hp | ⟨-, hturn | ⟨hm, -⟩⟩
  · exact .inl hp
  · exact hturn
  · exact hm.elim

theorem Edited.turns (h : s.Edited paths new fine many d d') : ReflTransGen (s.Turn paths new) d d' := by
  rcases h with hp | ⟨-, hturn | ⟨-, hturns⟩⟩
  · exact .single (.inl hp)
  · exact .single hturn
  · exact hturns

theorem Edited.imp (h : s.Edited paths new fine many d d') (hnew : ∀ x, new x → new' x) (hfine : fine → fine')
    (hmany : many → many') : s.Edited paths new' fine' many' d d' := by
  rcases h with hp | ⟨hf, hturn | ⟨hm, hturns⟩⟩
  · exact .inl hp
  · exact .inr ⟨hfine hf, .inl (hturn.imp hnew)⟩
  · exact .inr ⟨hfine hf, .inr ⟨hmany hm, ReflTransGen.mono (fun _ _ ht => ht.imp hnew) _ _ hturns⟩⟩

/-- A script that first leaves the disk alone does what it does afterwards. -/
theorem edited_andThen {α β : Type} {p : Script α} {f : α → Script β} {t : Script β}
    (hr : Reaches (p >>= f, h) (t, h'))
    (hp : ∀ {u : Script α} {h₁ : Machine δ}, Reaches (p, h) (u, h₁) → h₁.disk = h.disk)
    (hf : ∀ {a : α} {h₁ : Machine δ}, Reaches (p, h) (.done a, h₁) → Reaches (f a, h₁) (t, h') →
      s.Edited paths new fine many h₁.disk h'.disk) : s.Edited paths new fine many h.disk h'.disk := by
  rcases reaches_bind hr with ⟨s', -, -, hfirst⟩ | ⟨a, h₁, hfirst, hrest⟩
  · exact .of_eq (hp hfirst)
  · have hedited := hf hfirst hrest
    rwa [hp hfirst] at hedited

theorem Changes.edited {change : List Rule → List Rule} (hc : s.Changes paths h change fine d)
    (hchange : ∀ rules, ∀ r ∈ change rules, r ∈ rules ∨ new r.toRuleDraft) (hfine : fine → fine') :
    s.Edited paths new fine' many h.disk d := by
  rcases hc with hp | ⟨hf, rules, hload, hr⟩
  · exact .inl hp
  · exact .inr ⟨hfine hf, .inl (.inr ⟨_, rules, _, rfl, hload, hchange rules, hr⟩)⟩

end

variable {rule : Rule} {new : RuleDraft → Prop} {many : Prop}

/-- What is told of saving comes after it, and leaves disk and store alone. -/
theorem reaches_put {t : Script (Bool × FileStore)} (hr : Reaches (RuleStore.put s rule, h) (t, h')) :
    ∃ u h₁, Reaches (s.save rule, h) (u, h₁) ∧ h'.disk = h₁.disk ∧
      ∀ r, t = .done r → r.2 = s ∧ ∃ a, u = .done a ∧ (a = .ok () → r.1 = true) := by
  unfold RuleStore.put at hr
  obtain ⟨u, h₁, htried, hdisk, hdone⟩ := reaches_andThen_local hr
    fun r => by rcases r with ⟨_ | _, _⟩ <;> exact True.intro
  obtain ⟨v, h₂, hsave, hdisk', hdone'⟩ := reaches_andThen_local htried fun _ => True.intro
  refine ⟨v, h₂, hsave, hdisk.trans hdisk', fun r hr => ?_⟩
  obtain ⟨a, ha, rfl⟩ := hdone r hr
  obtain ⟨b, hb, rfl⟩ := hdone' a ha
  cases b with
  | error e => exact ⟨rfl, _, hb, fun hok => nomatch hok⟩
  | ok _ => exact ⟨rfl, _, hb, fun _ => rfl⟩

/-- Saving brings the draft of the rule, and has prepared that at most if it says that it has not worked. -/
theorem edited_put (hnew : new rule.toRuleDraft) {t : Script (Bool × FileStore)}
    (hr : Reaches (RuleStore.put s rule, h) (t, h')) :
    s.Edited s.ways new (∀ r, t = .done r → r.1 = true) many h.disk h'.disk := by
  obtain ⟨u, h₁, hsave, hdisk, hdone⟩ := reaches_put hr
  rw [hdisk]
  refine (reaches_save hsave).edited (fun rules r hr => ?_) fun hfine r hr => ?_
  · rcases mem_of_mem_upsert hr with hr | rfl
    · exact .inl hr
    · exact .inr hnew
  · obtain ⟨-, a, ha, hok⟩ := hdone r hr
    exact hok (hfine a ha)

/-- The store stays the same. -/
theorem store_of_put {r : Bool × FileStore} (hr : Reaches (RuleStore.put s rule, h) (.done r, h')) : r.2 = s := by
  obtain ⟨u, h₁, -, -, hdone⟩ := reaches_put hr
  exact (hdone r rfl).1

/-- Taking rules away brings nothing, and has prepared that at most if it says that it has not worked. -/
theorem edited_remove {id : String} {t : Script (Bool × FileStore)}
    (hr : Reaches (RuleStore.remove s id, h) (t, h')) :
    s.Edited s.ways new (∀ r, t = .done r → r.1 = true) many h.disk h'.disk := by
  unfold RuleStore.remove at hr
  obtain ⟨u, h₁, hdelete, hdisk, hdone⟩ := reaches_andThen_local hr
    fun r => by rcases r with ⟨_ | _, _⟩ <;> exact True.intro
  obtain ⟨v, h₂, hdelete, hdisk', hdone'⟩ := reaches_andThen_local hdelete fun _ => True.intro
  rw [hdisk, hdisk']
  refine (reaches_delete hdelete).edited (fun rules r hr => .inl (List.mem_filter.1 hr).1) fun hfine r hr => ?_
  obtain ⟨a, ha, rfl⟩ := hdone r hr
  obtain ⟨b, hb, rfl⟩ := hdone' a ha
  rw [hfine b hb]
  rfl

end FileStore

end BudgetRules
