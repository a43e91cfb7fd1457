import BudgetRules.Proofs.Script
import Mathlib.Logic.Relation

/-!
# Scripts step by step

A script can be stopped between two steps of its machine, and the machine can refuse what the disk would allow.  A file
is moved in one step; directories are made one by one, and a file that is written holds the first bytes for a
while.  The run of a script is one of the ways it can go:

    Reaches (s, h) (.done (s.run h).1, (s.run h).2)                                              (reaches_run)

A script that goes on with what another comes to is stopped in the other or after it:

    Reaches (s.bind f, h) (t, h') →
      (∃ s', s'.Pending ∧ t = s'.bind f ∧ Reaches (s, h) (s', h')) ∨
      ∃ a h₁, Reaches (s, h) (.done a, h₁) ∧ Reaches (f a, h₁) (t, h')                          (reaches_bind)

What cannot be printed breaks a script off, so that is to be stopped where it speaks.
-/

namespace BudgetRules

namespace FileSystem

open Relation (ReflTransGen)

variable {δ : Type} [FileSystem δ]

/-- A directory has been made for a path: the one that it leads to, or one that this stands in. -/
def MakesDir (path : String) (d d' : δ) : Prop := ∃ q ∈ path :: Path.ancestors path, makeDir d q = .ok d'

theorem settle_snd (d : δ) (path : String) (r : Except FileError δ) :
    (settle d path r).2 = d ∨ r = .ok (settle d path r).2 := by
  cases r with
  | error e => exact .inl rfl
  | ok d' => exact .inr rfl

/-- Directories are made one by one. -/
theorem steps_makeAll (d : δ) (paths : List String) :
    ReflTransGen (fun d d' => ∃ q ∈ paths, makeDir d q = .ok d') d (makeAll d paths).2 := by
  have hsettle (d : δ) (path : String) (above : List String) :
      ReflTransGen (fun d d' => ∃ q ∈ path :: above, makeDir d q = .ok d') d
        (settle d path (makeDir d path)).2 := by
    rcases settle_snd d path (makeDir d path) with hsame | hmade
    · rw [hsame]
    · exact .single ⟨path, List.mem_cons_self, hmade⟩
  induction paths generalizing d with
  | nil => exact .refl
  | cons path above ih =>
    have hup : ReflTransGen (fun d d' => ∃ q ∈ path :: above, makeDir d q = .ok d') d (makeAll d above).2 :=
      ReflTransGen.mono (fun _ _ ⟨q, hq, hm⟩ => ⟨q, List.mem_cons_of_mem _ hq, hm⟩) _ _ (ih d)
    unfold makeAll
    split
    · exact .refl
    · split
      · split
        · next d₁ habove =>
          rw [habove] at hup
          exact hup.trans (hsettle d₁ path above)
        · next d₁ habove =>
          rw [habove] at hup
          exact hup
      · exact hsettle d path above

theorem steps_makeDirs (d : δ) (path : String) : ReflTransGen (MakesDir path) d (makeDirs d path).2 :=
  steps_makeAll d _

end FileSystem

namespace Script

open Relation (ReflTransGen)

variable {α β δ : Type} [FileSystem δ]

/-- One step of a machine for a script. -/
inductive Step : Script α × Machine δ → Script α × Machine δ → Prop
  | read {path : String} {next : Except FileError ByteArray → Script α} {h : Machine δ} :
      Step (.readFile path next, h) (next (FileSystem.read h.disk path), h)
  /-- a file that is there is never said to be missing -/
  | readRefused {path : String} {next : Except FileError ByteArray → Script α} {h : Machine δ} {e : FileError}
      (he : e ≠ .notFound) : Step (.readFile path next, h) (next (.error e), h)
  | makeDir {path : String} {next : Except FileError Unit → Script α} {h : Machine δ} {d : δ}
      (hd : FileSystem.MakesDir path h.disk d) :
      Step (.makeDirs path next, h) (.makeDirs path next, { h with disk := d })
  | makeDirs {path : String} {next : Except FileError Unit → Script α} {h : Machine δ} :
      Step (.makeDirs path next, h)
        (next (FileSystem.makeDirs h.disk path).1, { h with disk := (FileSystem.makeDirs h.disk path).2 })
  | makeDirsRefused {path : String} {next : Except FileError Unit → Script α} {h : Machine δ} {e : FileError} :
      Step (.makeDirs path next, h) (next (.error e), h)
  /-- the first bytes are written -/
  | writePart {path : String} {bytes : ByteArray} {next : Except FileError Unit → Script α} {h : Machine δ}
      {d : δ} (n : Nat) (hw : FileSystem.write h.disk path (bytes.extract 0 n) = .ok d) :
      Step (.writeFile path bytes next, h) (.writeFile path bytes next, { h with disk := d })
  | write {path : String} {bytes : ByteArray} {next : Except FileError Unit → Script α} {h : Machine δ} :
      Step (.writeFile path bytes next, h)
        (next (h.attempt (FileSystem.write h.disk path bytes)).1,
          (h.attempt (FileSystem.write h.disk path bytes)).2)
  | writeRefused {path : String} {bytes : ByteArray} {next : Except FileError Unit → Script α} {h : Machine δ}
      {e : FileError} : Step (.writeFile path bytes next, h) (next (.error e), h)
  | rename {source target : String} {next : Except FileError Unit → Script α} {h : Machine δ} :
      Step (.renameFile source target next, h)
        (next (h.attempt (FileSystem.rename h.disk source target)).1,
          (h.attempt (FileSystem.rename h.disk source target)).2)
  | renameRefused {source target : String} {next : Except FileError Unit → Script α} {h : Machine δ}
      {e : FileError} : Step (.renameFile source target next, h) (next (.error e), h)
  | drawId {next : String → Script α} {h : Machine δ} :
      Step (.drawId next, h) (next h.ids.next.1, { h with ids := h.ids.next.2 })
  | notify {notice : Notice} {next : Script α} {h : Machine δ} :
      Step (.notify notice next, h) (next, { h with notices := h.notices ++ [notice] })
  | print {stream : Stream} {text : String} {next : Script α} {h : Machine δ} :
      Step (.print stream text next, h) (next, { h with printed := h.printed ++ [(stream, text)] })

/-- Is a script about to print something or to give notice of something? -/
def Speaks : Script α → Prop
  | .notify .. => True
  | .print .. => True
  | _ => False

instance : (s : Script α) → Decidable s.Speaks
  | .done _ => inferInstanceAs (Decidable False)
  | .readFile .. => inferInstanceAs (Decidable False)
  | .makeDirs .. => inferInstanceAs (Decidable False)
  | .writeFile .. => inferInstanceAs (Decidable False)
  | .renameFile .. => inferInstanceAs (Decidable False)
  | .drawId _ => inferInstanceAs (Decidable False)
  | .notify .. => inferInstanceAs (Decidable True)
  | .print .. => inferInstanceAs (Decidable True)

/-- What a script has come to, if it is done. -/
def result? : Script α → Option α
  | .done a => some a
  | _ => none

theorem eq_done_of_result? {s : Script α} {a : α} (h : s.result? = some a) : s = .done a := by
  cases s with
  | done b => exact congrArg Script.done (Option.some.inj h)
  | readFile path next => cases h
  | makeDirs path next => cases h
  | writeFile path bytes next => cases h
  | renameFile source target next => cases h
  | drawId next => cases h
  | notify notice next => cases h
  | print stream text next => cases h

/-- Where a script and its machine can have got to. -/
abbrev Reaches : Script α × Machine δ → Script α × Machine δ → Prop := ReflTransGen Step

/-- The run of a script is one of the ways it can go. -/
theorem reaches_run (s : Script α) (h : Machine δ) : Reaches (s, h) (.done (s.run h).1, (s.run h).2) := by
  induction s generalizing h with
  | done a => exact .refl
  | readFile path next ih => exact .head .read (ih _ h)
  | makeDirs path next ih => exact .head .makeDirs (ih _ _)
  | writeFile path bytes next ih => exact .head .write (ih _ _)
  | renameFile source target next ih => exact .head .rename (ih _ _)
  | drawId next ih => exact .head .drawId (ih _ _)
  | notify notice next ih => exact .head .notify (ih _)
  | print stream text next ih => exact .head .print (ih _)

/-! ## One script after another -/

/-- Has a script something left to do? -/
def Pending (s : Script α) : Prop := ∀ a, s ≠ .done a

theorem pending_or_done (s : Script α) : s.Pending ∨ ∃ a, s = .done a :=
  (Classical.em (∃ a, s = .done a)).symm.imp_left fun hs a ha => hs ⟨a, ha⟩

theorem Pending.bind {s : Script α} (hs : s.Pending) (f : α → Script β) : (s.bind f).Pending := by
  cases s with
  | done a => exact absurd rfl (hs a)
  | readFile path next => exact fun b hb => (nomatch hb)
  | makeDirs path next => exact fun b hb => (nomatch hb)
  | writeFile path bytes next => exact fun b hb => (nomatch hb)
  | renameFile source target next => exact fun b hb => (nomatch hb)
  | drawId next => exact fun b hb => (nomatch hb)
  | notify notice next => exact fun b hb => (nomatch hb)
  | print stream text next => exact fun b hb => (nomatch hb)

theorem reaches_done {a : α} {t : Script α} {h h' : Machine δ} (hr : Reaches (.done a, h) (t, h')) :
    t = .done a ∧ h' = h := by
  rcases hr.cases_head with heq | ⟨mid, hs, -⟩
  · cases heq; exact ⟨rfl, rfl⟩
  · cases hs

/-- As long as the first script is pending, a step is one of its steps. -/
theorem step_bind {s : Script α} {f : α → Script β} {t : Script β} {h h' : Machine δ} (hp : s.Pending)
    (hs : Step (s.bind f, h) (t, h')) : ∃ s', t = s'.bind f ∧ Step (s, h) (s', h') := by
  cases s with
  | done a => exact absurd rfl (hp a)
  | readFile path next =>
    cases hs with
    | read => exact ⟨_, rfl, .read⟩
    | readRefused he => exact ⟨_, rfl, .readRefused he⟩
  | makeDirs path next =>
    cases hs with
    | makeDir hd => exact ⟨.makeDirs path next, rfl, .makeDir hd⟩
    | makeDirs => exact ⟨_, rfl, .makeDirs⟩
    | makeDirsRefused => exact ⟨_, rfl, .makeDirsRefused⟩
  | writeFile path bytes next =>
    cases hs with
    | writePart n hw => exact ⟨.writeFile path bytes next, rfl, .writePart n hw⟩
    | write => exact ⟨_, rfl, .write⟩
    | writeRefused => exact ⟨_, rfl, .writeRefused⟩
  | renameFile source target next =>
    cases hs with
    | rename => exact ⟨_, rfl, .rename⟩
    | renameRefused => exact ⟨_, rfl, .renameRefused⟩
  | drawId next => cases hs with | drawId => exact ⟨_, rfl, .drawId⟩
  | notify notice next => cases hs with | notify => exact ⟨_, rfl, .notify⟩
  | print stream text next => cases hs with | print => exact ⟨_, rfl, .print⟩

/-- A script that goes on with what another comes to is stopped in the other or after it. -/
theorem reaches_bind {s : Script α} {f : α → Script β} {t : Script β} {h h' : Machine δ}
    (hr : Reaches (s.bind f, h) (t, h')) :
    (∃ s', s'.Pending ∧ t = s'.bind f ∧ Reaches (s, h) (s', h')) ∨
      ∃ a h₁, Reaches (s, h) (.done a, h₁) ∧ Reaches (f a, h₁) (t, h') := by
  generalize hstart : (s.bind f, h) = start at hr
  induction hr using ReflTransGen.head_induction_on generalizing s h with
  | refl =>
    cases hstart
    rcases s.pending_or_done with hp | ⟨a, rfl⟩
    · exact .inl ⟨s, hp, rfl, .refl⟩
    · exact .inr ⟨a, _, .refl, .refl⟩
  | @head start mid hs hr ih =>
    cases hstart
    obtain ⟨u, h₁⟩ := mid
    rcases s.pending_or_done with hp | ⟨a, rfl⟩
    · -- the step is one of the first script
      obtain ⟨s', rfl, hs'⟩ := step_bind hp hs
      rcases ih rfl with ⟨s'', hp'', ht, hr''⟩ | ⟨a, h₂, hr₁, hr₂⟩
      · exact .inl ⟨s'', hp'', ht, .head hs' hr''⟩
      · exact .inr ⟨a, h₂, .head hs' hr₁, hr₂⟩
    · exact .inr ⟨a, _, .refl, .head hs hr⟩

/-- How a machine answers what it does not allow. -/
def denied : FileError := .other 1 "Operation not permitted"

/-- One step of a machine that does what it is asked to, or denies it. -/
def advance (grants : Bool) : Script α → Machine δ → Script α × Machine δ
  | .done a, h => (.done a, h)
  | .readFile path next, h => (next (if grants then FileSystem.read h.disk path else .error denied), h)
  | .makeDirs path next, h =>
    if grants then (next (FileSystem.makeDirs h.disk path).1, { h with disk := (FileSystem.makeDirs h.disk path).2 })
    else (next (.error denied), h)
  | .writeFile path bytes next, h =>
    if grants then
      (next (h.attempt (FileSystem.write h.disk path bytes)).1, (h.attempt (FileSystem.write h.disk path bytes)).2)
    else (next (.error denied), h)
  | .renameFile source target next, h =>
    if grants then
      (next (h.attempt (FileSystem.rename h.disk source target)).1,
        (h.attempt (FileSystem.rename h.disk source target)).2)
    else (next (.error denied), h)
  | .drawId next, h => (next h.ids.next.1, { h with ids := h.ids.next.2 })
  | .notify notice next, h => (next, { h with notices := h.notices ++ [notice] })
  | .print stream text next, h => (next, { h with printed := h.printed ++ [(stream, text)] })

/-- Where some steps lead to. -/
def follow : List Bool → Script α → Machine δ → Script α × Machine δ
  | [], s, h => (s, h)
  | grants :: rest, s, h => follow rest (s.advance grants h).1 (s.advance grants h).2

theorem reaches_advance (grants : Bool) (s : Script α) (h : Machine δ) : Reaches (s, h) (s.advance grants h) := by
  cases s with
  | done a => exact .refl
  | readFile path next =>
    cases grants
    · exact .single (.readRefused nofun)
    · exact .single .read
  | makeDirs path next =>
    cases grants
    · exact .single .makeDirsRefused
    · exact .single .makeDirs
  | writeFile path bytes next =>
    cases grants
    · exact .single .writeRefused
    · exact .single .write
  | renameFile source target next =>
    cases grants
    · exact .single .renameRefused
    · exact .single .rename
  | drawId next => exact .single .drawId
  | notify notice next => exact .single .notify
  | print stream text next => exact .single .print

theorem reaches_follow (steps : List Bool) (s : Script α) (h : Machine δ) : Reaches (s, h) (follow steps s h) := by
  induction steps generalizing s h with
  | nil => exact .refl
  | cons grants rest ih => exact (reaches_advance grants s h).trans (ih _ _)

/-! ## Requests -/

/-- Some of the directories that some paths ask for have been made. -/
abbrev Grows (paths : List String) : δ → δ → Prop :=
  ReflTransGen fun d d' => ∃ path ∈ paths, FileSystem.MakesDir path d d'

/-- Something has been written to a path. -/
def Writes (path : String) (d d' : δ) : Prop := ∃ bytes, FileSystem.write d path bytes = .ok d'

theorem Grows.mono {paths paths' : List String} {d d' : δ} (h : Grows paths d d') (hsub : paths ⊆ paths') :
    Grows paths' d d' :=
  ReflTransGen.mono (fun _ _ ⟨path, hpath, hm⟩ => ⟨path, hsub hpath, hm⟩) _ _ h

theorem grows_makeDirs (d : δ) (path : String) : Grows [path] d (FileSystem.makeDirs d path).2 :=
  ReflTransGen.mono (fun _ _ hm => ⟨path, List.mem_singleton_self path, hm⟩) _ _ (FileSystem.steps_makeDirs d path)

/-- A script that makes directories has made some of them, and nothing else. -/
theorem reaches_ensureDirs {path : String} {t : Script (Except FileError Unit)} {h h' : Machine δ}
    (hr : Reaches (ensureDirs path, h) (t, h')) : Grows [path] h.disk h'.disk := by
  generalize hstart : (ensureDirs path, h) = start at hr
  induction hr using ReflTransGen.head_induction_on generalizing h with
  | refl => cases hstart; exact .refl
  | head hs hr ih =>
    cases hstart
    cases hs with
    | makeDir hd => exact .head ⟨path, List.mem_singleton_self path, hd⟩ (ih rfl)
    | makeDirs =>
      obtain ⟨-, rfl⟩ := reaches_done hr
      exact grows_makeDirs _ path
    | makeDirsRefused =>
      obtain ⟨-, rfl⟩ := reaches_done hr
      exact .refl

/-- A script that writes a file has written to it, and if all is well, it has written the whole of it in the end. -/
theorem reaches_write {target : String} {bytes : ByteArray} {t : Script (Except FileError Unit)}
    {h h' : Machine δ} (hr : Reaches (.writeFile target bytes .done, h) (t, h')) :
    ReflTransGen (Writes target) h.disk h'.disk ∧
      (t = .done (.ok ()) → ∃ d, ReflTransGen (Writes target) h.disk d ∧
        FileSystem.write d target bytes = .ok h'.disk) := by
  generalize hstart : (Script.writeFile target bytes Script.done, h) = start at hr
  induction hr using ReflTransGen.head_induction_on generalizing h with
  | refl => cases hstart; exact ⟨.refl, fun h => (nomatch h)⟩
  | head hs hr ih =>
    cases hstart
    cases hs with
    | writePart n hw =>
      obtain ⟨hrest, hdone⟩ := ih rfl
      refine ⟨.head ⟨_, hw⟩ hrest, fun ht => ?_⟩
      obtain ⟨d, hd, hlast⟩ := hdone ht
      exact ⟨d, .head ⟨_, hw⟩ hd, hlast⟩
    | write =>
      cases hw : FileSystem.write h.disk target bytes with
      | error e =>
        rw [hw] at hr
        obtain ⟨rfl, rfl⟩ := reaches_done hr
        exact ⟨.refl, fun h => (nomatch h)⟩
      | ok d =>
        rw [hw] at hr
        obtain ⟨rfl, rfl⟩ := reaches_done hr
        exact ⟨.single ⟨_, hw⟩, fun _ => ⟨_, .refl, hw⟩⟩
    | writeRefused =>
      obtain ⟨rfl, rfl⟩ := reaches_done hr
      exact ⟨.refl, fun h => (nomatch h)⟩

/-- A file that is moved has been moved or not. -/
theorem reaches_rename {source target : String} {t : Script (Except FileError Unit)} {h h' : Machine δ}
    (hr : Reaches (rename source target, h) (t, h')) :
    h' = h ∧ t ≠ .done (.ok ()) ∨ t = .done (.ok ()) ∧ FileSystem.rename h.disk source target = .ok h'.disk := by
  rcases hr.cases_head with heq | ⟨mid, hs, hr⟩
  · cases heq
    exact .inl ⟨rfl, fun h => (nomatch h)⟩
  · cases hs with
    | rename =>
      cases hm : FileSystem.rename h.disk source target with
      | error e =>
        rw [hm] at hr
        obtain ⟨rfl, rfl⟩ := reaches_done hr
        exact .inl ⟨rfl, fun h => (nomatch h)⟩
      | ok d =>
        rw [hm] at hr
        obtain ⟨rfl, rfl⟩ := reaches_done hr
        exact .inr ⟨rfl, rfl⟩
    | renameRefused =>
      obtain ⟨rfl, rfl⟩ := reaches_done hr
      exact .inl ⟨rfl, fun h => (nomatch h)⟩

theorem reaches_read {path : String} {t : Script (Except FileError ByteArray)} {h h' : Machine δ}
    (hr : Reaches (Script.read path, h) (t, h')) : h' = h := by
  rcases hr.cases_head with heq | ⟨mid, hs, hr⟩
  · cases heq; rfl
  · cases hs with
    | read => exact (reaches_done hr).2
    | readRefused he => exact (reaches_done hr).2

/-- A text is read as the file holds it, unless the host refuses. -/
theorem reaches_readText {path : String} {t : Script (Except FileError String)} {h h' : Machine δ}
    (hr : Reaches (readText path, h) (t, h')) :
    h' = h ∧ ∀ r, t = .done r →
      r = (FileSystem.read h.disk path).bind textOf ∨ ∃ e, e ≠ .notFound ∧ r = .error e := by
  rw [readText_eq] at hr
  rcases hr.cases_head with heq | ⟨mid, hs, hr⟩
  · cases heq
    exact ⟨rfl, fun r h => (nomatch h)⟩
  · cases hs with
    | read =>
      obtain ⟨rfl, rfl⟩ := reaches_done hr
      exact ⟨rfl, fun r h => by cases h; exact .inl rfl⟩
    | @readRefused _ _ _ e he =>
      obtain ⟨rfl, rfl⟩ := reaches_done hr
      exact ⟨rfl, fun r h => by cases h; exact .inr ⟨e, he, rfl⟩⟩

/-! ## Scripts that leave the disk alone -/

/-- Does a script ask for nothing but identities, apart from giving notices and printing? -/
def Local : Script α → Prop
  | .done _ => True
  | .drawId next => ∀ id, (next id).Local
  | .notify _ next => next.Local
  | .print _ _ next => next.Local
  | _ => False

theorem Local.bind {s : Script α} (hs : s.Local) {f : α → Script β} (hf : ∀ a, (f a).Local) :
    (s.bind f).Local := by
  induction s with
  | done a => exact hf a
  | drawId next ih => exact fun id => ih id (hs id)
  | notify notice next ih => exact ih hs
  | print stream text next ih => exact ih hs
  | readFile path next => exact hs.elim
  | makeDirs path next => exact hs.elim
  | writeFile path bytes next => exact hs.elim
  | renameFile source target next => exact hs.elim

theorem Local.step {s t : Script α} {h h' : Machine δ} (hs : s.Local) (hstep : Step (s, h) (t, h')) :
    t.Local ∧ h'.disk = h.disk ∧ t.run h' = s.run h := by
  cases hstep with
  | drawId => exact ⟨hs _, rfl, rfl⟩
  | notify => exact ⟨hs, rfl, rfl⟩
  | print => exact ⟨hs, rfl, rfl⟩
  | read => exact hs.elim
  | readRefused he => exact hs.elim
  | makeDir hd => exact hs.elim
  | makeDirs => exact hs.elim
  | makeDirsRefused => exact hs.elim
  | writePart n hw => exact hs.elim
  | write => exact hs.elim
  | writeRefused => exact hs.elim
  | rename => exact hs.elim
  | renameRefused => exact hs.elim

/-- Such a script can go only one way. -/
theorem Local.reaches {s t : Script α} {h h' : Machine δ} (hs : s.Local) (hr : Reaches (s, h) (t, h')) :
    t.Local ∧ h'.disk = h.disk ∧ t.run h' = s.run h := by
  generalize hend : (t, h') = final at hr
  induction hr generalizing t h' with
  | refl => cases hend; exact ⟨hs, rfl, rfl⟩
  | @tail mid final hr hstep ih =>
    cases hend
    obtain ⟨u, h₁⟩ := mid
    obtain ⟨hu, hdisk, hrun⟩ := ih rfl
    obtain ⟨ht, hdisk', hrun'⟩ := hu.step hstep
    exact ⟨ht, hdisk'.trans hdisk, hrun'.trans hrun⟩

/-- Nothing can stand in the way of such a script. -/
theorem Local.unhindered {s : Script α} (hs : s.Local) (h : Machine δ) : s.unhindered h := by
  induction s generalizing h with
  | done a => rfl
  | drawId next ih => exact ih _ (hs _) _
  | notify notice next ih => exact ih hs _
  | print stream text next ih => exact ih hs _
  | readFile path next => exact hs.elim
  | makeDirs path next => exact hs.elim
  | writeFile path bytes next => exact hs.elim
  | renameFile source target next => exact hs.elim

/-- Where what follows a script leaves the disk alone, the script settles the disk and what all comes to. -/
theorem reaches_andThen_local {s : Script α} {f : α → Script β} {t : Script β} {h h' : Machine δ}
    (hr : Reaches (s >>= f, h) (t, h')) (hf : ∀ a, (f a).Local) :
    ∃ u h₁, Reaches (s, h) (u, h₁) ∧ h'.disk = h₁.disk ∧
      ∀ b, t = .done b → ∃ a, u = .done a ∧ ((f a).run h₁).1 = b := by
  rcases reaches_bind hr with ⟨s', hp, rfl, hs⟩ | ⟨a, h₁, hs, hr⟩
  · exact ⟨s', h', hs, rfl, fun b hb => absurd hb (hp.bind f b)⟩
  · obtain ⟨-, hdisk, hrun⟩ := (hf a).reaches hr
    refine ⟨.done a, h₁, hs, hdisk, ?_⟩
    rintro b rfl
    exact ⟨a, rfl, (congrArg Prod.fst hrun).symm⟩

end Script

end BudgetRules
