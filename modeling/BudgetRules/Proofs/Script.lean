import BudgetRules.Script

/-!
# Runs of scripts

A script that goes on with what another came to runs from the host that the other left, and is unhindered if
both are:

    (s >>= f).run h = (f (s.run h).1).run (s.run h).2                                        (run_andThen)
    (s >>= f).unhindered h ↔ s.unhindered h ∧ (f (s.run h).1).unhindered (s.run h).2   (unhindered_andThen)
-/

namespace BudgetRules.Script

variable {α β δ : Type} [FileSystem δ]

@[simp] theorem run_pure (a : α) (h : Machine δ) : (pure a : Script α).run h = (a, h) := rfl

@[simp] theorem run_andThen (s : Script α) (f : α → Script β) (h : Machine δ) :
    (s >>= f).run h = (f (s.run h).1).run (s.run h).2 := run_bind s f h

/-! ## Scripts that nothing stands in the way of -/

/-- Can every directory be made, every file be written and every file be moved that a script asks for? -/
def unhindered : Script α → Machine δ → Bool
  | .done _, _ => true
  | .readFile path next, h => (next (FileSystem.read h.disk path)).unhindered h
  | .makeDirs path next, h =>
    let (r, d) := FileSystem.makeDirs h.disk path
    r.isOk && (next r).unhindered { h with disk := d }
  | .writeFile path bytes next, h =>
    let (r, h) := h.attempt (FileSystem.write h.disk path bytes)
    r.isOk && (next r).unhindered h
  | .renameFile source target next, h =>
    let (r, h) := h.attempt (FileSystem.rename h.disk source target)
    r.isOk && (next r).unhindered h
  | .drawId next, h =>
    let (id, ids) := h.ids.next
    (next id).unhindered { h with ids := ids }
  | .notify notice next, h => next.unhindered { h with notices := h.notices ++ [notice] }
  | .print stream text next, h => next.unhindered { h with printed := h.printed ++ [(stream, text)] }

theorem unhindered_bind (s : Script α) (f : α → Script β) (h : Machine δ) :
    (s.bind f).unhindered h = (s.unhindered h && (f (s.run h).1).unhindered (s.run h).2) := by
  induction s generalizing h with
  | done a => rfl
  | readFile path next ih => exact ih _ h
  | makeDirs path next ih => exact (congrArg _ (ih _ _)).trans (Bool.and_assoc ..).symm
  | writeFile path bytes next ih => exact (congrArg _ (ih _ _)).trans (Bool.and_assoc ..).symm
  | renameFile source target next ih => exact (congrArg _ (ih _ _)).trans (Bool.and_assoc ..).symm
  | drawId next ih => exact ih _ _
  | notify notice next ih => exact ih _
  | print stream text next ih => exact ih _

theorem unhindered_andThen {s : Script α} {f : α → Script β} {h : Machine δ} :
    (s >>= f).unhindered h ↔ s.unhindered h ∧ (f (s.run h).1).unhindered (s.run h).2 := by
  show (s.bind f).unhindered h = true ↔ _
  rw [unhindered_bind, Bool.and_eq_true]

/-! ## Requests -/

theorem fromUTF8?_toUTF8 (s : String) : String.fromUTF8? s.toUTF8 = some s := dif_pos s.isValidUTF8

/-- The text of some bytes. -/
def textOf (bytes : ByteArray) : Except FileError String :=
  match String.fromUTF8? bytes with
  | some s => .ok s
  | none => .error .notText

theorem textOf_toUTF8 (s : String) : textOf s.toUTF8 = .ok s := by
  unfold textOf
  rw [fromUTF8?_toUTF8]

/-- Reading a text is one request. -/
theorem readText_eq (path : String) : readText path = .readFile path fun r => .done (r.bind textOf) := by
  refine congrArg (Script.readFile path) (funext fun r => ?_)
  rcases r with e | bytes
  · rfl
  · dsimp only [Except.bind, textOf, Script.bind]
    cases String.fromUTF8? bytes <;> rfl

theorem run_readText (path : String) (h : Machine δ) :
    (readText path).run h = ((FileSystem.read h.disk path).bind textOf, h) := by
  rw [readText_eq]
  rfl

theorem unhindered_ensureDirs {path : String} {h : Machine δ} :
    (ensureDirs path).unhindered h ↔ ∃ d, FileSystem.makeDirs h.disk path = (.ok (), d) := by
  unfold ensureDirs unhindered
  rcases FileSystem.makeDirs h.disk path with ⟨e | u, d⟩
  · exact ⟨fun hu => Bool.noConfusion hu, fun ⟨d', hd⟩ => by cases hd⟩
  · exact ⟨fun _ => ⟨d, rfl⟩, fun _ => rfl⟩

theorem unhindered_writeText {path text : String} {h : Machine δ} :
    (writeText path text).unhindered h ↔ ∃ d, FileSystem.write h.disk path text.toUTF8 = .ok d := by
  unfold writeText unhindered
  cases FileSystem.write h.disk path text.toUTF8 with
  | error e => exact ⟨fun hu => Bool.noConfusion hu, fun ⟨d', hd⟩ => by cases hd⟩
  | ok d => exact ⟨fun _ => ⟨d, rfl⟩, fun _ => rfl⟩

theorem unhindered_rename {source target : String} {h : Machine δ} :
    (rename source target).unhindered h ↔ ∃ d, FileSystem.rename h.disk source target = .ok d := by
  unfold rename unhindered
  cases FileSystem.rename h.disk source target with
  | error e => exact ⟨fun hu => Bool.noConfusion hu, fun ⟨d', hd⟩ => by cases hd⟩
  | ok d => exact ⟨fun _ => ⟨d, rfl⟩, fun _ => rfl⟩

/-! ## Requests for the files of a tree -/

theorem run_readText_of_ok {path text : String} {h : Host} (hr : h.disk.read path = .ok text.toUTF8) :
    (readText path).run h = (.ok text, h) := by
  rw [run_readText, show FileSystem.read h.disk path = _ from hr]
  exact congrArg (·, h) (textOf_toUTF8 text)

theorem run_readText_of_error {path : String} {e : FileError} {h : Host}
    (hr : h.disk.read path = .error e) : (readText path).run h = (.error e, h) := by
  rw [run_readText, show FileSystem.read h.disk path = _ from hr]
  rfl

theorem run_ensureDirs {path : String} {h : Host} {d : Disk} (hm : FileSystem.makeDirs h.disk path = (.ok (), d)) :
    (ensureDirs path).run h = (.ok (), { h with disk := d }) := by
  unfold ensureDirs run
  rw [hm]
  rfl

theorem run_writeText {path text : String} {h : Host} {d : Disk}
    (hw : h.disk.write path text.toUTF8 = .ok d) :
    (writeText path text).run h = (.ok (), { h with disk := d }) := by
  unfold writeText run
  rw [show FileSystem.write h.disk path text.toUTF8 = _ from hw]
  rfl

theorem run_writeText_of_error {path text : String} {h : Host} {e : FileError}
    (hw : h.disk.write path text.toUTF8 = .error e) : (writeText path text).run h = (.error e, h) := by
  unfold writeText run
  rw [show FileSystem.write h.disk path text.toUTF8 = _ from hw]
  rfl

theorem run_rename {source target : String} {h : Host} {d : Disk}
    (hr : h.disk.rename source target = .ok d) :
    (rename source target).run h = (.ok (), { h with disk := d }) := by
  unfold rename run
  rw [show FileSystem.rename h.disk source target = _ from hr]
  rfl

/-! ## What is printed -/

/-- Does a script print nothing to a stream, whatever its host answers? -/
def Quiet (stream : Stream) : Script α → Prop
  | .done _ => True
  | .readFile _ next => ∀ r, (next r).Quiet stream
  | .makeDirs _ next => ∀ r, (next r).Quiet stream
  | .writeFile _ _ next => ∀ r, (next r).Quiet stream
  | .renameFile _ _ next => ∀ r, (next r).Quiet stream
  | .drawId next => ∀ id, (next id).Quiet stream
  | .notify _ next => next.Quiet stream
  | .print other _ next => other ≠ stream ∧ next.Quiet stream

theorem Quiet.bind {stream : Stream} {s : Script α} (hs : s.Quiet stream) {f : α → Script β}
    (hf : ∀ a, (f a).Quiet stream) : (s >>= f).Quiet stream := by
  show (s.bind f).Quiet stream
  induction s with
  | done a => exact hf a
  | readFile path next ih => exact fun r => ih r (hs r)
  | makeDirs path next ih => exact fun r => ih r (hs r)
  | writeFile path bytes next ih => exact fun r => ih r (hs r)
  | renameFile source target next ih => exact fun r => ih r (hs r)
  | drawId next ih => exact fun id => ih id (hs id)
  | notify notice next ih => exact ih hs
  | print other text next ih => exact ⟨hs.1, ih hs.2⟩

end BudgetRules.Script
