import BudgetRules.Proofs.Disk.Elsewhere
import BudgetRules.Proofs.Disk.Steps

/-!
# What a script asks of a disk

Apart from reading, a script can ask its host to make directories and to write and move files.  What it asks for
on a run settles what the run leaves on the disk:

    (s >>= f).requests h = s.requests h ++ (f (s.run h).1).requests (s.run h).2           (requests_andThen)
    (s.run h).2.disk = (s.requests h).foldl DiskRequest.perform h.disk                           (disk_run)
-/

namespace BudgetRules

/-- What a script can ask its host to change on the disk. -/
inductive DiskRequest
  | makeDirs (path : String)
  | writeFile (path : String) (bytes : ByteArray)
  | renameFile (source target : String)

/-- The disk after a request, as it was if the request cannot be met. -/
def DiskRequest.perform {δ : Type} [FileSystem δ] (d : δ) : DiskRequest → δ
  | .makeDirs path => (FileSystem.makeDirs d path).2
  | .writeFile path bytes => (FileSystem.write d path bytes).toOption.getD d
  | .renameFile source target => (FileSystem.rename d source target).toOption.getD d

namespace Script

variable {α β δ : Type} [FileSystem δ]

/-- What a run asks to change on the disk, met or refused, in its order. -/
def requests : Script α → Machine δ → List DiskRequest
  | .done _, _ => []
  | .readFile path next, h => (next (FileSystem.read h.disk path)).requests h
  | .makeDirs path next, h =>
    let (r, d) := FileSystem.makeDirs h.disk path
    .makeDirs path :: (next r).requests { h with disk := d }
  | .writeFile path bytes next, h =>
    let (r, h) := h.attempt (FileSystem.write h.disk path bytes)
    .writeFile path bytes :: (next r).requests h
  | .renameFile source target next, h =>
    let (r, h) := h.attempt (FileSystem.rename h.disk source target)
    .renameFile source target :: (next r).requests h
  | .drawId next, h =>
    let (id, ids) := h.ids.next
    (next id).requests { h with ids := ids }
  | .notify notice next, h => next.requests { h with notices := h.notices ++ [notice] }
  | .print stream text next, h => next.requests { h with printed := h.printed ++ [(stream, text)] }

@[simp] theorem requests_pure (a : α) (h : Machine δ) : (pure a : Script α).requests h = [] := rfl

theorem requests_bind (s : Script α) (f : α → Script β) (h : Machine δ) :
    (s.bind f).requests h = s.requests h ++ (f (s.run h).1).requests (s.run h).2 := by
  induction s generalizing h with
  | done a => rfl
  | readFile path next ih => exact ih _ h
  | makeDirs path next ih => exact congrArg _ (ih _ _)
  | writeFile path bytes next ih => exact congrArg _ (ih _ _)
  | renameFile source target next ih => exact congrArg _ (ih _ _)
  | drawId next ih => exact ih _ _
  | notify notice next ih => exact ih _
  | print stream text next ih => exact ih _

@[simp] theorem requests_andThen (s : Script α) (f : α → Script β) (h : Machine δ) :
    (s >>= f).requests h = s.requests h ++ (f (s.run h).1).requests (s.run h).2 := requests_bind s f h

omit [FileSystem δ] in
theorem disk_attempt (h : Machine δ) (r : Except FileError δ) :
    (h.attempt r).2.disk = r.toOption.getD h.disk := by
  cases r <;> rfl

/-- What is left on the disk is what the requests have made of it. -/
theorem disk_run (s : Script α) (h : Machine δ) :
    (s.run h).2.disk = (s.requests h).foldl DiskRequest.perform h.disk := by
  induction s generalizing h with
  | done a => rfl
  | readFile path next ih => exact ih _ h
  | makeDirs path next ih => exact ih _ _
  | writeFile path bytes next ih =>
    have hstep := disk_attempt h (FileSystem.write h.disk path bytes)
    generalize hr : h.attempt (FileSystem.write h.disk path bytes) = r at hstep
    unfold run requests
    simp only [hr, List.foldl_cons, DiskRequest.perform]
    rw [ih, hstep]
  | renameFile source target next ih =>
    have hstep := disk_attempt h (FileSystem.rename h.disk source target)
    generalize hr : h.attempt (FileSystem.rename h.disk source target) = r at hstep
    unfold run requests
    simp only [hr, List.foldl_cons, DiskRequest.perform]
    rw [ih, hstep]
  | drawId next ih => exact ih _ _
  | notify notice next ih => exact ih _
  | print stream text next ih => exact ih _

/-- A host that is asked to write at most one file leaves the files at all paths that lead elsewhere. -/
theorem file?_run_elsewhere {p : Script α} {h : Host} {target path : String} {bytes : ByteArray}
    (hp : p.requests h = [] ∨ p.requests h = [.writeFile target bytes])
    (hne : h.disk.locate path ≠ h.disk.locate target) :
    (p.run h).2.disk.file? path = h.disk.file? path := by
  rw [disk_run]
  rcases hp with hnone | hone
  · rw [hnone]
    rfl
  · rw [hone]
    show (((h.disk.write target bytes).toOption.getD h.disk).file? path) = _
    cases hw : h.disk.write target bytes with
    | error e => rfl
    | ok d => exact Disk.file?_write_elsewhere hw hne

/-! ## Scripts that ask for no changes -/

theorem Local.requests {s : Script α} (hs : s.Local) (h : Machine δ) : s.requests h = [] := by
  induction s generalizing h with
  | done a => rfl
  | drawId next ih => exact ih _ (hs _) _
  | notify notice next ih => exact ih hs _
  | print stream text next ih => exact ih hs _
  | readFile path next => exact hs.elim
  | makeDirs path next => exact hs.elim
  | writeFile path bytes next => exact hs.elim
  | renameFile source target next => exact hs.elim

theorem requests_readText (path : String) (h : Machine δ) : (readText path).requests h = [] := by
  rw [readText_eq]
  rfl

theorem local_tellAll (notices : List Notice) : (tellAll notices).Local := by
  induction notices with
  | nil => exact True.intro
  | cons n rest ih => exact ih

theorem requests_writeText (path text : String) (h : Machine δ) :
    (writeText path text).requests h = [.writeFile path text.toUTF8] := rfl

end Script

end BudgetRules
