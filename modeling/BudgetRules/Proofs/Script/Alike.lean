import BudgetRules.Proofs.Script

/-!
# Machines that answer alike

Where the disks of two machines answer alike, and go on to do so whatever is changed, a script comes to the same on both
and leaves them so:

    Simulates R → h.Alike R k → (s.run h).1 = (s.run k).1 ∧ (s.run h).2.Alike R (s.run k).2           (Alike.run)
-/

namespace BudgetRules

namespace FileSystem

variable {δ ε : Type} [FileSystem δ] [FileSystem ε] {R : δ → ε → Prop} {d : δ} {e : ε}

/-- Two answers to one request for a change: it can be done and leaves related disks, or it cannot be done for the same
reason. -/
inductive Answers (R : δ → ε → Prop) : Except FileError δ → Except FileError ε → Prop
  | done {d : δ} {e : ε} (h : R d e) : Answers R (.ok d) (.ok e)
  | refused (error : FileError) : Answers R (.error error) (.error error)

/-- Related disks answer alike. -/
structure Simulates (R : δ → ε → Prop) : Prop where
  read : ∀ {d e}, R d e → ∀ path, FileSystem.read d path = FileSystem.read e path
  isDirectory : ∀ {d e}, R d e → ∀ path, FileSystem.isDirectory d path = FileSystem.isDirectory e path
  makeDir : ∀ {d e}, R d e → ∀ path, Answers R (FileSystem.makeDir d path) (FileSystem.makeDir e path)
  write : ∀ {d e}, R d e → ∀ path bytes, Answers R (FileSystem.write d path bytes) (FileSystem.write e path bytes)
  rename : ∀ {d e}, R d e → ∀ source target,
    Answers R (FileSystem.rename d source target) (FileSystem.rename e source target)

namespace Simulates

theorem settle (hR : Simulates R) (h : R d e) (path : String) {r : Except FileError δ} {r' : Except FileError ε}
    (hr : Answers R r r') :
    (settle d path r).1 = (settle e path r').1 ∧ R (settle d path r).2 (settle e path r').2 := by
  cases hr with
  | done h' => exact ⟨rfl, h'⟩
  | refused error =>
    unfold FileSystem.settle
    rw [hR.isDirectory h path]
    exact ⟨rfl, h⟩

theorem makeAll (hR : Simulates R) (h : R d e) (paths : List String) :
    (makeAll d paths).1 = (makeAll e paths).1 ∧ R (makeAll d paths).2 (makeAll e paths).2 := by
  induction paths generalizing d e with
  | nil => exact ⟨rfl, h⟩
  | cons path above ih =>
    unfold FileSystem.makeAll
    split
    · exact ⟨rfl, h⟩
    · have hmade := hR.makeDir h path
      generalize FileSystem.makeDir d path = r at hmade
      generalize FileSystem.makeDir e path = r' at hmade
      cases hmade with
      | done h' => exact hR.settle h path (.done h')
      | refused error =>
        by_cases herror : error = .notFound
        · -- those above have been made first, or the first that cannot be is what all comes to
          obtain ⟨habove, hdisks⟩ := ih h
          rw [herror]
          simp only
          generalize FileSystem.makeAll d above = a at habove hdisks
          generalize FileSystem.makeAll e above = b at habove hdisks
          obtain ⟨r, d₁⟩ := a
          obtain ⟨r', e₁⟩ := b
          obtain rfl : r = r' := habove
          cases r with
          | ok _ => exact hR.settle hdisks path (hR.makeDir hdisks path)
          | error _ => exact ⟨rfl, hdisks⟩
        · split
          · next heq => exact absurd (Except.error.inj heq) herror
          · split
            · next heq => exact absurd (Except.error.inj heq) herror
            · exact hR.settle h path (.refused error)

theorem makeDirs (hR : Simulates R) (h : R d e) (path : String) :
    (makeDirs d path).1 = (makeDirs e path).1 ∧ R (makeDirs d path).2 (makeDirs e path).2 :=
  hR.makeAll h _

end Simulates

end FileSystem

namespace Machine

open FileSystem (Simulates Answers)

variable {δ ε α : Type} {R : δ → ε → Prop} {h : Machine δ} {k : Machine ε}

/-- The disks of two machines are related, and all else is the same. -/
structure Alike (R : δ → ε → Prop) (h : Machine δ) (k : Machine ε) : Prop where
  disk : R h.disk k.disk
  ids : h.ids = k.ids
  notices : h.notices = k.notices
  printed : h.printed = k.printed

theorem Alike.attempt (hk : h.Alike R k) {r : Except FileError δ} {r' : Except FileError ε} (hr : Answers R r r') :
    (h.attempt r).1 = (k.attempt r').1 ∧ (h.attempt r).2.Alike R (k.attempt r').2 := by
  cases hr with
  | done h' => exact ⟨rfl, h', hk.ids, hk.notices, hk.printed⟩
  | refused error => exact ⟨rfl, hk⟩

variable [FileSystem δ] [FileSystem ε]

/-- A script comes to the same on both machines. -/
theorem Alike.run (hR : Simulates R) (s : Script α) (hk : h.Alike R k) :
    (s.run h).1 = (s.run k).1 ∧ (s.run h).2.Alike R (s.run k).2 := by
  induction s generalizing h k with
  | done a => exact ⟨rfl, hk⟩
  | readFile path next ih =>
    unfold Script.run
    rw [hR.read hk.disk path]
    exact ih _ hk
  | makeDirs path next ih =>
    obtain ⟨hanswer, hdisk⟩ := hR.makeDirs hk.disk path
    unfold Script.run
    simp only [hanswer]
    exact ih _ ⟨hdisk, hk.ids, hk.notices, hk.printed⟩
  | writeFile path bytes next ih =>
    obtain ⟨hanswer, hafter⟩ := hk.attempt (hR.write hk.disk path bytes)
    unfold Script.run
    simp only [hanswer]
    exact ih _ hafter
  | renameFile source target next ih =>
    obtain ⟨hanswer, hafter⟩ := hk.attempt (hR.rename hk.disk source target)
    unfold Script.run
    simp only [hanswer]
    exact ih _ hafter
  | drawId next ih =>
    unfold Script.run
    simp only [hk.ids]
    exact ih _ ⟨hk.disk, rfl, hk.notices, hk.printed⟩
  | notify notice next ih => exact ih ⟨hk.disk, hk.ids, congrArg (· ++ _) hk.notices, hk.printed⟩
  | print stream text next ih => exact ih ⟨hk.disk, hk.ids, hk.notices, congrArg (· ++ _) hk.printed⟩

end Machine

end BudgetRules
