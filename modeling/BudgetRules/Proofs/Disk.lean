import BudgetRules.Disk
import BudgetRules.Proofs.SortedMap

/-!
# What operations leave on a disk

A path is looked up through directories, and no file operation takes a directory away.  So a path leads to
the same place after files have been written and moved, and what was put there is read back:

    d.write path bytes = .ok d' → d'.read path = .ok bytes                                       (read_write)
    d.rename source target = .ok d' → d.read source = .ok bytes → d'.read target = .ok bytes     (read_rename)
-/

namespace BudgetRules.Disk

variable {d d' : Disk} {p q : Place} {path : String} {bytes : ByteArray}

/-! ## Places -/

theorem node?_of_lasting (h : p.Lasting) : d.node? p = some .directory := if_pos h

theorem node?_of_not_lasting (h : ¬p.Lasting) : d.node? p = d.nodes.get? p.path := if_neg h

theorem not_lasting_of_node? (h : d.node? p ≠ some .directory) : ¬p.Lasting := fun hl =>
  h (node?_of_lasting hl)

theorem node?_empty (h : ¬p.Lasting) : empty.node? p = none := by
  rw [node?_of_not_lasting h]
  exact SortedMap.get?_empty p.path

theorem node?_put_self (h : ¬p.Lasting) (n : Node) : (d.put p n).node? p = some n := by
  rw [node?_of_not_lasting h]
  unfold put
  rw [SortedMap.get?_insert, if_pos rfl]

theorem node?_put_of_ne (h : q.path ≠ p.path) (n : Node) : (d.put p n).node? q = d.node? q := by
  unfold node? put
  rw [SortedMap.get?_insert, if_neg h]

theorem node?_erase_of_ne (h : q.path ≠ p.path) : (d.erase p).node? q = d.node? q := by
  unfold node? erase
  rw [SortedMap.get?_erase, if_neg h]

theorem node?_erase_self (h : ¬p.Lasting) : (d.erase p).node? p = none := by
  rw [node?_of_not_lasting h]
  unfold erase
  rw [SortedMap.get?_erase, if_pos rfl]

theorem node?_erase_ne_directory (h : d.node? q ≠ some .directory) :
    (d.erase p).node? q ≠ some .directory := by
  by_cases hqp : q.path = p.path
  · rw [node?_of_not_lasting (not_lasting_of_node? h)]
    unfold erase
    rw [SortedMap.get?_erase, if_pos hqp]
    intro h
    cases h
  · rw [node?_erase_of_ne hqp]
    exact h

/-- A place is no other than one where something else stands. -/
theorem path_ne_of_node? (hq : d.node? q = some .directory) (hl : ¬q.Lasting)
    (hp : d.node? p ≠ some .directory) : q.path ≠ p.path := by
  intro heq
  rw [node?_of_not_lasting (not_lasting_of_node? hp), ← heq, ← node?_of_not_lasting hl] at hp
  exact hp hq

/-! ## Lookup -/

/-- Whatever is a directory stays one. -/
def Keeps (d d' : Disk) : Prop := ∀ p, d.node? p = some .directory → d'.node? p = some .directory

theorem Keeps.trans {d'' : Disk} (h : d.Keeps d') (h' : d'.Keeps d'') : d.Keeps d'' := fun p hp =>
  h' p (h p hp)

theorem keeps_put (h : d.node? p ≠ some .directory) (n : Node) : d.Keeps (d.put p n) := by
  intro q hq
  by_cases hl : q.Lasting
  · exact node?_of_lasting hl
  · rw [node?_put_of_ne (path_ne_of_node? hq hl h), hq]

theorem keeps_erase (h : d.node? p ≠ some .directory) : d.Keeps (d.erase p) := by
  intro q hq
  by_cases hl : q.Lasting
  · exact node?_of_lasting hl
  · rw [node?_erase_of_ne (path_ne_of_node? hq hl h), hq]

theorem Keeps.walk (h : d.Keeps d') {steps : List String} (hw : d.walk p steps = .ok q) :
    d'.walk p steps = .ok q := by
  induction steps generalizing p with
  | nil => exact hw
  | cons s rest ih =>
    unfold Disk.walk at hw ⊢
    cases hn : d.node? p with
    | none => rw [hn] at hw; cases hw
    | some n =>
      cases n with
      | file bytes => rw [hn] at hw; cases hw
      | directory =>
        rw [hn] at hw
        rw [h p hn]
        simp only at hw ⊢
        split at hw
        · cases hw
        · next hs => rw [if_neg hs]; exact ih hw

/-- A path leads to the same place as long as directories stay. -/
theorem Keeps.locate (h : d.Keeps d') (hp : d.locate path = .ok p) : d'.locate path = .ok p := by
  unfold Disk.locate at hp ⊢
  split at hp
  · cases hp
  · exact h.walk hp

/-! ## Operations that work -/

theorem read_of_locate (hp : d.locate path = .ok p) :
    d.read path =
      match d.node? p with
      | none => .error .notFound
      | some .directory => .error .isDirectory
      | some (.file bytes) => if Path.endsInSlash path then .error .notDirectory else .ok bytes := by
  unfold read
  rw [hp]
  rfl

theorem write_of_locate (hp : d.locate path = .ok p) (bytes : ByteArray) :
    d.write path bytes =
      if Path.endsInSlash path then .error .isDirectory
      else
        match d.node? p with
        | some .directory => .error .isDirectory
        | _ => .ok (d.put p (.file bytes)) := by
  unfold write
  rw [hp]
  cases Path.endsInSlash path <;> rfl

theorem makeDir_of_locate (hp : d.locate path = .ok p) :
    d.makeDir path =
      match d.node? p with
      | some _ => .error .alreadyExists
      | none => .ok (d.put p .directory) := by
  unfold makeDir
  rw [hp]
  simp only [bind, Except.bind]
  cases d.node? p <;> rfl

theorem rename_of_locate {source target : String} (hp : d.locate source = .ok p)
    (hq : d.locate target = .ok q) :
    d.rename source target =
      match d.node? p with
      | none => .error .notFound
      | some .directory => .error .isDirectory
      | some (.file bytes) =>
        if Path.endsInSlash source ∨ Path.endsInSlash target then .error .notDirectory
        else
          match d.node? q with
          | some .directory => .error .isDirectory
          | _ => .ok ((d.erase p).put q (.file bytes)) := by
  unfold rename
  rw [hp, hq]
  simp only [bind, Except.bind]
  cases d.node? p with
  | none => rfl
  | some n => cases n <;> rfl

theorem read_eq_ok :
    d.read path = .ok bytes ↔
      ∃ p, d.locate path = .ok p ∧ d.node? p = some (.file bytes) ∧ Path.endsInSlash path = false := by
  constructor
  · intro h
    cases hp : d.locate path with
    | error e => unfold read at h; rw [hp] at h; cases h
    | ok p =>
      rw [read_of_locate hp] at h
      split at h
      · cases h
      · cases h
      · next b hn =>
        split at h
        · cases h
        · next hs => cases h; exact ⟨p, rfl, hn, by simpa using hs⟩
  · rintro ⟨p, hp, hn, hs⟩
    rw [read_of_locate hp, hn, hs]
    rfl

theorem write_eq_ok (h : d.write path bytes = .ok d') :
    ∃ p, d.locate path = .ok p ∧ d.node? p ≠ some .directory ∧ Path.endsInSlash path = false ∧
      d' = d.put p (.file bytes) := by
  cases hp : d.locate path with
  | error e => unfold write at h; rw [hp] at h; cases h
  | ok p =>
    rw [write_of_locate hp] at h
    split at h
    · cases h
    · next hs =>
      split at h
      · cases h
      · next hn => cases h; exact ⟨p, rfl, hn, by simpa using hs, rfl⟩

theorem makeDir_eq_ok (h : d.makeDir path = .ok d') :
    ∃ p, d.locate path = .ok p ∧ d.node? p = none ∧ d' = d.put p .directory := by
  cases hp : d.locate path with
  | error e => unfold makeDir at h; rw [hp] at h; cases h
  | ok p =>
    rw [makeDir_of_locate hp] at h
    split at h
    · cases h
    · next hn => cases h; exact ⟨p, rfl, hn, rfl⟩

theorem rename_eq_ok {source target : String} (h : d.rename source target = .ok d') :
    ∃ p q bytes, d.locate source = .ok p ∧ d.locate target = .ok q ∧ d.node? p = some (.file bytes) ∧
      d.node? q ≠ some .directory ∧ Path.endsInSlash target = false ∧
      d' = (d.erase p).put q (.file bytes) := by
  cases hp : d.locate source with
  | error e => unfold rename at h; rw [hp] at h; cases h
  | ok p =>
    cases hq : d.locate target with
    | error e => unfold rename at h; rw [hp, hq] at h; cases h
    | ok q =>
      rw [rename_of_locate hp hq] at h
      split at h
      · cases h
      · cases h
      · next bytes hn =>
        split at h
        · cases h
        · next hs =>
          rw [not_or] at hs
          split at h
          · cases h
          · next hd => cases h; exact ⟨p, q, bytes, rfl, rfl, hn, hd, by simpa using hs.2, rfl⟩

/-! ## What is read afterwards -/

theorem keeps_write (h : d.write path bytes = .ok d') : d.Keeps d' := by
  obtain ⟨p, -, hn, -, rfl⟩ := write_eq_ok h
  exact keeps_put hn _

/-- A file that has been written is read back. -/
theorem read_write (h : d.write path bytes = .ok d') : d'.read path = .ok bytes := by
  have hk := keeps_write h
  obtain ⟨p, hp, hn, hs, rfl⟩ := write_eq_ok h
  exact read_eq_ok.2 ⟨p, hk.locate hp, node?_put_self (not_lasting_of_node? hn) _, hs⟩

theorem keeps_rename {source target : String} (h : d.rename source target = .ok d') : d.Keeps d' := by
  obtain ⟨p, q, bytes, -, -, hp, hq, -, rfl⟩ := rename_eq_ok h
  have hfile : d.node? p ≠ some .directory := by rw [hp]; intro h; cases h
  exact (keeps_erase hfile).trans (keeps_put (node?_erase_ne_directory hq) _)

/-- A file that has been moved is read where it has been moved to. -/
theorem read_rename {source target : String} (h : d.rename source target = .ok d')
    (hs : d.read source = .ok bytes) : d'.read target = .ok bytes := by
  have hk := keeps_rename h
  obtain ⟨p, q, b, hp, hq, hb, hn, ht, rfl⟩ := rename_eq_ok h
  obtain ⟨p', hp', hb', -⟩ := read_eq_ok.1 hs
  cases hp.symm.trans hp'
  cases hb.symm.trans hb'
  exact read_eq_ok.2 ⟨q, hk.locate hq, node?_put_self (not_lasting_of_node? hn) _, ht⟩

/-! ## Places for files -/

/-- Can a file be written at a path? -/
def Writable (d : Disk) (path : String) : Prop :=
  ∃ p, d.locate path = .ok p ∧ d.node? p ≠ some .directory ∧ Path.endsInSlash path = false

theorem Writable.write (h : d.Writable path) (bytes : ByteArray) : ∃ d', d.write path bytes = .ok d' := by
  obtain ⟨p, hp, hn, hs⟩ := h
  refine ⟨d.put p (.file bytes), ?_⟩
  rw [write_of_locate hp, hs, if_neg Bool.false_ne_true]
  split
  · next hd => exact absurd hd hn
  · rfl

theorem Writable.rename {source : String} (h : d.Writable path) (hs : d.read source = .ok bytes) :
    ∃ d', d.rename source path = .ok d' := by
  obtain ⟨q, hq, hn, ht⟩ := h
  obtain ⟨p, hp, hb, hsource⟩ := read_eq_ok.1 hs
  refine ⟨(d.erase p).put q (.file bytes), ?_⟩
  rw [rename_of_locate hp hq, hb]
  show (if Path.endsInSlash source ∨ Path.endsInSlash path then _ else _) = _
  rw [ht, hsource, if_neg (by decide)]
  split
  · next hd => exact absurd hd hn
  · rfl

theorem node?_put_file_ne_directory (h : d.node? q ≠ some .directory) (p : Place) (bytes : ByteArray) :
    (d.put p (.file bytes)).node? q ≠ some .directory := by
  by_cases hqp : q.path = p.path
  · rw [node?_of_not_lasting (not_lasting_of_node? h)]
    unfold put
    rw [SortedMap.get?_insert, if_pos hqp]
    intro h
    cases h
  · rw [node?_put_of_ne hqp]
    exact h

/-- No file operation makes a directory, so there is still place for a file. -/
theorem Writable.of_write {other : String} (h : d.Writable path) (hw : d.write other bytes = .ok d') :
    d'.Writable path := by
  have hk := keeps_write hw
  obtain ⟨p, hp, hn, hs⟩ := h
  obtain ⟨q, -, -, -, rfl⟩ := write_eq_ok hw
  exact ⟨p, hk.locate hp, node?_put_file_ne_directory hn q bytes, hs⟩

theorem Writable.of_rename {source target : String} (h : d.Writable path)
    (hr : d.rename source target = .ok d') : d'.Writable path := by
  have hk := keeps_rename hr
  obtain ⟨p, hp, hn, hs⟩ := h
  obtain ⟨q, q', bytes, -, -, -, -, -, rfl⟩ := rename_eq_ok hr
  exact ⟨p, hk.locate hp, node?_put_file_ne_directory (node?_erase_ne_directory hn) q' bytes, hs⟩

end BudgetRules.Disk
