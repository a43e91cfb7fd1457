import BudgetRules.Proofs.Disk.Places

/-!
# What a path shows while a disk changes

Making directories puts them where nothing stood, and writing to a file beside another leaves the other.  So what
stands in the place of a path is spared, however many of these are done:

    d.Grown d' → Spared path d d'                                                           (Grown.spared)
    d.write (Path.withExtension path e) bytes = .ok d' → Spared path d d'                   (spared_write)

A file that is written to leaves what a path shows, if the path leads elsewhere.

    d.write other bytes = .ok d' → … → SameAt path d d'                                (sameAt_write_of_path_ne)
-/

namespace BudgetRules.Disk

variable {d d' d'' : Disk} {p q : Place} {path : String} {bytes : ByteArray}

/-- The bytes of the file at a path, if there is one. -/
def file? (d : Disk) (path : String) : Option ByteArray := (d.read path).toOption

theorem file?_eq_some_iff :
    d.file? path = some bytes ↔
      ∃ p, d.locate path = .ok p ∧ d.node? p = some (.file bytes) ∧ Path.endsInSlash path = false := by
  rw [← read_eq_ok]
  unfold file?
  cases d.read path with
  | error e => exact ⟨fun h => (nomatch h), fun h => (nomatch h)⟩
  | ok b => exact ⟨fun h => by cases h; rfl, fun h => by cases h; rfl⟩

theorem file?_of_locate_error {e : FileError} (h : d.locate path = .error e) : d.file? path = none := by
  unfold file? read
  rw [h]
  rfl

/-- The file at a path depends on what stands at its place. -/
theorem file?_congr (hp : d.locate path = .ok p) (hp' : d'.locate path = .ok p) (hn : d'.node? p = d.node? p) :
    d'.file? path = d.file? path := by
  unfold file?
  rw [read_of_locate hp, read_of_locate hp', hn]

/-! ## Directories that are made -/

/-- Directories have been put where nothing stood. -/
def Grown (d d' : Disk) : Prop :=
  ∀ p, d'.node? p = d.node? p ∨ d.node? p = none ∧ d'.node? p = some .directory

theorem Grown.refl (d : Disk) : d.Grown d := fun _ => .inl rfl

theorem Grown.trans (h : d.Grown d') (h' : d'.Grown d'') : d.Grown d'' := by
  intro p
  rcases h' p with heq | ⟨hnone, hdir⟩
  · rw [heq]; exact h p
  · rcases h p with heq | ⟨hnone', -⟩
    · exact .inr ⟨by rw [← heq, hnone], hdir⟩
    · exact .inr ⟨hnone', hdir⟩

theorem Grown.keeps (h : d.Grown d') : d.Keeps d' := by
  intro p hp
  rcases h p with heq | ⟨hnone, -⟩
  · rw [heq, hp]
  · rw [hp] at hnone; cases hnone

/-- A file is read as before once directories have been made. -/
theorem Grown.read (h : d.Grown d') (hr : d.read path = .ok bytes) : d'.read path = .ok bytes := by
  obtain ⟨p, hp, hn, hs⟩ := read_eq_ok.1 hr
  refine read_eq_ok.2 ⟨p, h.keeps.locate hp, ?_, hs⟩
  rcases h p with heq | ⟨hnone, -⟩
  · rw [heq, hn]
  · rw [hn] at hnone
    cases hnone

/-- What is read from a path that led to its place already stood there before. -/
theorem Grown.read_of_locate (h : d.Grown d') (hp : d.locate path = .ok p) (hr : d'.read path = .ok bytes) :
    d.read path = .ok bytes := by
  obtain ⟨q, hq, hn, hs⟩ := read_eq_ok.1 hr
  cases (h.keeps.locate hp).symm.trans hq
  refine read_eq_ok.2 ⟨p, hp, ?_, hs⟩
  rcases h p with heq | ⟨-, hdir⟩
  · rw [← heq, hn]
  · rw [hn] at hdir
    cases hdir

theorem grown_put (hn : d.node? p = none) : d.Grown (d.put p .directory) := by
  have hp : ¬p.Lasting := not_lasting_of_node? (by rw [hn]; exact fun h => nomatch h)
  intro q
  by_cases hqp : q.path = p.path
  · by_cases hq : q.Lasting
    · exact .inl (by rw [node?_of_lasting hq, node?_of_lasting hq])
    · have hsame : ∀ e : Disk, e.node? q = e.node? p := fun e => by
        rw [node?_of_not_lasting hq, node?_of_not_lasting hp, hqp]
      rw [hsame, hsame, node?_put_self hp]
      exact .inr ⟨hn, rfl⟩
  · exact .inl (node?_put_of_ne hqp _)

theorem grown_makeDir (h : d.makeDir path = .ok d') : d.Grown d' := by
  obtain ⟨p, -, hn, rfl⟩ := makeDir_eq_ok h
  exact grown_put hn

/-! ## Files beside -/

/-- What stands in the place of a path is as it was, or a directory has been put there where nothing stood. -/
structure Spared (path : String) (d d' : Disk) : Prop where
  keeps : d.Keeps d'
  node : d'.node? (goal path) = d.node? (goal path) ∨
    d.node? (goal path) = none ∧ d'.node? (goal path) = some .directory

theorem Spared.refl (path : String) (d : Disk) : Spared path d d := ⟨fun _ hp => hp, .inl rfl⟩

theorem Spared.trans (h : Spared path d d') (h' : Spared path d' d'') : Spared path d d'' := by
  refine ⟨h.keeps.trans h'.keeps, ?_⟩
  rcases h'.node with heq | ⟨hnone, hdir⟩
  · rw [heq]
    exact h.node
  · rcases h.node with heq | ⟨-, hdir'⟩
    · exact .inr ⟨by rw [← heq, hnone], hdir⟩
    · rw [hnone] at hdir'; cases hdir'

theorem Grown.spared (h : d.Grown d') (path : String) : Spared path d d' := ⟨h.keeps, h _⟩

/-- A file that stands in the place afterwards stood there before. -/
theorem Spared.node?_of_file (h : Spared path d d') (hn : d'.node? (goal path) = some (.file bytes)) :
    d.node? (goal path) = some (.file bytes) := by
  rcases h.node with heq | ⟨-, hdir⟩
  · rw [← heq, hn]
  · rw [hn] at hdir; cases hdir

/-- Writing to the file beside spares what stands in the place of a path. -/
theorem spared_write {e : String} (hslash : '/' ∉ e.toList) (hdot : '.' ∈ e.toList)
    (h : d.write (Path.withExtension path e) bytes = .ok d') : Spared path d d' := by
  obtain ⟨q, hq, hn, -, rfl⟩ := write_eq_ok h
  have hne := path_ne_of_withExtension hslash hdot hq hn
  exact ⟨keeps_put hn _, .inl (node?_put_of_ne (Ne.symm hne) _)⟩

/-! ## Files elsewhere -/

/-- A path leads to the same place as before, and what stands there is the same. -/
structure SameAt (path : String) (d d' : Disk) : Prop where
  forth : ∀ p, d.locate path = .ok p → d'.locate path = .ok p ∧ d'.node? p = d.node? p
  back : ∀ p, d'.locate path = .ok p → d.locate path = .ok p

/-- The file at such a path is the same. -/
theorem SameAt.file?_eq (h : SameAt path d d') : d'.file? path = d.file? path := by
  cases hp : d.locate path with
  | ok p =>
    obtain ⟨hp', hn⟩ := h.forth p hp
    exact file?_congr hp hp' hn
  | error e =>
    cases hp' : d'.locate path with
    | ok p =>
      rw [h.back p hp'] at hp
      cases hp
    | error e' => rw [file?_of_locate_error hp, file?_of_locate_error hp']

/-- A file that is put somewhere is no directory. -/
theorem keeps_of_put_file (q : Place) (bytes : ByteArray) : (d.put q (.file bytes)).Keeps d := by
  intro p hp
  by_cases hl : p.Lasting
  · exact node?_of_lasting hl
  · by_cases hpq : p.path = q.path
    · rw [node?_of_not_lasting hl] at hp
      unfold put at hp
      rw [SortedMap.get?_insert, if_pos hpq] at hp
      cases hp
    · rwa [node?_put_of_ne hpq] at hp

/-- Writing to another place leaves what a path shows. -/
theorem sameAt_write_of_path_ne {other : String} (h : d.write other bytes = .ok d')
    (hne : ∀ p q, d.locate path = .ok p → d.locate other = .ok q → d.node? q ≠ some .directory →
      q.path ≠ p.path) : SameAt path d d' := by
  obtain ⟨q, hq, hn, -, rfl⟩ := write_eq_ok h
  constructor
  · exact fun p hp => ⟨(keeps_put hn _).locate hp, node?_put_of_ne (Ne.symm (hne p q hp hq hn)) _⟩
  · exact fun p hp => (keeps_of_put_file q bytes).locate hp

end BudgetRules.Disk
