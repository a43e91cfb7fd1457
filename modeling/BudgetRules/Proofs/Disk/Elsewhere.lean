import BudgetRules.Proofs.Disk.Changes

/-!
# Writing elsewhere

No name of a place that a path leads to has a slash in it, so the place can be told from its own path.  Writing
to one place leaves the file at every path that leads to another:

    p.path = q.path → p = q                                                               (Named.path_inj)
    d.write other bytes = .ok d' → d.locate path ≠ d.locate other →
      d'.file? path = d.file? path                                                      (file?_write_elsewhere)
-/

namespace BudgetRules

namespace Path

theorem notMem_of_mem_pieces {cs p : List Char} (h : p ∈ pieces cs) : '/' ∉ p := by
  induction cs generalizing p with
  | nil =>
    rw [List.mem_singleton.1 h]
    exact List.not_mem_nil
  | cons c cs ih =>
    unfold pieces at h
    split at h
    · rcases List.mem_cons.1 h with rfl | h
      · exact List.not_mem_nil
      · exact ih h
    · next hc =>
      cases hp : pieces cs with
      | nil => exact absurd hp (pieces_ne_nil cs)
      | cons first rest =>
        rw [hp] at h ih
        rcases List.mem_cons.1 h with rfl | h
        · rw [List.mem_cons, not_or]
          exact ⟨Ne.symm hc, ih List.mem_cons_self⟩
        · exact ih (List.mem_cons_of_mem _ h)

theorem notMem_of_mem_steps {path s : String} (h : s ∈ steps path) : '/' ∉ s.toList := by
  obtain ⟨p, hp, rfl⟩ := List.mem_map.1 h
  rw [String.toList_ofList]
  exact notMem_of_mem_pieces (List.mem_filter.1 hp).1

end Path

namespace Disk

variable {d d' : Disk} {p q : Place} {path other : String} {bytes : ByteArray}

/-! ## Names of places -/

/-- No name that leads to a place has a slash in it. -/
def Place.Named (p : Place) : Prop := ∀ s ∈ p, '/' ∉ s.toList

theorem Place.Named.move (hp : p.Named) {s : String} (hs : '/' ∉ s.toList) : (p.move s).Named := by
  have hconcat : Place.Named (p ++ [s]) := by
    intro t ht
    rcases List.mem_append.1 ht with ht | ht
    · exact hp t ht
    · rw [List.mem_singleton.1 ht]
      exact hs
  unfold Place.move
  split
  · exact hp
  · split
    · split
      · exact hp
      · split
        · exact hconcat
        · exact fun t ht => hp t (List.dropLast_subset p ht)
    · exact hconcat

theorem Place.Named.walk (hp : p.Named) {steps : List String} (hs : ∀ s ∈ steps, '/' ∉ s.toList)
    (h : d.walk p steps = .ok q) : q.Named := by
  induction steps generalizing p with
  | nil => cases h; exact hp
  | cons s rest ih =>
    obtain ⟨hfirst, hrest⟩ := List.forall_mem_cons.1 hs
    obtain ⟨-, -, h⟩ := walk_cons.1 h
    exact ih (hp.move hfirst) hrest h

theorem named_of_locate (h : d.locate path = .ok p) : p.Named := by
  have hstart : Place.Named (start path) := by
    unfold start Place.Named
    split <;> decide
  exact hstart.walk (fun _ => Path.notMem_of_mem_steps) (walk_of_locate h)

/-- The names of a place are the pieces of its path. -/
theorem Place.Named.pieces_path (hn : p.Named) (hp : p ≠ []) :
    Path.pieces p.path.toList = p.map String.toList := by
  induction p with
  | nil => exact absurd rfl hp
  | cons s rest ih =>
    obtain ⟨hs, hrest⟩ := List.forall_mem_cons.1 hn
    cases rest with
    | nil =>
      rw [Place.path, String.intercalate_singleton, Path.pieces_of_notMem hs]
      rfl
    | cons t more =>
      have hpath : (Place.path (s :: t :: more)).toList =
          s.toList ++ '/' :: (Place.path (t :: more)).toList := by
        unfold Place.path
        rw [String.intercalate_cons_cons]
        simp
      rw [hpath, Path.pieces_append, Path.pieces_of_notMem hs, ih hrest (List.cons_ne_nil t more)]
      rfl

/-- Two places of one path are the same. -/
theorem Place.Named.path_inj (hp : p.Named) (hq : q.Named) (hpne : p ≠ []) (hqne : q ≠ [])
    (h : p.path = q.path) : p = q := by
  have hnames : p.map String.toList = q.map String.toList := by
    rw [← hp.pieces_path hpne, ← hq.pieces_path hqne, h]
  exact (List.map_inj_right fun _ _ => String.toList_inj.1).1 hnames

theorem Place.Named.path_ne (hp : p.Named) (hq : q.Named) (hl : ¬q.Lasting) (hne : p ≠ q) : q.path ≠ p.path := by
  intro heq
  have hqne : q ≠ [] := fun hnil => hl (hnil ▸ by decide)
  have hpne : p ≠ [] := by
    rintro rfl
    refine hl (.inl ?_)
    rw [heq]
    decide
  exact hne (hp.path_inj hq hpne hqne heq.symm)

/-! ## Files at other places -/

theorem path_ne_of_locate_ne (hp : d.locate path = .ok p) (hq : d.locate other = .ok q) (hne : p ≠ q)
    (hd : d.node? q ≠ some .directory) : q.path ≠ p.path :=
  (named_of_locate hp).path_ne (named_of_locate hq) (not_lasting_of_node? hd) hne

/-- Writing to a file leaves the file at every path that leads elsewhere. -/
theorem file?_write_elsewhere (h : d.write other bytes = .ok d') (hne : d.locate path ≠ d.locate other) :
    d'.file? path = d.file? path := by
  refine (sameAt_write_of_path_ne h fun p q hp hq hd => ?_).file?_eq
  refine path_ne_of_locate_ne hp hq (fun heq => hne ?_) hd
  rw [hp, hq, heq]

end Disk

end BudgetRules
