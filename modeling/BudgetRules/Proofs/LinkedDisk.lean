import BudgetRules.Proofs.Except
import BudgetRules.Proofs.LinkedDisk.Walk

/-!
# What operations do to a tree with links

Where a path leads to a name that is not one of a directory, there is a directory for the name, so what is put there
fits.  Each operation that works changes what one or two names stand for, or the bytes of one file:

    d.write path bytes = .ok d' → Path.endsInSlash path = false ∧ d.Written path bytes d'                 (write_eq_ok)
    d.makeDir path = .ok d' → ∃ p, d.node? p = none ∧ d.Fits p .directory ∧ d' = d.put p .directory   (makeDir_eq_ok)
    d.rename source target = .ok d' → ∃ p q e, d.Renamed source target p q e d'                   (renamed_of_rename)
-/

namespace BudgetRules

/-- A path that is neither empty nor absolute leads over some steps. -/
theorem Path.steps_ne_nil {path : String} (hne : path.isEmpty = false) (habs : isAbsolute path = false) :
    steps path ≠ [] := by
  obtain ⟨c, cs, hcs⟩ : ∃ c cs, path.toList = c :: cs := List.exists_cons_of_ne_nil (by simpa using hne)
  have hc : c ≠ '/' := by
    rintro rfl
    unfold isAbsolute at habs
    rw [hcs] at habs
    cases habs
  have hpieces : ∃ p ps, pieces path.toList = (c :: p) :: ps := by
    rw [hcs, pieces, if_neg hc]
    cases hp : pieces cs with
    | nil => exact ⟨[], [], rfl⟩
    | cons p ps => exact ⟨p, ps, rfl⟩
  obtain ⟨p, ps, hps⟩ := hpieces
  unfold steps
  rw [hps, List.filter_cons_of_pos (by rfl)]
  exact List.cons_ne_nil _ _

theorem Disk.steps_ne_nil_of_badPath? {path : String} (hbad : badPath? path = none)
    (habs : Path.isAbsolute path = false) : Path.steps path ≠ [] := by
  refine Path.steps_ne_nil ?_ habs
  unfold badPath? at hbad
  split at hbad
  · cases hbad
  · split at hbad
    · cases hbad
    · next h => exact Bool.eq_false_iff.2 h

namespace LinkedDisk

open Disk (Place badPath? steps_ne_nil_of_badPath?)

variable {d d' : LinkedDisk} {n : Nat} {p q r : Place} {s path : String} {steps : List String} {e : Entry}
  {bytes : ByteArray}

/-! ## Places for names -/

theorem node?_move_up (hp : d.node? p = some .directory) : d.node? (p.move "..") = some .directory := by
  unfold Place.move
  rw [if_neg (by decide), if_pos rfl]
  split
  · exact hp
  · split
    · next hall =>
      refine d.lasting _ (.inr ?_)
      rw [List.all_append, hall]
      decide
    · exact d.rooted p (by rw [hp]; exact Option.some_ne_none _)

/-- A step to something else than a directory is a name. -/
theorem name_of_enter (henter : d.enter p s = .ok q) (hq : d.node? q ≠ some .directory) :
    s ≠ "." ∧ s ≠ ".." ∧ q = p ++ [s] := by
  obtain ⟨hp, -, rfl⟩ := enter_eq_ok.1 henter
  have hdot : s ≠ "." := fun h => hq (by rw [h, Place.move_dot, hp])
  have hup : s ≠ ".." := fun h => hq (by rw [h, node?_move_up hp])
  exact ⟨hdot, hup, Place.move_name hdot hup p⟩

theorem above_of_enter (henter : d.enter p s = .ok q) (hq : d.node? q ≠ some .directory) :
    d.node? q.dropLast = some .directory := by
  obtain ⟨-, -, rfl⟩ := name_of_enter henter hq
  rw [List.dropLast_concat]
  exact (enter_eq_ok.1 henter).1

/-- A link leads on from a directory. -/
theorem node?_origin (hp : d.node? p = some .directory) (path : String) :
    d.node? (origin p path) = some .directory := by
  unfold origin
  split
  · exact d.lasting _ (by decide)
  · exact hp

theorem Walk.above (h : Walk d n p steps q) (hstart : d.node? p = some .directory ∨ steps ≠ [])
    (hq : d.node? q ≠ some .directory) : d.node? q.dropLast = some .directory := by
  induction h with
  | here => exact absurd (hstart.resolve_right fun h => h rfl) hq
  | @step n p q r s rest henter hplain h ih =>
    by_cases hdir : d.node? q = some .directory
    · exact ih (.inl hdir) hq
    · cases h with
      | here => exact above_of_enter henter hq
      | step henter' _ _ => exact absurd (enter_eq_ok.1 henter').1 hdir
      | follow henter' _ _ => exact absurd (enter_eq_ok.1 henter').1 hdir
  | @follow n p q r s target rest henter hlink h ih =>
    refine ih (.inl (node?_origin (d.rooted q ?_) target)) hq
    rw [hlink]
    exact Option.some_ne_none _

theorem locate_eq_ok :
    d.locate path = .ok q ↔
      badPath? path = none ∧ ∃ n ≤ linkMax, Walk d n (origin d.working path) (Path.steps path) q := by
  unfold locate
  cases badPath? path with
  | some e => simp
  | none => simp [walk_eq_ok]

theorem above_of_locate (h : d.locate path = .ok q) (hq : d.node? q ≠ some .directory) :
    d.node? q.dropLast = some .directory := by
  obtain ⟨hbad, n, -, hw⟩ := locate_eq_ok.1 h
  refine hw.above ?_ hq
  cases habs : Path.isAbsolute path with
  | true =>
    have hroot : origin d.working path = [""] := by
      unfold origin
      rw [habs]
      rfl
    exact .inl (hroot ▸ d.lasting [""] (by decide))
  | false =>
    exact .inr (steps_ne_nil_of_badPath? hbad habs)

/-- A path that leads to a name other than one of a directory ends with the step to it. -/
theorem exists_enter_of_locateName (h : d.locateName path = .ok q) (hq : d.node? q ≠ some .directory) :
    badPath? path = none ∧ ∃ front s n p, Path.steps path = front ++ [s] ∧ n ≤ linkMax ∧
      Walk d n (origin d.working path) front p ∧ d.enter p s = .ok q := by
  unfold locateName at h
  split at h
  · cases h
  · next hbad =>
    split at h
    · cases h
      exact absurd (d.lasting _ (by decide)) hq
    · next s hlast =>
      obtain ⟨front, hfront⟩ := List.getLast?_eq_some_iff.1 hlast
      rw [hfront, List.dropLast_concat] at h
      cases hw : d.walk linkMax (origin d.working path) front with
      | error e => rw [hw] at h; cases h
      | ok p =>
        rw [hw] at h
        obtain ⟨n, hn, hw⟩ := walk_eq_ok.1 hw
        exact ⟨hbad, front, s, n, p, hfront, hn, hw, h⟩

theorem above_of_locateName (h : d.locateName path = .ok q) (hq : d.node? q ≠ some .directory) :
    d.node? q.dropLast = some .directory := by
  obtain ⟨-, front, s, n, p, -, -, -, henter⟩ := exists_enter_of_locateName h hq
  exact above_of_enter henter hq

/-! ## Changes -/

theorem node?_put (h : d.Fits p e) (q : Place) : (d.put p e).node? q = if q = p then some e else d.node? q := by
  unfold put
  rw [dif_pos h]

theorem bytes_put (d : LinkedDisk) (p : Place) (e : Entry) : (d.put p e).bytes = d.bytes := by
  unfold put
  split <;> rfl

theorem working_put (d : LinkedDisk) (p : Place) (e : Entry) : (d.put p e).working = d.working := by
  unfold put
  split <;> rfl

theorem node?_erase (h : d.node? p ≠ some .directory) (q : Place) :
    (d.erase p).node? q = if q = p then none else d.node? q := by
  unfold erase
  rw [dif_neg h]

theorem bytes_erase (d : LinkedDisk) (p : Place) : (d.erase p).bytes = d.bytes := by
  unfold erase
  split <;> rfl

theorem working_erase (d : LinkedDisk) (p : Place) : (d.erase p).working = d.working := by
  unfold erase
  split <;> rfl

theorem next_erase (d : LinkedDisk) (p : Place) : (d.erase p).next = d.next := by
  unfold erase
  split <;> rfl

/-- A new file has a number of its own. -/
structure Created (d : LinkedDisk) (p : Place) (bytes : ByteArray) (d' : LinkedDisk) : Prop where
  missing : d.node? p = none
  node? : ∀ q, d'.node? q = if q = p then some (.file d.next) else d.node? q
  bytes : ∀ n, d'.bytes n = if n = d.next then bytes else d.bytes n
  working : d'.working = d.working

theorem created_create (hp : d.node? p = none) (habove : d.node? p.dropLast = some .directory)
    (bytes : ByteArray) : d.Created p bytes (d.create p bytes) := by
  have hfits : (d.advance.fill d.next bytes).Fits p (.file d.next) :=
    ⟨habove, ne_directory_of_none hp, Nat.lt_succ_self d.next⟩
  exact ⟨hp, node?_put hfits, fun n => congrFun (bytes_put _ p _) n, working_put _ p _⟩

/-- What writing a file comes to. -/
inductive Written (d : LinkedDisk) (path : String) (bytes : ByteArray) : LinkedDisk → Prop
  | created {p : Place} {d' : LinkedDisk} (hp : d.locate path = .ok p) (h : d.Created p bytes d') :
      Written d path bytes d'
  | filled {p : Place} {number : Nat} (hp : d.locate path = .ok p) (hn : d.node? p = some (.file number)) :
      Written d path bytes (d.fill number bytes)
  | swallowed {p : Place} {kept : ByteArray} (hp : d.locate path = .ok p)
      (hn : d.node? p = some (.device kept)) : Written d path bytes d

theorem write_eq_ok (h : d.write path bytes = .ok d') :
    Path.endsInSlash path = false ∧ d.Written path bytes d' := by
  unfold write at h
  obtain ⟨p, hp, h⟩ := exists_ok_of_bind h
  dsimp only at h
  split at h
  · cases h
  · next hslash =>
    refine ⟨Bool.eq_false_iff.2 hslash, ?_⟩
    cases hn : d.node? p with
    | none =>
      rw [hn] at h
      cases h
      exact .created hp (created_create hn (above_of_locate hp (ne_directory_of_none hn)) bytes)
    | some e =>
      rw [hn] at h
      cases e with
      | file number => cases h; exact .filled hp hn
      | directory => cases h
      | link target => cases h
      | device kept => cases h; exact .swallowed hp hn

theorem makeDir_eq_ok (h : d.makeDir path = .ok d') :
    ∃ p, d.node? p = none ∧ d.Fits p .directory ∧ d' = d.put p .directory := by
  unfold makeDir at h
  obtain ⟨p, hp, h⟩ := exists_ok_of_bind h
  split at h
  · cases h
  · next hn =>
    cases h
    have hne := ne_directory_of_none hn
    exact ⟨p, hn, ⟨above_of_locateName hp hne, hne, True.intro⟩, rfl⟩

/-- Something has been moved from one name to another. -/
structure Moved (d : LinkedDisk) (p q : Place) (e : Entry) (d' : LinkedDisk) : Prop where
  there : d.node? p = some e
  plain : e ≠ .directory
  target : d.node? q ≠ some .directory
  node? : ∀ z, d'.node? z = if z = q then some e else if z = p then none else d.node? z
  bytes : d'.bytes = d.bytes
  working : d'.working = d.working

theorem moved_put_erase (hp : d.node? p = some e) (he : e ≠ .directory)
    (habove : d.node? q.dropLast = some .directory) (hq : d.node? q ≠ some .directory) (hne : q ≠ p) :
    d.Moved p q e ((d.erase p).put q e) := by
  have hplain : d.node? p ≠ some .directory := by
    rw [hp]
    exact fun h => he (Option.some.inj h)
  have hup : q.dropLast ≠ p := fun heq => hplain (heq ▸ habove)
  have hfits : (d.erase p).Fits q e := by
    refine ⟨?_, ?_, ?_⟩
    · rw [node?_erase hplain, if_neg hup, habove]
    · rwa [node?_erase hplain, if_neg hne]
    · rw [next_erase]
      exact d.numbered p e hp
  refine ⟨hp, he, hq, fun z => ?_, ?_, ?_⟩
  · rw [node?_put hfits, node?_erase hplain]
  · rw [bytes_put, bytes_erase]
  · rw [working_put, working_erase]

/-- What moving from one name to another comes to: the tree is left as it is if the two names are one or are names of
one file. -/
structure Renamed (d : LinkedDisk) (source target : String) (p q : Place) (e : Entry) (d' : LinkedDisk) : Prop where
  locateSource : d.locateName source = .ok p
  locateTarget : d.locateName target = .ok q
  there : d.node? p = some e
  plain : e ≠ .directory
  free : d.node? q ≠ some .directory
  noSlash : Path.endsInSlash target = false
  same_or_moved : d' = d ∧ (p = q ∨ e.IsFile ∧ d.node? q = some e) ∨ d.Moved p q e d'

theorem renamed_of_rename {source target : String} (h : d.rename source target = .ok d') :
    ∃ p q e, d.Renamed source target p q e d' := by
  unfold rename at h
  obtain ⟨p, hp, h⟩ := exists_ok_of_bind h
  obtain ⟨q, hq, h⟩ := exists_ok_of_bind h
  split at h
  · cases h
  · cases h
  · next e hdir he =>
    split at h
    · cases h
    · next hslash =>
      rw [not_or, Bool.not_eq_true, Bool.not_eq_true] at hslash
      split at h
      · cases h
      · next hfree =>
        refine ⟨p, q, e, hp, hq, he, hdir, hfree, hslash.2, ?_⟩
        split at h
        · next hsame => cases h; exact .inl ⟨rfl, hsame⟩
        · next hsame =>
          cases h
          have hne : q ≠ p := fun heq => hsame (.inl heq.symm)
          exact .inr (moved_put_erase he hdir (above_of_locateName hq hfree) hfree hne)

end LinkedDisk

end BudgetRules
