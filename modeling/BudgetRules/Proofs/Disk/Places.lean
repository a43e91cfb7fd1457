import BudgetRules.Proofs.Disk
import BudgetRules.Proofs.Disk.Path

/-!
# Where a path leads

All places above one that a path leads to are directories.  So a path that ends with no name leads to a
directory, and one that ends with a name leads to a place of that name:

    fileName? path.toList = none → d.locate path = .ok p → d.node? p = some .directory    (node?_of_nameless)
    fileName? path.toList = some (f, n) → ∃ above, goal path = above ++ [String.ofList n]       (exists_above)

The place is the same on every disk, if the path leads anywhere:

    d.locate path = .ok p → p = goal path                                               (eq_goal_of_locate)

A name inside a directory leads to a place of that name below that of the directory:

    IsName name → goal (Path.join directory name) = goal directory ++ [name]                    (goal_join)

A path with another extension, if the extension has a dot in it, leads to another place or to a directory:

    d.locate (Path.withExtension path e) = .ok q → d.node? q ≠ some .directory → q.path ≠ (goal path).path
                                                                                 (path_ne_of_withExtension)
-/

namespace BudgetRules.Disk

variable {d d' : Disk} {p q r : Place} {path : String}

/-! ## Steps -/

theorem walk_cons {s : String} {rest : List String} :
    d.walk p (s :: rest) = .ok q ↔
      d.node? p = some .directory ∧ ¬nameMax < s.utf8ByteSize ∧ d.walk (p.move s) rest = .ok q := by
  rw [walk]
  cases hn : d.node? p with
  | none => simp
  | some n =>
    cases n with
    | file bytes => simp
    | directory =>
      by_cases hs : nameMax < s.utf8ByteSize
      · simp [hs]
      · simp [hs]

theorem walk_append {a b : List String} :
    d.walk p (a ++ b) = .ok r ↔ ∃ q, d.walk p a = .ok q ∧ d.walk q b = .ok r := by
  induction a generalizing p with
  | nil => exact ⟨fun h => ⟨p, rfl, h⟩, fun ⟨q, hq, h⟩ => by cases hq; exact h⟩
  | cons s rest ih =>
    rw [List.cons_append, walk_cons, ih]
    constructor
    · rintro ⟨hd, hs, q, hq, hr⟩
      exact ⟨q, walk_cons.2 ⟨hd, hs, hq⟩, hr⟩
    · rintro ⟨q, hq, hr⟩
      obtain ⟨hd, hs, hq⟩ := walk_cons.1 hq
      exact ⟨hd, hs, q, hq, hr⟩

theorem Place.move_dot (p : Place) : p.move "." = p := if_pos rfl

theorem Place.move_name {s : String} (hdot : s ≠ ".") (hup : s ≠ "..") (p : Place) : p.move s = p ++ [s] := by
  unfold move
  rw [if_neg hdot, if_neg hup]

/-- Lone dots lead nowhere else. -/
theorem foldl_move_dots (k : Nat) (p : Place) : (List.replicate k ".").foldl Place.move p = p := by
  induction k with
  | zero => rfl
  | succ k ih => rw [List.replicate_succ, List.foldl_cons, Place.move_dot, ih]

/-- Where a walk ends depends on its steps alone. -/
theorem eq_foldl_of_walk {steps : List String} (h : d.walk p steps = .ok q) : q = steps.foldl Place.move p := by
  induction steps generalizing p with
  | nil => cases h; rfl
  | cons s rest ih =>
    obtain ⟨-, -, h⟩ := walk_cons.1 h
    exact ih h

theorem eq_of_walk_dots {k : Nat} (h : d.walk p (List.replicate k ".") = .ok q) : q = p :=
  (eq_foldl_of_walk h).trans (foldl_move_dots k p)

/-! ## Above a place -/

/-- All places above a place are directories. -/
def Open (d : Disk) (p : Place) : Prop := ∀ q, q <+: p → q ≠ p → d.node? q = some .directory

theorem lasting_start (path : String) : (start path).Lasting := by
  unfold start
  split <;> decide

theorem open_start (d : Disk) (path : String) : d.Open (start path) := by
  have hnil : d.Open [] := fun q hq hne => absurd (List.prefix_nil.1 hq) hne
  unfold start
  split
  · intro q hq hne
    have hq : q <+: [] ++ [""] := hq
    rcases List.prefix_concat_iff.1 hq with hsame | hq
    · exact absurd hsame hne
    · rw [List.prefix_nil.1 hq]
      exact node?_of_lasting (by decide)
  · exact hnil

theorem Open.append (ho : d.Open p) (hp : d.node? p = some .directory) (s : String) : d.Open (p ++ [s]) := by
  intro q hq hne
  rcases List.prefix_concat_iff.1 hq with rfl | hq
  · exact absurd rfl hne
  · by_cases hqp : q = p
    · rw [hqp, hp]
    · exact ho q hq hqp

theorem Open.dropLast (ho : d.Open p) : d.Open p.dropLast := by
  intro q hq hne
  refine ho q (hq.trans (List.dropLast_prefix p)) fun hqp => hne ?_
  have hlen := hq.length_le
  rw [hqp, List.length_dropLast] at hlen
  have hp : p = [] := List.length_eq_zero_iff.1 (by omega)
  rw [hqp, hp]
  rfl

theorem Open.move (ho : d.Open p) (hp : d.node? p = some .directory) (s : String) : d.Open (p.move s) := by
  unfold Place.move
  split
  · exact ho
  · split
    · split
      · exact ho
      · split
        · exact ho.append hp s
        · exact ho.dropLast
    · exact ho.append hp s

/-- The way up leads to a directory. -/
theorem Open.node?_move_up (ho : d.Open p) : d.node? (p.move "..") = some .directory := by
  unfold Place.move
  rw [if_neg (by decide), if_pos rfl]
  split
  · next hp => rw [hp]; exact node?_of_lasting (by decide)
  · split
    · next hall =>
      refine node?_of_lasting (.inr ?_)
      rw [List.all_append, hall]
      decide
    · next hall =>
      have hne : p ≠ [] := fun hp => hall (by rw [hp]; rfl)
      refine ho p.dropLast (List.dropLast_prefix p) fun heq => ?_
      have hlen := congrArg List.length heq
      rw [List.length_dropLast] at hlen
      have hpos := List.length_pos_iff.2 hne
      omega

theorem Open.walk (ho : d.Open p) {steps : List String} (h : d.walk p steps = .ok q) : d.Open q := by
  induction steps generalizing p with
  | nil => cases h; exact ho
  | cons s rest ih =>
    obtain ⟨hp, -, h⟩ := walk_cons.1 h
    exact ih (ho.move hp s) h

theorem walk_of_locate (h : d.locate path = .ok p) : d.walk (start path) (Path.steps path) = .ok p := by
  unfold locate at h
  split at h
  · cases h
  · exact h

/-- The place to which a path leads wherever the directories on its way are there. -/
def goal (path : String) : Place := (Path.steps path).foldl Place.move (start path)

theorem eq_goal_of_locate (h : d.locate path = .ok p) : p = goal path := eq_foldl_of_walk (walk_of_locate h)

/-- The way to a name inside a directory goes on from where the directory is. -/
theorem goal_join {name : String} (hname : Path.IsName name) (directory : String) :
    goal (Path.join directory name) = goal directory ++ [name] := by
  have ⟨_, _, hdot, hup⟩ := hname
  unfold goal start
  rw [Path.steps_join hname.isAbsolute, Path.isAbsolute_join hname.isAbsolute, hname.steps_eq, List.foldl_append]
  exact Place.move_name hdot hup _

theorem goal_name {name : String} (hname : Path.IsName name) : goal name = [name] := by
  have hjoin := goal_join hname ""
  rwa [Path.join, if_pos (.inr rfl)] at hjoin

/-! ## Names -/

/-- A path that ends with no name leads to a directory. -/
theorem node?_of_nameless (hn : Path.fileName? path.toList = none) (hp : d.locate path = .ok p) :
    d.node? p = some .directory := by
  obtain ⟨front, name, trail, hends, hname⟩ := Path.ends_of_fileName?_eq_none hn
  have hw := walk_of_locate hp
  rw [Path.steps_eq] at hw
  rcases or_assoc.2 hname with halone | rfl
  · -- the path is made of slashes and lone dots
    obtain ⟨k, hk⟩ := hends.isTrail.names_append (front ++ name)
    rw [← hends.eq, hends.alone halone] at hk
    have hdots : ∃ k, Path.names path.toList = List.replicate k "." := by
      rcases halone with rfl | rfl
      · exact ⟨k, hk⟩
      · exact ⟨k + 1, by rw [hk, List.replicate_succ]; rfl⟩
    obtain ⟨j, hj⟩ := hdots
    rw [hj] at hw
    rw [eq_of_walk_dots hw]
    exact node?_of_lasting (lasting_start path)
  · obtain ⟨k, hk⟩ := hends.names_eq (List.cons_ne_nil _ _)
    rw [hk, walk_append] at hw
    obtain ⟨q, hq, hw⟩ := hw
    obtain ⟨-, -, hw⟩ := walk_cons.1 hw
    rw [eq_of_walk_dots hw]
    exact ((open_start d path).walk hq).node?_move_up

/-- A path that ends with a name leads to a place of that name. -/
theorem exists_above {f n : List Char} (hn : Path.fileName? path.toList = some (f, n)) :
    '/' ∉ n ∧ ∃ above, goal path = above ++ [String.ofList n] := by
  obtain ⟨trail, hends, hne, hdot, hup⟩ := Path.ends_of_fileName?_eq_some hn
  obtain ⟨k, hk⟩ := hends.names_eq hne
  have hmove := Place.move_name (fun h => hdot (String.ofList_injective h)) fun h =>
    hup (String.ofList_injective h)
  refine ⟨hends.noSlash, ?_⟩
  unfold goal
  rw [Path.steps_eq, hk, List.foldl_append, List.foldl_cons, foldl_move_dots, hmove]
  exact ⟨_, rfl⟩

/-- The path of a place ends with the name of the place. -/
theorem Place.takeWhile_path {n : List Char} (hn : '/' ∉ n) (above : Place) :
    (Place.path (above ++ [String.ofList n])).toList.reverse.takeWhile (· ≠ '/') = n.reverse := by
  have hrev : '/' ∉ n.reverse := by rwa [List.mem_reverse]
  have hpath : ∃ front, (Place.path (above ++ [String.ofList n])).toList.reverse = n.reverse ++ front ∧
      (front = [] ∨ ∃ r, front = '/' :: r) := by
    unfold Place.path
    by_cases ha : above = []
    · refine ⟨[], ?_, .inl rfl⟩
      rw [ha, List.nil_append, String.intercalate_singleton, String.toList_ofList, List.append_nil]
    · refine ⟨'/' :: (String.intercalate "/" above).toList.reverse, ?_, .inr ⟨_, rfl⟩⟩
      rw [String.intercalate_append_of_ne_nil ha (List.cons_ne_nil _ _), String.intercalate_singleton]
      simp
  obtain ⟨front, hfront, hslash⟩ := hpath
  rw [hfront]
  exact (Path.takeWhile_append hrev hslash).1

/-- A path with another extension leads to another place or to a directory. -/
theorem path_ne_of_withExtension {e : String} (hslash : '/' ∉ e.toList) (hdot : '.' ∈ e.toList)
    (hq : d.locate (Path.withExtension path e) = .ok q) (hd : d.node? q ≠ some .directory) :
    q.path ≠ (goal path).path := by
  cases hn : Path.fileName? (Path.withExtension path e).toList with
  | none => exact absurd (node?_of_nameless hn hq) hd
  | some ends =>
    obtain ⟨f, n⟩ := ends
    obtain ⟨m, hm, hne⟩ := Path.fileName?_withExtension hslash hdot hn
    obtain ⟨hmslash, above, habove⟩ := exists_above hm
    obtain ⟨hnslash, beside, hbeside⟩ := exists_above hn
    rw [eq_goal_of_locate hq, habove, hbeside]
    intro heq
    have hnames := Place.takeWhile_path hnslash beside
    rw [heq, Place.takeWhile_path hmslash above, List.reverse_inj] at hnames
    exact hne hnames

end BudgetRules.Disk
