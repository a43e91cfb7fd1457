import BudgetRules.Disk.Path

/-!
# How a path ends

Every path is the text in front of a name, the name, and a trail of slashes and lone dots:

    ∃ front name trail, Ends cs front name trail                                              (exists_ends)

The name is what the path is known by, unless it is empty or made of dots, and the step it ends with.  Another
extension makes another name of it, if the extension has a dot in it:

    fileName? (withExtension path e).toList = some (f, n) →
      ∃ m, fileName? path.toList = some (f, m) ∧ m ≠ n                                (fileName?_withExtension)
-/

namespace BudgetRules.Path

/-! ## Pieces -/

theorem pieces_ne_nil (cs : List Char) : pieces cs ≠ [] := by
  cases cs with
  | nil => exact List.cons_ne_nil _ _
  | cons c cs =>
    unfold pieces
    split
    · exact List.cons_ne_nil _ _
    · split <;> exact List.cons_ne_nil _ _

theorem pieces_append (cs ds : List Char) : pieces (cs ++ '/' :: ds) = pieces cs ++ pieces ds := by
  induction cs with
  | nil => rfl
  | cons c cs ih =>
    rw [List.cons_append, pieces, pieces]
    split
    · rw [ih, List.cons_append]
    · rw [ih]
      cases hp : pieces cs with
      | nil => exact absurd hp (pieces_ne_nil cs)
      | cons p ps => rfl

theorem pieces_of_notMem {cs : List Char} (h : '/' ∉ cs) : pieces cs = [cs] := by
  induction cs with
  | nil => rfl
  | cons c cs ih =>
    rw [List.mem_cons, not_or] at h
    rw [pieces, if_neg (Ne.symm h.1), ih h.2]

/-- The names of a text from left to right. -/
def names (cs : List Char) : List String :=
  ((pieces cs).filter fun p => !p.isEmpty).map String.ofList

theorem steps_eq (path : String) : steps path = names path.toList := rfl

theorem names_append (cs ds : List Char) : names (cs ++ '/' :: ds) = names cs ++ names ds := by
  unfold names
  rw [pieces_append, List.filter_append, List.map_append]

@[simp] theorem names_nil : names [] = [] := rfl

theorem names_of_notMem {cs : List Char} (h : '/' ∉ cs) (hne : cs ≠ []) : names cs = [String.ofList cs] := by
  unfold names
  rw [pieces_of_notMem h, List.filter_cons_of_pos (by simpa using hne)]
  rfl

/-! ## Names inside directories -/

/-- A name that is no path of its own comes after the steps of the directory. -/
theorem steps_join {name : String} (hname : isAbsolute name = false) (directory : String) :
    steps (join directory name) = steps directory ++ steps name := by
  unfold join
  rw [hname]
  split
  · next hempty =>
    obtain rfl : directory = "" := by simpa using hempty
    rfl
  · split
    · next hend =>
      obtain ⟨front, hfront⟩ := List.getLast?_eq_some_iff.1 (eq_of_beq hend)
      simp only [steps_eq, String.toList_append]
      rw [hfront, List.append_assoc, List.singleton_append, names_append, names_append, names_nil, List.append_nil]
    · simp only [steps_eq, String.toList_append]
      rw [List.append_assoc]
      exact names_append _ _

theorem isAbsolute_join {name : String} (hname : isAbsolute name = false) (directory : String) :
    isAbsolute (join directory name) = isAbsolute directory := by
  unfold join
  rw [hname]
  split
  · next hempty =>
    obtain rfl : directory = "" := by simpa using hempty
    exact hname
  · next hne =>
    obtain ⟨c, cs, hcs⟩ : ∃ c cs, directory.toList = c :: cs := List.exists_cons_of_ne_nil (by simpa using hne)
    unfold isAbsolute
    split
    · rw [String.toList_append, hcs]
      rfl
    · rw [String.toList_append, String.toList_append, hcs]
      rfl

/-- A single step that leads neither nowhere nor up. -/
def IsName (s : String) : Prop := '/' ∉ s.toList ∧ s ≠ "" ∧ s ≠ "." ∧ s ≠ ".."

instance (s : String) : Decidable (IsName s) := inferInstanceAs (Decidable (_ ∧ _))

theorem IsName.isAbsolute {s : String} (h : IsName s) : isAbsolute s = false := by
  unfold Path.isAbsolute
  rw [beq_eq_false_iff_ne]
  exact fun hslash => h.1 (List.mem_of_head? hslash)

theorem IsName.steps_eq {s : String} (h : IsName s) : steps s = [s] := by
  have hne : s.toList ≠ [] := by simpa using h.2.1
  rw [Path.steps_eq, names_of_notMem h.1 hne, String.ofList_toList]

/-! ## Trails -/

/-- Slashes and lone dots at the end of a path, last character first. -/
inductive Trail : List Char → Prop
  | nil : Trail []
  | slash {t : List Char} : Trail t → Trail ('/' :: t)
  | dot {t : List Char} : Trail t → Trail ('.' :: '/' :: t)

theorem Trail.drop {t : List Char} (h : Trail t) (k : Nat) : Trail (t.drop k) := by
  induction h generalizing k with
  | nil => rw [List.drop_nil]; exact .nil
  | slash h ih =>
    cases k with
    | zero => exact h.slash
    | succ k => exact ih k
  | dot h ih =>
    match k with
    | 0 => exact h.dot
    | 1 => exact h.slash
    | k + 2 => exact ih k

/-- A trail adds nothing but lone dots to the names. -/
theorem Trail.names_append {t : List Char} (h : Trail t) (cs : List Char) :
    ∃ k, names (cs ++ t.reverse) = names cs ++ List.replicate k "." := by
  induction h with
  | nil => exact ⟨0, by simp⟩
  | @slash t h ih =>
    obtain ⟨k, hk⟩ := ih
    refine ⟨k, ?_⟩
    have hslash : cs ++ ('/' :: t).reverse = (cs ++ t.reverse) ++ '/' :: [] := by simp
    rw [hslash, Path.names_append, hk]
    exact List.append_nil _
  | @dot t h ih =>
    obtain ⟨k, hk⟩ := ih
    refine ⟨k + 1, ?_⟩
    have hdot : cs ++ ('.' :: '/' :: t).reverse = (cs ++ t.reverse) ++ '/' :: ['.'] := by simp
    rw [hdot, Path.names_append, hk, List.append_assoc, List.replicate_succ']
    rfl

/-- What is left without a trail begins with neither a slash nor a lone dot. -/
def Trimmed (r : List Char) : Prop := (∀ s, r ≠ '/' :: s) ∧ ∀ s, r ≠ '.' :: '/' :: s

theorem withoutTail_of_trimmed {r : List Char} (h : Trimmed r) : withoutTail r = r := by
  unfold withoutTail
  split
  · next s => exact absurd rfl (h.1 s)
  · next s => exact absurd rfl (h.2 s)
  · rfl

theorem Trail.withoutTail_append {t r : List Char} (h : Trail t) (hr : Trimmed r) :
    withoutTail (t ++ r) = r := by
  induction h with
  | nil => exact withoutTail_of_trimmed hr
  | slash h ih => rw [List.cons_append, withoutTail, ih]
  | dot h ih => rw [List.cons_append, List.cons_append, withoutTail, ih]

theorem exists_trail (r : List Char) : ∃ t s, r = t ++ s ∧ Trail t ∧ Trimmed s := by
  fun_induction withoutTail r with
  | case1 r ih =>
    obtain ⟨t, s, hr, ht, hs⟩ := ih
    exact ⟨'/' :: t, s, by rw [hr]; rfl, ht.slash, hs⟩
  | case2 r ih =>
    obtain ⟨t, s, hr, ht, hs⟩ := ih
    exact ⟨'.' :: '/' :: t, s, by rw [hr]; rfl, ht.dot, hs⟩
  | case3 r hslash hdot => exact ⟨[], r, rfl, .nil, hslash, hdot⟩

/-! ## Names at the end -/

/-- A text is what stands in front of a name, the name, and a trail, last character first. -/
structure Ends (cs front name trail : List Char) : Prop where
  eq : cs = front ++ name ++ trail.reverse
  isTrail : Trail trail
  noSlash : '/' ∉ name
  frontEnds : front = [] ∨ ∃ f, front = f ++ ['/']
  /-- a lone dot behind a slash belongs to the trail -/
  alone : name = [] ∨ name = ['.'] → front = []

theorem trimmed_append {n f : List Char} (hn : '/' ∉ n) (halone : n = [] ∨ n = ['.'] → f = []) :
    Trimmed (n ++ f) := by
  match n with
  | [] =>
    rw [halone (.inl rfl)]
    constructor
    · intro s h; cases h
    · intro s h; cases h
  | [c] =>
    have hc : c ≠ '/' := fun h => hn (by rw [h]; exact List.mem_singleton_self _)
    refine ⟨fun s h => hc (List.cons.inj h).1, fun s h => ?_⟩
    obtain ⟨hdot, hf⟩ := List.cons.inj h
    rw [halone (.inr (by rw [hdot]))] at hf
    cases hf
  | c :: d :: n =>
    rw [List.mem_cons, List.mem_cons, not_or, not_or] at hn
    exact ⟨fun s h => hn.1 (List.cons.inj h).1.symm,
      fun s h => hn.2.1 (List.cons.inj (List.cons.inj h).2).1.symm⟩

/-- The characters before the first one of a kind, and the rest. -/
theorem exists_split (c : Char) (r : List Char) :
    ∃ s t, r = s ++ t ∧ c ∉ s ∧ (t = [] ∨ ∃ u, t = c :: u) := by
  induction r with
  | nil => exact ⟨[], [], rfl, List.not_mem_nil, .inl rfl⟩
  | cons d r ih =>
    by_cases hd : d = c
    · exact ⟨[], d :: r, rfl, List.not_mem_nil, .inr ⟨r, by rw [hd]⟩⟩
    · obtain ⟨s, t, hr, hs, ht⟩ := ih
      refine ⟨d :: s, t, by rw [hr]; rfl, ?_, ht⟩
      rw [List.mem_cons, not_or]
      exact ⟨Ne.symm hd, hs⟩

theorem takeWhile_append {c : Char} {s t : List Char} (hs : c ∉ s) (ht : t = [] ∨ ∃ u, t = c :: u) :
    (s ++ t).takeWhile (· ≠ c) = s ∧ (s ++ t).dropWhile (· ≠ c) = t := by
  induction s with
  | nil => rcases ht with rfl | ⟨u, rfl⟩ <;> simp
  | cons d s ih =>
    rw [List.mem_cons, not_or] at hs
    obtain ⟨htake, hdrop⟩ := ih hs.2
    have hd : d ≠ c := Ne.symm hs.1
    rw [List.cons_append, List.takeWhile_cons_of_pos (by simpa using hd),
      List.dropWhile_cons_of_pos (by simpa using hd), htake, hdrop]
    exact ⟨rfl, rfl⟩

theorem exists_ends (cs : List Char) : ∃ front name trail, Ends cs front name trail := by
  obtain ⟨t, s, hcs, ht, hs⟩ := exists_trail cs.reverse
  obtain ⟨n, f, rfl, hn, hf⟩ := exists_split '/' s
  refine ⟨f.reverse, n.reverse, t, ?_, ht, by rwa [List.mem_reverse], ?_, ?_⟩
  · rw [← List.reverse_append, ← List.reverse_append, ← hcs, List.reverse_reverse]
  · rcases hf with rfl | ⟨u, rfl⟩
    · exact .inl rfl
    · exact .inr ⟨u.reverse, List.reverse_cons⟩
  · intro hname
    rcases hf with rfl | ⟨u, rfl⟩
    · rfl
    · rcases hname with hname | hname
      · rw [List.reverse_eq_nil_iff.1 hname] at hs
        exact absurd rfl (hs.1 u)
      · rw [List.reverse_eq_iff.1 hname] at hs
        exact absurd rfl (hs.2 u)

namespace Ends

variable {cs front name trail : List Char}

theorem reverse_eq (h : Ends cs front name trail) :
    cs.reverse = trail ++ (name.reverse ++ front.reverse) := by
  rw [h.eq, List.reverse_append, List.reverse_append, List.reverse_reverse]

theorem reverse_front (h : Ends cs front name trail) :
    front.reverse = [] ∨ ∃ u, front.reverse = '/' :: u := by
  rcases h.frontEnds with hf | ⟨f, hf⟩
  · exact .inl (by rw [hf]; rfl)
  · exact .inr ⟨f.reverse, by rw [hf, List.reverse_append]; rfl⟩

theorem trimmed (h : Ends cs front name trail) : Trimmed (name.reverse ++ front.reverse) := by
  have hn : '/' ∉ name.reverse := by rw [List.mem_reverse]; exact h.noSlash
  refine trimmed_append hn fun hname => ?_
  rw [List.reverse_eq_nil_iff, List.reverse_eq_iff] at hname
  rw [h.alone hname]
  rfl

theorem fileName?_eq (h : Ends cs front name trail) :
    fileName? cs =
      if name = [] ∨ name = ['.'] ∨ name = ['.', '.'] then none else some (front, name) := by
  have hn : '/' ∉ name.reverse := by rw [List.mem_reverse]; exact h.noSlash
  obtain ⟨htake, hdrop⟩ := takeWhile_append hn h.reverse_front
  unfold fileName?
  rw [h.reverse_eq, h.isTrail.withoutTail_append h.trimmed]
  simp only [htake, hdrop, List.reverse_reverse]

/-- A path ends with the step of its name. -/
theorem names_eq (h : Ends cs front name trail) (hne : name ≠ []) :
    ∃ k, names cs = names front ++ String.ofList name :: List.replicate k "." := by
  obtain ⟨k, hk⟩ := h.isTrail.names_append (front ++ name)
  refine ⟨k, ?_⟩
  have hfront : names (front ++ name) = names front ++ [String.ofList name] := by
    rcases h.frontEnds with hf | ⟨f, hf⟩
    · rw [hf, List.nil_append, names_of_notMem h.noSlash hne]
      rfl
    · rw [hf, List.append_assoc, List.singleton_append, names_append, names_append, names_nil,
        names_of_notMem h.noSlash hne, List.append_nil]
  rw [h.eq, hk, hfront, List.append_assoc, List.singleton_append]

end Ends

theorem ends_of_fileName?_eq_some {cs front name : List Char} (h : fileName? cs = some (front, name)) :
    ∃ trail, Ends cs front name trail ∧ name ≠ [] ∧ name ≠ ['.'] ∧ name ≠ ['.', '.'] := by
  obtain ⟨f, n, trail, hends⟩ := exists_ends cs
  rw [hends.fileName?_eq] at h
  split at h
  · cases h
  · next hn =>
    cases h
    rw [not_or, not_or] at hn
    exact ⟨trail, hends, hn⟩

theorem ends_of_fileName?_eq_none {cs : List Char} (h : fileName? cs = none) :
    ∃ front name trail, Ends cs front name trail ∧ (name = [] ∨ name = ['.'] ∨ name = ['.', '.']) := by
  obtain ⟨f, n, trail, hends⟩ := exists_ends cs
  rw [hends.fileName?_eq] at h
  split at h
  · next hn => exact ⟨f, n, trail, hends, hn⟩
  · cases h

/-! ## Extensions -/

theorem splitExtension_append {stem extension : List Char} (hs : stem ≠ []) (he : '.' ∉ extension) :
    splitExtension (stem ++ '.' :: extension) = (stem, some extension) := by
  have hrev : (stem ++ '.' :: extension).reverse = extension.reverse ++ '.' :: stem.reverse := by simp
  obtain ⟨htake, hdrop⟩ := takeWhile_append (by rwa [List.mem_reverse]) (.inr ⟨stem.reverse, rfl⟩)
  unfold splitExtension
  rw [hrev]
  simp only [htake, hdrop]
  cases hr : stem.reverse with
  | nil => exact absurd (List.reverse_eq_nil_iff.1 hr) hs
  | cons c r =>
    show ((c :: r).reverse, some extension.reverse.reverse) = _
    rw [← hr, List.reverse_reverse, List.reverse_reverse]

/-- A name is a stem alone, or a stem, a dot and an extension without dots. -/
theorem splitExtension_spec (name : List Char) :
    splitExtension name = (name, none) ∨
      ∃ stem extension, stem ≠ [] ∧ '.' ∉ extension ∧ name = stem ++ '.' :: extension := by
  obtain ⟨s, t, hname, hs, ht⟩ := exists_split '.' name.reverse
  obtain ⟨-, hdrop⟩ := takeWhile_append hs ht
  rcases ht with rfl | ⟨u, rfl⟩
  · left
    unfold splitExtension
    rw [hname]
    simp only [hdrop]
  · cases u with
    | nil =>
      left
      unfold splitExtension
      rw [hname]
      simp only [hdrop]
    | cons c u =>
      right
      refine ⟨(c :: u).reverse, s.reverse, ?_, by rwa [List.mem_reverse], ?_⟩
      · exact fun h => List.cons_ne_nil c u (List.reverse_eq_nil_iff.1 h)
      · rw [← List.reverse_inj, hname]
        simp

theorem append_dot_ne {stem e : List Char} (hs : stem ≠ []) :
    ¬(stem ++ '.' :: e = [] ∨ stem ++ '.' :: e = ['.']) := by
  cases stem with
  | nil => exact absurd rfl hs
  | cons c stem => simp

namespace Ends

variable {front stem : List Char}

/-- What is left of a path when as many characters as its extension has are cut off ends with the same
stem. -/
theorem take {cs extension trail : List Char} (h : Ends cs front (stem ++ '.' :: extension) trail)
    (hs : stem ≠ []) (he : '.' ∉ extension) :
    ∃ rest trail', '.' ∉ rest ∧
      Ends (cs.take (cs.length - extension.length)) front (stem ++ '.' :: rest) trail' := by
  have hslash : '/' ∉ extension := fun hm => h.noSlash (by simp [hm])
  have hstem : '/' ∉ stem := fun hm => h.noSlash (by simp [hm])
  have hlen : extension.length ≤ cs.length := by
    rw [h.eq]
    simp only [List.length_append, List.length_cons, List.length_reverse]
    omega
  refine ⟨(extension.reverse.drop (extension.length - trail.length)).reverse, trail.drop extension.length,
    ?_, ?_, h.isTrail.drop _, ?_, h.frontEnds, ?_⟩
  · rw [List.mem_reverse]
    exact fun hm => he (List.mem_reverse.1 (List.mem_of_mem_drop hm))
  · rw [← List.reverse_inj, List.reverse_take, Nat.sub_sub_self hlen, h.reverse_eq, List.drop_append]
    have hrev : (stem ++ '.' :: extension).reverse ++ front.reverse =
        extension.reverse ++ ('.' :: stem.reverse ++ front.reverse) := by simp
    rw [hrev, List.drop_append_of_le_length (by rw [List.length_reverse]; omega)]
    simp
  · simp only [List.mem_append, List.mem_cons, List.mem_reverse, not_or]
    exact ⟨hstem, by decide, fun hm => hslash (List.mem_reverse.1 (List.mem_of_mem_drop hm))⟩
  · exact fun hname => absurd hname (append_dot_ne hs)

/-- A path to which an extension has been given. -/
theorem extend {e : List Char} (hf : front = [] ∨ ∃ f, front = f ++ ['/']) (hs : stem ≠ [])
    (hstem : '/' ∉ stem) (he : '/' ∉ e) : Ends (front ++ stem ++ '.' :: e) front (stem ++ '.' :: e) [] := by
  refine ⟨by simp, .nil, ?_, hf, fun hname => absurd hname (append_dot_ne hs)⟩
  simp only [List.mem_append, List.mem_cons, not_or]
  exact ⟨hstem, by decide, he⟩

end Ends

/-- The text to which an extension is given: the path without its old one. -/
def withoutExtension (cs : List Char) : List Char :=
  cs.take (cs.length - (((fileName? cs).bind fun (_, name) => (splitExtension name).2).getD []).length)

theorem toList_withExtension_of_none {path : String} (e : String)
    (h : fileName? (withoutExtension path.toList) = none) :
    (withExtension path e).toList = withoutExtension path.toList := by
  unfold withExtension
  rw [String.toList_ofList, ← withoutExtension]
  simp only [h]

theorem toList_withExtension_of_some {path : String} (e : String) {front name : List Char}
    (h : fileName? (withoutExtension path.toList) = some (front, name)) :
    (withExtension path e).toList = front ++ (splitExtension name).1 ++ '.' :: e.toList := by
  unfold withExtension
  rw [String.toList_ofList, ← withoutExtension]
  simp only [h]

theorem withoutExtension_of_none {cs : List Char}
    (h : ((fileName? cs).bind fun (_, name) => (splitExtension name).2) = none) :
    withoutExtension cs = cs := by
  unfold withoutExtension
  rw [h]
  exact List.take_length

/-- A path that has been given an extension with a dot in it ends with another name behind the same text, if it ends
with one at all. -/
theorem fileName?_withExtension {path e : String} (hslash : '/' ∉ e.toList) (hdot : '.' ∈ e.toList)
    {f n : List Char} (h : fileName? (withExtension path e).toList = some (f, n)) :
    ∃ m, fileName? path.toList = some (f, m) ∧ m ≠ n := by
  obtain ⟨front, name, trail, hends⟩ := exists_ends path.toList
  have hfile := hends.fileName?_eq
  split at hfile
  · have hcut : withoutExtension path.toList = path.toList := withoutExtension_of_none (by rw [hfile]; rfl)
    rw [toList_withExtension_of_none e (by rw [hcut, hfile]), hcut, hfile] at h
    cases h
  · next hname =>
    rcases splitExtension_spec name with hnone | ⟨stem, extension, hs, he, rfl⟩
    · -- nothing is cut off, and the name grows
      have hcut : withoutExtension path.toList = path.toList :=
        withoutExtension_of_none (by simp only [hfile, Option.bind_some, hnone])
      have hne : name ≠ [] := fun hnil => hname (.inl hnil)
      rw [toList_withExtension_of_some e (by rw [hcut, hfile]), hnone,
        (Ends.extend hends.frontEnds hne hends.noSlash hslash).fileName?_eq] at h
      split at h
      · cases h
      · cases h
        refine ⟨name, hfile, fun hsame => ?_⟩
        cases List.self_eq_append_right.1 hsame
    · -- the stem stays, and the extension had no dot
      have hcut : withoutExtension path.toList =
          path.toList.take (path.toList.length - extension.length) := by
        unfold withoutExtension
        simp only [hfile, Option.bind_some, splitExtension_append hs he, Option.getD_some]
      have hstem : '/' ∉ stem := fun hm => hends.noSlash (List.mem_append_left _ hm)
      obtain ⟨rest, trail', hrest, hends'⟩ := hends.take hs he
      rw [← hcut] at hends'
      have hfile' := hends'.fileName?_eq
      split at hfile'
      · rw [toList_withExtension_of_none e hfile', hfile'] at h
        cases h
      · rw [toList_withExtension_of_some e hfile', splitExtension_append hs hrest,
          (Ends.extend hends.frontEnds hs hstem hslash).fileName?_eq] at h
        split at h
        · cases h
        · cases h
          refine ⟨_, hfile, fun hsame => ?_⟩
          rw [List.append_cancel_left_eq, List.cons.injEq] at hsame
          rw [hsame.2] at he
          exact he hdot

/-! ## Paths beside each other -/

/-- A path whose last step is a name ends with that name. -/
theorem exists_fileName? {cs : List Char} {init : List String} {s : String} (h : names cs = init ++ [s])
    (hdot : s ≠ ".") (hup : s ≠ "..") : ∃ front name, fileName? cs = some (front, name) := by
  cases hn : fileName? cs with
  | some ends => exact ⟨_, _, rfl⟩
  | none =>
    obtain ⟨front, name, trail, hends, hname⟩ := ends_of_fileName?_eq_none hn
    -- all that a path without a name can end with is dots
    have hlast : ∃ steps k, (steps = [] ∨ ∃ more, steps = more ++ [".."]) ∧
        names cs = steps ++ List.replicate k "." := by
      rcases or_assoc.2 hname with halone | rfl
      · obtain ⟨k, hk⟩ := hends.isTrail.names_append (front ++ name)
        rw [← hends.eq, hends.alone halone] at hk
        rcases halone with rfl | rfl
        · exact ⟨[], k, .inl rfl, hk⟩
        · exact ⟨[], k + 1, .inl rfl, by rw [hk, List.replicate_succ]; rfl⟩
      · obtain ⟨k, hk⟩ := hends.names_eq (List.cons_ne_nil _ _)
        refine ⟨names front ++ [".."], k, .inr ⟨_, rfl⟩, ?_⟩
        rw [hk, List.append_assoc]
        rfl
    obtain ⟨steps, k, hsteps, hall⟩ := hlast
    rw [h] at hall
    exfalso
    cases k with
    | succ k =>
      rw [List.replicate_succ', ← List.append_assoc] at hall
      exact hdot (List.singleton_inj.1 (List.append_inj' hall rfl).2)
    | zero =>
      rw [List.replicate_zero, List.append_nil] at hall
      rcases hsteps with rfl | ⟨more, rfl⟩
      · exact List.append_ne_nil_of_right_ne_nil _ (List.cons_ne_nil _ _) hall
      · exact hup (List.singleton_inj.1 (List.append_inj' hall rfl).2)

/-- The steps of such a path are those of the text in front, and the name. -/
theorem names_of_fileName? {cs front name : List Char} {init : List String} {s : String}
    (hn : fileName? cs = some (front, name)) (h : names cs = init ++ [s]) (hdot : s ≠ ".") :
    init = names front := by
  obtain ⟨trail, hends, hne, -, -⟩ := ends_of_fileName?_eq_some hn
  obtain ⟨k, hk⟩ := hends.names_eq hne
  rw [h] at hk
  cases k with
  | succ k =>
    rw [List.replicate_succ', ← List.cons_append, ← List.append_assoc] at hk
    exact absurd (List.singleton_inj.1 (List.append_inj' hk rfl).2) hdot
  | zero => exact (List.append_inj' hk rfl).1

theorem isAbsolute_of_fileName? {path : String} {front name : List Char}
    (hn : fileName? path.toList = some (front, name)) : isAbsolute path = (front.head? == some '/') := by
  obtain ⟨trail, hends, hne, -, -⟩ := ends_of_fileName?_eq_some hn
  unfold isAbsolute
  rw [hends.eq]
  cases front with
  | cons c front => rfl
  | nil =>
    cases name with
    | nil => exact absurd rfl hne
    | cons c name =>
      have hc : c ≠ '/' := fun heq => hends.noSlash (heq ▸ List.mem_cons_self)
      simp [hc]

/-- A path with another extension, if both end with the step to a name, differs from the path in that step alone. -/
theorem beside_withExtension {path e : String} (hslash : '/' ∉ e.toList) (hdot : '.' ∈ e.toList)
    {init init' : List String} {s s' : String} (hpath : steps path = init ++ [s]) (hs : s ≠ ".")
    (hother : steps (withExtension path e) = init' ++ [s']) (hs' : s' ≠ ".") (hup : s' ≠ "..") :
    init' = init ∧ isAbsolute (withExtension path e) = isAbsolute path := by
  obtain ⟨front, name, hn⟩ := exists_fileName? hother hs' hup
  obtain ⟨m, hm, -⟩ := fileName?_withExtension hslash hdot hn
  constructor
  · rw [names_of_fileName? hn hother hs', names_of_fileName? hm hpath hs]
  · rw [isAbsolute_of_fileName? hn, isAbsolute_of_fileName? hm]

end BudgetRules.Path
