import BudgetRules.Json.Decode
import BudgetRules.Proofs.Json.Lexicon

/-!
# The grammar of JSON

Which characters are a way to write a tree, with blanks wherever they may stand.  What is written is read:

    t.WrittenIn cs → Tree.ofText cs = (t, false)                                            (Tree.WrittenIn.ofText)

Each bracket or comma takes one step of the reader's fuel and each value another, so two steps a character are enough.
-/

namespace BudgetRules.Json

/-! ## Blanks -/

/-- A text of nothing but blanks. -/
def Blank (sp : List Char) : Prop := ∀ c ∈ sp, isSpace c = true

theorem skipSpace_append {sp : List Char} (h : Blank sp) (cs : List Char) :
    skipSpace (sp ++ cs) = skipSpace cs :=
  List.dropWhile_append_of_pos h

theorem skipSpace_cons {c : Char} (h : isSpace c = false) (r : List Char) : skipSpace (c :: r) = c :: r :=
  List.dropWhile_cons_of_neg (by rw [h]; decide)

/-- A text is its blanks and what comes after them. -/
theorem exists_blank (cs : List Char) : ∃ sp, Blank sp ∧ cs = sp ++ skipSpace cs :=
  ⟨cs.takeWhile isSpace, fun _ hc => List.mem_takeWhile_imp hc, List.takeWhile_append_dropWhile.symm⟩

theorem isSpace_of_isDigit {c : Char} (h : c.isDigit = true) : isSpace c = false := by
  have hblank : ¬(c = ' ' ∨ c = '\n' ∨ c = '\t' ∨ c = '\r') := by
    rintro (h' | h' | h' | h') <;> exact ne_of_isDigit h (by decide) h'
  exact decide_eq_false hblank

/-- A text in which a value begins at once. -/
def Starts (cs : List Char) : Prop := ∃ c r, cs = c :: r ∧ isSpace c = false ∧ c ≠ ']'

theorem Starts.append {cs : List Char} (h : Starts cs) (r : List Char) : Starts (cs ++ r) := by
  obtain ⟨c, r', rfl, hc⟩ := h
  exact ⟨c, r' ++ r, rfl, hc⟩

theorem Starts.skipSpace {cs : List Char} (h : Starts cs) : skipSpace cs = cs := by
  obtain ⟨c, r, rfl, hc, -⟩ := h
  exact skipSpace_cons hc r

/-- Blanks end a number as well as what comes after them. -/
theorem Blank.endsNumber {sp cs : List Char} (h : Blank sp) (hcs : EndsNumber cs) : EndsNumber (sp ++ cs) := by
  cases sp with
  | nil => exact hcs
  | cons c sp =>
    have hc : c = ' ' ∨ c = '\n' ∨ c = '\t' ∨ c = '\r' := of_decide_eq_true (h c List.mem_cons_self)
    refine endsNumber_cons ?_ _
    rcases hc with rfl | rfl | rfl | rfl <;> decide

/-! ## What is written -/

mutual

/-- The characters of a value, from its first to its last. -/
inductive Tree.Written : Tree → List Char → Prop
  | null : Tree.Written .null ['n', 'u', 'l', 'l']
  | bool (b : Bool) : Tree.Written (.bool b) (boolChars b)
  | num {n : Numeral} {cs : List Char} : n.negative = false → n.Written cs → Tree.Written (.num n.value) cs
  | negative {n : Numeral} {cs : List Char} : n.negative = true → n.Written cs →
      Tree.Written (.num n.value) ('-' :: cs)
  | str {s : Except Fault String} {cs : List Char} : WrittenString s cs → Tree.Written (.str s) cs
  | list {items : Items} {r : List Char} : Items.Written true items r → Tree.Written (.list items) ('[' :: r)
  | object {members : Members} {r : List Char} : Members.Written true members r →
      Tree.Written (.object members) ('{' :: r)

/-- The rest of a list, up to its bracket; the flag says that nothing of it has been written yet. -/
inductive Items.Written : Bool → Items → List Char → Prop
  | closed {first : Bool} {sp : List Char} : Blank sp → Items.Written first (.stop .closed) (sp ++ [']'])
  | first {t : Tree} {rest : Items} {sp cs r : List Char} : Blank sp → Tree.Written t cs → Items.Written false rest r →
      Items.Written true (.item t rest) (sp ++ (cs ++ r))
  | next {t : Tree} {rest : Items} {sp cs : List Char} : Blank sp → Items.Written true (.item t rest) cs →
      Items.Written false (.item t rest) (sp ++ ',' :: cs)

/-- The rest of an object, up to its brace; the flag says that nothing of it has been written yet. -/
inductive Members.Written : Bool → Members → List Char → Prop
  | closed {first : Bool} {sp : List Char} : Blank sp → Members.Written first (.stop .closed) (sp ++ ['}'])
  | first {key : Except Fault String} {t : Tree} {rest : Members} {sp k colon sp' cs r : List Char} : Blank sp →
      WrittenString key k → Blank colon → Blank sp' → Tree.Written t cs → Members.Written false rest r →
      Members.Written true (.member key t rest) (sp ++ (k ++ (colon ++ ':' :: (sp' ++ (cs ++ r)))))
  | next {key : Except Fault String} {t : Tree} {rest : Members} {sp cs : List Char} : Blank sp →
      Members.Written true (.member key t rest) cs → Members.Written false (.member key t rest) (sp ++ ',' :: cs)

end

/-- A whole text that is a way to write a value, with blanks around it. -/
def Tree.WrittenIn (t : Tree) (cs : List Char) : Prop :=
  ∃ sp body sp', Blank sp ∧ t.Written body ∧ Blank sp' ∧ cs = sp ++ (body ++ sp')

theorem Numeral.Written.exists_digit {n : Numeral} {cs : List Char} (h : n.Written cs) :
    ∃ c r, cs = c :: r ∧ c.isDigit = true := by
  obtain ⟨hwhole, -, -⟩ := h
  obtain ⟨d, ds, hds⟩ := List.exists_cons_of_ne_nil hwhole.ne_nil
  exact ⟨d, _, by rw [hds]; rfl, hwhole.digits d (by rw [hds]; exact List.mem_cons_self)⟩

theorem WrittenString.starts {s : Except Fault String} {cs : List Char} (h : WrittenString s cs) : Starts cs := by
  cases h
  exact ⟨'"', _, rfl, by decide, by decide⟩

theorem Tree.Written.starts {t : Tree} {cs : List Char} (h : t.Written cs) : Starts cs := by
  cases h with
  | null => exact ⟨'n', _, rfl, by decide, by decide⟩
  | bool b => cases b <;> exact ⟨_, _, rfl, by decide, by decide⟩
  | num _ hn =>
    obtain ⟨c, r, rfl, hc⟩ := hn.exists_digit
    exact ⟨c, r, rfl, isSpace_of_isDigit hc, ne_of_isDigit hc (by decide)⟩
  | negative => exact ⟨'-', _, rfl, by decide, by decide⟩
  | str hs => exact hs.starts
  | list => exact ⟨'[', _, rfl, by decide, by decide⟩
  | object => exact ⟨'{', _, rfl, by decide, by decide⟩

theorem Items.Written.endsNumber {items : Items} {cs : List Char} (h : Items.Written false items cs) (r : List Char) :
    EndsNumber (cs ++ r) := by
  cases h with
  | closed hsp => rw [List.append_assoc]; exact hsp.endsNumber (endsNumber_cons (by decide) _)
  | next hsp => rw [List.append_assoc]; exact hsp.endsNumber (endsNumber_cons (by decide) _)

theorem Members.Written.endsNumber {members : Members} {cs : List Char} (h : Members.Written false members cs)
    (r : List Char) : EndsNumber (cs ++ r) := by
  cases h with
  | closed hsp => rw [List.append_assoc]; exact hsp.endsNumber (endsNumber_cons (by decide) _)
  | next hsp => rw [List.append_assoc]; exact hsp.endsNumber (endsNumber_cons (by decide) _)

theorem Items.Written.length_pos {first : Bool} {items : Items} {cs : List Char} (h : Items.Written first items cs) :
    0 < cs.length := by
  cases h with
  | closed => simp
  | first _ ht =>
    obtain ⟨c, r, rfl, -⟩ := ht.starts
    simp only [List.length_append, List.length_cons]
    omega
  | next => simp only [List.length_append, List.length_cons]; omega

theorem Members.Written.length_pos {first : Bool} {members : Members} {cs : List Char}
    (h : Members.Written first members cs) : 0 < cs.length := by
  cases h <;> simp only [List.length_append, List.length_cons] <;> omega

/-! ## Reading what is written -/

section Steps

variable {fuel : Nat} {sp cs r r' : List Char} {t : Tree}

theorem Tree.read_digit {c : Char} (h : c.isDigit = true) (fuel : Nat) (r : List Char) :
    Tree.read (fuel + 1) (c :: r) = number false (c :: r) := by
  rw [Tree.read, skipSpace_cons (isSpace_of_isDigit h)]
  split
  case h_1 heq => cases heq
  case h_9 heq =>
    cases heq
    exact if_pos h
  -- no other character that a value can begin with is a digit
  all_goals
    next heq => exact absurd (List.cons.inj heq).1 (ne_of_isDigit h (by decide))

theorem Tree.read_blank (hsp : Blank sp) (fuel : Nat) (cs : List Char) :
    Tree.read fuel (sp ++ cs) = Tree.read fuel cs := by
  cases fuel with
  | zero => rfl
  | succ fuel => rw [Tree.read, Tree.read, skipSpace_append hsp]

theorem Items.read_blank (hsp : Blank sp) (fuel : Nat) (first : Bool) (cs : List Char) :
    Items.read fuel first (sp ++ cs) = Items.read fuel first cs := by
  cases fuel with
  | zero => rfl
  | succ fuel => rw [Items.read, Items.read, skipSpace_append hsp]

theorem Members.read_blank (hsp : Blank sp) (fuel : Nat) (first : Bool) (cs : List Char) :
    Members.read fuel first (sp ++ cs) = Members.read fuel first cs := by
  cases fuel with
  | zero => rfl
  | succ fuel => rw [Members.read, Members.read, skipSpace_append hsp]

theorem number_of_written {n : Numeral} (h : n.Written cs) (hr : EndsNumber r) :
    number n.negative (cs ++ r) = (.num n.value, some r) := by
  unfold number
  rw [h.scan hr]

theorem Tree.read_string {s : Except Fault String} (h : WrittenString s cs) (fuel : Nat) (r : List Char) :
    Tree.read (fuel + 1) (cs ++ r) = (.str s, some r) := by
  obtain ⟨body, hcs, hread⟩ := h.read r
  rw [hcs, Tree.read, skipSpace_cons (by decide)]
  simp only [hread]

/-- The first item of a list, which no comma leads. -/
theorem Items.read_first {items : Items} (hcs : Starts cs) (ht : Tree.read fuel cs = (t, some r))
    (hi : Items.read fuel false r = (items, some r')) : Items.read (fuel + 1) true cs = (.item t items, some r') := by
  rw [Items.read, hcs.skipSpace]
  obtain ⟨c, cs, rfl, -, hc⟩ := hcs
  split
  · next heq => cases heq
  · next heq => exact absurd (List.cons.inj heq).1 hc
  · next heq =>
    obtain ⟨rfl, rfl⟩ := List.cons.inj heq
    simp only [if_true, ht, hi]

theorem Items.read_after_comma (fuel : Nat) (cs : List Char) :
    Items.read (fuel + 1) false (',' :: cs) =
      match skipSpace cs with
      | [] => (.stop .endAfterComma, none)
      | ']' :: _ => (.stop .trailingComma, none)
      | r =>
        match Tree.read fuel r with
        | (t, none) => (.item t (.stop .unfinished), none)
        | (t, some r) =>
          let (rest, r) := Items.read fuel false r
          (.item t rest, r) := rfl

/-- After a comma a list goes on as it begins. -/
theorem Items.Written.read_comma {rest : Items} (h : Items.Written true (.item t rest) cs) (fuel : Nat)
    (r : List Char) : Items.read (fuel + 1) false (',' :: (cs ++ r)) = Items.read (fuel + 1) true (cs ++ r) := by
  cases h with
  | @first _ _ sp v r' hsp ht _ =>
    have hstarts := ht.starts.append (r' ++ r)
    simp only [List.append_assoc]
    rw [Items.read_blank hsp, Items.read_after_comma, Items.read, skipSpace_append hsp, hstarts.skipSpace]
    obtain ⟨c, cs, hcs, -, hc⟩ := hstarts
    rw [hcs]
    split
    · next heq => cases heq
    · next heq => exact absurd (List.cons.inj heq).1 hc
    · symm
      split
      · next heq => cases heq
      · next heq => exact absurd (List.cons.inj heq).1 hc
      · next heq =>
        obtain ⟨rfl, rfl⟩ := List.cons.inj heq
        rfl

theorem Members.read_key (fuel : Nat) (cs : List Char) :
    Members.read (fuel + 1) true ('"' :: cs) =
      match string cs with
      | .error b => (.brokenKey b, none)
      | .ok (key, r) =>
        match skipSpace r with
        | ':' :: r =>
          match Tree.read fuel r with
          | (t, none) => (.member key t (.stop .unfinished), none)
          | (t, some r) =>
            let (rest, r) := Members.read fuel false r
            (.member key t rest, r)
        | [] => (.member key (.unreached .eofInObject) (.stop .unfinished), none)
        | _ => (.member key (.unreached .expectedColon) (.stop .unfinished), none) := rfl

theorem Members.read_first {key : Except Fault String} {members : Members} {k colon : List Char}
    (hk : WrittenString key k) (hcolon : Blank colon) (ht : Tree.read fuel cs = (t, some r))
    (hm : Members.read fuel false r = (members, some r')) :
    Members.read (fuel + 1) true (k ++ (colon ++ ':' :: cs)) = (.member key t members, some r') := by
  obtain ⟨body, hbody, hread⟩ := hk.read (colon ++ ':' :: cs)
  have hskip : skipSpace (colon ++ ':' :: cs) = ':' :: cs := by
    rw [skipSpace_append hcolon, skipSpace_cons (by decide)]
  rw [hbody, Members.read_key, hread]
  simp only [hskip, ht, hm]

/-- After a comma an object goes on as it begins. -/
theorem Members.Written.read_comma {key : Except Fault String} {rest : Members}
    (h : Members.Written true (.member key t rest) cs) (fuel : Nat) (r : List Char) :
    Members.read (fuel + 1) false (',' :: (cs ++ r)) = Members.read (fuel + 1) true (cs ++ r) := by
  cases h with
  | @first _ _ _ sp k colon sp' v r' hsp hk =>
    obtain ⟨body, hbody, -⟩ := hk.read (colon ++ ':' :: (sp' ++ (v ++ (r' ++ r))))
    simp only [List.append_assoc, List.cons_append]
    rw [Members.read_blank hsp, hbody, Members.read, skipSpace_cons (by decide)]
    split
    · next heq => cases heq
    · next heq => cases heq
    · next heq =>
      obtain ⟨rfl, rfl⟩ := List.cons.inj heq
      simp only [if_true, Bool.false_eq_true, if_false]
      rw [skipSpace_append hsp, skipSpace_cons (by decide)]
      rfl

end Steps

theorem Tree.Written.length_pos {t : Tree} {cs : List Char} (h : t.Written cs) : 0 < cs.length := by
  obtain ⟨c, r, rfl, -⟩ := h.starts
  exact Nat.succ_pos _

mutual

/-- A value is read up to where it ends. -/
theorem Tree.Written.read : ∀ {t : Tree} {cs : List Char}, t.Written cs → ∀ fuel, 2 * cs.length ≤ fuel →
    ∀ r, EndsNumber r → Tree.read fuel (cs ++ r) = (t, some r)
  | _, _, h, 0, hf, _, _ => absurd h.length_pos (by omega)
  | _, _, .null, fuel + 1, _, _, _ => rfl
  | _, _, .bool true, fuel + 1, _, _, _ => rfl
  | _, _, .bool false, fuel + 1, _, _, _ => rfl
  | _, _, .num hneg hn, fuel + 1, _, _, hr => by
    have hnumber := number_of_written hn hr
    obtain ⟨c, cs, rfl, hc⟩ := hn.exists_digit
    rw [List.cons_append, Tree.read_digit hc, ← List.cons_append, ← hneg, hnumber]
  | _, _, .negative hneg hn, fuel + 1, _, _, hr => by
    have hnumber := number_of_written hn hr
    rw [hneg] at hnumber
    exact hnumber
  | _, _, .str hs, fuel + 1, _, r, _ => Tree.read_string hs fuel r
  | .list items, '[' :: cs, .list hitems, fuel + 1, hf, r, _ => by
    have hread := hitems.read fuel (by rw [List.length_cons] at hf; omega) r
    show (Tree.list (Items.read fuel true (cs ++ r)).1, (Items.read fuel true (cs ++ r)).2) = _
    rw [hread]
  | .object members, '{' :: cs, .object hmembers, fuel + 1, hf, r, _ => by
    have hread := hmembers.read fuel (by rw [List.length_cons] at hf; omega) r
    show (Tree.object (Members.read fuel true (cs ++ r)).1, (Members.read fuel true (cs ++ r)).2) = _
    rw [hread]

theorem Items.Written.read : ∀ {first : Bool} {items : Items} {cs : List Char}, Items.Written first items cs →
    ∀ fuel, 2 * cs.length ≤ fuel + 1 → ∀ r, Items.read fuel first (cs ++ r) = (items, some r)
  | _, _, _, h, 0, hf, _ => absurd h.length_pos (by omega)
  | first, _, _, .closed hsp, fuel + 1, _, r => by
    rw [List.append_assoc, Items.read_blank hsp]
    rfl
  | _, _, _, .first hsp ht hrest, fuel + 1, hf, r => by
    have hpos := ht.length_pos
    have hpos' := hrest.length_pos
    simp only [List.length_append] at hf
    simp only [List.append_assoc]
    rw [Items.read_blank hsp]
    exact Items.read_first (ht.starts.append _) (ht.read fuel (by omega) _ (hrest.endsNumber r))
      (hrest.read fuel (by omega) r)
  | _, _, _, .next hsp h, fuel + 1, hf, r => by
    simp only [List.length_append, List.length_cons] at hf
    rw [List.append_assoc, List.cons_append, Items.read_blank hsp, h.read_comma]
    exact h.read (fuel + 1) (by omega) r

theorem Members.Written.read : ∀ {first : Bool} {members : Members} {cs : List Char},
    Members.Written first members cs → ∀ fuel, 2 * cs.length ≤ fuel + 1 →
    ∀ r, Members.read fuel first (cs ++ r) = (members, some r)
  | _, _, _, h, 0, hf, _ => absurd h.length_pos (by omega)
  | first, _, _, .closed hsp, fuel + 1, _, r => by
    rw [List.append_assoc, Members.read_blank hsp]
    rfl
  | _, _, _, .first hsp hk hcolon hsp' ht hrest, fuel + 1, hf, r => by
    have hpos := ht.length_pos
    have hpos' := hrest.length_pos
    simp only [List.length_append, List.length_cons] at hf
    simp only [List.append_assoc, List.cons_append]
    rw [Members.read_blank hsp]
    refine Members.read_first hk hcolon ?_ (hrest.read fuel (by omega) r)
    rw [Tree.read_blank hsp']
    exact ht.read fuel (by omega) _ (hrest.endsNumber r)
  | _, _, _, .next hsp h, fuel + 1, hf, r => by
    simp only [List.length_append, List.length_cons] at hf
    rw [List.append_assoc, List.cons_append, Members.read_blank hsp, h.read_comma]
    exact h.read (fuel + 1) (by omega) r

end

/-- A text that is a way to write a value is read as it, and nothing follows. -/
theorem Tree.WrittenIn.ofText {t : Tree} {cs : List Char} (h : t.WrittenIn cs) : Tree.ofText cs = (t, false) := by
  obtain ⟨sp, body, sp', hsp, hbody, hsp', rfl⟩ := h
  have hread := hbody.read (2 * (sp ++ (body ++ sp')).length + 4) (by simp only [List.length_append]; omega) sp' (by
    rw [← List.append_nil sp']
    exact hsp'.endsNumber endsNumber_nil)
  have hskip : skipSpace sp' = [] := List.dropWhile_eq_nil_iff.2 hsp'
  unfold Tree.ofText
  rw [Tree.read_blank hsp, hread]
  simp only [hskip]
  rfl

end BudgetRules.Json
