import BudgetRules.Json.Decode
import BudgetRules.Proofs.Json.Grammar

/-!
# What is read without a fault

A text that is read without a fault is a way to write what it is read as, so the reader takes nothing for a value that
is none:

    Tree.ofText cs = (t, false) ∧ t.passedFault? = none ↔ t.WrittenIn cs                      (Tree.writtenIn_iff)
-/

namespace BudgetRules.Json

mutual

/-- What is written has no fault. -/
theorem Tree.Written.passedFault? : ∀ {t : Tree} {cs : List Char}, t.Written cs → t.passedFault? = none
  | _, _, .null => rfl
  | _, _, .bool _ => rfl
  | _, _, .num _ _ => rfl
  | _, _, .negative _ _ => rfl
  | _, _, .str _ => rfl
  | _, _, .list h => h.passedFault?
  | _, _, .object h => h.passedFault?

theorem Items.Written.passedFault? : ∀ {first : Bool} {items : Items} {cs : List Char}, Items.Written first items cs →
    items.passedFault? = none
  | _, _, _, .closed _ => rfl
  | _, _, _, .first _ ht hrest => by
    rw [Items.passedFault?, ht.passedFault?]
    exact hrest.passedFault?
  | _, _, _, .next _ h => h.passedFault?

theorem Members.Written.passedFault? : ∀ {first : Bool} {members : Members} {cs : List Char},
    Members.Written first members cs → members.passedFault? = none
  | _, _, _, .closed _ => rfl
  | _, _, _, .first _ _ _ _ ht hrest => by
    rw [Members.passedFault?, ht.passedFault?]
    exact hrest.passedFault?
  | _, _, _, .next _ h => h.passedFault?

end

theorem blank_nil : Blank [] := List.forall_mem_nil _

theorem Blank.append {sp sp' : List Char} (h : Blank sp) (h' : Blank sp') : Blank (sp ++ sp') :=
  fun c hc => (List.mem_append.1 hc).elim (h c) (h' c)

/-- A value with blanks in front of it. -/
def Tree.Led (t : Tree) (cs : List Char) : Prop := ∃ sp body, Blank sp ∧ t.Written body ∧ cs = sp ++ body

/-- What is read of a text has a fault, or it is written in front of what is left. -/
def Faithful {α : Type} (fault? : α → Option Fault) (written : α → List Char → Prop) (cs : List Char) :
    α × Option (List Char) → Prop
  | (a, none) => fault? a ≠ none
  | (a, some r) => fault? a = none → ∃ body, cs = body ++ r ∧ written a body

/-- What is passed over in front belongs to what is written. -/
theorem Faithful.led {α β : Type} {fault? : α → Option Fault} {written : α → List Char → Prop}
    {fault?' : β → Option Fault} {written' : β → List Char → Prop} {cs : List Char} {read : α × Option (List Char)}
    (h : Faithful fault? written cs read) (front : List Char) (f : α → β) (hf : ∀ a, fault?' (f a) = fault? a)
    (hw : ∀ a body, written a body → written' (f a) (front ++ body)) :
    Faithful fault?' written' (front ++ cs) (f read.1, read.2) := by
  obtain ⟨a, _ | r⟩ := read
  · exact fun hfault => h (hf a ▸ hfault)
  · intro hfault
    obtain ⟨body, rfl, hbody⟩ := h (hf a ▸ hfault)
    exact ⟨front ++ body, (List.append_assoc _ _ _).symm, hw a body hbody⟩

/-- Blanks in front are passed over. -/
theorem Faithful.of_skipSpace {α : Type} {fault? : α → Option Fault} {written written' : α → List Char → Prop}
    {cs : List Char} {read : α × Option (List Char)} (h : Faithful fault? written (skipSpace cs) read)
    (hw : ∀ sp a body, Blank sp → written a body → written' a (sp ++ body)) : Faithful fault? written' cs read := by
  obtain ⟨sp, hsp, hcs⟩ := exists_blank cs
  have hled : Faithful fault? written' (sp ++ skipSpace cs) read :=
    h.led sp id (fun _ => rfl) fun a body => hw sp a body hsp
  rwa [← hcs] at hled

theorem eq_append_of_ident {ws cs r : List Char} (h : ident ws cs = .ok r) : cs = ws ++ r := by
  induction ws generalizing cs with
  | nil => cases h; rfl
  | cons w ws ih =>
    cases cs with
    | nil => cases h
    | cons c cs =>
      unfold ident at h
      split at h
      · next heq => rw [ih h, heq]; rfl
      · cases h

theorem faithful_word {t : Tree} {ws : List Char} {c : Char} (ht : t.Written (c :: ws)) (cs : List Char) :
    Faithful Tree.passedFault? Tree.Written (c :: cs) (word t ws cs) := by
  unfold word
  split
  · next r hident =>
    intro _
    exact ⟨c :: ws, by rw [eq_append_of_ident hident]; rfl, ht⟩
  · exact Option.some_ne_none _

theorem faithful_number {neg : Bool} {cs : List Char} (front : List Char)
    (hfront : ∀ n body, n.negative = neg → Numeral.Written n body → Tree.Written (.num n.value) (front ++ body)) :
    Faithful Tree.passedFault? Tree.Written (front ++ cs) (number neg cs) := by
  unfold number
  split
  · next n r hscan =>
    intro _
    obtain ⟨hneg, body, rfl, hbody⟩ := Numeral.exists_written_of_scan hscan
    exact ⟨front ++ body, (List.append_assoc _ _ _).symm, hfront n body hneg hbody⟩
  · exact Option.some_ne_none _

variable {fuel : Nat}

theorem Tree.faithful_read_succ
    (hi : ∀ first cs, Faithful Items.passedFault? (Items.Written first) cs (Items.read fuel first cs))
    (hm : ∀ first cs, Faithful Members.passedFault? (Members.Written first) cs (Members.read fuel first cs))
    (cs : List Char) : Faithful Tree.passedFault? Tree.Led cs (Tree.read (fuel + 1) cs) := by
  suffices h : Faithful Tree.passedFault? Tree.Written (skipSpace cs) (Tree.read (fuel + 1) cs) from
    h.of_skipSpace fun sp t body hsp hbody => ⟨sp, body, hsp, hbody, rfl⟩
  rw [Tree.read]
  generalize skipSpace cs = rest
  split
  · exact Option.some_ne_none _
  · exact faithful_word .null _
  · exact faithful_word (.bool true) _
  · exact faithful_word (.bool false) _
  · split
    · next s r' hstring =>
      intro _
      obtain ⟨body, hbody, hwritten⟩ := exists_written_of_string hstring
      exact ⟨body, hbody, .str hwritten⟩
    · exact Option.some_ne_none _
  · next r => exact (hi true r).led ['['] Tree.list (fun _ => rfl) fun _ _ h => .list h
  · next r => exact (hm true r).led ['{'] Tree.object (fun _ => rfl) fun _ _ h => .object h
  · exact faithful_number ['-'] fun n body hneg hbody => .negative hneg hbody
  · split
    · exact faithful_number [] fun n body hneg hbody => .num hneg hbody
    · exact Option.some_ne_none _

theorem Items.passedFault?_item {t : Tree} {rest : Items} :
    (Items.item t rest).passedFault? = none ↔ t.passedFault? = none ∧ rest.passedFault? = none := by
  rw [Items.passedFault?]
  cases t.passedFault? <;> simp

theorem Members.passedFault?_member {key : Except Fault String} {t : Tree} {rest : Members} :
    (Members.member key t rest).passedFault? = none ↔ t.passedFault? = none ∧ rest.passedFault? = none := by
  rw [Members.passedFault?]
  cases t.passedFault? <;> simp

theorem Items.Written.led {first : Bool} {items : Items} {sp cs : List Char} (hsp : Blank sp)
    (h : Items.Written first items cs) : Items.Written first items (sp ++ cs) := by
  cases h with
  | closed hsp' => rw [← List.append_assoc]; exact .closed (hsp.append hsp')
  | first hsp' ht hrest => rw [← List.append_assoc]; exact .first (hsp.append hsp') ht hrest
  | next hsp' h => rw [← List.append_assoc]; exact .next (hsp.append hsp') h

theorem Members.Written.led {first : Bool} {members : Members} {sp cs : List Char} (hsp : Blank sp)
    (h : Members.Written first members cs) : Members.Written first members (sp ++ cs) := by
  cases h with
  | closed hsp' => rw [← List.append_assoc]; exact .closed (hsp.append hsp')
  | first hsp' hk hcolon hv ht hrest =>
    rw [← List.append_assoc]; exact .first (hsp.append hsp') hk hcolon hv ht hrest
  | next hsp' h => rw [← List.append_assoc]; exact .next (hsp.append hsp') h

/-- A list that goes on with an item, as it would begin. -/
def Items.Begins (items : Items) (cs : List Char) : Prop :=
  Items.Written true items cs ∧ ∃ t rest, items = .item t rest

theorem Items.Begins.led {items : Items} {sp cs : List Char} (hsp : Blank sp) (h : items.Begins cs) :
    items.Begins (sp ++ cs) := ⟨h.1.led hsp, h.2⟩

/-- After a comma a list goes on as it begins. -/
theorem Items.Begins.next {items : Items} {cs : List Char} (h : items.Begins cs) :
    Items.Written false items (',' :: cs) := by
  obtain ⟨h, t, rest, rfl⟩ := h
  exact .next blank_nil h

/-- An item, once the comma before it has been read. -/
theorem Items.faithful_item (ht : ∀ cs, Faithful Tree.passedFault? Tree.Led cs (Tree.read fuel cs))
    (hi : ∀ first cs, Faithful Items.passedFault? (Items.Written first) cs (Items.read fuel first cs))
    (cs : List Char) :
    Faithful Items.passedFault? Items.Begins cs
      (match Tree.read fuel cs with
      | (t, none) => (Items.item t (.stop .unfinished), none)
      | (t, some r) =>
        let (rest, r) := Items.read fuel false r
        (.item t rest, r)) := by
  have hfirst := ht cs
  generalize Tree.read fuel cs = read at hfirst
  obtain ⟨t, _ | r⟩ := read
  · exact fun hfault => hfirst (Items.passedFault?_item.1 hfault).1
  · show Faithful _ _ cs (Items.item t (Items.read fuel false r).1, (Items.read fuel false r).2)
    have hrest := hi false r
    generalize Items.read fuel false r = read at hrest
    obtain ⟨rest, _ | r'⟩ := read
    · exact fun hfault => hrest (Items.passedFault?_item.1 hfault).2
    · intro hfault
      obtain ⟨hfault, hfault'⟩ := Items.passedFault?_item.1 hfault
      obtain ⟨body, rfl, sp, v, hsp, hv, rfl⟩ := hfirst hfault
      obtain ⟨body', rfl, hbody'⟩ := hrest hfault'
      exact ⟨sp ++ (v ++ body'), by simp, .first hsp hv hbody', t, rest, rfl⟩

theorem Items.faithful_read_succ (ht : ∀ cs, Faithful Tree.passedFault? Tree.Led cs (Tree.read fuel cs))
    (hi : ∀ first cs, Faithful Items.passedFault? (Items.Written first) cs (Items.read fuel first cs))
    (first : Bool) (cs : List Char) :
    Faithful Items.passedFault? (Items.Written first) cs (Items.read (fuel + 1) first cs) := by
  suffices h : Faithful Items.passedFault? (Items.Written first) (skipSpace cs) (Items.read (fuel + 1) first cs) from
    h.of_skipSpace fun _ _ _ => .led
  rw [Items.read]
  generalize skipSpace cs = rest
  split
  · exact Option.some_ne_none _
  · next r => exact fun _ => ⟨[']'], rfl, .closed blank_nil⟩
  · next c r _ =>
    split
    · next hfirst =>
      -- nothing has been read yet, so no comma is wanted
      subst hfirst
      exact (Items.faithful_item ht hi (c :: r)).led [] id (fun _ => rfl) fun _ _ h => h.1
    · split
      · next hfirst hc =>
        rw [Bool.not_eq_true] at hfirst
        subst hc hfirst
        split
        · exact Option.some_ne_none _
        · exact Option.some_ne_none _
        · have hitem := (Items.faithful_item ht hi (skipSpace r)).of_skipSpace fun _ _ _ => Items.Begins.led
          exact hitem.led [','] id (fun _ => rfl) fun _ _ => Items.Begins.next
      · exact Option.some_ne_none _

/-- An object that goes on with a member, as it would begin. -/
def Members.Begins (members : Members) (cs : List Char) : Prop :=
  Members.Written true members cs ∧ ∃ key t rest, members = .member key t rest

theorem Members.Begins.led {members : Members} {sp cs : List Char} (hsp : Blank sp) (h : members.Begins cs) :
    members.Begins (sp ++ cs) := ⟨h.1.led hsp, h.2⟩

/-- After a comma an object goes on as it begins. -/
theorem Members.Begins.next {members : Members} {cs : List Char} (h : members.Begins cs) :
    Members.Written false members (',' :: cs) := by
  obtain ⟨h, key, t, rest, rfl⟩ := h
  exact .next blank_nil h

/-- A member, once its name and the colon have been read. -/
theorem Members.faithful_member (ht : ∀ cs, Faithful Tree.passedFault? Tree.Led cs (Tree.read fuel cs))
    (hm : ∀ first cs, Faithful Members.passedFault? (Members.Written first) cs (Members.read fuel first cs))
    {key : Except Fault String} {k colon : List Char} (hk : WrittenString key k) (hcolon : Blank colon)
    (cs : List Char) :
    Faithful Members.passedFault? Members.Begins (k ++ (colon ++ ':' :: cs))
      (match Tree.read fuel cs with
      | (t, none) => (Members.member key t (.stop .unfinished), none)
      | (t, some r) =>
        let (rest, r) := Members.read fuel false r
        (.member key t rest, r)) := by
  have hfirst := ht cs
  generalize Tree.read fuel cs = read at hfirst
  obtain ⟨t, _ | r⟩ := read
  · exact fun hfault => hfirst (Members.passedFault?_member.1 hfault).1
  · show Faithful _ _ _ (Members.member key t (Members.read fuel false r).1, (Members.read fuel false r).2)
    have hrest := hm false r
    generalize Members.read fuel false r = read at hrest
    obtain ⟨rest, _ | r'⟩ := read
    · exact fun hfault => hrest (Members.passedFault?_member.1 hfault).2
    · intro hfault
      obtain ⟨hfault, hfault'⟩ := Members.passedFault?_member.1 hfault
      obtain ⟨body, rfl, sp, v, hsp, hv, rfl⟩ := hfirst hfault
      obtain ⟨body', rfl, hbody'⟩ := hrest hfault'
      exact ⟨k ++ (colon ++ ':' :: (sp ++ (v ++ body'))), by simp,
        .first blank_nil hk hcolon hsp hv hbody', key, t, rest, rfl⟩

/-- What stands where a member can stand. -/
theorem Members.faithful_next (ht : ∀ cs, Faithful Tree.passedFault? Tree.Led cs (Tree.read fuel cs))
    (hm : ∀ first cs, Faithful Members.passedFault? (Members.Written first) cs (Members.read fuel first cs))
    (cs : List Char) :
    Faithful Members.passedFault? Members.Begins cs
      (match cs with
      | '"' :: r =>
        match string r with
        | .error b => (Members.brokenKey b, none)
        | .ok (key, r) =>
          match skipSpace r with
          | ':' :: r =>
            match Tree.read fuel r with
            | (t, none) => (.member key t (.stop .unfinished), none)
            | (t, some r) =>
              let (rest, r) := Members.read fuel false r
              (.member key t rest, r)
          | [] => (.member key (.unreached .eofInObject) (.stop .unfinished), none)
          | _ => (.member key (.unreached .expectedColon) (.stop .unfinished), none)
      | cs => (.strayKey (Tree.read fuel cs).1, none)) := by
  split
  · split
    · exact Option.some_ne_none _
    · next key r hstring =>
      obtain ⟨k, hk, hwritten⟩ := exists_written_of_string hstring
      obtain ⟨colon, hcolon, hr⟩ := exists_blank r
      split
      · next r' hskip =>
        have hmember := Members.faithful_member ht hm hwritten hcolon r'
        rwa [← hskip, ← hr, ← hk] at hmember
      · exact Option.some_ne_none _
      · exact Option.some_ne_none _
  · exact Option.some_ne_none _

theorem Members.faithful_read_succ (ht : ∀ cs, Faithful Tree.passedFault? Tree.Led cs (Tree.read fuel cs))
    (hm : ∀ first cs, Faithful Members.passedFault? (Members.Written first) cs (Members.read fuel first cs))
    (first : Bool) (cs : List Char) :
    Faithful Members.passedFault? (Members.Written first) cs (Members.read (fuel + 1) first cs) := by
  suffices h : Faithful Members.passedFault? (Members.Written first) (skipSpace cs)
      (Members.read (fuel + 1) first cs) from h.of_skipSpace fun _ _ _ => .led
  rw [Members.read]
  generalize skipSpace cs = rest
  split
  · exact Option.some_ne_none _
  · next r => exact fun _ => ⟨['}'], rfl, .closed blank_nil⟩
  · next c r _ =>
    split
    · next hfirst =>
      -- nothing has been read yet, so no comma is wanted
      subst hfirst
      exact (Members.faithful_next ht hm (c :: r)).led [] id (fun _ => rfl) fun _ _ h => h.1
    · split
      · next hfirst hc =>
        rw [Bool.not_eq_true] at hfirst
        subst hc hfirst
        split
        · exact Option.some_ne_none _
        · exact Option.some_ne_none _
        · have hnext := (Members.faithful_next ht hm (skipSpace r)).of_skipSpace fun _ _ _ => Members.Begins.led
          exact hnext.led [','] id (fun _ => rfl) fun _ _ => Members.Begins.next
      · exact Option.some_ne_none _

/-- What is read has a fault, or it is written in front of what is left. -/
theorem Tree.faithful_read (fuel : Nat) (cs : List Char) :
    Faithful Tree.passedFault? Tree.Led cs (Tree.read fuel cs) := by
  suffices h : ∀ fuel, (∀ cs, Faithful Tree.passedFault? Tree.Led cs (Tree.read fuel cs)) ∧
      (∀ first cs, Faithful Items.passedFault? (Items.Written first) cs (Items.read fuel first cs)) ∧
      ∀ first cs, Faithful Members.passedFault? (Members.Written first) cs (Members.read fuel first cs) from
    (h fuel).1 cs
  intro fuel
  induction fuel with
  | zero =>
    exact ⟨fun _ => Option.some_ne_none _, fun _ _ => Option.some_ne_none _, fun _ _ => Option.some_ne_none _⟩
  | succ fuel ih =>
    obtain ⟨ht, hi, hm⟩ := ih
    exact ⟨Tree.faithful_read_succ hi hm, Items.faithful_read_succ ht hi, Members.faithful_read_succ ht hm⟩

/-- The texts that are read without a fault are the ways to write what they are read as. -/
theorem Tree.writtenIn_iff {t : Tree} {cs : List Char} :
    t.WrittenIn cs ↔ Tree.ofText cs = (t, false) ∧ t.passedFault? = none := by
  constructor
  · intro h
    refine ⟨h.ofText, ?_⟩
    obtain ⟨sp, body, sp', -, hbody, -⟩ := h
    exact hbody.passedFault?
  · rintro ⟨htext, hfault⟩
    have hread := Tree.faithful_read (2 * cs.length + 4) cs
    unfold Tree.ofText at htext
    generalize Tree.read (2 * cs.length + 4) cs = read at hread htext
    obtain ⟨t', _ | r⟩ := read
    · cases htext
      exact absurd hfault hread
    · obtain ⟨rfl, hrest⟩ := Prod.mk.inj htext
      obtain ⟨body, rfl, sp, v, hsp, hv, rfl⟩ := hread hfault
      have hnil : skipSpace r = [] := by simpa using hrest
      exact ⟨sp, v, r, hsp, hv, List.dropWhile_eq_nil_iff.1 hnil, List.append_assoc _ _ _⟩

end BudgetRules.Json
