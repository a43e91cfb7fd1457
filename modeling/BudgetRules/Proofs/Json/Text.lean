import BudgetRules.Json.Printer
import BudgetRules.Proofs.Json.Faultless

/-!
# JSON texts are read back

`Tree.ofJson` is the tree of a value.  What is printed of a value, on one line or with one item a line, is a way to
write its tree, as long as its numbers are read back:

    j.Readable → (Tree.ofJson j).Written (j.prettyChars level)                           (Tree.written_prettyChars)
    j.Readable → (Tree.ofJson j).Written j.compactChars                                 (Tree.written_compactChars)
-/

namespace BudgetRules.Json

/-! ## Trees of values -/

/-- What a number is read as once it has been written. -/
def Number.tree (n : Number) : Tree := (Tree.read 1 n.chars).1

mutual

/-- What a value is read as once it has been written. -/
def Tree.ofJson : Json → Tree
  | .null => .null
  | .bool b => .bool b
  | .num n => n.tree
  | .str s => .str (.ok s)
  | .arr items => .list (Items.ofJson items)
  | .obj members => .object (Members.ofJson members)
termination_by structural j => j

def Items.ofJson : List Json → Items
  | [] => .stop .closed
  | j :: rest => .item (Tree.ofJson j) (Items.ofJson rest)
termination_by structural l => l

def Members.ofJson : List (String × Json) → Members
  | [] => .stop .closed
  | (k, j) :: rest => .member (.ok k) (Tree.ofJson j) (Members.ofJson rest)
termination_by structural l => l

end

/-- The characters of a number are one value, whatever follows that is not part of a number. -/
structure Number.Readable (n : Number) : Prop where
  starts : Starts n.chars
  read : ∀ fuel r, EndsNumber r → Tree.read (fuel + 1) (n.chars ++ r) = (n.tree, some r)

mutual

/-- Are all numbers of a value read back? -/
def Readable : Json → Prop
  | .null => True
  | .bool _ => True
  | .num n => n.Readable
  | .str _ => True
  | .arr items => ReadableItems items
  | .obj members => ReadableMembers members
termination_by structural j => j

def ReadableItems : List Json → Prop
  | [] => True
  | j :: rest => Readable j ∧ ReadableItems rest
termination_by structural l => l

def ReadableMembers : List (String × Json) → Prop
  | [] => True
  | (_, j) :: rest => Readable j ∧ ReadableMembers rest
termination_by structural l => l

end

theorem readableItems_iff {l : List Json} : ReadableItems l ↔ ∀ j ∈ l, Readable j := by
  induction l with
  | nil => simp [ReadableItems]
  | cons j rest ih => rw [ReadableItems, ih, List.forall_mem_cons]

theorem readableMembers_iff {l : List (String × Json)} : ReadableMembers l ↔ ∀ p ∈ l, Readable p.2 := by
  induction l with
  | nil => simp [ReadableMembers]
  | cons p rest ih => rw [ReadableMembers, ih, List.forall_mem_cons]

/-! ## Whole numbers -/

theorem Number.read_int {i : Int} (h : Fits i) (fuel : Nat) {r : List Char} (hr : EndsNumber r) :
    Tree.read (fuel + 1) ((Number.int i).chars ++ r) = (.num (.ok (.int i)), some r) := by
  have hnumber := number_digitsOf h hr
  show Tree.read (fuel + 1) (intChars i ++ r) = _
  unfold intChars
  by_cases hi : i < 0
  · rw [if_pos hi]
    rw [decide_eq_true hi] at hnumber
    exact hnumber
  · rw [if_neg hi]
    rw [decide_eq_false hi] at hnumber
    cases hds : Binary64.digitsOf i.natAbs with
    | nil => exact absurd hds Nat.toDigits_ne_nil
    | cons c ds =>
      rw [List.cons_append, Tree.read_digit, ← List.cons_append, ← hds, hnumber]
      exact isDigit_of_mem_digitsOf (hds ▸ List.mem_cons_self)

theorem Number.tree_int {i : Int} (h : Fits i) : (Number.int i).tree = .num (.ok (.int i)) := by
  have hread := Number.read_int h 0 endsNumber_nil
  rw [List.append_nil] at hread
  unfold Number.tree
  rw [hread]

theorem Number.starts_int (i : Int) : Starts (Number.int i).chars := by
  show Starts (intChars i)
  unfold intChars
  by_cases hi : i < 0
  · rw [if_pos hi]
    exact ⟨'-', _, rfl, by decide, by decide⟩
  · rw [if_neg hi]
    cases hds : Binary64.digitsOf i.natAbs with
    | nil => exact absurd hds Nat.toDigits_ne_nil
    | cons c ds =>
      have hc : c.isDigit = true := isDigit_of_mem_digitsOf (hds ▸ List.mem_cons_self)
      exact ⟨c, ds, rfl, isSpace_of_isDigit hc, ne_of_isDigit hc (by decide)⟩

/-- A whole number that fits 64 bits is read back. -/
theorem Number.readable_int {i : Int} (h : Fits i) : (Number.int i).Readable where
  starts := Number.starts_int i
  read fuel r hr := by rw [Number.read_int h fuel hr, Number.tree_int h]

/-! ## What is printed -/

theorem passedFault?_word {t : Tree} {ws cs r : List Char} {t' : Tree} (ht : t.passedFault? = none)
    (h : word t ws cs = (t', some r)) : t'.passedFault? = none := by
  unfold word at h
  split at h
  · cases h; exact ht
  · cases h

theorem passedFault?_number {neg : Bool} {cs r : List Char} {t : Tree} (h : number neg cs = (t, some r)) :
    t.passedFault? = none := by
  unfold number at h
  split at h
  · cases h; rfl
  · cases h

/-- What is read in one step has no fault. -/
theorem Tree.passedFault?_of_read_one {cs r : List Char} {t : Tree} (h : Tree.read 1 cs = (t, some r)) :
    t.passedFault? = none := by
  rw [Tree.read] at h
  split at h
  · cases h
  · exact passedFault?_word rfl h
  · exact passedFault?_word rfl h
  · exact passedFault?_word rfl h
  · split at h
    · cases h; rfl
    · cases h
  · cases h
  · cases h
  · exact passedFault?_number h
  · split at h
    · exact passedFault?_number h
    · cases h

/-- The characters of a number are a way to write it. -/
theorem Number.Readable.written {n : Number} (h : n.Readable) : n.tree.Written n.chars := by
  have hread := h.read 0 [] endsNumber_nil
  rw [List.append_nil] at hread
  have hfaithful := Tree.faithful_read 1 n.chars
  rw [hread] at hfaithful
  obtain ⟨body, hcs, sp, v, hsp, hv, rfl⟩ := hfaithful (Tree.passedFault?_of_read_one hread)
  rw [List.append_nil] at hcs
  have hnil : sp = [] := by
    cases sp with
    | nil => rfl
    | cons c sp =>
      obtain ⟨d, r, hd, hspace, -⟩ := h.starts
      obtain rfl : c = d := (List.cons.inj (hcs.symm.trans hd)).1
      rw [hsp c List.mem_cons_self] at hspace
      cases hspace
  rwa [hcs, hnil]

theorem writtenString_quotedChars (s : String) : WrittenString (.ok s) (quotedChars s) := by
  obtain ⟨body, hbody, hwritten⟩ := exists_written_of_string (string_quoted s [])
  rw [List.append_nil] at hbody
  rwa [← hbody] at hwritten

theorem blank_newline (level : Nat) : Blank (newline level) := by
  intro c hc
  unfold newline at hc
  rcases List.mem_cons.1 hc with rfl | hc
  · decide
  · rw [List.eq_of_mem_replicate hc]; decide

theorem blank_space : Blank [' '] := fun c hc => by rw [List.mem_singleton.1 hc]; decide

mutual

/-- A value with one item a line is a way to write it. -/
theorem Tree.written_prettyChars (level : Nat) : ∀ {j : Json}, j.Readable → (Tree.ofJson j).Written (j.prettyChars level)
  | .null, _ => .null
  | .bool b, _ => .bool b
  | .num _, h => Number.Readable.written h
  | .str s, _ => .str (writtenString_quotedChars s)
  | .arr [], _ => .list (.closed blank_nil)
  | .arr (_ :: _), h =>
    .list (.first (blank_newline (level + 1)) (Tree.written_prettyChars (level + 1) h.1)
      (Items.written_prettyItems level h.2))
  | .obj [], _ => .object (.closed blank_nil)
  | .obj ((k, _) :: _), h =>
    .object (.first (blank_newline (level + 1)) (writtenString_quotedChars k) blank_nil blank_space
      (Tree.written_prettyChars (level + 1) h.1) (Members.written_prettyMembers level h.2))
termination_by structural j => j

theorem Items.written_prettyItems (level : Nat) : ∀ {l : List Json}, ReadableItems l →
    Items.Written false (Items.ofJson l) (prettyItems level l)
  | [], _ => .closed (blank_newline level)
  | _ :: _, h =>
    .next blank_nil (.first (blank_newline (level + 1)) (Tree.written_prettyChars (level + 1) h.1)
      (Items.written_prettyItems level h.2))
termination_by structural l => l

theorem Members.written_prettyMembers (level : Nat) : ∀ {l : List (String × Json)}, ReadableMembers l →
    Members.Written false (Members.ofJson l) (prettyMembers level l)
  | [], _ => .closed (blank_newline level)
  | (k, _) :: _, h =>
    .next blank_nil (.first (blank_newline (level + 1)) (writtenString_quotedChars k) blank_nil blank_space
      (Tree.written_prettyChars (level + 1) h.1) (Members.written_prettyMembers level h.2))
termination_by structural l => l

end

mutual

/-- A value without blanks is a way to write it. -/
theorem Tree.written_compactChars : ∀ {j : Json}, j.Readable → (Tree.ofJson j).Written j.compactChars
  | .null, _ => .null
  | .bool b, _ => .bool b
  | .num _, h => Number.Readable.written h
  | .str s, _ => .str (writtenString_quotedChars s)
  | .arr [], _ => .list (.closed blank_nil)
  | .arr (_ :: _), h =>
    .list (.first blank_nil (Tree.written_compactChars h.1) (Items.written_compactItems h.2))
  | .obj [], _ => .object (.closed blank_nil)
  | .obj ((k, _) :: _), h =>
    .object (.first blank_nil (writtenString_quotedChars k) blank_nil blank_nil (Tree.written_compactChars h.1)
      (Members.written_compactMembers h.2))
termination_by structural j => j

theorem Items.written_compactItems : ∀ {l : List Json}, ReadableItems l →
    Items.Written false (Items.ofJson l) (compactItems l)
  | [], _ => .closed blank_nil
  | _ :: _, h =>
    .next blank_nil (.first blank_nil (Tree.written_compactChars h.1) (Items.written_compactItems h.2))
termination_by structural l => l

theorem Members.written_compactMembers : ∀ {l : List (String × Json)}, ReadableMembers l →
    Members.Written false (Members.ofJson l) (compactMembers l)
  | [], _ => .closed blank_nil
  | (k, _) :: _, h =>
    .next blank_nil (.first blank_nil (writtenString_quotedChars k) blank_nil blank_nil
      (Tree.written_compactChars h.1) (Members.written_compactMembers h.2))
termination_by structural l => l

end

theorem Tree.Written.writtenIn {t : Tree} {cs : List Char} (h : t.Written cs) : t.WrittenIn cs :=
  ⟨[], cs, [], blank_nil, h, blank_nil, (List.append_nil cs).symm⟩

end BudgetRules.Json
