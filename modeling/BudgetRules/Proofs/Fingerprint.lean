import BudgetRules.Proofs.Bytes
import BudgetRules.Proofs.Engine
import BudgetRules.Proofs.Rule.Stored

/-!
# What a fingerprint tells

The bytes of a rule show where it ends, but in what is hashed of a sequence each rule comes after its bare
identity, whose length is only written behind it.  A bare identity without a NUL shows where it ends all the same,
since a length of fewer than eight bytes has one:

    DelimitedOn Rule.Fits Rule.bytes                                                     (Rule.delimitedOn_bytes)
    0 ∉ a → 0 ∉ b → a ++ (ofLength a.length ++ (a ++ x)) = b ++ (ofLength b.length ++ (b ++ y)) → a = b
                                                                                                    (eq_of_bare)

With NULs in an identity, two different sequences can be hashed alike.
-/

namespace BudgetRules

open Bytes

/-! ## Rules show where they end -/

theorem Condition.delimited_bytes : DelimitedOn (fun c => FitsText c.value) Condition.bytes := by
  have hparts := ((delimited_ofMember ConditionField.distinct (by decide)).append
    (delimited_ofMember ConditionOperator.distinct (by decide))).append delimited_ofText
  refine hparts.comp (e := fun c : Condition => ((c.field, c.operator), c.value)) ?_
    fun c hc => ⟨⟨trivial, trivial⟩, hc⟩
  rintro ⟨f, o, v⟩ ⟨f', o', v'⟩ h
  cases h
  rfl

theorem Action.delimited_bytes : DelimitedOn (fun a => FitsText a.value) Action.bytes := by
  have hparts := ((delimited_ofMember ActionField.distinct (by decide)).append
    (delimited_ofMember ActionOperation.distinct (by decide))).append delimited_ofText
  refine hparts.comp (e := fun a : Action => ((a.field, a.operation), a.value)) ?_
    fun a ha => ⟨⟨trivial, trivial⟩, ha⟩
  rintro ⟨f, o, v⟩ ⟨f', o', v'⟩ h
  cases h
  rfl

theorem Condition.bytes_ne_nil (c : Condition) : c.bytes ≠ [] := List.cons_ne_nil _ _

theorem Action.bytes_ne_nil (a : Action) : a.bytes ≠ [] := List.cons_ne_nil _ _

theorem Condition.fitsText_of_length {c : Condition} (h : c.bytes.length < UInt64.size) : FitsText c.value := by
  rw [bytes, List.length_append] at h
  exact Bytes.fitsText_of_length (by omega)

theorem Action.fitsText_of_length {a : Action} (h : a.bytes.length < UInt64.size) : FitsText a.value := by
  rw [bytes, List.length_append] at h
  exact Bytes.fitsText_of_length (by omega)

namespace Rule

/-- Can the lengths of all texts and lists of a rule be written in eight bytes? -/
structure Fits (r : Rule) : Prop where
  id : FitsText r.id
  name : FitsText r.name
  description : FitsText r.description
  conditions : FitsList (fun c => FitsText c.value) r.conditions
  actions : FitsList (fun a => FitsText a.value) r.actions

theorem fits_of_length {r : Rule} (h : r.bytes.length < UInt64.size) : r.Fits := by
  simp only [bytes, List.length_append] at h
  exact {
    id := fitsText_of_length (by omega)
    name := fitsText_of_length (by omega)
    description := fitsText_of_length (by omega)
    conditions :=
      fitsList_of_length Condition.bytes_ne_nil (fun _ => Condition.fitsText_of_length) (by omega)
    actions := fitsList_of_length Action.bytes_ne_nil (fun _ => Action.fitsText_of_length) (by omega) }

theorem delimitedOn_bytes : DelimitedOn Fits Rule.bytes := by
  have hconditions := delimited_ofList Condition.delimited_bytes
  have hactions := delimited_ofList Action.delimited_bytes
  have hlogic := delimited_ofMember LogicOperator.distinct (by decide)
  have hparts := ((((((delimited_ofText.append delimited_ofText).append delimited_ofText).append
    hconditions).append hactions).append delimited_ofFlag).append delimited_ofInt64).append hlogic
  refine hparts.comp (e := fun r : Rule =>
    (((((((r.id, r.name), r.description), r.conditions), r.actions), r.enabled), r.priority), r.logic)) ?_
    fun r hr =>
      ⟨⟨⟨⟨⟨⟨⟨hr.id, hr.name⟩, hr.description⟩, hr.conditions⟩, hr.actions⟩, trivial⟩, trivial⟩, trivial⟩
  rintro ⟨⟨n, d, c, a, e, p, l⟩, i⟩ ⟨⟨n', d', c', a', e', p', l'⟩, i'⟩ h
  cases h
  rfl

theorem delimited_bytes : Delimited Rule.bytes := delimitedOn_bytes.delimited fun _ => fits_of_length

/-- The bytes of a rule begin with its identity, the length first. -/
theorem exists_bytes_eq (r : Rule) :
    ∃ rest, r.bytes = ofLength (utf8 r.id).length ++ (utf8 r.id ++ rest) := by
  unfold bytes ofText
  simp only [List.append_assoc]
  exact ⟨_, rfl⟩

end Rule

/-! ## Bare identities -/

namespace Bytes

variable {a b x y : List UInt8}

/-- The bytes that a number does not reach are zero. -/
theorem getElem?_littleEndian_of_lt {k n i : Nat} (hi : i < k) (hn : n < Nat.pow 256 i) :
    (littleEndian k n)[i]? = some 0 := by
  induction k generalizing n i with
  | zero => omega
  | succ k ih =>
    cases i with
    | zero =>
      have hzero : n = 0 := Nat.lt_one_iff.1 hn
      rw [hzero]
      rfl
    | succ i =>
      have hdiv : n / 256 < Nat.pow 256 i := Nat.div_lt_of_lt_mul (by rwa [Nat.mul_comm])
      rw [littleEndian, List.getElem?_cons_succ]
      exact ih (by omega) hdiv

/-- A bare identity is no longer than another that the same bytes begin with. -/
theorem length_le_of_bare (ha : 0 ∉ a) (hb : 0 ∉ b) (hsize : b.length < Nat.pow 256 7)
    (h : a ++ (ofLength a.length ++ (a ++ x)) = b ++ (ofLength b.length ++ (b ++ y))) :
    b.length ≤ a.length := by
  refine Nat.not_lt.1 fun hlt => ?_
  have hlength : ∀ n, (ofLength n).length = 8 := fun n => length_littleEndian 8 n
  -- no byte of the longer identity is zero, so it ends before any zero byte of the other's length
  have hfront : ∀ i < b.length, (a ++ (ofLength a.length ++ (a ++ x)))[i]? ≠ some 0 := by
    intro i hi hzero
    rw [h, List.getElem?_append_left hi] at hzero
    exact hb (List.mem_of_getElem? hzero)
  have hends : ∀ i < 8, a.length < Nat.pow 256 i → b.length ≤ a.length + i := by
    intro i hi hn
    refine Nat.not_lt.1 fun hlong => hfront (a.length + i) hlong ?_
    rw [List.getElem?_append_right (by omega), Nat.add_sub_cancel_left,
      List.getElem?_append_left (by rw [hlength]; exact hi)]
    exact getElem?_littleEndian_of_lt hi hn
  have hseven := hends 7 (by omega) (Nat.lt_trans hlt hsize)
  -- the last byte of the longer one's length is zero, and stands where the shorter one is repeated
  have hlast : (a ++ (ofLength a.length ++ (a ++ x)))[b.length + 7]? = some 0 := by
    rw [h, List.getElem?_append_right (by omega), Nat.add_sub_cancel_left,
      List.getElem?_append_left (by rw [hlength]; omega)]
    exact getElem?_littleEndian_of_lt (by omega) hsize
  have hshort : a.length < b.length - a.length := by
    refine Nat.not_le.1 fun hle => ?_
    rw [List.getElem?_append_right (by omega), List.getElem?_append_right (by rw [hlength]; omega), hlength,
      List.getElem?_append_left (by omega)] at hlast
    exact ha (List.mem_of_getElem? hlast)
  have hone := hends 1 (by omega) (Nat.lt_of_lt_of_le (by omega) (Nat.le_refl 256))
  have hempty : a.length = 0 := by omega
  have hzero := hends 0 (by omega) (by rw [hempty]; exact Nat.one_pos)
  omega

theorem eq_of_bare (ha : 0 ∉ a) (hb : 0 ∉ b)
    (hsize : (a ++ (ofLength a.length ++ (a ++ x))).length < Nat.pow 256 7)
    (h : a ++ (ofLength a.length ++ (a ++ x)) = b ++ (ofLength b.length ++ (b ++ y))) : a = b := by
  have hsize' := h ▸ hsize
  rw [List.length_append] at hsize hsize'
  have hle := length_le_of_bare ha hb (by omega) h
  have hge := length_le_of_bare hb ha (by omega) h.symm
  exact (List.append_inj h (by omega)).1

end Bytes

/-! ## Sequences -/

namespace Rule

/-- In a sequence, a rule whose identity holds no NUL shows where it ends. -/
theorem append_inj {r s : Rule} (hr : 0 ∉ utf8 r.id) (hs : 0 ∉ utf8 s.id) {x y : List UInt8}
    (hsize : (utf8 r.id ++ r.bytes ++ x).length < Nat.pow 256 7)
    (h : utf8 r.id ++ r.bytes ++ x = utf8 s.id ++ s.bytes ++ y) : r = s ∧ x = y := by
  have hid : utf8 r.id = utf8 s.id := by
    obtain ⟨rest, hrest⟩ := r.exists_bytes_eq
    obtain ⟨rest', hrest'⟩ := s.exists_bytes_eq
    rw [hrest] at h hsize
    rw [hrest'] at h
    simp only [List.append_assoc] at h hsize
    exact eq_of_bare hr hs hsize h
  rw [hid, List.append_assoc, List.append_assoc] at h
  rw [List.append_assoc] at hsize
  exact delimited_bytes (Nat.lt_trans (length_lt_of_append hsize) (by decide)) (List.append_cancel_left h)

/-- What is hashed of a sequence tells the sequence, if no identity holds a NUL. -/
theorem eq_of_sequenceBytes_eq {l m : List Rule} (hl : ∀ r ∈ l, 0 ∉ utf8 r.id)
    (hm : ∀ r ∈ m, 0 ∉ utf8 r.id) (hsize : (sequenceBytes l).length < Nat.pow 256 7)
    (h : sequenceBytes l = sequenceBytes m) : l = m := by
  have hne : ∀ r : Rule, utf8 r.id ++ r.bytes ≠ [] := by
    intro r hr
    obtain ⟨rest, hrest⟩ := r.exists_bytes_eq
    rw [hrest, List.append_eq_nil_iff] at hr
    cases hr.2
  have hsize' := h ▸ hsize
  unfold sequenceBytes at h hsize hsize'
  have hlong := length_le_length_flatMap hne l
  have hlong' := length_le_length_flatMap hne m
  have hl' := length_lt_of_append hsize
  have hm' := length_lt_of_append hsize'
  have hbound : Nat.pow 256 7 < UInt64.size := by decide
  obtain ⟨hlen, hrest⟩ := ofLength_append_inj (by omega) (by omega) h
  rw [← List.append_nil (List.flatMap _ l), ← List.append_nil (List.flatMap _ m)] at hrest
  rw [← List.append_nil (List.flatMap _ l)] at hl'
  exact (flatMap_append_inj (fun r hr s hs _ _ hs' he => append_inj (hl r hr) (hm s hs) hs' he) hlen hl'
    hrest).1

/-- As long as no identity holds a NUL, two sequences are hashed from the same bytes only if they are the same, and
have one fingerprint only if they are the same or the hash collides on their bytes. -/
theorem sequenceBytes_eq_iff {l m : List Rule} (hl : ∀ r ∈ l, 0 ∉ utf8 r.id) (hm : ∀ r ∈ m, 0 ∉ utf8 r.id)
    (hsize : (sequenceBytes l).length < Nat.pow 256 7) :
    (sequenceBytes l = sequenceBytes m ↔ l = m) ∧
      (fingerprint l = fingerprint m → l = m ∨
        sequenceBytes l ≠ sequenceBytes m ∧
          Blake3.hash (sequenceBytes l) = Blake3.hash (sequenceBytes m)) := by
  have htells : sequenceBytes l = sequenceBytes m → l = m := eq_of_sequenceBytes_eq hl hm hsize
  refine ⟨⟨htells, congrArg sequenceBytes⟩, fun h => ?_⟩
  by_cases hbytes : sequenceBytes l = sequenceBytes m
  · exact .inl (htells hbytes)
  · exact .inr ⟨hbytes, hex_inj (String.ofList_injective h)⟩

/-- A rule, and the same rule switched off. -/
theorem sequenceBytes_eq_iff_rides :
    let l := [Rule.rides]
    let m : List Rule := [{ Rule.rides with enabled := false }]
    (∀ r ∈ l, 0 ∉ utf8 r.id) ∧ (∀ r ∈ m, 0 ∉ utf8 r.id) ∧ (sequenceBytes l).length < Nat.pow 256 7 ∧
      (sequenceBytes l = sequenceBytes m ↔ l = m) ∧
      (fingerprint l = fingerprint m → l = m ∨
        sequenceBytes l ≠ sequenceBytes m ∧
          Blake3.hash (sequenceBytes l) = Blake3.hash (sequenceBytes m)) := by
  intro l m
  have hl : ∀ r ∈ l, 0 ∉ utf8 r.id := by decide +kernel
  have hm : ∀ r ∈ m, 0 ∉ utf8 r.id := by decide +kernel
  have hsize : (sequenceBytes l).length < Nat.pow 256 7 := by decide +kernel
  exact ⟨hl, hm, hsize, sequenceBytes_eq_iff hl hm hsize⟩

/-- A rule whose identity is empty and whose name is eight NULs. -/
def blankId : Rule :=
  ⟨⟨"\x00\x00\x00\x00\x00\x00\x00\x00", "",
    [⟨.payeeName, .contains, ""⟩, ⟨.payeeName, .greaterThan, ""⟩, ⟨.accountName, .equals, "\x12\x00"⟩,
      ⟨.payeeName, .equals, ""⟩], [], true, 0, .and⟩, ""⟩

/-- A rule whose identity is eight NULs.  It has its identity where the other rule has its name, and its description
where the conditions of the other begin. -/
def nulId : Rule :=
  ⟨⟨"", "\x00\x00\x00\x00", [⟨.payeeName, .equals, "\x00\x00\x00\x00"⟩],
    [⟨.memo, .set, String.ofList (List.replicate 18 (Char.ofNat 0))⟩], true, 0, .and⟩,
    "\x00\x00\x00\x00\x00\x00\x00\x00"⟩

/-- Two different rules, either of which a file can hold, are hashed from the same bytes. -/
theorem sequenceBytes_of_nul :
    readList (listToJson [blankId]).pretty = .ok [blankId.stored] ∧
      readList (listToJson [nulId]).pretty = .ok [nulId.stored] ∧
      sequenceBytes [blankId] = sequenceBytes [nulId] ∧ fingerprint [blankId] = fingerprint [nulId] ∧
      [blankId] ≠ [nulId] := by
  have hbytes : sequenceBytes [blankId] = sequenceBytes [nulId] := by decide +kernel
  have hprint : fingerprint [blankId] = fingerprint [nulId] := by
    unfold fingerprint
    rw [hbytes]
  exact ⟨readList_pretty _, readList_pretty _, hbytes, hprint, by decide +kernel⟩

/-! ## Bytes of one rule -/

/-- Whatever follows them, the bytes of a rule tell the rule and where it ends. -/
theorem bytes_append_eq_iff {r s : Rule} (hr : r.Fits) (hs : s.Fits) (x y : List UInt8) :
    r.bytes ++ x = s.bytes ++ y ↔ r = s ∧ x = y := by
  constructor
  · intro h
    exact delimitedOn_bytes hr hs h
  · rintro ⟨rfl, rfl⟩
    rfl

/-- The two rules that look alike behind their bare identities do not look alike without them. -/
theorem bytes_append_eq_iff_nul :
    blankId.Fits ∧ nulId.Fits ∧ utf8 blankId.id ++ blankId.bytes = utf8 nulId.id ++ nulId.bytes ∧
      ∀ x y, blankId.bytes ++ x ≠ nulId.bytes ++ y := by
  have hblank : blankId.Fits := fits_of_length (by decide +kernel)
  have hnul : nulId.Fits := fits_of_length (by decide +kernel)
  have hne : blankId ≠ nulId := by decide +kernel
  refine ⟨hblank, hnul, by decide +kernel, fun x y h => ?_⟩
  exact hne ((bytes_append_eq_iff hblank hnul x y).1 h).1

end Rule

end BudgetRules
