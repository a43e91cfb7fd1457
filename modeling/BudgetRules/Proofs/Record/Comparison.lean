import BudgetRules.Proofs.Record

/-!
# Comparing records

Records are compared field by field, and numbers as numbers.  So a record with a NaN in it differs even from
itself, and any other one is equal to itself:

    (r == s) = true → (r.get? k == s.get? k) = true            (Record.get?_beq)
    r.hasNaN = false → (r == r) = true                         (Record.beq_self)
-/

namespace BudgetRules

/-! ## Values -/

def Json.Number.hasNaN : Json.Number → Bool
  | .int _ => false
  | .double x => x.isNaN

theorem Json.Number.beq_self {n : Json.Number} (h : n.hasNaN = false) : n.beq n = true := by
  cases n with
  | int i => exact beq_self_eq_true i
  | double x => exact Binary64.beq_self h

mutual

/-- Is a number of a value a NaN? -/
def Json.hasNaN : Json → Bool
  | .null => false
  | .bool _ => false
  | .num n => n.hasNaN
  | .str _ => false
  | .arr items => Json.itemsHaveNaN items
  | .obj members => Json.membersHaveNaN members
termination_by structural j => j

def Json.itemsHaveNaN : List Json → Bool
  | [] => false
  | j :: rest => j.hasNaN || Json.itemsHaveNaN rest
termination_by structural l => l

def Json.membersHaveNaN : List (String × Json) → Bool
  | [] => false
  | (_, j) :: rest => j.hasNaN || Json.membersHaveNaN rest
termination_by structural l => l

end

mutual

theorem Json.beq_self : ∀ {j : Json}, j.hasNaN = false → j.beq j = true
  | .null, _ => rfl
  | .bool b, _ => beq_self_eq_true b
  | .num _, h => Json.Number.beq_self h
  | .str s, _ => beq_self_eq_true s
  | .arr _, h => Json.beqItems_self h
  | .obj _, h => Json.beqMembers_self h
termination_by structural j => j

theorem Json.beqItems_self : ∀ {l : List Json}, Json.itemsHaveNaN l = false → Json.beqItems l l = true
  | [], _ => rfl
  | j :: rest, h => by
    obtain ⟨hj, hrest⟩ := Bool.or_eq_false_iff.1 h
    exact Bool.and_eq_true_iff.2 ⟨Json.beq_self hj, Json.beqItems_self hrest⟩
termination_by structural l => l

theorem Json.beqMembers_self : ∀ {l : List (String × Json)}, Json.membersHaveNaN l = false →
    Json.beqMembers l l = true
  | [], _ => rfl
  | (k, j) :: rest, h => by
    obtain ⟨hj, hrest⟩ := Bool.or_eq_false_iff.1 h
    rw [Json.beqMembers, beq_self_eq_true, Json.beq_self hj, Json.beqMembers_self hrest]
    rfl
termination_by structural l => l

end

/-- Is a number of a value a NaN? -/
def FieldValue.hasNaN : FieldValue → Bool
  | .number x => x.isNaN
  | .other j => j.hasNaN
  | _ => false

theorem FieldValue.beq_self {v : FieldValue} (h : v.hasNaN = false) : (v == v) = true := by
  cases v with
  | null => rfl
  | bool b => exact beq_self_eq_true b
  | number x => exact Binary64.beq_self h
  | text t => exact beq_self_eq_true t
  | other j => exact Json.beq_self h

/-- A value that compares equal to a text is that text. -/
theorem FieldValue.eq_text_of_text_beq {t : String} {v : FieldValue} (h : (.text t == v) = true) :
    v = .text t := by
  cases v with
  | text s =>
    have hts : t = s := eq_of_beq h
    rw [hts]
  | null => cases h
  | bool b => cases h
  | number x => cases h
  | other j => cases h

/-! ## Records -/

/-- Lists of named values that compare equal answer with values that compare equal. -/
theorem Sorted.lookup_beq {l m : List (String × FieldValue)} (h : (l == m) = true) (k : String) :
    (l.lookup k == m.lookup k) = true := by
  induction l generalizing m with
  | nil =>
    cases m with
    | nil => rfl
    | cons q s => cases h
  | cons p r ih =>
    cases m with
    | nil => cases h
    | cons q s =>
      obtain ⟨a, v⟩ := p
      obtain ⟨b, w⟩ := q
      obtain ⟨hpq, hrs⟩ := Bool.and_eq_true_iff.1 h
      obtain ⟨hab, hvw⟩ := Bool.and_eq_true_iff.1 hpq
      have hab : a = b := eq_of_beq hab
      rw [lookup_cons, lookup_cons, hab]
      split
      · exact hvw
      · exact ih hrs

namespace Record

variable {r s : Record}

/-- Is a number in a record a NaN? -/
def hasNaN (r : Record) : Bool := r.toList.any fun p => p.2.hasNaN

theorem hasNaN_eq_false_iff : r.hasNaN = false ↔ ∀ k v, r.get? k = some v → v.hasNaN = false := by
  unfold hasNaN
  rw [List.any_eq_false]
  constructor
  · intro h k v hk
    simpa using h (k, v) (mem_toList.2 hk)
  · intro h p hp
    simpa using h p.1 p.2 (mem_toList.1 hp)

theorem get?_beq (h : (r == s) = true) (k : String) : (r.get? k == s.get? k) = true :=
  Sorted.lookup_beq h k

/-- A field without a NaN does not differ from itself. -/
theorem get?_beq_self {k : String} (h : ∀ v, r.get? k = some v → v.hasNaN = false) :
    (r.get? k == r.get? k) = true := by
  cases hr : r.get? k with
  | none => rfl
  | some v => exact FieldValue.beq_self (h v hr)

/-- Records compare equal if their fields do. -/
theorem beq_iff : (r == s) = true ↔ ∀ k, (r.get? k == s.get? k) = true :=
  ⟨get?_beq, Sorted.beq_of_lookup r.fields.ascending s.fields.ascending⟩

theorem beq_self (h : r.hasNaN = false) : (r == r) = true := by
  have hvalues : ∀ p ∈ r.toList, p.2.hasNaN = false := by simpa [hasNaN] using h
  show (r.toList == r.toList) = true
  generalize r.toList = l at hvalues
  induction l with
  | nil => rfl
  | cons p rest ih =>
    have hp : (p == p) = true :=
      Bool.and_eq_true_iff.2 ⟨beq_self_eq_true p.1, FieldValue.beq_self (hvalues p List.mem_cons_self)⟩
    exact Bool.and_eq_true_iff.2 ⟨hp, ih fun q hq => hvalues q (List.mem_cons_of_mem p hq)⟩

end Record

end BudgetRules
