import BudgetRules.LinkedDisk
import BudgetRules.Proofs.Disk.Places

/-!
# Ways through links

A way is some steps that lead from a place to another through a number of links:

    d.walk limit p steps = .ok q ↔ ∃ n ≤ limit, Walk d n p steps q                               (walk_eq_ok)

Place and number are settled by where the way starts (`Walk.unique`), and a way over some steps and others is a way
over the first and then one over the others (`Walk.split`).  So a way that comes to the same link twice has no end.

Where a tree changes in places that hold no directories, a way stays what it is unless it comes to one of them
(`Walk.transfer`).
-/

namespace BudgetRules.LinkedDisk

open Disk (Place)

variable {d d' : LinkedDisk} {n m limit : Nat} {p q r : Place} {s target : String} {steps rest : List String}

theorem ne_directory_of_none (hp : d.node? p = none) : d.node? p ≠ some .directory := by
  rw [hp]
  exact nofun

theorem ne_directory_of_file {number : Nat} (hp : d.node? p = some (.file number)) :
    d.node? p ≠ some .directory := by
  rw [hp]
  exact nofun

theorem enter_eq_ok :
    d.enter p s = .ok q ↔
      d.node? p = some .directory ∧ ¬Disk.nameMax < s.utf8ByteSize ∧ q = p.move s := by
  unfold enter
  cases hp : d.node? p with
  | none => simp
  | some e =>
    cases e with
    | directory =>
      by_cases hs : Disk.nameMax < s.utf8ByteSize
      · simp [hs]
      · simp only [hs, if_false, Except.ok.injEq, true_and, not_false_eq_true]
        exact eq_comm
    | file number => simp
    | link target => simp
    | device bytes => simp

/-- Steps lead from a place to another, through a number of links. -/
inductive Walk (d : LinkedDisk) : Nat → Place → List String → Place → Prop
  | here {p : Place} : Walk d 0 p [] p
  | step {n : Nat} {p q r : Place} {s : String} {rest : List String} (henter : d.enter p s = .ok q)
      (hplain : ∀ target, d.node? q ≠ some (.link target)) (h : Walk d n q rest r) : Walk d n p (s :: rest) r
  | follow {n : Nat} {p q r : Place} {s target : String} {rest : List String} (henter : d.enter p s = .ok q)
      (hlink : d.node? q = some (.link target))
      (h : Walk d n (origin q.dropLast target) (linkSteps target ++ rest) r) : Walk d (n + 1) p (s :: rest) r

/-! ## What the lookup finds -/

theorem walkWith_of_link {follow : Place → List String → Except FileError Place} (henter : d.enter p s = .ok q)
    (hlink : d.node? q = some (.link target)) :
    d.walkWith follow p (s :: rest) = follow (origin q.dropLast target) (linkSteps target ++ rest) := by
  rw [walkWith, henter]
  simp only [hlink]

theorem walkWith_of_plain {follow : Place → List String → Except FileError Place} (henter : d.enter p s = .ok q)
    (hplain : ∀ target, d.node? q ≠ some (.link target)) :
    d.walkWith follow p (s :: rest) = d.walkWith follow q rest := by
  rw [walkWith, henter]
  split
  · next e h => cases h
  · next h =>
    cases h
    split
    · next target hlink => exact absurd hlink (hplain target)
    · rfl

/-- A step that works leads to a link or to something else. -/
theorem exists_enter_of_walkWith {follow : Place → List String → Except FileError Place}
    (h : d.walkWith follow p (s :: rest) = .ok r) : ∃ q, d.enter p s = .ok q := by
  rw [walkWith] at h
  cases henter : d.enter p s with
  | error e => rw [henter] at h; cases h
  | ok q => exact ⟨q, rfl⟩

theorem link_or_plain (d : LinkedDisk) (q : Place) :
    (∃ target, d.node? q = some (.link target)) ∨ ∀ target, d.node? q ≠ some (.link target) := by
  rw [← not_exists]
  exact Classical.em _

theorem exists_walk_of_walkWith {follow : Place → List String → Except FileError Place} {bound : Nat → Prop}
    (hzero : bound 0)
    (hfollow : ∀ {p steps}, follow p steps = .ok q → ∃ n, bound (n + 1) ∧ Walk d n p steps q)
    (h : d.walkWith follow p steps = .ok q) : ∃ n, bound n ∧ Walk d n p steps q := by
  induction steps generalizing p with
  | nil =>
    cases h
    exact ⟨0, hzero, .here⟩
  | cons s rest ih =>
    obtain ⟨z, henter⟩ := exists_enter_of_walkWith h
    rcases link_or_plain d z with ⟨target, hlink⟩ | hplain
    · rw [walkWith_of_link henter hlink] at h
      obtain ⟨n, hn, hw⟩ := hfollow h
      exact ⟨n + 1, hn, .follow henter hlink hw⟩
    · rw [walkWith_of_plain henter hplain] at h
      obtain ⟨n, hn, hw⟩ := ih h
      exact ⟨n, hn, .step henter hplain hw⟩

theorem exists_walk_of_walk (h : d.walk limit p steps = .ok q) : ∃ n ≤ limit, Walk d n p steps q := by
  induction limit generalizing p steps with
  | zero =>
    refine exists_walk_of_walkWith (Nat.le_refl 0) (fun h => ?_) h
    cases h
  | succ limit ih =>
    refine exists_walk_of_walkWith (Nat.zero_le _) (fun h => ?_) h
    obtain ⟨n, hn, hw⟩ := ih h
    exact ⟨n, Nat.succ_le_succ hn, hw⟩

theorem Walk.walk_eq (h : Walk d n p steps q) (hn : n ≤ limit) : d.walk limit p steps = .ok q := by
  induction h generalizing limit with
  | here => cases limit <;> rfl
  | step henter hplain h ih =>
    cases limit with
    | zero => exact (walkWith_of_plain henter hplain).trans (ih hn)
    | succ limit => exact (walkWith_of_plain henter hplain).trans (ih hn)
  | follow henter hlink h ih =>
    cases limit with
    | zero => cases hn
    | succ limit => exact (walkWith_of_link henter hlink).trans (ih (Nat.le_of_succ_le_succ hn))

theorem walk_eq_ok : d.walk limit p steps = .ok q ↔ ∃ n ≤ limit, Walk d n p steps q :=
  ⟨exists_walk_of_walk, fun ⟨_, hn, h⟩ => h.walk_eq hn⟩

/-! ## One way from a place -/

namespace Walk

theorem unique (h : Walk d n p steps q) (h' : Walk d m p steps r) : n = m ∧ q = r := by
  induction h generalizing m r with
  | here => cases h'; exact ⟨rfl, rfl⟩
  | step henter hplain h ih =>
    cases h' with
    | step henter' hplain' h' =>
      cases henter.symm.trans henter'
      exact ih h'
    | follow henter' hlink' h' =>
      cases henter.symm.trans henter'
      exact absurd hlink' (hplain _)
  | follow henter hlink h ih =>
    cases h' with
    | step henter' hplain' h' =>
      cases henter.symm.trans henter'
      exact absurd hlink (hplain' _)
    | follow henter' hlink' h' =>
      cases henter.symm.trans henter'
      cases hlink.symm.trans hlink'
      obtain ⟨hn, hr⟩ := ih h'
      exact ⟨by rw [hn], hr⟩

theorem split (h : Walk d n p (steps ++ rest) r) :
    ∃ n₁ n₂ q, n = n₁ + n₂ ∧ Walk d n₁ p steps q ∧ Walk d n₂ q rest r := by
  generalize hall : steps ++ rest = all at h
  induction h generalizing steps with
  | here =>
    obtain ⟨rfl, rfl⟩ := List.append_eq_nil_iff.1 hall
    exact ⟨0, 0, _, rfl, .here, .here⟩
  | @step n p q r s more henter hplain h ih =>
    cases steps with
    | nil =>
      rw [List.nil_append] at hall
      rw [hall]
      exact ⟨0, n, p, (Nat.zero_add n).symm, .here, .step henter hplain h⟩
    | cons s' steps =>
      obtain ⟨rfl, hmore⟩ := List.cons.inj hall
      obtain ⟨n₁, n₂, q', rfl, h₁, h₂⟩ := ih hmore
      exact ⟨n₁, n₂, q', rfl, .step henter hplain h₁, h₂⟩
  | @follow n p q r s target more henter hlink h ih =>
    cases steps with
    | nil =>
      rw [List.nil_append] at hall
      rw [hall]
      exact ⟨0, n + 1, p, (Nat.zero_add _).symm, .here, .follow henter hlink h⟩
    | cons s' steps =>
      obtain ⟨rfl, rfl⟩ := List.cons.inj hall
      obtain ⟨n₁, n₂, q', rfl, h₁, h₂⟩ := ih (List.append_assoc _ _ _)
      exact ⟨n₁ + 1, n₂, q', by omega, .follow henter hlink h₁, h₂⟩

/-- A way goes on from a directory alone. -/
theorem directory_of_ne_nil (h : Walk d n p steps q) (hne : steps ≠ []) : d.node? p = some .directory := by
  cases h with
  | here => exact absurd rfl hne
  | step henter hplain h => exact (enter_eq_ok.1 henter).1
  | follow henter hlink h => exact (enter_eq_ok.1 henter).1

/-- A way over steps that lead to something else than a directory ends with them. -/
theorem ends (h : Walk d n p steps q) (hq : d.node? q ≠ some .directory) (h' : Walk d m p (steps ++ rest) r) :
    rest = [] ∧ r = q ∧ m = n := by
  obtain ⟨n₁, n₂, z, rfl, h₁, h₂⟩ := h'.split
  obtain ⟨rfl, rfl⟩ := h.unique h₁
  cases rest with
  | nil => cases h₂; exact ⟨rfl, rfl, rfl⟩
  | cons s rest => exact absurd (h₂.directory_of_ne_nil (List.cons_ne_nil s rest)) hq

/-- A way cannot come to the start of itself once more. -/
theorem not_again (h : Walk d n p steps q) (h' : Walk d m p (steps ++ rest) r) : n ≤ m := by
  obtain ⟨n₁, n₂, z, rfl, h₁, -⟩ := h'.split
  rw [(h.unique h₁).1]
  exact Nat.le_add_right n₁ n₂

/-! ## Where a tree changes -/

/-- The tree changes in some places that hold no directories.  A way stays what it is, unless it ends at one of them
where there is a link now, or comes to a link that was in one of them. -/
theorem transfer {X : Place → Prop} (hother : ∀ z, ¬X z → d'.node? z = d.node? z)
    (hX : ∀ z, X z → d.node? z ≠ some .directory) (h : Walk d n p steps r) :
    Walk d' n p steps r ∨ (X r ∧ ∃ target, d'.node? r = some (.link target)) ∨
      ∃ x target m more, X x ∧ d.node? x = some (.link target) ∧ m < n ∧
        Walk d m (origin x.dropLast target) (linkSteps target ++ more) r := by
  have henters : ∀ {p q : Place} {s : String}, d.enter p s = .ok q → d'.enter p s = .ok q := by
    intro p q s henter
    obtain ⟨hp, hs, hq⟩ := enter_eq_ok.1 henter
    refine enter_eq_ok.2 ⟨?_, hs, hq⟩
    rw [hother p fun hXp => hX p hXp hp, hp]
  induction h with
  | here => exact .inl .here
  | @step n p q r s rest henter hplain h ih =>
    by_cases hq : X q
    · -- the way ends there
      cases rest with
      | cons s' rest => exact absurd (h.directory_of_ne_nil (List.cons_ne_nil s' rest)) (hX q hq)
      | nil =>
        cases h
        rcases link_or_plain d' q with hlink | hplain'
        · exact .inr (.inl ⟨hq, hlink⟩)
        · exact .inl (.step (henters henter) hplain' .here)
    · rw [← hother q hq] at hplain
      exact ih.imp_left (.step (henters henter) hplain)
  | @follow n p q r s target rest henter hlink h ih =>
    by_cases hq : X q
    · exact .inr (.inr ⟨q, target, n, rest, hq, hlink, Nat.lt_succ_self n, h⟩)
    · rw [← hother q hq] at hlink
      rcases ih with hw | hend | ⟨x, target', m, more, hx, hl, hm, hw⟩
      · exact .inl (.follow (henters henter) hlink hw)
      · exact .inr (.inl hend)
      · exact .inr (.inr ⟨x, target', m, more, hx, hl, Nat.lt_succ_of_lt hm, hw⟩)

end Walk

/-! ## The last step -/

/-- A name leads to a place, through a number of links. -/
inductive Leads (d : LinkedDisk) : Nat → Place → Place → Prop
  | plain {p : Place} (hplain : ∀ target, d.node? p ≠ some (.link target)) : Leads d 0 p p
  | link {n : Nat} {p q : Place} {target : String} (hlink : d.node? p = some (.link target))
      (h : Walk d n (origin p.dropLast target) (linkSteps target) q) : Leads d (n + 1) p q

theorem Walk.concat (h : Walk d n p steps q) {z : Place} (henter : d.enter q s = .ok z) (hl : Leads d m z r) :
    Walk d (n + m) p (steps ++ [s]) r := by
  induction h with
  | here =>
    rw [Nat.zero_add]
    cases hl with
    | plain hplain => exact .step henter hplain .here
    | link hlink hw => exact .follow henter hlink (by rwa [List.append_nil])
  | step he hp h ih => exact .step he hp (ih henter)
  | @follow n p q r s target more he hlink h ih =>
    have hmore := ih henter
    rw [List.append_assoc] at hmore
    rw [Nat.succ_add]
    exact .follow he hlink hmore

theorem Walk.last (h : Walk d n p steps q) {z : Place} (henter : d.enter q s = .ok z)
    (h' : Walk d m p (steps ++ [s]) r) : ∃ k, m = n + k ∧ Leads d k z r := by
  obtain ⟨n₁, n₂, y, rfl, h₁, h₂⟩ := h'.split
  obtain ⟨rfl, rfl⟩ := h.unique h₁
  refine ⟨n₂, rfl, ?_⟩
  cases h₂ with
  | step he hp hrest =>
    cases he.symm.trans henter
    cases hrest
    exact .plain hp
  | follow he hl hrest =>
    cases he.symm.trans henter
    rw [List.append_nil] at hrest
    exact .link hl hrest

/-- A way over a link that leads to something else than a directory ends there. -/
theorem Leads.ends (h : Leads d n p q) (hq : d.node? q ≠ some .directory) (hlink : d.node? p = some (.link target))
    (h' : Walk d m (origin p.dropLast target) (linkSteps target ++ rest) r) : rest = [] ∧ r = q ∧ m + 1 = n := by
  cases h with
  | plain hplain => exact absurd hlink (hplain target)
  | link hl hw =>
    cases hl.symm.trans hlink
    obtain ⟨hrest, hr, hm⟩ := hw.ends hq h'
    exact ⟨hrest, hr, by rw [hm]⟩

end BudgetRules.LinkedDisk
