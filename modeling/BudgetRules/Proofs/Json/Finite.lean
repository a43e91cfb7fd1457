import BudgetRules.Proofs.Binary64.Exact
import BudgetRules.Proofs.Json.Careful

/-!
# What a text can hold

A whole number that is read fits 64 bits, and any other number is a finite double.  A value that is read holds
such numbers only, the names in its objects ascend, and it is no deeper than its decoder may go:

    n.value = .ok x → x.Sound                                                (Numeral.sound_of_value)
    t.Written cs → t.Sound                                                   (Tree.Written.sound)
    t.Sound → t.decodeJson depth = .ok j → j.Sound depth                     (Tree.sound_decodeJson)
-/

namespace BudgetRules

/-! ## Rounded numbers -/

namespace Binary64

theorem magnitude_divSize_le (x : Binary64) {k : Nat} (hx : x.magnitude < infiniteMagnitude) :
    (x.divSize (ofNat (Nat.pow 10 k))).magnitude ≤ x.magnitude := by
  have hone : (ofNat 1).value = 1 := by
    have hvalue := value_ofNat_of_le (n := 1) (by decide)
    rwa [Nat.cast_one] at hvalue
  have hten : 1 ≤ (ofNat (Nat.pow 10 k)).value := by
    rw [← hone]
    exact value_mono (magnitude_ofNat_mono (Nat.pow_pos (by decide)))
  refine (rounds_divSize x (by linarith)).mono (rounds_value hx) ?_
  exact div_le_self x.value_nonneg hten

end Binary64

namespace Json

open Binary64 (infiniteMagnitude)

/-! ## Numerals -/

/-- Can a text hold a number? -/
def Number.Sound : Number → Prop
  | .int i => Fits i
  | .double x => x.magnitude < infiniteMagnitude

namespace Numeral

theorem finite_of_scale {fuel : Nat} {f g : Binary64} {e : Int} (hf : f.magnitude < infiniteMagnitude)
    (h : scale fuel f e = .ok g) : g.magnitude < infiniteMagnitude := by
  induction fuel generalizing f e with
  | zero => cases h; exact hf
  | succ fuel ih =>
    unfold scale at h
    split at h
    · split at h
      · simp only at h
        split at h
        · cases h
        · next hfinite =>
          cases h
          have hne : ¬(f.mulSize (.ofNat (Nat.pow 10 e.toNat))).magnitude = infiniteMagnitude := by
            simpa [Binary64.isInfinite] using hfinite
          have hle := (Binary64.rounds_mulSize f (.ofNat (Nat.pow 10 e.toNat))).le
          omega
      · cases h
        exact Nat.lt_of_le_of_lt (Binary64.magnitude_divSize_le f hf) hf
    · split at h
      · cases h; exact hf
      · split at h
        · cases h
        · exact ih (Nat.lt_of_le_of_lt (Binary64.magnitude_divSize_le f hf) hf) h

theorem accumulate_le {ds : List Char} {acc : Nat} (h : acc ≤ wordMax) : (accumulate acc ds).1 ≤ wordMax := by
  induction ds generalizing acc with
  | nil => exact h
  | cons c ds ih =>
    unfold accumulate
    simp only
    split
    · next hnext => exact ih hnext
    · exact h

theorem finite_ofNat {n : Nat} (h : n ≤ wordMax) : (Binary64.ofNat n).magnitude < infiniteMagnitude :=
  Nat.lt_of_le_of_lt (Binary64.magnitude_ofNat_mono h) (by decide)

/-- A finite size stays finite with any sign. -/
theorem finite_ofMagnitude (neg : Bool) {x : Binary64} (hx : x.magnitude < infiniteMagnitude) :
    (Binary64.ofMagnitude neg x.magnitude).magnitude < infiniteMagnitude := by
  rwa [Binary64.magnitude_ofMagnitude neg (Nat.le_of_lt hx)]

theorem finite_of_ofParts {neg : Bool} {n : Nat} {e : Int} {g : Binary64} (hn : n ≤ wordMax)
    (h : ofParts neg n e = .ok g) : g.magnitude < infiniteMagnitude := by
  obtain ⟨f, hs, rfl⟩ := exists_ok_of_map h
  exact finite_ofMagnitude neg (finite_of_scale (finite_ofNat hn) hs)

theorem finite_of_withExponent {neg : Bool} {n : Nat} {e : Int} {x : Option (Bool × List Char)} {g : Binary64}
    (hn : n ≤ wordMax) (h : withExponent neg n e x = .ok g) : g.magnitude < infiniteMagnitude := by
  unfold withExponent at h
  split at h
  · exact finite_of_ofParts hn h
  · simp only at h
    split at h
    · split at h
      · cases h
      · cases h
        rw [Binary64.magnitude_ofMagnitude neg (Nat.zero_le _)]
        decide
    · exact finite_of_ofParts hn h

/-- A double that has come out of rounding is sound as a number. -/
theorem sound_of_map_double {r : Except Fault Binary64} {x : Number}
    (hr : ∀ g, r = .ok g → g.magnitude < infiniteMagnitude) (h : r.map Number.double = .ok x) : x.Sound := by
  obtain ⟨g, hg, rfl⟩ := exists_ok_of_map h
  exact hr g hg

theorem sound_of_value {n : Numeral} {x : Number} (h : n.value = .ok x) : x.Sound := by
  have hwhole : (accumulate 0 n.whole).1 ≤ wordMax := accumulate_le (Nat.zero_le _)
  have hdigits : (accumulate (accumulate 0 n.whole).1 n.part).1 ≤ wordMax := accumulate_le hwhole
  have hmax : wordMax = 18446744073709551615 := rfl
  have hhalf : UInt64.size / 2 = 9223372036854775808 := rfl
  unfold value at h
  simp only at h
  split at h
  · split at h
    · exact sound_of_map_double (fun g => finite_of_ofParts hwhole) h
    · split at h
      · split at h
        · cases h
          exact finite_ofMagnitude true (finite_ofNat hwhole)
        · next hsmall =>
          cases h
          exact ⟨by omega, by omega⟩
      · cases h
        exact ⟨by omega, by omega⟩
  · exact sound_of_map_double (fun g => finite_of_withExponent hdigits) h

end Numeral

/-! ## Trees -/

mutual

/-- Are all numbers of a tree such as a text can hold? -/
def Tree.Sound : Tree → Prop
  | .num (.ok n) => n.Sound
  | .list items => items.Sound
  | .object members => members.Sound
  | _ => True

def Items.Sound : Items → Prop
  | .stop _ => True
  | .item t rest => t.Sound ∧ rest.Sound

def Members.Sound : Members → Prop
  | .member _ t rest => t.Sound ∧ rest.Sound
  | _ => True

end

theorem Tree.sound_num {n : Except Fault Number} (h : ∀ x, n = .ok x → x.Sound) : (Tree.num n).Sound := by
  cases n with
  | ok x => exact h x rfl
  | error _ => exact True.intro

mutual

/-- What is written holds sound numbers only. -/
theorem Tree.Written.sound : ∀ {t : Tree} {cs : List Char}, t.Written cs → t.Sound
  | _, _, .null => True.intro
  | _, _, .bool _ => True.intro
  | _, _, .num _ _ => Tree.sound_num fun _ => Numeral.sound_of_value
  | _, _, .negative _ _ => Tree.sound_num fun _ => Numeral.sound_of_value
  | _, _, .str _ => True.intro
  | _, _, .list h => h.sound
  | _, _, .object h => h.sound

theorem Items.Written.sound : ∀ {first : Bool} {items : Items} {cs : List Char}, Items.Written first items cs →
    items.Sound
  | _, _, _, .closed _ => True.intro
  | _, _, _, .first _ ht hrest => ⟨ht.sound, hrest.sound⟩
  | _, _, _, .next _ h => h.sound

theorem Members.Written.sound : ∀ {first : Bool} {members : Members} {cs : List Char},
    Members.Written first members cs → members.Sound
  | _, _, _, .closed _ => True.intro
  | _, _, _, .first _ _ _ _ ht hrest => ⟨ht.sound, hrest.sound⟩
  | _, _, _, .next _ h => h.sound

end

/-! ## Decoding -/

mutual

/-- Can a text hold a value inside so many lists and objects that `depth - 1` more may be opened? -/
def Sound : Nat → Json → Prop
  | _, .null => True
  | _, .bool _ => True
  | _, .num n => n.Sound
  | _, .str _ => True
  | depth, .arr items => 1 < depth ∧ SoundItems (depth - 1) items
  | depth, .obj members => 1 < depth ∧ Sorted.Ascending members ∧ SoundMembers (depth - 1) members
termination_by structural _ j => j

def SoundItems : Nat → List Json → Prop
  | _, [] => True
  | depth, j :: rest => Sound depth j ∧ SoundItems depth rest
termination_by structural _ l => l

def SoundMembers : Nat → List (String × Json) → Prop
  | _, [] => True
  | depth, (_, j) :: rest => Sound depth j ∧ SoundMembers depth rest
termination_by structural _ l => l

end

theorem soundMembers_iff {depth : Nat} {l : List (String × Json)} :
    SoundMembers depth l ↔ ∀ p ∈ l, Sound depth p.2 := by
  induction l with
  | nil => simp [SoundMembers]
  | cons p rest ih => rw [SoundMembers, ih, List.forall_mem_cons]

theorem soundMembers_insert {depth : Nat} {k : String} {j : Json} {l : List (String × Json)} (hj : Sound depth j)
    (hl : SoundMembers depth l) : SoundMembers depth (Sorted.insert k j l) := by
  refine soundMembers_iff.2 fun p hp => ?_
  rcases Sorted.mem_insert hp with rfl | hp
  · exact hj
  · exact soundMembers_iff.1 hl p hp

mutual

theorem Tree.sound_decodeJson : ∀ {t : Tree} {depth : Nat} {j : Json}, t.Sound →
    t.decodeJson depth = .ok j → Json.Sound depth j
  | .null, _, _, _, h => by cases h; exact True.intro
  | .bool _, _, _, _, h => by cases h; exact True.intro
  | .num (.ok _), _, _, hn, h => by cases h; exact hn
  | .num (.error _), _, _, _, h => by cases h
  | .str (.ok _), _, _, _, h => by cases h; exact True.intro
  | .str (.error _), _, _, _, h => by cases h
  | .list items, depth, j, hn, h => by
    rw [Tree.decodeJson] at h
    obtain ⟨hdepth, hinside⟩ := enter_eq_ok h
    obtain ⟨l, hl, rfl⟩ := exists_ok_of_map hinside
    exact ⟨hdepth, Items.sound_decodeJson hn hl⟩
  | .object members, depth, j, hn, h => by
    rw [Tree.decodeJson] at h
    obtain ⟨hdepth, hinside⟩ := enter_eq_ok h
    obtain ⟨l, hl, rfl⟩ := exists_ok_of_map hinside
    obtain ⟨hascending, hmembers⟩ := Members.sound_decodeJson hn List.Pairwise.nil True.intro hl
    exact ⟨hdepth, hascending, hmembers⟩
  | .absent, _, _, _, h => by cases h
  | .unreached _, _, _, _, h => by cases h
  | .brokenString _, _, _, _, h => by cases h
  | .broken _, _, _, _, h => by cases h

theorem Items.sound_decodeJson : ∀ {items : Items} {depth : Nat} {l : List Json}, items.Sound →
    items.decodeJson depth = .ok l → SoundItems depth l
  | .stop s, _, _, _, h => by
    rw [Items.decodeJson] at h
    split at h
    · cases h; exact True.intro
    · cases h
  | .item t rest, depth, l, hn, h => by
    obtain ⟨ht, hrest⟩ := hn
    rw [Items.decodeJson] at h
    obtain ⟨j, hj, h⟩ := exists_ok_of_bind h
    obtain ⟨m, hm, h⟩ := exists_ok_of_bind h
    cases h
    exact ⟨Tree.sound_decodeJson ht hj, Items.sound_decodeJson hrest hm⟩

theorem Members.sound_decodeJson : ∀ {members : Members} {depth : Nat} {acc l : List (String × Json)},
    members.Sound → Sorted.Ascending acc → SoundMembers depth acc → members.decodeJson depth acc = .ok l →
    Sorted.Ascending l ∧ SoundMembers depth l
  | .stop s, _, _, _, _, hsorted, hacc, h => by
    rw [Members.decodeJson] at h
    split at h
    · cases h; exact ⟨hsorted, hacc⟩
    · cases h
  | .strayKey _, _, _, _, _, _, _, h => by cases h
  | .brokenKey _, _, _, _, _, _, _, h => by cases h
  | .member (.error _) _ _, _, _, _, _, _, _, h => by cases h
  | .member (.ok k) t rest, depth, acc, l, hn, hsorted, hacc, h => by
    obtain ⟨ht, hrest⟩ := hn
    rw [Members.decodeJson] at h
    obtain ⟨j, hj, h⟩ := exists_ok_of_bind h
    exact Members.sound_decodeJson hrest (Sorted.ascending_insert k j hsorted)
      (soundMembers_insert (Tree.sound_decodeJson ht hj) hacc) h

end

/-- What a text decodes to has been decoded from a sound tree. -/
theorem exists_sound_of_decodeText {α : Type} {d : Decoder α} (hd : d.Careful) {text : String} {a : α}
    (h : decodeText d text = .ok a) : ∃ t : Tree, t.Sound ∧ d depthLimit t = .ok a := by
  obtain ⟨t, ⟨_, _, _, -, hwritten, -⟩, hread⟩ := exists_written_of_decodeText hd h
  exact ⟨t, hwritten.sound, hread⟩

end Json

end BudgetRules
