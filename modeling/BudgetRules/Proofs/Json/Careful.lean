import BudgetRules.Proofs.Except
import BudgetRules.Proofs.Json.Faultless
import BudgetRules.Vocabulary

/-!
# What is decoded has no fault

A decoder that is careful looks at all of a tree before it gives a value, so a text is decoded only if it is a way to
write a value:

    d.Careful → decodeText d text = .ok a → ∃ t, t.WrittenIn text.toList ∧ d depthLimit t = .ok a
                                                                                     (exists_written_of_decodeText)
-/

namespace BudgetRules.Json

theorem refuse_ne_ok {α : Type} {expected : String} {t : Tree} {a : α} :
    (refuse expected t : Except DecodeError α) ≠ .ok a := by
  intro h
  unfold refuse at h
  split at h <;> cases h

theorem enter_eq_ok {α : Type} {depth : Nat} {inside : Nat → Except DecodeError α} {a : α}
    (h : enter depth inside = .ok a) : 1 < depth ∧ inside (depth - 1) = .ok a := by
  unfold enter at h
  split at h
  · cases h
  · next hdepth => exact ⟨Nat.lt_of_not_le hdepth, h⟩

/-- What is decoded has no fault. -/
def Decoder.Careful {α : Type} (d : Decoder α) : Prop :=
  ∀ ⦃depth : Nat⦄ ⦃t : Tree⦄ ⦃a : α⦄, d depth t = .ok a → t.passedFault? = none

theorem exists_written_of_decodeText {α : Type} {d : Decoder α} (hd : d.Careful) {text : String} {a : α}
    (h : decodeText d text = .ok a) : ∃ t : Tree, t.WrittenIn text.toList ∧ d depthLimit t = .ok a := by
  unfold decodeText at h
  generalize htext : Tree.ofText text.toList = read at h
  obtain ⟨t, more⟩ := read
  obtain ⟨b, hb, h⟩ := exists_ok_of_bind h
  split at h
  · cases h
  · next hmore =>
    cases h
    rw [Bool.not_eq_true] at hmore
    subst hmore
    exact ⟨t, Tree.writtenIn_iff.2 ⟨htext, hd hb⟩, hb⟩

/-! ## Plain values -/

theorem Decoder.careful_text : Decoder.text.Careful := by
  intro depth t a h
  unfold Decoder.text at h
  split at h
  · rfl
  · exact absurd h refuse_ne_ok

theorem Decoder.careful_bool : Decoder.bool.Careful := by
  intro depth t a h
  unfold Decoder.bool at h
  split at h
  · rfl
  · exact absurd h refuse_ne_ok

theorem Decoder.careful_int64 : Decoder.int64.Careful := by
  intro depth t a h
  obtain ⟨i, h, -⟩ := exists_ok_of_map h
  unfold Decoder.int at h
  split at h
  · rfl
  · exact absurd h refuse_ne_ok

/-! ## Lists -/

theorem Items.passedFault?_stop {s : Stop} (h : s.listFault? = none) : (Items.stop s).passedFault? = none := by
  cases s <;> first | rfl | cases h

theorem Members.passedFault?_stop {s : Stop} (h : s.objectFault? = none) : (Members.stop s).passedFault? = none := by
  cases s <;> first | rfl | cases h

theorem Items.passedFault?_of_decode {α : Type} {d : Decoder α} (hd : d.Careful) {depth : Nat} :
    ∀ {items : Items} {l : List α}, items.decode d depth = .ok l → items.passedFault? = none
  | .stop s, l, h => by
    rw [Items.decode] at h
    split at h
    · next hs => exact Items.passedFault?_stop hs
    · cases h
  | .item t rest, l, h => by
    rw [Items.decode] at h
    obtain ⟨a, ha, h⟩ := exists_ok_of_bind h
    obtain ⟨l', hl, -⟩ := exists_ok_of_bind h
    exact Items.passedFault?_item.2 ⟨hd ha, Items.passedFault?_of_decode hd hl⟩

theorem Decoder.Careful.list {α : Type} {d : Decoder α} (hd : d.Careful) : (Decoder.list d).Careful := by
  intro depth t l h
  unfold Decoder.list at h
  split at h
  · exact Items.passedFault?_of_decode hd (enter_eq_ok h).2
  · exact absurd h refuse_ne_ok

/-! ## Objects of any names -/

theorem Members.passedFault?_of_decodeMap {α : Type} {d : Decoder α} (hd : d.Careful) {depth : Nat} :
    ∀ {members : Members} {acc entries : SortedMap α}, members.decodeMap d depth acc = .ok entries →
    members.passedFault? = none
  | .stop s, _, _, h => by
    rw [Members.decodeMap] at h
    split at h
    · next hs => exact Members.passedFault?_stop hs
    · cases h
  | .strayKey _, _, _, h => by cases h
  | .brokenKey _, _, _, h => by cases h
  | .member (.error _) _ _, _, _, h => by cases h
  | .member (.ok k) t rest, _, _, h => by
    rw [Members.decodeMap] at h
    obtain ⟨a, ha, h⟩ := exists_ok_of_bind h
    exact Members.passedFault?_member.2 ⟨hd ha, Members.passedFault?_of_decodeMap hd h⟩

theorem Decoder.Careful.map {α : Type} {d : Decoder α} (hd : d.Careful) : (Decoder.map d).Careful := by
  intro depth t entries h
  unfold Decoder.map at h
  split at h
  · exact Members.passedFault?_of_decodeMap hd (enter_eq_ok h).2
  · exact absurd h refuse_ne_ok

/-! ## Any value -/

mutual

theorem Tree.passedFault?_of_decodeJson : ∀ {t : Tree} {depth : Nat} {j : Json}, t.decodeJson depth = .ok j →
    t.passedFault? = none
  | .null, _, _, _ => rfl
  | .bool _, _, _, _ => rfl
  | .num _, _, _, _ => rfl
  | .str _, _, _, _ => rfl
  | .list items, _, _, h => by
    rw [Tree.decodeJson] at h
    obtain ⟨l, hl, -⟩ := exists_ok_of_map (enter_eq_ok h).2
    exact Items.passedFault?_of_decodeJson hl
  | .object members, _, _, h => by
    rw [Tree.decodeJson] at h
    obtain ⟨l, hl, -⟩ := exists_ok_of_map (enter_eq_ok h).2
    exact Members.passedFault?_of_decodeJson hl
  | .absent, _, _, h => by cases h
  | .unreached _, _, _, h => by cases h
  | .brokenString _, _, _, h => by cases h
  | .broken _, _, _, h => by cases h

theorem Items.passedFault?_of_decodeJson : ∀ {items : Items} {depth : Nat} {l : List Json},
    items.decodeJson depth = .ok l → items.passedFault? = none
  | .stop s, _, _, h => by
    rw [Items.decodeJson] at h
    split at h
    · next hs => exact Items.passedFault?_stop hs
    · cases h
  | .item t rest, _, _, h => by
    rw [Items.decodeJson] at h
    obtain ⟨j, hj, h⟩ := exists_ok_of_bind h
    obtain ⟨l, hl, -⟩ := exists_ok_of_bind h
    exact Items.passedFault?_item.2 ⟨Tree.passedFault?_of_decodeJson hj, Items.passedFault?_of_decodeJson hl⟩

theorem Members.passedFault?_of_decodeJson : ∀ {members : Members} {depth : Nat} {acc l : List (String × Json)},
    members.decodeJson depth acc = .ok l → members.passedFault? = none
  | .stop s, _, _, _, h => by
    rw [Members.decodeJson] at h
    split at h
    · next hs => exact Members.passedFault?_stop hs
    · cases h
  | .strayKey _, _, _, _, h => by cases h
  | .brokenKey _, _, _, _, h => by cases h
  | .member (.error _) _ _, _, _, _, h => by cases h
  | .member (.ok k) t rest, _, _, _, h => by
    rw [Members.decodeJson] at h
    obtain ⟨j, hj, h⟩ := exists_ok_of_bind h
    exact Members.passedFault?_member.2 ⟨Tree.passedFault?_of_decodeJson hj, Members.passedFault?_of_decodeJson h⟩

end

theorem Decoder.careful_json : Decoder.json.Careful := fun _ _ _ => Tree.passedFault?_of_decodeJson

/-! ## Words -/

theorem Members.passedFault?_of_closeTag {members : Members} (h : members.closeTag = .ok ()) :
    members.passedFault? = none := by
  unfold Members.closeTag at h
  split at h
  · rfl
  · cases h
  · cases h

theorem Decoder.careful_unit : Decoder.unit.Careful := by
  intro depth t a h
  unfold Decoder.unit at h
  split at h
  · rfl
  · exact absurd h refuse_ne_ok

theorem Decoder.careful_tag (known : List String) : (Decoder.tag known).Careful := by
  intro depth t w h
  unfold Decoder.tag at h
  split at h
  · rfl
  case h_6 members =>
    have hinside := (enter_eq_ok h).2
    split at hinside
    · next k t rest =>
      simp only at hinside
      split at hinside
      · obtain ⟨_, ht, hinside⟩ := exists_ok_of_bind hinside
        obtain ⟨_, hrest, -⟩ := exists_ok_of_bind hinside
        have hmember : (Members.member (.ok k) t rest).passedFault? = none :=
          Members.passedFault?_member.2 ⟨Decoder.careful_unit ht, Members.passedFault?_of_closeTag hrest⟩
        exact hmember
      · cases hinside
    all_goals cases hinside
  all_goals cases h

/-! ## Structures -/

variable {σ : Type}

/-- What is read into a field has no fault. -/
def Field.Careful (f : Field σ) : Prop :=
  ∀ ⦃depth : Nat⦄ ⦃s s' : σ⦄ ⦃t : Tree⦄, f.read s depth t = .ok s' → t.passedFault? = none

theorem Decoder.Careful.field {α : Type} {d : Decoder α} (hd : d.Careful) {name : String} {get : σ → Option α}
    {set : σ → α → σ} {hasDefault : Bool} : (Field.of name get set d hasDefault).Careful := by
  intro depth s s' t h
  obtain ⟨a, ha, -⟩ := exists_ok_of_map h
  exact hd ha

theorem Members.passedFault?_of_decodeFields {fields : List (Field σ)} (hfields : ∀ f ∈ fields, f.Careful)
    {depth : Nat} : ∀ {members : Members} {s s' : σ}, members.decodeFields fields depth s = .ok s' →
    members.passedFault? = none
  | .stop e, s, s', h => by
    rw [Members.decodeFields] at h
    split at h
    · next he => exact Members.passedFault?_stop he
    · cases h
  | .strayKey _, _, _, h => by cases h
  | .brokenKey _, _, _, h => by cases h
  | .member (.error _) _ _, _, _, h => by cases h
  | .member (.ok k) t rest, s, s', h => by
    rw [Members.decodeFields] at h
    split at h
    · split at h
      · cases h
      · next ht => exact Members.passedFault?_member.2 ⟨ht, Members.passedFault?_of_decodeFields hfields h⟩
    · next f hf =>
      split at h
      · cases h
      · obtain ⟨s₁, hread, h⟩ := exists_ok_of_bind h
        exact Members.passedFault?_member.2
          ⟨hfields f (List.mem_of_find?_eq_some hf) hread, Members.passedFault?_of_decodeFields hfields h⟩

theorem Items.passedFault?_of_close {items : Items} (h : items.close = .ok ()) : items.passedFault? = none := by
  unfold Items.close at h
  split at h
  · rfl
  all_goals cases h

theorem Items.passedFault?_of_decodeFields {expected : String} {depth : Nat} :
    ∀ {n : Nat} {fields : List (Field σ)} {s s' : σ} {items : Items}, (∀ f ∈ fields, f.Careful) →
    items.decodeFields expected depth n fields s = .ok s' → items.passedFault? = none
  | _, [], s, s', items, _, h => by
    rw [Items.decodeFields] at h
    obtain ⟨_, hclose, -⟩ := exists_ok_of_map h
    exact Items.passedFault?_of_close hclose
  | n, f :: fs, s, s', items, hfields, h => by
    obtain ⟨hf, hfs⟩ := List.forall_mem_cons.1 hfields
    rw [Items.decodeFields] at h
    obtain ⟨next, hnext, h⟩ := exists_ok_of_bind h
    cases items with
    | stop e =>
      simp only [Items.next] at hnext
      split at hnext
      · next he => exact Items.passedFault?_stop he
      · cases hnext
    | item t rest =>
      obtain ⟨s₁, hread, rfl⟩ := exists_ok_of_map hnext
      exact Items.passedFault?_item.2 ⟨hf hread, Items.passedFault?_of_decodeFields hfs h⟩

theorem Decoder.careful_struct {name : String} {fields : List (Field σ)} (hfields : ∀ f ∈ fields, f.Careful)
    (start : σ) : (Decoder.struct name fields start).Careful := by
  intro depth t s h
  unfold Decoder.struct at h
  split at h
  · exact Members.passedFault?_of_decodeFields hfields (enter_eq_ok h).2
  · exact Items.passedFault?_of_decodeFields hfields (enter_eq_ok h).2
  · exact absurd h refuse_ne_ok

end BudgetRules.Json

namespace BudgetRules.Vocabulary

open Json

theorem careful_decoder {α : Type} [Vocabulary α] : (decoder : Decoder α).Careful := by
  intro depth t a h
  obtain ⟨w, hw, -⟩ := exists_ok_of_bind h
  exact Decoder.careful_tag _ hw

end BudgetRules.Vocabulary
