import BudgetRules.Ledger.File
import BudgetRules.Proofs.Json.Finite
import BudgetRules.Proofs.Record.Comparison

/-!
# Records that are read

A field that is read holds what a text can hold, and a list or an object where it holds no plain value.  So its
numbers are finite, and no record that is read holds a NaN:

    readRecords text = .ok records → ∀ r ∈ records, r.Sound (depthLimit - 2)    (FileLedger.sound_of_readRecords)
    readRecords text = .ok records → ∀ r ∈ records, r.hasNaN = false            (FileLedger.hasNaN_of_readRecords)
-/

namespace BudgetRules

open Json (depthLimit)

/-! ## Values -/

theorem Json.Number.Sound.hasNaN {n : Json.Number} (h : n.Sound) : n.hasNaN = false := by
  cases n with
  | int i => rfl
  | double x => exact decide_eq_false (Nat.not_lt.mpr (Nat.le_of_lt h))

mutual

theorem Json.Sound.hasNaN : ∀ {j : Json} {depth : Nat}, Json.Sound depth j → j.hasNaN = false
  | .null, _, _ => rfl
  | .bool _, _, _ => rfl
  | .num _, _, h => Json.Number.Sound.hasNaN h
  | .str _, _, _ => rfl
  | .arr _, _, h => Json.SoundItems.haveNaN h.2
  | .obj _, _, h => Json.SoundMembers.haveNaN h.2.2
termination_by structural j => j

theorem Json.SoundItems.haveNaN : ∀ {l : List Json} {depth : Nat}, Json.SoundItems depth l →
    Json.itemsHaveNaN l = false
  | [], _, _ => rfl
  | _ :: _, _, h => Bool.or_eq_false_iff.2 ⟨h.1.hasNaN, Json.SoundItems.haveNaN h.2⟩
termination_by structural l => l

theorem Json.SoundMembers.haveNaN : ∀ {l : List (String × Json)} {depth : Nat}, Json.SoundMembers depth l →
    Json.membersHaveNaN l = false
  | [], _, _ => rfl
  | (_, _) :: _, _, h => Bool.or_eq_false_iff.2 ⟨h.1.hasNaN, Json.SoundMembers.haveNaN h.2⟩
termination_by structural l => l

end

/-- What a field can hold that is read: it is the field of its own JSON, and that is such as a text can hold. -/
structure FieldValue.Sound (depth : Nat) (v : FieldValue) : Prop where
  json : v.toJson.Sound depth
  ofJson : FieldValue.ofJson v.toJson = v

theorem Binary64.finite_ofInt {i : Int} (h : Json.Fits i) : (Binary64.ofInt i).magnitude < Binary64.infiniteMagnitude := by
  have hmax : Json.Numeral.wordMax = 18446744073709551615 := rfl
  have hfinite := Json.Numeral.finite_ofNat (n := i.natAbs) (by have hlow := h.1; have hhigh := h.2; omega)
  rw [Binary64.ofNat, Binary64.magnitude_nearest] at hfinite
  rwa [Binary64.ofInt, Binary64.magnitude_nearest]

theorem FieldValue.sound_ofJson {depth : Nat} {j : Json} (h : j.Sound depth) : (FieldValue.ofJson j).Sound depth := by
  cases j with
  | num n =>
    cases n with
    | int i => exact ⟨Binary64.finite_ofInt h, rfl⟩
    | double x => exact ⟨h, rfl⟩
  | null => exact ⟨h, rfl⟩
  | bool b => exact ⟨h, rfl⟩
  | str s => exact ⟨h, rfl⟩
  | arr items => exact ⟨h, rfl⟩
  | obj members => exact ⟨h, rfl⟩

theorem FieldValue.Sound.hasNaN {depth : Nat} {v : FieldValue} (h : v.Sound depth) : v.hasNaN = false := by
  have hjson := h.json.hasNaN
  cases v with
  | number x => exact hjson
  | other j => exact hjson
  | null => rfl
  | bool b => rfl
  | text s => rfl

theorem FieldValue.sound_decoder {t : Json.Tree} {depth : Nat} {v : FieldValue} (ht : t.Sound)
    (h : FieldValue.decoder depth t = .ok v) : v.Sound depth := by
  obtain ⟨j, hj, rfl⟩ := exists_ok_of_map h
  exact FieldValue.sound_ofJson (Json.Tree.sound_decodeJson ht hj)

theorem FieldValue.careful_decoder : FieldValue.decoder.Careful := by
  intro depth t v h
  obtain ⟨j, hj, -⟩ := exists_ok_of_map h
  exact Json.Decoder.careful_json hj

/-! ## Records -/

namespace Record

/-- Is every field such as is read? -/
def Sound (depth : Nat) (r : Record) : Prop := ∀ k v, r.get? k = some v → v.Sound depth

theorem Sound.hasNaN {depth : Nat} {r : Record} (h : r.Sound depth) : r.hasNaN = false :=
  hasNaN_eq_false_iff.2 fun k v hv => (h k v hv).hasNaN

theorem sound_set {depth : Nat} {r : Record} {k : String} {v : FieldValue} (hr : r.Sound depth) (hv : v.Sound depth) :
    (r.set k v).Sound depth := by
  intro l w hw
  rw [get?_set] at hw
  split at hw
  · cases hw; exact hv
  · exact hr l w hw

theorem sound_decodeMap : ∀ {members : Json.Members} {depth : Nat} {acc fields : SortedMap FieldValue},
    members.Sound → Sound depth ⟨acc⟩ → members.decodeMap FieldValue.decoder depth acc = .ok fields →
    Sound depth ⟨fields⟩
  | .stop s, _, _, _, _, hacc, h => by
    rw [Json.Members.decodeMap] at h
    split at h
    · cases h; exact hacc
    · cases h
  | .strayKey _, _, _, _, _, _, h => by cases h
  | .brokenKey _, _, _, _, _, _, h => by cases h
  | .member (.error _) _ _, _, _, _, _, _, h => by cases h
  | .member (.ok k) t rest, depth, acc, fields, hn, hacc, h => by
    obtain ⟨ht, hrest⟩ := hn
    rw [Json.Members.decodeMap] at h
    obtain ⟨v, hv, h⟩ := exists_ok_of_bind h
    exact sound_decodeMap hrest (sound_set hacc (FieldValue.sound_decoder ht hv)) h

theorem sound_decoder {t : Json.Tree} {depth : Nat} {r : Record} (ht : t.Sound) (h : decoder depth t = .ok r) :
    r.Sound (depth - 1) := by
  obtain ⟨fields, hf, rfl⟩ := exists_ok_of_map h
  unfold Json.Decoder.map at hf
  split at hf
  · exact sound_decodeMap ht (fun k v hv => by cases hv) (Json.enter_eq_ok hf).2
  · exact absurd hf Json.refuse_ne_ok

theorem sound_decode : ∀ {items : Json.Items} {depth : Nat} {l : List Record}, items.Sound →
    items.decode decoder depth = .ok l → ∀ r ∈ l, r.Sound (depth - 1)
  | .stop s, _, _, _, h => by
    rw [Json.Items.decode] at h
    split at h
    · cases h; exact List.forall_mem_nil _
    · cases h
  | .item t rest, depth, l, hn, h => by
    obtain ⟨ht, hrest⟩ := hn
    rw [Json.Items.decode] at h
    obtain ⟨r, hr, h⟩ := exists_ok_of_bind h
    obtain ⟨m, hm, h⟩ := exists_ok_of_bind h
    cases h
    exact List.forall_mem_cons.2 ⟨sound_decoder ht hr, sound_decode hrest hm⟩

theorem careful_decoder : decoder.Careful := by
  intro depth t r h
  obtain ⟨fields, hf, -⟩ := exists_ok_of_map h
  exact FieldValue.careful_decoder.map hf

/-- A record that is read holds no NaN. -/
theorem hasNaN_of_decodeText {text : String} {r : Record} (h : Json.decodeText decoder text = .ok r) :
    r.hasNaN = false := by
  obtain ⟨t, ht, hd⟩ := Json.exists_sound_of_decodeText careful_decoder h
  exact (sound_decoder ht hd).hasNaN

end Record

namespace FileLedger

/-- The transactions of a file, two levels down in its text. -/
theorem sound_of_readRecords {text : String} {records : List Record} (h : readRecords text = .ok records) :
    ∀ r ∈ records, r.Sound (depthLimit - 2) := by
  obtain ⟨t, ht, hd⟩ := Json.exists_sound_of_decodeText Record.careful_decoder.list h
  unfold Json.Decoder.list at hd
  split at hd
  · exact Record.sound_decode ht (Json.enter_eq_ok hd).2
  · exact absurd hd Json.refuse_ne_ok

/-- The transactions of a file hold no NaN. -/
theorem hasNaN_of_readRecords {text : String} {records : List Record} (h : readRecords text = .ok records) :
    ∀ r ∈ records, r.hasNaN = false :=
  fun r hr => (sound_of_readRecords h r hr).hasNaN

end FileLedger

end BudgetRules
