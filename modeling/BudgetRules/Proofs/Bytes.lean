import BudgetRules.Fingerprint
import BudgetRules.Proofs.Json.Decode
import Mathlib.Data.List.Basic

/-!
# Bytes that show where they end

A `Delimited` way of writing values as bytes shows where each value ends: what follows cannot be taken for a part
of it.  Lengths are written in eight bytes, so this is said of values whose texts and lists are no longer than that
(`DelimitedOn`), or of fewer than `UInt64.size` bytes (`Delimited`).

    DelimitedOn p f → DelimitedOn q g → DelimitedOn (p and q) fun c => f c.1 ++ g c.2    (DelimitedOn.append)
    DelimitedOn p item → DelimitedOn (FitsList p) (ofList item)                            (delimited_ofList)
    DelimitedOn p f → (∀ a, (f a).length < UInt64.size → p a) → Delimited f          (DelimitedOn.delimited)
-/

namespace BudgetRules.Bytes

variable {α β : Type} {bound : Nat} {x y : List UInt8}

theorem length_lt_of_append {p : List UInt8} (h : (p ++ x).length < bound) : x.length < bound := by
  rw [List.length_append] at h
  omega

/-! ## Bytes of a text -/

/-- From a place on, the bytes of an array are put behind those that have been taken. -/
theorem toList_loop (b : ByteArray) (i : Nat) (taken : List UInt8) :
    ByteArray.toList.loop b i taken = taken.reverse ++ b.data.toList.drop i := by
  fun_induction ByteArray.toList.loop b i taken with
  | case1 i taken hi ih =>
    have hlen : i < b.data.toList.length := hi
    have hget : b.get! i = b.data.toList[i] := getElem!_pos b.data i hi
    rw [ih, hget, List.drop_eq_getElem_cons hlen, List.reverse_cons, List.append_assoc,
      List.singleton_append]
  | case2 i taken hi =>
    rw [List.drop_eq_nil_of_le (Nat.not_lt.1 hi), List.append_nil]

theorem utf8_eq (s : String) : utf8 s = s.toByteArray.data.toList := toList_loop _ 0 []

/-- A text is told by its bytes. -/
theorem utf8_inj {s t : String} (h : utf8 s = utf8 t) : s = t := by
  rw [utf8_eq, utf8_eq] at h
  have hbytes : s.toByteArray = t.toByteArray := ByteArray.ext (Array.toList_inj.1 h)
  exact String.toByteArray_inj.1 hbytes

/-! ## Numbers -/

/-- A number that fits is told by its bytes, whatever follows. -/
theorem littleEndian_append_inj {k n m : Nat} (hn : n < Nat.pow 256 k) (hm : m < Nat.pow 256 k)
    (h : littleEndian k n ++ x = littleEndian k m ++ y) : n = m ∧ x = y := by
  have hlen : (littleEndian k n).length = (littleEndian k m).length := by
    rw [length_littleEndian, length_littleEndian]
  obtain ⟨hnum, hrest⟩ := List.append_inj h hlen
  refine ⟨?_, hrest⟩
  rw [← toNat_littleEndian k n hn, ← toNat_littleEndian k m hm, hnum]

theorem ofLength_append_inj {n m : Nat} (hn : n < UInt64.size) (hm : m < UInt64.size)
    (h : ofLength n ++ x = ofLength m ++ y) : n = m ∧ x = y :=
  littleEndian_append_inj (k := 8) hn hm h

/-! ## Ways of writing -/

/-- Written one after the other, values that are as `p` says show where each ends, whatever follows them. -/
def DelimitedOn (p : α → Prop) (write : α → List UInt8) : Prop :=
  ∀ ⦃a b : α⦄ ⦃x y : List UInt8⦄, p a → p b → write a ++ x = write b ++ y → a = b ∧ x = y

/-- Written one after the other, values show where each ends. -/
def Delimited (write : α → List UInt8) : Prop :=
  ∀ ⦃a b : α⦄ ⦃x y : List UInt8⦄, (write a ++ x).length < UInt64.size → write a ++ x = write b ++ y →
    a = b ∧ x = y

section

variable {p : α → Prop} {q : β → Prop} {f : α → List UInt8} {g : β → List UInt8}

/-- What is written in fewer than `UInt64.size` bytes has no length beyond them. -/
theorem DelimitedOn.delimited (hf : DelimitedOn p f) (hp : ∀ a, (f a).length < UInt64.size → p a) :
    Delimited f := by
  intro a b x y hsize h
  have hsize' := h ▸ hsize
  rw [List.length_append] at hsize hsize'
  exact hf (hp a (by omega)) (hp b (by omega)) h

theorem DelimitedOn.append (hf : DelimitedOn p f) (hg : DelimitedOn q g) :
    DelimitedOn (fun c : α × β => p c.1 ∧ q c.2) fun c => f c.1 ++ g c.2 := by
  rintro ⟨a, b⟩ ⟨a', b'⟩ x y ⟨ha, hb⟩ ⟨ha', hb'⟩ h
  simp only [List.append_assoc] at h
  obtain ⟨rfl, hrest⟩ := hf ha ha' h
  obtain ⟨rfl, hend⟩ := hg hb hb' hrest
  exact ⟨rfl, hend⟩

/-- What is written of a value may be some other one that tells it. -/
theorem DelimitedOn.comp (hf : DelimitedOn p f) {e : β → α} (he : Function.Injective e)
    (hq : ∀ b, q b → p (e b)) : DelimitedOn q fun b => f (e b) := by
  intro b b' x y hb hb' h
  obtain ⟨heq, hend⟩ := hf (hq b hb) (hq b' hb') h
  exact ⟨he heq, hend⟩

end

/-- A byte on its own. -/
theorem delimited_byte : DelimitedOn (fun _ => True) fun b : UInt8 => [b] := fun _ _ _ _ _ _ h => List.cons.inj h

theorem delimited_ofFlag : DelimitedOn (fun _ => True) ofFlag := by
  have hinj : ∀ b c : Bool, (if b then (1 : UInt8) else 0) = (if c then 1 else 0) → b = c := by decide
  exact delimited_byte.comp (fun b c => hinj b c) fun _ => id

theorem delimited_ofInt64 : DelimitedOn (fun _ => True) ofInt64 := by
  intro i j x y _ _ h
  obtain ⟨hnum, hend⟩ := littleEndian_append_inj i.toUInt64.toNat_lt j.toUInt64.toNat_lt h
  exact ⟨congrArg Int64.ofUInt64 (UInt64.toNat_inj.1 hnum), hend⟩

/-- A member is told by its place, if the vocabulary has all of them. -/
theorem delimited_ofMember [Vocabulary α] [DecidableEq α] (hall : Vocabulary.Distinct α)
    (hsize : (Vocabulary.all : List α).length < UInt32.size) :
    DelimitedOn (fun _ => True) (ofMember : α → List UInt8) := by
  have hmem : ∀ a : α, a ∈ (Vocabulary.all : List α) := fun a => List.mem_of_find?_eq_some (hall a)
  have hplace : ∀ a : α, (Vocabulary.all : List α).idxOf a < Nat.pow 256 4 := fun a =>
    Nat.lt_trans (List.idxOf_lt_length_of_mem (hmem a)) hsize
  intro a b x y _ _ h
  obtain ⟨hidx, hend⟩ := littleEndian_append_inj (hplace a) (hplace b) h
  exact ⟨(List.idxOf_inj (hmem a)).1 hidx, hend⟩

/-! ## Lists -/

/-- Of as many items that show where they end, so does the whole. -/
theorem flatMap_append_inj {item : α → List UInt8} {l m : List α}
    (hitem : ∀ a ∈ l, ∀ b ∈ m, ∀ x y, (item a ++ x).length < bound → item a ++ x = item b ++ y →
      a = b ∧ x = y)
    (hlen : l.length = m.length) (hsize : (l.flatMap item ++ x).length < bound)
    (h : l.flatMap item ++ x = m.flatMap item ++ y) : l = m ∧ x = y := by
  induction l generalizing m with
  | nil =>
    have hm : m = [] := List.length_eq_zero_iff.1 hlen.symm
    subst hm
    exact ⟨rfl, h⟩
  | cons a l ih =>
    cases m with
    | nil => cases hlen
    | cons b m =>
      simp only [List.flatMap_cons, List.append_assoc] at hsize h
      obtain ⟨rfl, hrest⟩ := hitem a List.mem_cons_self b List.mem_cons_self _ _ hsize h
      obtain ⟨rfl, hend⟩ := ih (fun a ha b hb => hitem a (List.mem_cons_of_mem _ ha) b (List.mem_cons_of_mem _ hb))
        (Nat.succ.inj hlen) (length_lt_of_append hsize) hrest
      exact ⟨rfl, hend⟩

theorem length_le_length_flatMap {item : α → List UInt8} (hitem : ∀ a, item a ≠ []) (l : List α) :
    l.length ≤ (l.flatMap item).length := by
  induction l with
  | nil => exact Nat.le_refl 0
  | cons a l ih =>
    have ha : 0 < (item a).length := List.length_pos_iff.2 (hitem a)
    rw [List.flatMap_cons, List.length_append, List.length_cons]
    omega

/-- A list whose length can be written, of items that are as `p` says. -/
def FitsList (p : α → Prop) (l : List α) : Prop := l.length < UInt64.size ∧ ∀ a ∈ l, p a

theorem delimited_ofList {p : α → Prop} {item : α → List UInt8} (hd : DelimitedOn p item) :
    DelimitedOn (FitsList p) (ofList item) := by
  rintro l m x y ⟨hl, hpl⟩ ⟨hm, hpm⟩ h
  unfold ofList at h
  simp only [List.append_assoc] at h
  obtain ⟨hlen, hrest⟩ := ofLength_append_inj hl hm h
  exact flatMap_append_inj (fun a ha b hb _ _ _ he => hd (hpl a ha) (hpm b hb) he) hlen
    (Nat.lt_succ_self _) hrest

theorem fitsList_of_length {p : α → Prop} {item : α → List UInt8} (hitem : ∀ a, item a ≠ [])
    (hp : ∀ a, (item a).length < UInt64.size → p a) {l : List α} (h : (ofList item l).length < UInt64.size) :
    FitsList p l := by
  unfold ofList at h
  rw [List.length_append] at h
  have hlong := length_le_length_flatMap hitem l
  refine ⟨by omega, fun a ha => hp a ?_⟩
  have hpart : (item a).length ≤ (l.map item).flatten.length :=
    (List.sublist_flatten_of_mem (List.mem_map_of_mem ha)).length_le
  rw [← List.flatMap_def] at hpart
  omega

/-- A text whose length can be written. -/
def FitsText (s : String) : Prop := (utf8 s).length < UInt64.size

/-- A text is written as the list of its bytes. -/
theorem delimited_ofText : DelimitedOn FitsText ofText := by
  have hbytes := delimited_ofList delimited_byte
  have htext : ofText = fun s => ofList (fun b => [b]) (utf8 s) := by
    funext s
    unfold ofText ofList
    rw [List.flatMap_singleton']
  rw [htext]
  exact hbytes.comp (fun _ _ => utf8_inj) fun s hs => ⟨hs, fun _ _ => trivial⟩

theorem fitsText_of_length {s : String} (h : (ofText s).length < UInt64.size) : FitsText s := by
  unfold ofText at h
  rw [List.length_append] at h
  unfold FitsText
  omega

/-! ## Base sixteen -/

theorem hexDigit_inj : ∀ n < 16, ∀ m < 16, hexDigit n = hexDigit m → n = m := by decide

/-- Bytes are told by their digits. -/
theorem hex_inj {l m : List UInt8} (h : hex l = hex m) : l = m := by
  induction l generalizing m with
  | nil =>
    cases m with
    | nil => rfl
    | cons b m => cases h
  | cons a l ih =>
    cases m with
    | nil => cases h
    | cons b m =>
      obtain ⟨hhigh, hrest⟩ := List.cons.inj h
      obtain ⟨hlow, hrest⟩ := List.cons.inj hrest
      have ha := a.toNat_lt
      have hb := b.toNat_lt
      have hq := hexDigit_inj (a.toNat / 16) (by omega) (b.toNat / 16) (by omega) hhigh
      have hr := hexDigit_inj (a.toNat % 16) (by omega) (b.toNat % 16) (by omega) hlow
      have hab : a = b := UInt8.toNat_inj.1 (by omega)
      rw [hab, ih hrest]

end BudgetRules.Bytes
