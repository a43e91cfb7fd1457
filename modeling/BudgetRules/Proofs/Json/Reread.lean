import BudgetRules.Proofs.Json.Decode
import BudgetRules.Proofs.Json.Doubles
import BudgetRules.Proofs.Json.Finite
import BudgetRules.Proofs.SortedMap

/-!
# Values are read back

A value that a text can hold is read back once it has been written, with the same shape, names, texts and whole
numbers, and each double as what its digits are read as:

    j.Sound depth → j.Readable                                                       (Sound.readable)
    j.Sound depth → (Tree.ofJson j).decodeJson depth = .ok j.reread                  (Tree.decodeJson_ofJson)
    (∀ n ∈ j.numbers, n.reread = n) → j.reread = j                                   (reread_eq_self)
-/

namespace BudgetRules.Json

mutual

/-- A value with each double as what it is read as once it has been written. -/
def reread : Json → Json
  | .null => .null
  | .bool b => .bool b
  | .num n => .num n.reread
  | .str s => .str s
  | .arr items => .arr (rereadItems items)
  | .obj members => .obj (rereadMembers members)
termination_by structural j => j

def rereadItems : List Json → List Json
  | [] => []
  | j :: rest => reread j :: rereadItems rest
termination_by structural l => l

def rereadMembers : List (String × Json) → List (String × Json)
  | [] => []
  | (k, j) :: rest => (k, reread j) :: rereadMembers rest
termination_by structural l => l

end

mutual

/-- All numbers of a value, in the order in which they are written. -/
def numbers : Json → List Number
  | .null => []
  | .bool _ => []
  | .num n => [n]
  | .str _ => []
  | .arr items => itemNumbers items
  | .obj members => memberNumbers members
termination_by structural j => j

def itemNumbers : List Json → List Number
  | [] => []
  | j :: rest => numbers j ++ itemNumbers rest
termination_by structural l => l

def memberNumbers : List (String × Json) → List Number
  | [] => []
  | (_, j) :: rest => numbers j ++ memberNumbers rest
termination_by structural l => l

end

/-! ## Reading -/

theorem Number.Sound.readable {n : Number} (h : n.Sound) : n.Readable := by
  cases n with
  | int i => exact Number.readable_int h
  | double x => exact Number.readable_double h

theorem Number.Sound.tree {n : Number} (h : n.Sound) : n.tree = .num (.ok n.reread) := by
  cases n with
  | int i => exact Number.tree_int h
  | double x => exact Number.tree_double h

mutual

theorem Sound.readable : ∀ {j : Json} {depth : Nat}, Sound depth j → Readable j
  | .null, _, _ => True.intro
  | .bool _, _, _ => True.intro
  | .num _, _, h => Number.Sound.readable h
  | .str _, _, _ => True.intro
  | .arr _, _, h => SoundItems.readable h.2
  | .obj _, _, h => SoundMembers.readable h.2.2
termination_by structural j => j

theorem SoundItems.readable : ∀ {l : List Json} {depth : Nat}, SoundItems depth l → ReadableItems l
  | [], _, _ => True.intro
  | _ :: _, _, h => ⟨h.1.readable, SoundItems.readable h.2⟩
termination_by structural l => l

theorem SoundMembers.readable : ∀ {l : List (String × Json)} {depth : Nat}, SoundMembers depth l →
    ReadableMembers l
  | [], _, _ => True.intro
  | (_, _) :: _, _, h => ⟨h.1.readable, SoundMembers.readable h.2⟩
termination_by structural l => l

end

/-! ## Decoding -/

mutual

theorem Tree.decodeJson_ofJson : ∀ {j : Json} {depth : Nat}, Json.Sound depth j →
    (Tree.ofJson j).decodeJson depth = .ok j.reread
  | .null, _, _ => rfl
  | .bool _, _, _ => rfl
  | .num n, depth, h => by
    rw [Tree.ofJson, Number.Sound.tree h]
    rfl
  | .str _, _, _ => rfl
  | .arr items, depth, h => by
    rw [Tree.ofJson, Tree.decodeJson, enter_of_lt h.1, Items.decodeJson_ofJson h.2]
    rfl
  | .obj members, depth, h => by
    have hmembers := Members.decodeJson_ofJson (List.forall_mem_nil _) h.2.1 h.2.2
    rw [Tree.ofJson, Tree.decodeJson, enter_of_lt h.1, hmembers]
    rfl
termination_by structural j => j

theorem Items.decodeJson_ofJson : ∀ {l : List Json} {depth : Nat}, SoundItems depth l →
    (Items.ofJson l).decodeJson depth = .ok (rereadItems l)
  | [], _, _ => rfl
  | j :: rest, depth, h => by
    rw [Items.ofJson, Items.decodeJson, Tree.decodeJson_ofJson h.1, Items.decodeJson_ofJson h.2]
    rfl
termination_by structural l => l

/-- Each name goes behind those that have been read. -/
theorem Members.decodeJson_ofJson : ∀ {l : List (String × Json)} {depth : Nat} {acc : List (String × Json)},
    (∀ p ∈ acc, ∀ q ∈ l, p.1 < q.1) → Sorted.Ascending l → SoundMembers depth l →
    (Members.ofJson l).decodeJson depth acc = .ok (acc ++ rereadMembers l)
  | [], _, acc, _, _, _ => by
    rw [rereadMembers, List.append_nil]
    rfl
  | (k, j) :: rest, depth, acc, hacc, hl, h => by
    obtain ⟨hlast, hnext⟩ := Sorted.insert_behind hl hacc j.reread
    have hrest := (List.pairwise_cons.1 hl).2
    rw [Members.ofJson, Members.decodeJson, Tree.decodeJson_ofJson h.1]
    show (Members.ofJson rest).decodeJson depth (Sorted.insert k j.reread acc) = _
    rw [Members.decodeJson_ofJson hnext hrest h.2, hlast, rereadMembers, List.append_assoc]
    rfl
termination_by structural l => l

end

/-! ## Values that are read as they are -/

mutual

theorem reread_eq_self : ∀ {j : Json}, (∀ n ∈ j.numbers, n.reread = n) → j.reread = j
  | .null, _ => rfl
  | .bool _, _ => rfl
  | .num n, h => congrArg Json.num (h n (List.mem_singleton_self n))
  | .str _, _ => rfl
  | .arr _, h => congrArg Json.arr (rereadItems_eq_self h)
  | .obj _, h => congrArg Json.obj (rereadMembers_eq_self h)
termination_by structural j => j

theorem rereadItems_eq_self : ∀ {l : List Json}, (∀ n ∈ itemNumbers l, n.reread = n) → rereadItems l = l
  | [], _ => rfl
  | j :: rest, h => by
    obtain ⟨hj, hrest⟩ := List.forall_mem_append.1 h
    rw [rereadItems, reread_eq_self hj, rereadItems_eq_self hrest]
termination_by structural l => l

theorem rereadMembers_eq_self : ∀ {l : List (String × Json)}, (∀ n ∈ memberNumbers l, n.reread = n) →
    rereadMembers l = l
  | [], _ => rfl
  | (k, j) :: rest, h => by
    obtain ⟨hj, hrest⟩ := List.forall_mem_append.1 h
    rw [rereadMembers, reread_eq_self hj, rereadMembers_eq_self hrest]
termination_by structural l => l

end

/-- The members of an object, each decoded on its own. -/
theorem Members.decodeMap_ofJson {α β : Type} {d : Decoder β} {toJson : α → Json} {f : α → β} {depth : Nat}
    {l : List (String × α)} (acc : SortedMap β) (hl : Sorted.Ascending l)
    (hacc : ∀ p ∈ acc.entries, ∀ q ∈ l, p.1 < q.1)
    (h : ∀ q ∈ l, d depth (Tree.ofJson (toJson q.2)) = .ok (f q.2)) :
    ∃ m, (Members.ofJson (l.map fun q => (q.1, toJson q.2))).decodeMap d depth acc = .ok m ∧
      m.entries = acc.entries ++ l.map fun q => (q.1, f q.2) := by
  induction l generalizing acc with
  | nil => exact ⟨acc, rfl, (List.append_nil _).symm⟩
  | cons q rest ih =>
    obtain ⟨k, a⟩ := q
    obtain ⟨hlast, hnext⟩ := Sorted.insert_behind hl hacc (f a)
    have hrest := (List.pairwise_cons.1 hl).2
    obtain ⟨m, hm, hall⟩ := ih (acc.insert k (f a)) hrest hnext fun q hq => h q (List.mem_cons_of_mem _ hq)
    refine ⟨m, ?_, ?_⟩
    · rw [List.map_cons, Members.ofJson, Members.decodeMap, h (k, a) List.mem_cons_self]
      exact hm
    · have hentries : (acc.insert k (f a)).entries = acc.entries ++ [(k, f a)] := hlast
      rw [hall, hentries, List.append_assoc]
      rfl

theorem Decoder.map_ofJson {α β : Type} {d : Decoder β} {toJson : α → Json} {f : α → β} {depth : Nat} {m : SortedMap α}
    (hdepth : 1 < depth) (h : ∀ q ∈ m.entries, d (depth - 1) (Tree.ofJson (toJson q.2)) = .ok (f q.2)) :
    Decoder.map d depth (Tree.ofJson (.obj (m.entries.map fun q => (q.1, toJson q.2)))) = .ok (m.map f) := by
  obtain ⟨m', hm, hentries⟩ := Members.decodeMap_ofJson .empty m.ascending (fun p hp => nomatch hp) h
  have hsame : m' = m.map f := by
    cases m'
    cases hentries
    rfl
  rw [Tree.ofJson, Decoder.map, enter_of_lt hdepth, hm, hsame]

end BudgetRules.Json
