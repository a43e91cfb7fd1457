import BudgetRules.Proofs.Json.Text
import BudgetRules.Vocabulary

/-!
# What is written is decoded

Laws of the decoders for the trees of values that have been written.  A list is decoded if its items are, an
object one member after the other, and the word of a vocabulary if no other member has it:

    (∀ a ∈ l, d (depth - 1) (Tree.ofJson (f a)) = .ok (g a)) →
      Decoder.list d depth (Tree.ofJson (.arr (l.map f))) = .ok (l.map g)        (Decoder.list_ofJson)
    j.Readable → decodeText d j.pretty = d depthLimit (Tree.ofJson j)            (decodeText_pretty)
-/

namespace BudgetRules.Json

variable {α β σ : Type} {depth : Nat}

theorem enter_of_lt (h : 1 < depth) (inside : Nat → Except DecodeError α) :
    enter depth inside = inside (depth - 1) := if_neg (by omega)

/-! ## Lists -/

theorem Items.decode_ofJson {d : Decoder β} {toJson : α → Json} {f : α → β} {l : List α}
    (h : ∀ a ∈ l, d depth (Tree.ofJson (toJson a)) = .ok (f a)) :
    (Items.ofJson (l.map toJson)).decode d depth = .ok (l.map f) := by
  induction l with
  | nil => rfl
  | cons a rest ih =>
    show (d depth (Tree.ofJson (toJson a))).bind _ = _
    rw [h a List.mem_cons_self]
    show ((Items.ofJson (rest.map toJson)).decode d depth).bind _ = _
    rw [ih fun b hb => h b (List.mem_cons_of_mem _ hb)]
    rfl

theorem Decoder.list_ofJson {d : Decoder β} {toJson : α → Json} {f : α → β} {l : List α} (hd : 1 < depth)
    (h : ∀ a ∈ l, d (depth - 1) (Tree.ofJson (toJson a)) = .ok (f a)) :
    Decoder.list d depth (Tree.ofJson (.arr (l.map toJson))) = .ok (l.map f) := by
  rw [Tree.ofJson, Decoder.list, enter_of_lt hd]
  exact Items.decode_ofJson h

/-! ## Objects -/

theorem Field.read_of {name : String} {get : σ → Option α} {set : σ → α → σ} {d : Decoder α}
    {hasDefault : Bool} {t : Tree} {a : α} (h : d depth t = .ok a) (s : σ) :
    (Field.of name get set d hasDefault).read s depth t = .ok (set s a) := by
  show (d depth t).map (set s) = _
  rw [h]
  rfl

/-- A member of a field that has not been read yet. -/
theorem Members.decodeFields_member {fields : List (Field σ)} {f : Field σ} {s s' : σ} {k : String}
    {t : Tree} (hf : fields.find? (fun f => f.name == k) = some f) (hs : f.isSet s = false)
    (hr : f.read s depth t = .ok s') (rest : Members) :
    (Members.member (.ok k) t rest).decodeFields fields depth s =
      rest.decodeFields fields depth s' := by
  rw [Members.decodeFields, hf]
  simp only [hs, hr]
  rfl

theorem Decoder.struct_object {name : String} {fields : List (Field σ)} {start s : σ}
    {members : List (String × Json)} (hd : 1 < depth)
    (h : (Members.ofJson members).decodeFields fields (depth - 1) start = .ok s) :
    Decoder.struct name fields start depth (Tree.ofJson (.obj members)) = .ok s := by
  rw [Tree.ofJson, Decoder.struct, enter_of_lt hd]
  exact h

/-! ## Whole numbers -/

theorem fits_int64 (n : Int64) : Fits n.toInt := by
  have hlow : -9223372036854775808 ≤ n.toInt := n.le_toInt
  have hhigh : n.toInt < 9223372036854775808 := n.toInt_lt
  exact ⟨hlow, by omega⟩

theorem Decoder.int64_ofJson (depth : Nat) (n : Int64) :
    Decoder.int64 depth (Tree.ofJson (.num (.int n.toInt))) = .ok n := by
  have hint : Decoder.int Int64.minValue.toInt Int64.maxValue.toInt "i64" depth (.num (.ok (.int n.toInt))) =
      .ok n.toInt := if_pos ⟨n.minValue_le_toInt, n.toInt_le⟩
  rw [Tree.ofJson, Number.tree_int (fits_int64 n), Decoder.int64, hint]
  exact congrArg Except.ok n.ofInt_toInt

/-! ## Texts -/

/-- A text that is a way to write a tree is decoded as the tree is. -/
theorem decodeText_of_written (d : Decoder α) {text : String} {t : Tree} (h : t.WrittenIn text.toList) :
    decodeText d text = d depthLimit t := by
  unfold decodeText
  rw [h.ofText]
  show (d depthLimit t).bind _ = _
  cases d depthLimit t <;> rfl

theorem writtenIn_pretty {j : Json} (hj : j.Readable) : (Tree.ofJson j).WrittenIn j.pretty.toList := by
  rw [pretty, String.toList_ofList]
  exact (Tree.written_prettyChars 0 hj).writtenIn

theorem writtenIn_compact {j : Json} (hj : j.Readable) : (Tree.ofJson j).WrittenIn j.compact.toList := by
  rw [compact, String.toList_ofList]
  exact (Tree.written_compactChars hj).writtenIn

theorem decodeText_pretty (d : Decoder α) {j : Json} (hj : j.Readable) :
    decodeText d j.pretty = d depthLimit (Tree.ofJson j) :=
  decodeText_of_written d (writtenIn_pretty hj)

theorem decodeText_compact (d : Decoder α) {j : Json} (hj : j.Readable) :
    decodeText d j.compact = d depthLimit (Tree.ofJson j) :=
  decodeText_of_written d (writtenIn_compact hj)

end BudgetRules.Json

namespace BudgetRules.Vocabulary

open Json

variable {α : Type} [Vocabulary α]

/-- Every member is found by its word. -/
def Distinct (α : Type) [Vocabulary α] : Prop := ∀ a : α, ofWord? (word a) = some a

theorem decoder_of_mem {w : String} (h : w ∈ words α) (depth : Nat) :
    Vocabulary.decoder depth (.str (.ok w)) =
      match (ofWord? w : Option α) with
      | some a => .ok a
      | none => .error (.unknownTag w (words α)) := by
  have htag : Decoder.tag (words α) depth (.str (.ok w)) = .ok w := if_pos h
  unfold decoder
  rw [htag]
  rfl

theorem Distinct.decoder_toJson (h : Distinct α) (depth : Nat) (a : α) :
    Vocabulary.decoder depth (Tree.ofJson (toJson a)) = .ok a := by
  have hmem : word a ∈ words α := List.mem_map_of_mem (List.mem_of_find?_eq_some (h a))
  exact (decoder_of_mem hmem depth).trans (by rw [h a])

end BudgetRules.Vocabulary
