import BudgetRules.Proofs.Json.Rearranged
import BudgetRules.Rule.Stored

/-!
# Rules that are written in another way

A stored rule is the same rule with its members in another order, with members of unknown names among them, without
the members that hold a default, and with its conditions and actions written in another way in turn:

    Alike StoredRule.leeway t t' → StoredRule.decoder depth t = .ok s → StoredRule.decoder depth t' = .ok s
                                                                                    (StoredRule.decoder_allows)

The grammar says which texts stand for `t` and for `t'`, so the same holds of texts, wherever their blanks are and
however their characters are escaped (`Rule.readOne_alike`).
-/

namespace BudgetRules

open Json

/-! ## Conditions -/

namespace Condition

/-- A condition has no defaults. -/
def leeway : Leeway where
  names := ["field", "operator", "value"]
  defaults := []
  inside _ _ _ := False

theorem lawful_fields : Field.Lawful fields where
  sets f hf := by
    simp only [fields, List.mem_cons, List.not_mem_nil, or_false] at hf
    rcases hf with rfl | rfl | rfl <;> exact Field.sets_of fun _ _ => rfl
  apart f hf g hg hne := by
    simp only [fields, List.mem_cons, List.not_mem_nil, or_false] at hf hg
    rcases hf with rfl | rfl | rfl <;> rcases hg with rfl | rfl | rfl <;>
      first
      | exact absurd rfl hne
      | exact Field.apart_of (fun _ _ => rfl) fun _ _ _ => rfl

/-- The condition of the fields that have been read. -/
def Parts.finish (p : Parts) : Except DecodeError Condition := do
  return ⟨← required "field" p.field, ← required "operator" p.operator, ← required "value" p.value⟩

theorem allowed_leeway : leeway.Allowed fields Parts.finish where
  names f hf := by
    simp only [fields, List.mem_cons, List.not_mem_nil, or_false] at hf
    rcases hf with rfl | rfl | rfl <;> decide
  defaults h := absurd h List.not_mem_nil
  inside h := h.elim

theorem decoder_allows : decoder.Allows leeway :=
  Decoder.allows_struct allowed_leeway lawful_fields "Condition" ⟨none, none, none⟩

theorem careful_decoder : decoder.Careful := by
  intro depth t c h
  obtain ⟨p, hp, -⟩ := exists_ok_of_bind h
  refine Decoder.careful_struct (fun f hf => ?_) _ hp
  simp only [fields, List.mem_cons, List.not_mem_nil, or_false] at hf
  rcases hf with rfl | rfl | rfl
  · exact Vocabulary.careful_decoder.field
  · exact Vocabulary.careful_decoder.field
  · exact Decoder.careful_text.field

end Condition

/-! ## Actions -/

namespace Action

/-- An action may lack a value that is empty. -/
def leeway : Leeway where
  names := ["field", "operation", "value"]
  defaults := [("value", .str (.ok ""))]
  inside _ _ _ := False

theorem lawful_fields : Field.Lawful fields where
  sets f hf := by
    simp only [fields, List.mem_cons, List.not_mem_nil, or_false] at hf
    rcases hf with rfl | rfl | rfl <;> exact Field.sets_of fun _ _ => rfl
  apart f hf g hg hne := by
    simp only [fields, List.mem_cons, List.not_mem_nil, or_false] at hf hg
    rcases hf with rfl | rfl | rfl <;> rcases hg with rfl | rfl | rfl <;>
      first
      | exact absurd rfl hne
      | exact Field.apart_of (fun _ _ => rfl) fun _ _ _ => rfl

/-- The action of the fields that have been read; a missing value is empty. -/
def Parts.finish (p : Parts) : Except DecodeError Action := do
  return ⟨← required "field" p.field, ← required "operation" p.operation, p.value.getD ""⟩

theorem allowed_leeway : leeway.Allowed fields Parts.finish where
  names f hf := by
    simp only [fields, List.mem_cons, List.not_mem_nil, or_false] at hf
    rcases hf with rfl | rfl | rfl <;> decide
  defaults h hf depth s s' hset hread := by
    cases List.mem_singleton.1 h
    cases hf
    obtain ⟨field, operation, value⟩ := s
    exact Field.finish_of_default "" (fun b hb => by cases hb; rfl) (fun hnone => by cases hnone; rfl) hset hread
  inside h := h.elim

theorem decoder_allows : decoder.Allows leeway :=
  Decoder.allows_struct allowed_leeway lawful_fields "Action" ⟨none, none, none⟩

theorem careful_decoder : decoder.Careful := by
  intro depth t a h
  obtain ⟨p, hp, -⟩ := exists_ok_of_bind h
  refine Decoder.careful_struct (fun f hf => ?_) _ hp
  simp only [fields, List.mem_cons, List.not_mem_nil, or_false] at hf
  rcases hf with rfl | rfl | rfl
  · exact Vocabulary.careful_decoder.field
  · exact Vocabulary.careful_decoder.field
  · exact Decoder.careful_text.field

end Action

/-! ## Rules -/

namespace StoredRule

/-- What is rearranged inside a member of a rule: the conditions or the actions of its list. -/
inductive Inside : String → Tree → Tree → Prop
  | conditions {t t' : Tree} : AlikeLists Condition.leeway t t' → Inside "conditions" t t'
  | actions {t t' : Tree} : AlikeLists Action.leeway t t' → Inside "actions" t t'

/-- The logic operator is a word, which may be written as a text or as a name. -/
def leeway : Leeway where
  names := ["id", "name", "description", "conditions", "actions", "enabled", "priority", "logic_operator"]
  defaults := [("description", .str (.ok "")), ("enabled", .bool true), ("priority", .num (.ok (.int 0))),
    ("logic_operator", .str (.ok "and")), ("logic_operator", .object (Members.ofList [("and", .null)]))]
  inside := Inside

theorem lawful_fields : Field.Lawful fields where
  sets f hf := by
    simp only [fields, List.mem_cons, List.not_mem_nil, or_false] at hf
    rcases hf with rfl | rfl | rfl | rfl | rfl | rfl | rfl | rfl <;> exact Field.sets_of fun _ _ => rfl
  apart f hf g hg hne := by
    simp only [fields, List.mem_cons, List.not_mem_nil, or_false] at hf hg
    rcases hf with rfl | rfl | rfl | rfl | rfl | rfl | rfl | rfl <;>
      rcases hg with rfl | rfl | rfl | rfl | rfl | rfl | rfl | rfl <;>
      first
      | exact absurd rfl hne
      | exact Field.apart_of (fun _ _ => rfl) fun _ _ _ => rfl

theorem decoder_named_and {depth : Nat} {l : LogicOperator}
    (h : Vocabulary.decoder depth (.object (Members.ofList [("and", .null)])) = .ok l) : l = .and := by
  obtain ⟨w, hw, hl⟩ := exists_ok_of_bind h
  rw [Members.ofList, Members.ofList, Decoder.tag] at hw
  obtain rfl : "and" = w := Except.ok.inj (enter_eq_ok hw).2
  exact (Except.ok.inj hl).symm

theorem allowed_leeway : leeway.Allowed fields Parts.finish where
  names f hf := by
    simp only [fields, List.mem_cons, List.not_mem_nil, or_false] at hf
    rcases hf with rfl | rfl | rfl | rfl | rfl | rfl | rfl | rfl <;> decide
  defaults h hf depth s s' hset hread := by
    simp only [leeway, List.mem_cons, List.not_mem_nil, or_false] at h
    obtain ⟨id, name, description, conditions, actions, enabled, priority, logic⟩ := s
    rcases h with h | h | h | h | h <;> cases h <;> cases hf
    · exact Field.finish_of_default "" (fun b hb => by cases hb; rfl) (fun hnone => by cases hnone; rfl) hset hread
    · exact Field.finish_of_default true (fun b hb => by cases hb; rfl) (fun hnone => by cases hnone; rfl) hset hread
    · exact Field.finish_of_default 0 (fun b hb => by cases hb; rfl) (fun hnone => by cases hnone; rfl) hset hread
    · exact Field.finish_of_default .and (fun b hb => by cases hb; rfl) (fun hnone => by cases hnone; rfl) hset hread
    · exact Field.finish_of_default .and (fun b hb => decoder_named_and hb) (fun hnone => by cases hnone; rfl) hset hread
  inside h := by
    cases h with
    | conditions h => exact ⟨_, rfl, Field.read_alike Condition.decoder_allows h⟩
    | actions h => exact ⟨_, rfl, Field.read_alike Action.decoder_allows h⟩

theorem decoder_allows : decoder.Allows leeway :=
  Decoder.allows_struct allowed_leeway lawful_fields "Rule" .empty

theorem careful_decoder : decoder.Careful := by
  intro depth t s h
  obtain ⟨p, hp, -⟩ := exists_ok_of_bind h
  refine Decoder.careful_struct (fun f hf => ?_) _ hp
  simp only [fields, List.mem_cons, List.not_mem_nil, or_false] at hf
  rcases hf with rfl | rfl | rfl | rfl | rfl | rfl | rfl | rfl
  · exact Decoder.careful_text.field
  · exact Decoder.careful_text.field
  · exact Decoder.careful_text.field
  · exact Condition.careful_decoder.list.field
  · exact Action.careful_decoder.list.field
  · exact Decoder.careful_bool.field
  · exact Decoder.careful_int64.field
  · exact Vocabulary.careful_decoder.field

end StoredRule

namespace Rule

/-- A rule that is stored with more than it needs. -/
def stuffed : Json :=
  .obj [("enabled", .bool true),
    ("actions", .arr [.obj [("field", .str "memo"), ("operation", .str "clear"), ("value", .str "")]]),
    ("id", .str "r"), ("name", .str "n"),
    ("conditions", .arr [.obj [("field", .str "memo"), ("operator", .str "equals"), ("value", .str "x")]])]

/-- The same rule in another order, with a note. -/
def stripped : Json :=
  .obj [("note", .arr [.null, .obj [("id", .str "s")]]),
    ("conditions", .arr [.obj [("value", .str "x"), ("operator", .str "equals"), ("field", .str "memo")]]),
    ("name", .str "n"), ("id", .str "r"),
    ("actions", .arr [.obj [("field", .str "memo"), ("operation", .str "clear")]])]

theorem rearranged_stripped {actions actions' conditions conditions' id name note : Tree} {cs : List Char}
    (hactions : StoredRule.Inside "actions" actions actions')
    (hconditions : StoredRule.Inside "conditions" conditions conditions') (hnote : note.Written cs) :
    Rearranged StoredRule.leeway
      [("enabled", .bool true), ("actions", actions), ("id", id), ("name", name), ("conditions", conditions)]
      [("note", note), ("conditions", conditions'), ("name", name), ("id", id), ("actions", actions')] :=
  .trans (.dropped _ (.tail _ (.head _))) <| .trans (.inside _ hactions) <|
    .trans (.reordered (List.reverse_perm _).symm) <| .trans (.inside _ hconditions) <|
      .added _ (by decide) hnote

theorem alike_stripped : Alike StoredRule.leeway (Tree.ofJson stuffed) (Tree.ofJson stripped) := by
  have hcondition : Alike Condition.leeway
      (.object (.ofList [("field", .str (.ok "memo")), ("operator", .str (.ok "equals")), ("value", .str (.ok "x"))]))
      (.object (.ofList [("value", .str (.ok "x")), ("operator", .str (.ok "equals")), ("field", .str (.ok "memo"))])) :=
    .object (.reordered (List.reverse_perm _).symm)
  have haction : Alike Action.leeway
      (.object (.ofList [("field", .str (.ok "memo")), ("operation", .str (.ok "clear")), ("value", .str (.ok ""))]))
      (.object (.ofList [("field", .str (.ok "memo")), ("operation", .str (.ok "clear"))])) :=
    .object (.trans (.reordered (@List.perm_append_comm _ [_, _] [_]))
      (.dropped _ (List.mem_singleton.2 rfl)))
  have hconditions := StoredRule.Inside.conditions (.list (.cons hcondition .nil))
  have hactions := StoredRule.Inside.actions (.list (.cons haction .nil))
  have hnote : (Json.arr [.null, .obj [("id", .str "s")]]).Readable := ⟨trivial, ⟨trivial, trivial⟩, trivial⟩
  exact .object (rearranged_stripped hactions hconditions (Tree.written_compactChars hnote))

/-- A text that is read as a rule with an identity is a way to write a value, whose members have names if it is an
object, and every text in which that value is rearranged is read as the same rule, whatever identities are fresh. -/
theorem readOne_alike {text : String} {s : StoredRule} (h : readOne text = .ok s) (hid : s.id.isSome = true) :
    (∃ t : Tree, t.WrittenIn text.toList ∧ ∀ members, t = .object members → ∃ l, members = Members.ofList l) ∧
      ∀ (t t' : Tree) (text' : String), t.WrittenIn text.toList → Alike StoredRule.leeway t t' →
        t'.WrittenIn text'.toList → ∀ fresh fresh' : String,
          (readOne text').map (·.withId fresh') = .ok (s.withId fresh) := by
  obtain ⟨t₀, hwritten, hread₀⟩ := exists_written_of_decodeText StoredRule.careful_decoder h
  have hnamed : ∀ members, t₀ = .object members → ∃ l, members = Members.ofList l := by
    rintro members rfl
    obtain ⟨p, hp, -⟩ := exists_ok_of_bind hread₀
    rw [Decoder.struct] at hp
    exact Members.exists_eq_ofList (enter_eq_ok hp).2
  refine ⟨⟨t₀, hwritten, hnamed⟩, fun t t' text' ht halike ht' fresh fresh' => ?_⟩
  have hread : StoredRule.decoder depthLimit t = .ok s := (decodeText_of_written _ ht).symm.trans h
  have hread' : readOne text' = .ok s := by
    rw [readOne, decodeText_of_written _ ht']
    exact StoredRule.decoder_allows halike hread
  rw [hread']
  obtain ⟨id, draft⟩ := s
  obtain ⟨id, rfl⟩ := Option.isSome_iff_exists.1 hid
  rfl

theorem readOne_alike_stripped : (readOne stripped.compact).map (·.withId "") =
    .ok (StoredRule.withId ⟨some "r", ⟨"n", "", [⟨.memo, .equals, "x"⟩], [⟨.memo, .clear, ""⟩], true, 0, .and⟩⟩ "") := by
  have hstuffed : stuffed.Readable := by
    simp only [stuffed, Readable, ReadableMembers, ReadableItems, and_self]
  have hstripped : stripped.Readable := by
    simp only [stripped, Readable, ReadableMembers, ReadableItems, and_self]
  have hread : readOne stuffed.pretty =
      .ok ⟨some "r", ⟨"n", "", [⟨.memo, .equals, "x"⟩], [⟨.memo, .clear, ""⟩], true, 0, .and⟩⟩ :=
    (decodeText_pretty _ hstuffed).trans rfl
  exact (readOne_alike hread rfl).2 _ _ _ (writtenIn_pretty hstuffed) alike_stripped (writtenIn_compact hstripped) "" ""

end Rule

end BudgetRules
