import BudgetRules.Proofs.Json.Decode
import BudgetRules.Proofs.Record.Reading

/-!
# What has been done to a record

Every record is what its history makes of the empty one.  The members of a text are written one after the other, so of
two with one name the later one counts; after them fields are set and removed in any order:

    decoder depth (.object members) = .ok r → members.Spells FieldValue.decoder (depth - 1) written →
      r = empty.after (written.map .ofMember)                                               (eq_after_of_decoder)
    (empty.after history).get? k = lastWritten history k                                            (get?_after)
    Reached r history → r = empty.after history                                               (Reached.eq_after)
-/

namespace BudgetRules

/-! ## Members of a text -/

namespace Json

variable {α : Type} {d : Decoder α} {depth : Nat}

/-- The rest of an object without a fault: its members in their order, each decoded. -/
inductive Members.Spells (d : Decoder α) (depth : Nat) : Members → List (String × α) → Prop
  | closed : Members.Spells d depth (.stop .closed) []
  | member {k : String} {t : Tree} {a : α} {rest : Members} {l : List (String × α)} : d depth t = .ok a →
      Members.Spells d depth rest l → Members.Spells d depth (.member (.ok k) t rest) ((k, a) :: l)

theorem Stop.eq_closed {s : Stop} (h : s.objectFault? = none) : s = .closed := by
  cases s
  case closed => rfl
  all_goals cases h

/-- What is decoded is spelled. -/
theorem Members.exists_spells : ∀ {members : Members} {acc entries : SortedMap α},
    members.decodeMap d depth acc = .ok entries → ∃ l, members.Spells d depth l
  | .stop s, _, _, h => by
    rw [Members.decodeMap] at h
    split at h
    · next hs =>
      rw [Stop.eq_closed hs]
      exact ⟨[], .closed⟩
    · cases h
  | .strayKey _, _, _, h => by cases h
  | .brokenKey _, _, _, h => by cases h
  | .member (.error _) _ _, _, _, h => by cases h
  | .member (.ok k) t rest, _, _, h => by
    rw [Members.decodeMap] at h
    obtain ⟨a, ha, h⟩ := exists_ok_of_bind h
    obtain ⟨l, hl⟩ := Members.exists_spells h
    exact ⟨(k, a) :: l, .member ha hl⟩

/-- Members are put into a map one after the other. -/
theorem Members.Spells.decodeMap {members : Members} {l : List (String × α)} (h : members.Spells d depth l)
    (acc : SortedMap α) :
    members.decodeMap d depth acc = .ok (l.foldl (fun m p => m.insert p.1 p.2) acc) := by
  induction h generalizing acc with
  | closed => rfl
  | member ha _ ih =>
    rw [Members.decodeMap, ha]
    exact ih _

end Json

namespace Record

/-! ## Edits -/

/-- What is done to a field of a record, in place or on a copy. -/
inductive Edit
  | set (field : String) (v : FieldValue)
  | erase (field : String)

namespace Edit

def field : Edit → String
  | .set f _ => f
  | .erase f => f

/-- The value that is written, if any. -/
def value? : Edit → Option FieldValue
  | .set _ v => some v
  | .erase _ => none

/-- The edit that a member of a text makes. -/
def ofMember (p : String × FieldValue) : Edit := .set p.1 p.2

end Edit

def edit (r : Record) : Edit → Record
  | .set f v => r.set f v
  | .erase f => r.erase f

/-- A record after some edits, the earliest first. -/
def after (r : Record) (history : List Edit) : Record := history.foldl edit r

/-- The value that has last been written to a field and not been removed since. -/
def lastWritten (history : List Edit) (k : String) : Option FieldValue :=
  (history.reverse.find? fun e => e.field = k).bind Edit.value?

theorem get?_edit (r : Record) (e : Edit) (k : String) :
    (r.edit e).get? k = if k = e.field then e.value? else r.get? k := by
  cases e with
  | set f v => exact get?_set r f v k
  | erase f => exact get?_erase r f k

theorem after_append (r : Record) (l m : List Edit) : r.after (l ++ m) = (r.after l).after m := List.foldl_append

theorem lastWritten_append_singleton (history : List Edit) (e : Edit) (k : String) :
    lastWritten (history ++ [e]) k = if k = e.field then e.value? else lastWritten history k := by
  unfold lastWritten
  rw [List.reverse_append, List.reverse_singleton, List.singleton_append, List.find?_cons]
  by_cases hk : e.field = k
  · simp [hk]
  · simp [hk, Ne.symm hk]

/-- A field holds what has last been written to it and not been removed since. -/
theorem get?_after (history : List Edit) (k : String) : (empty.after history).get? k = lastWritten history k := by
  induction history using List.reverseRecOn with
  | nil => rfl
  | append_singleton history e ih =>
    rw [after_append, lastWritten_append_singleton, ← ih]
    exact get?_edit _ e k

/-! ## Ways to a record -/

/-- The members of a text are written to the empty record one after the other. -/
theorem eq_after_of_decoder {depth : Nat} {members : Json.Members} {written : List (String × FieldValue)} {r : Record}
    (h : decoder depth (.object members) = .ok r)
    (hwritten : members.Spells FieldValue.decoder (depth - 1) written) :
    r = empty.after (written.map .ofMember) := by
  obtain ⟨fields, hfields, rfl⟩ := exists_ok_of_map h
  have hinside : Json.enter depth (fun depth => members.decodeMap FieldValue.decoder depth .empty) = .ok fields :=
    hfields
  obtain ⟨-, hdecode⟩ := Json.enter_eq_ok hinside
  rw [hwritten.decodeMap] at hdecode
  cases hdecode
  unfold after
  rw [List.foldl_map]
  exact (List.foldl_hom mk fun _ _ => rfl).symm

/-- What is decoded is an object whose members are spelled. -/
theorem exists_spells_of_decoder {depth : Nat} {t : Json.Tree} {r : Record} (h : decoder depth t = .ok r) :
    ∃ members written, t = .object members ∧ members.Spells FieldValue.decoder (depth - 1) written := by
  obtain ⟨fields, hfields, -⟩ := exists_ok_of_map h
  unfold Json.Decoder.map at hfields
  split at hfields
  · next members =>
    obtain ⟨written, hwritten⟩ := Json.Members.exists_spells (Json.enter_eq_ok hfields).2
    exact ⟨members, written, rfl, hwritten⟩
  · exact absurd hfields Json.refuse_ne_ok

/-- The ways to a record, and what is done to its fields on each: it is empty, or decoded within a text at any depth,
and then fields are set and removed. -/
inductive Reached : Record → List Edit → Prop
  | empty : Reached .empty []
  | decoded {depth : Nat} {members : Json.Members} {written : List (String × FieldValue)} {r : Record} :
      decoder depth (.object members) = .ok r → members.Spells FieldValue.decoder (depth - 1) written →
      Reached r (written.map .ofMember)
  | set {r : Record} {history : List Edit} (k : String) (v : FieldValue) : Reached r history →
      Reached (r.set k v) (history ++ [.set k v])
  | erase {r : Record} {history : List Edit} (k : String) : Reached r history →
      Reached (r.erase k) (history ++ [.erase k])

theorem Reached.eq_after {r : Record} {history : List Edit} (h : Reached r history) :
    r = Record.empty.after history := by
  induction h with
  | empty => rfl
  | decoded hdecode hwritten => exact eq_after_of_decoder hdecode hwritten
  | set k v _ ih => rw [after_append, ← ih]; rfl
  | erase k _ ih => rw [after_append, ← ih]; rfl

/-! ## Fields -/

theorem pairwise_keys (r : Record) : r.keys.Pairwise (· < ·) :=
  List.pairwise_map.2 r.fields.ascending

theorem mem_keys_iff {r : Record} {k : String} : k ∈ r.keys ↔ r.contains k = true := by
  rw [contains_eq, Option.isSome_iff_exists]
  constructor
  · intro h
    obtain ⟨⟨j, v⟩, hv, rfl⟩ := List.mem_map.1 h
    exact ⟨v, mem_toList.1 hv⟩
  · rintro ⟨v, hv⟩
    exact List.mem_map_of_mem (mem_toList.2 hv)

theorem nodup_keys (r : Record) : r.keys.Nodup := by
  refine (pairwise_keys r).imp fun {j k} hlt heq => ?_
  rw [heq] at hlt
  exact String.lt_irrefl k hlt

/-- Each field that is there is met once. -/
theorem count_keys (r : Record) (k : String) : r.keys.count k = if r.contains k then 1 else 0 := by
  split
  · next hk => exact List.count_eq_one_of_mem (nodup_keys r) (mem_keys_iff.2 hk)
  · next hk => exact List.count_eq_zero.2 fun hmem => hk (mem_keys_iff.1 hmem)

/-- However a record comes about, out of nothing or out of a text and by whatever is done to its fields then: its
fields are met in the ascending order of their names, each of them once, and counted; a field holds what has last been
written to it and not been removed since, where a text writes its members in their order; and another record is equal to
it just if all their fields are. -/
theorem reached_exact :
    (∀ text r, Json.decodeText decoder text = .ok r → ∃ members written,
      (Json.Tree.object members).WrittenIn text.toList ∧
        members.Spells FieldValue.decoder (Json.depthLimit - 1) written ∧ Reached r (written.map .ofMember)) ∧
      ∀ r history, Reached r history →
        (r.toList.Pairwise fun p q => p.1 < q.1) ∧
          (∀ k, (r.toList.map (·.1)).count k = if r.contains k then 1 else 0) ∧
          (∀ k v, (k, v) ∈ r.toList ↔ r.get? k = some v) ∧
          (∀ k, r.get? k = lastWritten history k) ∧
          r.size = r.toList.length ∧
          ∀ s : Record, (r == s) = true ↔ ∀ k, (r.get? k == s.get? k) = true := by
  refine ⟨fun text r h => ?_, fun r history h => ?_⟩
  · obtain ⟨t, ht, hdecode⟩ := Json.exists_written_of_decodeText careful_decoder h
    obtain ⟨members, written, rfl, hwritten⟩ := exists_spells_of_decoder hdecode
    exact ⟨members, written, ht, hwritten, .decoded hdecode hwritten⟩
  · have hget : ∀ k, r.get? k = lastWritten history k := by
      intro k
      rw [h.eq_after]
      exact get?_after history k
    exact ⟨r.fields.ascending, count_keys r, fun _ _ => mem_toList, hget, rfl, fun _ => beq_iff⟩

/-- A text writes a field twice, the second time as a null.  Then a field is removed that is not there, another one is
set and the first removed. -/
theorem reached_exact_ride :
    let text := "\x7b\"memo\":\"work\",\"cleared\":true,\"memo\":null\x7d"
    let read := ofList [("cleared", .bool true), ("memo", .null)]
    let r := ((read.erase "id").set "payee_name" (.text "Uber")).erase "memo"
    let history : List Edit := [.set "memo" (.text "work"), .set "cleared" (.bool true), .set "memo" .null,
      .erase "id", .set "payee_name" (.text "Uber"), .erase "memo"]
    Json.decodeText decoder text = .ok read ∧ Reached read (history.take 3) ∧ Reached r history ∧
      r.toList = [("cleared", .bool true), ("payee_name", .text "Uber")] ∧
      (∀ k, r.get? k = lastWritten history k) ∧
      ∀ s : Record, (r == s) = true ↔ ∀ k, (r.get? k == s.get? k) = true := by
  intro text read r history
  let j : Json := .obj [("memo", .str "work"), ("cleared", .bool true), ("memo", .null)]
  have htext : text = j.compact := by decide +kernel
  have hdecode : Json.decodeText decoder text = .ok read := by
    rw [htext, Json.decodeText_compact decoder (show j.Readable from ⟨trivial, trivial, trivial, trivial⟩)]
    rfl
  have hspells : (Json.Members.ofJson [("memo", .str "work"), ("cleared", .bool true), ("memo", .null)]).Spells
      FieldValue.decoder 127 [("memo", .text "work"), ("cleared", .bool true), ("memo", .null)] :=
    .member rfl (.member rfl (.member rfl .closed))
  have htree : decoder 128 (.ofJson j) = .ok read := rfl
  have hread : Reached read (history.take 3) := .decoded htree hspells
  have hr : Reached r history := .erase "memo" (.set "payee_name" (.text "Uber") (.erase "id" hread))
  obtain ⟨-, -, -, hget, -, hbeq⟩ := reached_exact.2 r history hr
  exact ⟨hdecode, hread, hr, rfl, hget, hbeq⟩

end Record

end BudgetRules
