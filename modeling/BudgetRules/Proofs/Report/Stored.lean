import BudgetRules.Proofs.Json.Reread
import BudgetRules.Proofs.Report.Blame
import BudgetRules.Report.Stored

/-!
# Reports that are read back

A report of plain fields is read back as it was written, but for the old values that were null, which are read as not
there.  Writing the changes of a report to a ledger does not look at old values:

    r.Fits → (∀ m ∈ r.modifications, m.Plain) → Json.decodeText Report.decoder r.toJson.compact = .ok r.withoutNulls
                                                                                    (Report.decodeText_compact)
    Ledger.applyReport l r.withoutNulls = Ledger.applyReport l r                    (Ledger.applyReport_withoutNulls)
-/

namespace BudgetRules

open Json

/-! ## Changes -/

/-- A value that is nothing, a flag or a text. -/
def FieldValue.Plain : FieldValue → Prop
  | .null => True
  | .bool _ => True
  | .text _ => True
  | .number _ => False
  | .other _ => False

instance (v : FieldValue) : Decidable v.Plain :=
  match v with
  | .null => .isTrue trivial
  | .bool _ => .isTrue trivial
  | .text _ => .isTrue trivial
  | .number _ => .isFalse id
  | .other _ => .isFalse id

/-- The fields that rules may write are plain. -/
def Record.Plain (r : Record) : Prop := ∀ (f : ActionField) (v : FieldValue), r.get? f.name = some v → v.Plain

namespace FieldChange

/-- A text that has taken the place of a plain value. -/
structure Plain (c : FieldChange) : Prop where
  old : ∀ v, c.old = some v → v.Plain
  new : ∃ t, c.new = some (.text t)

/-- The change, with an old value only if it is not null. -/
def withoutNull (c : FieldChange) : FieldChange := { c with old := c.old.filter fun v => !v.isNull }

theorem Plain.readable_toJson {c : FieldChange} (h : c.Plain) : c.toJson.Readable := by
  have hold : (FieldValue.toJson? c.old).Readable := by
    cases ho : c.old with
    | none => trivial
    | some v => cases v <;> first | trivial | exact (h.old _ ho).elim
  obtain ⟨t, ht⟩ := h.new
  have hnew : (FieldValue.toJson? c.new).Readable := by rw [ht]; trivial
  exact ⟨trivial, hold, hnew, trivial⟩

theorem Plain.decode_old {c : FieldChange} (h : c.Plain) (depth : Nat) :
    Decoder.option FieldValue.decoder depth (Tree.ofJson (FieldValue.toJson? c.old)) =
      .ok (c.old.filter fun v => !v.isNull) := by
  cases ho : c.old with
  | none => rfl
  | some v => cases v <;> first | rfl | exact (h.old _ ho).elim

theorem Plain.decode_new {c : FieldChange} (h : c.Plain) (depth : Nat) :
    Decoder.option FieldValue.decoder depth (Tree.ofJson (FieldValue.toJson? c.new)) = .ok c.new := by
  obtain ⟨t, ht⟩ := h.new
  rw [ht]
  rfl

theorem Plain.decoder_toJson {c : FieldChange} (h : c.Plain) {depth : Nat} (hd : 1 < depth) :
    decoder depth (Tree.ofJson c.toJson) = .ok c.withoutNull := by
  have hparts : Decoder.struct "FieldChange" fields ⟨none, none, none⟩ depth (Tree.ofJson c.toJson) =
      .ok ⟨some c.field, some (c.old.filter fun v => !v.isNull), some c.new⟩ := by
    refine Decoder.struct_object hd ?_
    simp only [Members.ofJson]
    rw [Members.decodeFields_member rfl rfl (Field.read_of rfl _),
      Members.decodeFields_member rfl rfl (Field.read_of (h.decode_old _) _),
      Members.decodeFields_member rfl rfl (Field.read_of (h.decode_new _) _)]
    rfl
  unfold decoder
  rw [hparts]
  rfl

end FieldChange

/-! ## Modifications -/

namespace Modification

def Plain (m : Modification) : Prop := ∀ c ∈ m.changes, c.Plain

/-- The modification, with old values only where they are not null. -/
def withoutNulls (m : Modification) : Modification := { m with changes := m.changes.map FieldChange.withoutNull }

theorem Plain.readable_toJson {m : Modification} (h : m.Plain) : m.toJson.Readable := by
  have happlied : ReadableItems (m.applied.map .str) := readableItems_iff.2 (List.forall_mem_map.2 fun _ _ => trivial)
  have hchanges : ReadableItems (m.changes.map FieldChange.toJson) :=
    readableItems_iff.2 (List.forall_mem_map.2 fun c hc => (h c hc).readable_toJson)
  exact ⟨trivial, trivial, happlied, hchanges, trivial⟩

/-- A modification needs room for the object, a list in it and the objects in that. -/
theorem Plain.decoder_toJson {m : Modification} (h : m.Plain) {depth : Nat} (hd : 3 < depth) :
    decoder depth (Tree.ofJson m.toJson) = .ok m.withoutNulls := by
  have happlied : Decoder.list Decoder.text (depth - 1) (Tree.ofJson (.ofTexts m.applied)) = .ok m.applied := by
    rw [Json.ofTexts, Decoder.list_ofJson (f := id) (by omega) fun _ _ => rfl, List.map_id]
  have hchanges : Decoder.list FieldChange.decoder (depth - 1)
      (Tree.ofJson (.arr (m.changes.map FieldChange.toJson))) = .ok (m.changes.map FieldChange.withoutNull) :=
    Decoder.list_ofJson (by omega) fun c hc => (h c hc).decoder_toJson (by omega)
  have hparts : Decoder.struct "Modification" fields ⟨none, none, none, none⟩ depth (Tree.ofJson m.toJson) =
      .ok ⟨some m.transaction, some m.payee, some m.applied, some (m.changes.map FieldChange.withoutNull)⟩ := by
    refine Decoder.struct_object (by omega) ?_
    simp only [Members.ofJson]
    rw [Members.decodeFields_member rfl rfl (Field.read_of rfl _),
      Members.decodeFields_member rfl rfl (Field.read_of rfl _),
      Members.decodeFields_member rfl rfl (Field.read_of happlied _),
      Members.decodeFields_member rfl rfl (Field.read_of hchanges _)]
    rfl
  unfold decoder
  rw [hparts]
  rfl

end Modification

/-! ## Reports -/

theorem Json.fits_ofNat {n : Nat} (h : n < UInt64.size) : Json.Fits n := by
  have hsize : (UInt64.size : Int) = 18446744073709551616 := rfl
  exact ⟨by omega, by omega⟩

theorem Json.Decoder.count_ofNat {n : Nat} (h : n < UInt64.size) (depth : Nat) :
    Decoder.count depth (Tree.ofJson (.ofNat n)) = .ok n := by
  have hsize : (UInt64.size : Int) = 18446744073709551616 := rfl
  have hint : Decoder.int 0 (UInt64.size - 1) "usize" depth (.num (.ok (.int n))) = .ok (n : Int) :=
    if_pos ⟨by omega, by omega⟩
  rw [Json.ofNat, Tree.ofJson, Number.tree_int (fits_ofNat h), Decoder.count, hint]
  exact congrArg Except.ok (Int.toNat_natCast n)

namespace Report

/-- The counts of a report are counts of 64 bits. -/
structure Fits (r : Report) : Prop where
  total : r.total < UInt64.size
  modified : r.modified < UInt64.size
  rulesApplied : ∀ p ∈ r.rulesApplied.entries, p.2 < UInt64.size

/-- The report, with old values only where they are not null. -/
def withoutNulls (r : Report) : Report := { r with modifications := r.modifications.map Modification.withoutNulls }

theorem readable_ofNat {n : Nat} (h : n < UInt64.size) : (Json.ofNat n).Readable := Number.readable_int (fits_ofNat h)

variable {r : Report}

theorem Fits.readable_rulesApplied (h : r.Fits) :
    ReadableMembers (r.rulesApplied.entries.map fun p => (p.1, .ofNat p.2)) :=
  readableMembers_iff.2 (List.forall_mem_map.2 fun p hp => readable_ofNat (h.rulesApplied p hp))

theorem readable_toJson (h : r.Fits) (hplain : ∀ m ∈ r.modifications, m.Plain) : r.toJson.Readable := by
  have hmodifications : ReadableItems (r.modifications.map Modification.toJson) :=
    readableItems_iff.2 (List.forall_mem_map.2 fun m hm => (hplain m hm).readable_toJson)
  exact ⟨readable_ofNat h.total, readable_ofNat h.modified, h.readable_rulesApplied, hmodifications, trivial,
    trivial, trivial⟩

theorem Fits.decode_rulesApplied (h : r.Fits) {depth : Nat} (hd : 1 < depth) :
    Decoder.map Decoder.count depth
      (Tree.ofJson (.obj (r.rulesApplied.entries.map fun p => (p.1, .ofNat p.2)))) = .ok r.rulesApplied := by
  rw [Decoder.map_ofJson (f := id) hd fun p hp => Decoder.count_ofNat (h.rulesApplied p hp) (depth - 1),
    SortedMap.map_id]

/-- A report needs room for a modification in a list. -/
theorem decoder_toJson (h : r.Fits) (hplain : ∀ m ∈ r.modifications, m.Plain) {depth : Nat} (hd : 5 < depth) :
    decoder depth (Tree.ofJson r.toJson) = .ok r.withoutNulls := by
  have hmodifications : Decoder.list Modification.decoder (depth - 1)
      (Tree.ofJson (.arr (r.modifications.map Modification.toJson))) =
        .ok (r.modifications.map Modification.withoutNulls) :=
    Decoder.list_ofJson (by omega) fun m hm => (hplain m hm).decoder_toJson (by omega)
  have hparts : Decoder.struct "ChangeReport" fields .empty depth (Tree.ofJson r.toJson) =
      .ok ⟨some r.total, some r.modified, some r.rulesApplied, some (r.modifications.map Modification.withoutNulls),
        some r.dryRun, some r.fingerprint⟩ := by
    refine Decoder.struct_object (by omega) ?_
    simp only [Members.ofJson]
    rw [Members.decodeFields_member rfl rfl (Field.read_of (Decoder.count_ofNat h.total _) _),
      Members.decodeFields_member rfl rfl (Field.read_of (Decoder.count_ofNat h.modified _) _),
      Members.decodeFields_member rfl rfl (Field.read_of (h.decode_rulesApplied (by omega)) _),
      Members.decodeFields_member rfl rfl (Field.read_of hmodifications _),
      Members.decodeFields_member rfl rfl (Field.read_of rfl _),
      Members.decodeFields_member rfl rfl (Field.read_of rfl _)]
    rfl
  unfold decoder
  rw [hparts]
  rfl

theorem decodeText_compact (h : r.Fits) (hplain : ∀ m ∈ r.modifications, m.Plain) :
    decodeText decoder r.toJson.compact = .ok r.withoutNulls :=
  (Json.decodeText_compact _ (readable_toJson h hplain)).trans (decoder_toJson h hplain (by decide))

theorem decodeText_pretty (h : r.Fits) (hplain : ∀ m ∈ r.modifications, m.Plain) :
    decodeText decoder r.toJson.pretty = .ok r.withoutNulls :=
  (Json.decodeText_pretty _ (readable_toJson h hplain)).trans (decoder_toJson h hplain (by decide))

end Report

/-! ## Writing what has been read back -/

theorem Record.applyChanges_withoutNull (r : Record) (changes : List FieldChange) :
    r.applyChanges (changes.map FieldChange.withoutNull) = r.applyChanges changes := by
  unfold applyChanges
  rw [List.foldl_map]
  rfl

theorem Record.updateFirst_withoutNull (id : String) (changes : List FieldChange) (records : List Record) :
    updateFirst id (changes.map FieldChange.withoutNull) records = updateFirst id changes records := by
  induction records with
  | nil => rfl
  | cons r rest ih => rw [updateFirst, updateFirst, ih, applyChanges_withoutNull]

namespace Ledger

theorem update_withoutNull (l : MemoryLedger) (id : String) (changes : List FieldChange) :
    update l id (changes.map FieldChange.withoutNull) = update l id changes := by
  show l.update id _ = l.update id _
  rw [MemoryLedger.update, MemoryLedger.update, Record.updateFirst_withoutNull]

theorem announce_withoutNull (id : String) (changes : List FieldChange) :
    announce id (changes.map FieldChange.withoutNull) = announce id changes := by
  induction changes with
  | nil => rfl
  | cons c rest ih =>
    rw [List.map_cons, announce, announce, ih]
    rfl

theorem applyAll_withoutNulls (modifications : List Modification) (l : MemoryLedger) (a : Applied) :
    applyAll (modifications.map Modification.withoutNulls) l a = applyAll modifications l a := by
  induction modifications generalizing l a with
  | nil => rfl
  | cons m rest ih =>
    rw [List.map_cons, applyAll, applyAll]
    simp only [Modification.withoutNulls, update_withoutNull, announce_withoutNull, List.length_map, ih]

/-- What is written of a report does not depend on the nulls among its old values. -/
theorem applyReport_withoutNulls (l : MemoryLedger) (r : Report) : applyReport l r.withoutNulls = applyReport l r := by
  show (if r.dryRun then _ else applyAll (r.modifications.map Modification.withoutNulls) l ⟨0, []⟩) = _
  rw [applyAll_withoutNulls]
  rfl

end Ledger

/-! ## Reports of batches -/

theorem Batch.plain_of_modification? {rules : List Rule} {r : Record} {m : Modification} (hplain : r.Plain)
    (hn : r.hasNaN = false) (h : modification? rules r = some m) : m.Plain := by
  intro c hc
  rw [changes_of_modification? h] at hc
  obtain ⟨f, t, hf, hnew, -⟩ := (Cascade.rewritten_outcome rules r).text_of_mem_diff hn hc
  refine ⟨fun v hv => hplain f v ?_, t, hnew⟩
  rw [← hf, ← Record.old_of_mem_diff hc, hv]

namespace Engine

variable {σ τ : Type} [RuleStore σ] [EventSink τ]

/-- The report of a batch in which the fields that rules may write are plain is read back, but for the nulls among its
old values, and what is read back is written to a ledger as the report is. -/
theorem process_decodes (e : Engine σ τ) (records : List Record) (dryRun : Bool) (h : Host)
    (hplain : ∀ r ∈ records, r.Plain) (hn : ∀ r ∈ records, r.hasNaN = false)
    (hfits : ((e.process records dryRun).run h).1.1.Fits) :
    let report := ((e.process records dryRun).run h).1.1
    (∀ text ∈ [report.toJson.compact, report.toJson.pretty],
      decodeText Report.decoder text = .ok report.withoutNulls) ∧
      ∀ l : MemoryLedger, Ledger.applyReport l report.withoutNulls = Ledger.applyReport l report := by
  intro report
  have hmodifications : ∀ m ∈ report.modifications, m.Plain := by
    intro m hm
    obtain ⟨s, h', hrun⟩ := e.run_process records dryRun h
    have hreport : report = Batch.report (e.loadRules.run h).1 dryRun records := by
      show ((e.process records dryRun).run h).1.1 = _
      rw [hrun]
    rw [hreport, Batch.modifications_report, List.mem_filterMap] at hm
    obtain ⟨r, hr, hm⟩ := hm
    exact Batch.plain_of_modification? (hplain r hr) (hn r hr) hm
  refine ⟨fun text htext => ?_, fun l => Ledger.applyReport_withoutNulls l report⟩
  rcases List.mem_pair.1 htext with rfl | rfl
  · exact Report.decodeText_compact hfits hmodifications
  · exact Report.decodeText_pretty hfits hmodifications

/-- The null of a category that a rule sets is read back as no category. -/
theorem process_decodes_uncategorized :
    let e : Engine MemoryStore EventLog := ⟨⟨[.rides]⟩, .all, ⟨0, 0⟩⟩
    let ride := Record.ofList [("id", .text "a"), ("payee_name", .text "Uber"), ("category_name", .null)]
    let h : Host := ⟨.empty, .seeded 0, [], []⟩
    let report := ((e.process [ride] true).run h).1.1
    let olds (r : Report) := r.modifications.map fun m => m.changes.map fun c => c.old.isSome
    olds report = [[true]] ∧ olds report.withoutNulls = [[false]] ∧
      (∀ text ∈ [report.toJson.compact, report.toJson.pretty],
        decodeText Report.decoder text = .ok report.withoutNulls) ∧
      ∀ l : MemoryLedger, Ledger.applyReport l report.withoutNulls = Ledger.applyReport l report := by
  intro e ride h report olds
  have hplain : ∀ r ∈ [ride], r.Plain := by
    intro r hr f v hv
    obtain rfl := List.mem_singleton.1 hr
    have hall : ∀ f ∈ [ActionField.payeeName, .memo, .categoryName], ∀ v ∈ ride.get? f.name, v.Plain := by
      decide +kernel
    exact hall f (by cases f <;> decide) v hv
  have hfits : report.Fits := ⟨by decide +kernel, by decide +kernel, by decide +kernel⟩
  exact ⟨by decide +kernel, by decide +kernel, process_decodes e [ride] true h hplain (by decide +kernel) hfits⟩

end Engine

end BudgetRules
