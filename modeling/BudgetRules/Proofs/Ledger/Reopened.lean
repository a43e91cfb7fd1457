import BudgetRules.Proofs.Disk
import BudgetRules.Proofs.Json.Reread
import BudgetRules.Proofs.Record.Reading
import BudgetRules.Proofs.Script

/-!
# Transactions that are written and opened again

The text of records that have been read is read as the same records, each number as what its digits are read as:

    (∀ r ∈ records, r.Sound (depthLimit - 2)) →
      readRecords (recordsText records) = .ok (records.map Record.reread)       (readRecords_recordsText)

So a file of transactions that is opened, written and opened again gives the same records if they hold whole
numbers only and those in lists and objects, and a number directly in a field stays if it is steady.
-/

namespace BudgetRules

open Json (depthLimit Tree)

/-! ## Fields -/

/-- A field with each double as what it is read as once it has been written. -/
def FieldValue.reread (v : FieldValue) : FieldValue := .ofJson v.toJson.reread

theorem FieldValue.decoder_toJson {v : FieldValue} {depth : Nat} (h : v.Sound depth) :
    FieldValue.decoder depth (Tree.ofJson v.toJson) = .ok v.reread := by
  unfold FieldValue.decoder Json.Decoder.json
  rw [Json.Tree.decodeJson_ofJson h.json]
  rfl

/-- All numbers of a field, that in it or those in its list or object. -/
def FieldValue.numbers (v : FieldValue) : List Json.Number := v.toJson.numbers

theorem FieldValue.reread_eq_self {v : FieldValue} {depth : Nat} (h : v.Sound depth)
    (hsame : ∀ n ∈ v.numbers, n.reread = n) : v.reread = v := by
  rw [FieldValue.reread, Json.reread_eq_self hsame, h.ofJson]

/-! ## Records -/

namespace Record

/-- A record with each double as what it is read as once it has been written. -/
def reread (r : Record) : Record := ⟨r.fields.map FieldValue.reread⟩

theorem get?_reread (r : Record) (k : String) : r.reread.get? k = (r.get? k).map FieldValue.reread :=
  SortedMap.get?_map ..

theorem Sound.mem_toList {r : Record} {depth : Nat} (h : r.Sound depth) {p : String × FieldValue}
    (hp : p ∈ r.toList) : p.2.Sound depth :=
  h p.1 p.2 (Record.mem_toList.1 hp)

theorem readable_toJson {r : Record} {depth : Nat} (h : r.Sound depth) : r.toJson.Readable :=
  Json.readableMembers_iff.2 (List.forall_mem_map.2 fun _ hp => (h.mem_toList hp).json.readable)

theorem decoder_toJson {r : Record} {depth : Nat} (hdepth : 1 < depth) (h : r.Sound (depth - 1)) :
    Record.decoder depth (Tree.ofJson r.toJson) = .ok r.reread := by
  have hfields := Json.Decoder.map_ofJson hdepth fun p hp => FieldValue.decoder_toJson (h.mem_toList hp)
  exact congrArg (Except.map Record.mk) hfields

theorem reread_eq_self {r : Record} {depth : Nat} (h : r.Sound depth)
    (hsame : ∀ k v, r.get? k = some v → ∀ n ∈ v.numbers, n.reread = n) : r.reread = r := by
  refine ext_get? fun k => ?_
  rw [get?_reread]
  cases hv : r.get? k with
  | none => rfl
  | some v => exact congrArg some (FieldValue.reread_eq_self (h k v hv) (hsame k v hv))

end Record

/-! ## Files -/

namespace FileLedger

/-- What is written of records that have been read is read as the same records, but for the numbers. -/
theorem readRecords_recordsText {records : List Record} (h : ∀ r ∈ records, r.Sound (depthLimit - 2)) :
    readRecords (recordsText records) = .ok (records.map Record.reread) := by
  have hreadable : (Json.arr (records.map Record.toJson)).Readable :=
    Json.readableItems_iff.2 (List.forall_mem_map.2 fun r hr => Record.readable_toJson (h r hr))
  unfold readRecords recordsText
  rw [Json.decodeText_pretty _ hreadable]
  exact Json.Decoder.list_ofJson (by decide) fun r hr => Record.decoder_toJson (by decide) (h r hr)

variable {path text : String} {output reoutput : Option String} {h h' : Host} {l : FileLedger}

/-- A file is opened with the records of its text. -/
theorem run_openFile {records : List Record} (hr : h.disk.read path = .ok text.toUTF8)
    (hrecords : readRecords text = .ok records) :
    ((openFile path output).run h).1 = .ok ⟨path, output, ⟨records⟩⟩ := by
  unfold openFile
  rw [Script.run_andThen, Script.run_readText_of_ok hr]
  simp only [hrecords]
  rfl

/-- What is opened holds the records of some text. -/
theorem exists_text_of_openFile (hopen : ((openFile path output).run h).1 = .ok l) :
    ∃ text, readRecords text = .ok l.memory.records := by
  unfold openFile at hopen
  rw [Script.run_andThen, Script.run_readText] at hopen
  cases htext : (FileSystem.read h.disk path).bind Script.textOf with
  | error e =>
    rw [htext] at hopen
    cases hopen
  | ok text =>
    rw [htext] at hopen
    simp only at hopen
    cases hrecords : readRecords text with
    | error e =>
      rw [hrecords] at hopen
      cases hopen
    | ok records =>
      rw [hrecords] at hopen
      cases hopen
      exact ⟨text, hrecords⟩

theorem run_persist (hw : h.disk.Writable l.target) : (l.persist.run h).1 = .ok () := by
  obtain ⟨d, hd⟩ := hw.write (recordsText l.memory.records).toUTF8
  unfold persist
  rw [Script.run_andThen, Script.run_writeText hd]
  rfl

/-- After all transactions have been written, their text is in the file. -/
theorem read_of_persist (hpersist : (l.persist.run h).1 = .ok ()) :
    (l.persist.run h).2.disk.read l.target = .ok (recordsText l.memory.records).toUTF8 := by
  unfold persist at hpersist ⊢
  rw [Script.run_andThen] at hpersist ⊢
  cases hwrite : h.disk.write l.target (recordsText l.memory.records).toUTF8 with
  | error e =>
    rw [Script.run_writeText_of_error hwrite] at hpersist
    cases hpersist
  | ok d =>
    rw [Script.run_writeText hwrite]
    exact Disk.read_write hwrite

/-- A file that is opened, written and opened again holds the records as their text is read. -/
theorem run_reopen (hopen : ((openFile path output).run h).1 = .ok l) (hpersist : (l.persist.run h').1 = .ok ()) :
    ((openFile l.target reoutput).run (l.persist.run h').2).1 =
      .ok ⟨l.target, reoutput, ⟨l.memory.records.map Record.reread⟩⟩ := by
  obtain ⟨text, htext⟩ := exists_text_of_openFile hopen
  exact run_openFile (read_of_persist hpersist) (readRecords_recordsText (sound_of_readRecords htext))

end FileLedger

/-! ## Whole numbers -/

/-- A number that is read as a whole number, or as the zero that a whole number with a sign is read as. -/
def Json.Number.Whole : Json.Number → Prop
  | .int _ => True
  | .double x => x.magnitude = 0

/-- No number directly in the field, and only whole ones in a list or an object. -/
def FieldValue.Whole : FieldValue → Prop
  | .number _ => False
  | .other j => ∀ n ∈ j.numbers, n.Whole
  | _ => True

def Record.Whole (r : Record) : Prop := ∀ p ∈ r.toList, p.2.Whole

instance (n : Json.Number) : Decidable n.Whole :=
  match n with
  | .int _ => .isTrue True.intro
  | .double x => inferInstanceAs (Decidable (x.magnitude = 0))

instance (v : FieldValue) : Decidable v.Whole :=
  match v with
  | .number _ => .isFalse id
  | .other j => inferInstanceAs (Decidable (∀ n ∈ j.numbers, n.Whole))
  | .null => .isTrue True.intro
  | .bool _ => .isTrue True.intro
  | .text _ => .isTrue True.intro

instance (r : Record) : Decidable r.Whole := inferInstanceAs (Decidable (∀ p ∈ r.toList, p.2.Whole))

theorem Json.Number.Whole.reread {n : Json.Number} (h : n.Whole) : n.reread = n := by
  cases n with
  | int i => rfl
  | double x =>
    have hzero : x.magnitude = 0 := h
    have hfinite : x.magnitude < Binary64.infiniteMagnitude := by
      rw [hzero]
      decide
    exact congrArg Json.Number.double (Binary64.reread_of_steady hfinite (Binary64.steady_of_zero hzero))

theorem FieldValue.Whole.reread_numbers {v : FieldValue} (h : v.Whole) : ∀ n ∈ v.numbers, n.reread = n := by
  cases v with
  | number x => exact h.elim
  | other j => exact fun n hn => (h n hn).reread
  | null => exact List.forall_mem_nil _
  | bool b => exact List.forall_mem_nil _
  | text s => exact List.forall_mem_nil _

theorem Record.Whole.reread {r : Record} {depth : Nat} (hs : r.Sound depth) (h : r.Whole) : r.reread = r :=
  Record.reread_eq_self hs fun k v hv => (h (k, v) (Record.mem_toList.2 hv)).reread_numbers

namespace FileLedger

variable {path : String} {output reoutput : Option String} {h h' : Host} {l : FileLedger}

/-- A file of transactions that hold whole numbers only, and those in lists and objects, is opened with the very same
records once it has been written. -/
theorem reopen_whole (hopen : ((openFile path output).run h).1 = .ok l) (hwhole : ∀ r ∈ l.memory.records, r.Whole)
    (hpersist : (l.persist.run h').1 = .ok ()) :
    ((openFile l.target reoutput).run (l.persist.run h').2).1 = .ok ⟨l.target, reoutput, l.memory⟩ := by
  obtain ⟨text, htext⟩ := exists_text_of_openFile hopen
  have hsame : l.memory.records.map Record.reread = l.memory.records := by
    rw [List.map_congr_left fun r hr => (hwhole r hr).reread (sound_of_readRecords htext r hr)]
    exact List.map_id' _
  rw [run_reopen hopen hpersist, hsame]

/-- A host with one file. -/
def oneFile (text : String) : Host := ⟨Disk.empty.put ["rides.json"] (.file text.toUTF8), .seeded 0, [], []⟩

/-- The one file can be opened, if its text can be read, and written. -/
theorem run_oneFile {text : String} {records : List Record} (hrecords : readRecords text = .ok records) :
    ((openFile "rides.json" none).run (oneFile text)).1 = .ok ⟨"rides.json", none, ⟨records⟩⟩ ∧
      ((⟨"rides.json", none, ⟨records⟩⟩ : FileLedger).persist.run (oneFile text)).1 = .ok () := by
  have hlocate : (oneFile text).disk.locate "rides.json" = .ok ["rides.json"] := rfl
  have hfile : (oneFile text).disk.node? ["rides.json"] = some (.file text.toUTF8) :=
    Disk.node?_put_self (by decide) _
  have hslash : Path.endsInSlash "rides.json" = false := by decide
  have hwritable : (oneFile text).disk.Writable "rides.json" :=
    ⟨_, hlocate, by rw [hfile]; exact (nomatch ·), hslash⟩
  exact ⟨run_openFile (Disk.read_eq_ok.2 ⟨_, hlocate, hfile, hslash⟩) hrecords, run_persist hwritable⟩

/-- A list and an object with whole numbers are the same after the file has been written. -/
theorem reopen_whole_tags :
    let text := "[\x7b\"id\": \"a\", \"tags\": [7, \x7b\"z\": [-3, null]\x7d]\x7d]"
    ∃ l, ((openFile "rides.json" none).run (oneFile text)).1 = .ok l ∧ (∀ r ∈ l.memory.records, r.Whole) ∧
      (l.persist.run (oneFile text)).1 = .ok () ∧
      ((openFile l.target none).run (l.persist.run (oneFile text)).2).1 = .ok ⟨l.target, none, l.memory⟩ := by
  intro text
  have hread : ∃ records, readRecords text = .ok records ∧ ∀ r ∈ records, r.Whole := by
    have hsome : ((readRecords text).toOption.any fun records => decide (∀ r ∈ records, r.Whole)) = true := by
      decide +kernel
    cases hrecords : readRecords text with
    | error e =>
      rw [hrecords] at hsome
      cases hsome
    | ok records =>
      rw [hrecords] at hsome
      exact ⟨records, rfl, of_decide_eq_true hsome⟩
  obtain ⟨records, hrecords, hwhole⟩ := hread
  obtain ⟨hopen, hpersist⟩ := run_oneFile hrecords
  exact ⟨_, hopen, hwhole, hpersist, reopen_whole hopen hwhole hpersist⟩

/-- A file of transactions that is opened and written can be opened again.  It then holds the same records, but
each number is what its digits are read as: the whole number that they make up and a power of ten, each rounded
to a double, multiplied or divided.  A number is the same if both are doubles, the power up to the twenty-second, and
so is any decimal of at most twenty-two places whose digits make up a number up to a fifth of 2 ^ 53. -/
theorem reopen_numbers (hopen : ((openFile path output).run h).1 = .ok l) (hpersist : (l.persist.run h').1 = .ok ()) :
    ((openFile l.target reoutput).run (l.persist.run h').2).1 =
        .ok ⟨l.target, reoutput, ⟨l.memory.records.map Record.reread⟩⟩ ∧
      ∀ r ∈ l.memory.records, ∀ k x, r.get? k = some (.number x) →
        r.reread.get? k = some (.number x.reread) ∧
        Json.Numeral.ofParts x.negative (Json.written x).1 (Json.written x).2 = .ok x.reread ∧
        (x.Steady → x.reread = x) ∧
        ∀ neg a places, a ≤ 1801439850948198 → places ≤ 22 → x = Binary64.nearest neg a (10 ^ places) →
          x.reread = x := by
  obtain ⟨text, htext⟩ := exists_text_of_openFile hopen
  refine ⟨run_reopen hopen hpersist, fun r hr k x hx => ?_⟩
  have hfinite : x.magnitude < Binary64.infiniteMagnitude := (sound_of_readRecords htext r hr k _ hx).json
  refine ⟨?_, Binary64.ofParts_written hfinite, Binary64.reread_of_steady hfinite, ?_⟩
  · rw [Record.get?_reread, hx]
    rfl
  · rintro neg a places ha hplaces rfl
    exact Binary64.reread_of_steady hfinite (Binary64.steady_nearest neg ha hplaces).2

/-- The numbers of a field in all transactions. -/
def amounts (l : FileLedger) (field : String) : List (Option Binary64) :=
  l.memory.records.map fun r => (r.get? field).bind FieldValue.asNumber?

theorem amounts_of_readRecords {text field : String} {xs : List (Option Binary64)}
    (h : ((readRecords text).toOption.map fun records => amounts ⟨"rides.json", none, ⟨records⟩⟩ field) = some xs) :
    ∃ records, readRecords text = .ok records ∧ amounts ⟨"rides.json", none, ⟨records⟩⟩ field = xs := by
  cases hrecords : readRecords text with
  | error e =>
    rw [hrecords] at h
    cases h
  | ok records =>
    rw [hrecords] at h
    exact ⟨records, rfl, Option.some.inj h⟩

theorem amounts_reread (l : FileLedger) (field : String) :
    amounts ⟨l.target, none, ⟨l.memory.records.map Record.reread⟩⟩ field =
      l.memory.records.map fun r => ((r.get? field).map FieldValue.reread).bind FieldValue.asNumber? := by
  unfold amounts
  rw [List.map_map]
  refine List.map_congr_left fun r _ => ?_
  show (r.reread.get? field).bind _ = _
  rw [Record.get?_reread]

/-- An amount with two places is the same after the file has been written. -/
theorem reopen_numbers_fare :
    let text := "[\x7b\"outflow\": 12.34\x7d]"
    ∃ l, ((openFile "rides.json" none).run (oneFile text)).1 = .ok l ∧ (l.persist.run (oneFile text)).1 = .ok () ∧
      l.amounts "outflow" = [some (Binary64.nearest false 1234 100)] ∧
      ((openFile l.target none).run (l.persist.run (oneFile text)).2).1 =
        .ok ⟨l.target, none, ⟨l.memory.records.map Record.reread⟩⟩ ∧
      ∀ r ∈ l.memory.records, ∀ x, r.get? "outflow" = some (.number x) →
        r.reread.get? "outflow" = some (.number x) := by
  intro text
  have hread : ((readRecords text).toOption.map fun records => amounts ⟨"rides.json", none, ⟨records⟩⟩ "outflow") =
      some [some (Binary64.nearest false 1234 100)] := by
    decide +kernel
  obtain ⟨records, hrecords, hamounts⟩ := amounts_of_readRecords hread
  obtain ⟨hopen, hpersist⟩ := run_oneFile hrecords
  obtain ⟨hreopen, hnumbers⟩ := reopen_numbers hopen hpersist
  refine ⟨_, hopen, hpersist, hamounts, hreopen, fun r hr x hx => ?_⟩
  obtain ⟨hreread, -, -, hdecimal⟩ := hnumbers r hr "outflow" x hx
  have hamount : (r.get? "outflow").bind FieldValue.asNumber? ∈ [some (Binary64.nearest false 1234 100)] :=
    hamounts ▸ List.mem_map_of_mem hr
  rw [hx, List.mem_singleton] at hamount
  have hfare : x = Binary64.nearest false 1234 (10 ^ 2) := Option.some.inj hamount
  rw [hreread, hdecimal false 1234 2 (by decide) (by decide) hfare]

/-- A whole amount just below 2 ^ 53 is another one after the file has been written. -/
theorem reopen_differs :
    let text := "[\x7b\"outflow\": 9007199254740991\x7d]"
    ∃ l l', ((openFile "rides.json" none).run (oneFile text)).1 = .ok l ∧ (l.persist.run (oneFile text)).1 = .ok () ∧
      ((openFile l.target none).run (l.persist.run (oneFile text)).2).1 = .ok l' ∧
      l.amounts "outflow" = [some (.ofNat 9007199254740991)] ∧
      l'.amounts "outflow" = [some (.ofNat 9007199254740990)] ∧
      (Binary64.ofNat 9007199254740991 == Binary64.ofNat 9007199254740990) = false := by
  intro text
  have hread : ((readRecords text).toOption.map fun records => amounts ⟨"rides.json", none, ⟨records⟩⟩ "outflow") =
      some [some (.ofNat 9007199254740991)] := by
    decide +kernel
  have hreread : ((readRecords text).toOption.map fun records =>
      records.map fun r => ((r.get? "outflow").map FieldValue.reread).bind FieldValue.asNumber?) =
      some [some (.ofNat 9007199254740990)] := by
    decide +kernel
  obtain ⟨records, hrecords, hbefore⟩ := amounts_of_readRecords hread
  rw [hrecords] at hreread
  obtain ⟨hopen, hpersist⟩ := run_oneFile hrecords
  refine ⟨_, _, hopen, hpersist, run_reopen hopen hpersist, hbefore, ?_, by decide +kernel⟩
  exact (amounts_reread ⟨"rides.json", none, ⟨records⟩⟩ "outflow").trans (Option.some.inj hreread)

end FileLedger

end BudgetRules
