import BudgetRules.Proofs.LinkedDisk

/-!
# What a path shows while a tree with links changes

Directories are made where nothing stood, and so the file at a path stays what it was.  There is one exception: a path
that led nowhere can lead to a file once a directory has been made that it climbs out of.

    d.Grown d' → Kept path d d'                                                                     (Grown.kept)

Writing to another path leaves the file as well, unless that path is tangled up with the first: it leads to the same
file, by whatever links, or to a device.

    ¬d.Tangled path other → d.write other bytes = .ok d' → d.SameAt path d' ∧ ¬d'.Tangled path other
                                                                              (sameAt_of_write, not_tangled_of_write)
    ¬d.Tangled path other → d.write other bytes = .ok d' → d'.file? other = some bytes                (file?_of_write)
-/

namespace BudgetRules.LinkedDisk

open Disk (Place badPath?)

variable {d d' d'' : LinkedDisk} {n : Nat} {p q r : Place} {path other : String} {steps : List String}
  {bytes : ByteArray}

/-! ## Files -/

/-- The bytes that are read in a place. -/
def bytes? (d : LinkedDisk) (p : Place) : Option ByteArray :=
  match d.node? p with
  | some (.file number) => some (d.bytes number)
  | some (.device bytes) => some bytes
  | _ => none

/-- The bytes of the file at a path, if there is one. -/
def file? (d : LinkedDisk) (path : String) : Option ByteArray := (d.read path).toOption

theorem file?_of_locate (hp : d.locate path = .ok p) :
    d.file? path = if Path.endsInSlash path then none else d.bytes? p := by
  unfold file? read bytes?
  rw [hp]
  simp only [bind, Except.bind]
  cases hn : d.node? p with
  | none => cases Path.endsInSlash path <;> rfl
  | some e => cases e <;> cases Path.endsInSlash path <;> rfl

theorem file?_of_error {e : FileError} (h : d.locate path = .error e) : d.file? path = none := by
  unfold file? read
  rw [h]
  rfl

theorem file?_eq_some_iff :
    d.file? path = some bytes ↔
      Path.endsInSlash path = false ∧ ∃ p, d.locate path = .ok p ∧ d.bytes? p = some bytes := by
  cases hp : d.locate path with
  | error e => simp [file?_of_error hp]
  | ok p =>
    rw [file?_of_locate hp]
    cases Path.endsInSlash path <;> simp

/-- Something is read neither where a directory is nor where a link is. -/
theorem node?_of_bytes? (h : d.bytes? p = some bytes) :
    d.node? p ≠ some .directory ∧ (∀ target, d.node? p ≠ some (.link target)) ∧ d.node? p ≠ none := by
  unfold bytes? at h
  cases hn : d.node? p with
  | none => rw [hn] at h; cases h
  | some e =>
    rw [hn] at h
    cases e with
    | directory => cases h
    | link target => cases h
    | file number => exact ⟨nofun, nofun, nofun⟩
    | device kept => exact ⟨nofun, nofun, nofun⟩

theorem bytes?_of_file {number : Nat} (hn : d.node? p = some (.file number)) :
    d.bytes? p = some (d.bytes number) := by
  unfold bytes?
  rw [hn]

/-- What is read in a place depends on what stands there and on the bytes of that. -/
theorem bytes?_congr (hn : d'.node? p = d.node? p)
    (hb : ∀ number, d.node? p = some (.file number) → d'.bytes number = d.bytes number) :
    d'.bytes? p = d.bytes? p := by
  cases hp : d.node? p with
  | none => simp only [bytes?, hn, hp]
  | some e =>
    cases e with
    | file number => rw [bytes?_of_file hp, bytes?_of_file (hn.trans hp), hb number hp]
    | directory => simp only [bytes?, hn, hp]
    | link target => simp only [bytes?, hn, hp]
    | device kept => simp only [bytes?, hn, hp]

theorem bytes?_of_bytes_eq (hn : d'.node? p = d.node? p) (hb : d'.bytes = d.bytes) : d'.bytes? p = d.bytes? p :=
  bytes?_congr hn fun number _ => congrFun hb number

/-! ## Changes apart from links -/

/-- A path leads to the same place where a tree changes in places that hold neither directories before nor links. -/
theorem locate_of_changes {X : Place → Prop} (hother : ∀ z, ¬X z → d'.node? z = d.node? z)
    (hdirectory : ∀ z, X z → d.node? z ≠ some .directory)
    (hlink : ∀ z target, X z → d.node? z ≠ some (.link target) ∧ d'.node? z ≠ some (.link target))
    (hworking : d'.working = d.working) (h : d.locate path = .ok p) : d'.locate path = .ok p := by
  obtain ⟨hbad, n, hn, hw⟩ := locate_eq_ok.1 h
  refine locate_eq_ok.2 ⟨hbad, n, hn, ?_⟩
  rw [hworking]
  rcases hw.transfer hother hdirectory with hw' | ⟨hx, target, ht⟩ | ⟨x, target, -, -, hx, ht, -⟩
  · exact hw'
  · exact absurd ht (hlink p target hx).2
  · exact absurd ht (hlink x target hx).1

/-- Where the places hold no directories after the change either, no path leads to another place. -/
theorem locate_iff_of_changes {X : Place → Prop} (hother : ∀ z, ¬X z → d'.node? z = d.node? z)
    (hdirectory : ∀ z, X z → d.node? z ≠ some .directory ∧ d'.node? z ≠ some .directory)
    (hlink : ∀ z target, X z → d.node? z ≠ some (.link target) ∧ d'.node? z ≠ some (.link target))
    (hworking : d'.working = d.working) : d'.locate path = .ok p ↔ d.locate path = .ok p :=
  ⟨locate_of_changes (fun z hz => (hother z hz).symm) (fun z hz => (hdirectory z hz).2)
      (fun z target hz => (hlink z target hz).symm) hworking.symm,
    locate_of_changes hother (fun z hz => (hdirectory z hz).1) hlink hworking⟩

/-- A path leads to the same place, if to any, and shows the same. -/
structure SameAt (d : LinkedDisk) (path : String) (d' : LinkedDisk) : Prop where
  locate : ∀ p, d'.locate path = .ok p ↔ d.locate path = .ok p
  file : d'.file? path = d.file? path

theorem SameAt.refl (d : LinkedDisk) (path : String) : d.SameAt path d := ⟨fun _ => Iff.rfl, rfl⟩

theorem SameAt.trans (h : d.SameAt path d') (h' : d'.SameAt path d'') : d.SameAt path d'' :=
  ⟨fun p => (h'.locate p).trans (h.locate p), h'.file.trans h.file⟩

theorem sameAt_of_locate (hlocate : ∀ p, d'.locate path = .ok p ↔ d.locate path = .ok p)
    (hbytes : ∀ p, d.locate path = .ok p → d'.bytes? p = d.bytes? p) : d.SameAt path d' := by
  refine ⟨hlocate, ?_⟩
  cases hp : d.locate path with
  | ok p => rw [file?_of_locate hp, file?_of_locate ((hlocate p).2 hp), hbytes p hp]
  | error e =>
    cases hp' : d'.locate path with
    | ok p => rw [(hlocate p).1 hp'] at hp; cases hp
    | error e' => rw [file?_of_error hp, file?_of_error hp']

/-! ## Directories that are made -/

/-- Directories have been put where nothing stood. -/
structure Grown (d d' : LinkedDisk) : Prop where
  node : ∀ p, d'.node? p = d.node? p ∨ d.node? p = none ∧ d'.node? p = some .directory
  bytes : d'.bytes = d.bytes
  working : d'.working = d.working

theorem Grown.refl (d : LinkedDisk) : d.Grown d := ⟨fun _ => .inl rfl, rfl, rfl⟩

theorem Grown.trans (h : d.Grown d') (h' : d'.Grown d'') : d.Grown d'' := by
  refine ⟨fun p => ?_, h'.bytes.trans h.bytes, h'.working.trans h.working⟩
  rcases h'.node p with heq | ⟨hnone, hdir⟩
  · rw [heq]; exact h.node p
  · rcases h.node p with heq | ⟨hnone', -⟩
    · exact .inr ⟨by rw [← heq, hnone], hdir⟩
    · exact .inr ⟨hnone', hdir⟩

theorem grown_makeDir (h : d.makeDir path = .ok d') : d.Grown d' := by
  obtain ⟨p, hp, hfits, rfl⟩ := makeDir_eq_ok h
  refine ⟨fun q => ?_, bytes_put d p _, working_put d p _⟩
  rw [node?_put hfits]
  by_cases hq : q = p
  · exact .inr ⟨by rw [hq, hp], if_pos hq⟩
  · exact .inl (if_neg hq)

/-- What stands in a place where something is read or where a link is has not been put there. -/
theorem Grown.node?_of_ne (h : d.Grown d') {e : Entry} (he : e ≠ .directory) (hp : d'.node? p = some e) :
    d.node? p = some e := by
  rcases h.node p with heq | ⟨-, hdir⟩
  · rw [← heq, hp]
  · rw [hp] at hdir
    exact absurd (Option.some.inj hdir) he

theorem Grown.locate (h : d.Grown d') (hp : d.locate path = .ok p) : d'.locate path = .ok p := by
  have hchanged : ∀ z, ¬d'.node? z = d.node? z → d.node? z = none ∧ d'.node? z = some .directory :=
    fun z hz => (h.node z).resolve_left hz
  refine locate_of_changes (X := fun z => ¬d'.node? z = d.node? z) (fun z hz => Classical.not_not.1 hz)
    (fun z hz => ?_) (fun z target hz => ?_) h.working hp
  · exact ne_directory_of_none (hchanged z hz).1
  · rw [(hchanged z hz).1, (hchanged z hz).2]
    exact ⟨nofun, nofun⟩

theorem Grown.bytes?_eq (h : d.Grown d') (p : Place) : d'.bytes? p = d.bytes? p := by
  rcases h.node p with heq | ⟨hnone, hdir⟩
  · exact bytes?_of_bytes_eq heq h.bytes
  · unfold bytes?
    rw [hnone, hdir]

/-- Without climbing, nothing is reached from where nothing was. -/
theorem Grown.missing (h : d.Grown d') (hp : d.node? p = none) (hsteps : ".." ∉ steps)
    (hw : Walk d' n p steps q) : d.node? q = none := by
  induction hw with
  | here => exact hp
  | @step n p q r s rest henter hplain hw ih =>
    rw [List.mem_cons, not_or] at hsteps
    refine ih ?_ hsteps.2
    obtain ⟨-, -, rfl⟩ := enter_eq_ok.1 henter
    by_cases hdot : s = "."
    · rw [hdot, Place.move_dot, hp]
    · rw [Place.move_name hdot (Ne.symm hsteps.1)]
      refine Classical.byContradiction fun hne => ?_
      have hup := d.rooted _ hne
      rw [List.dropLast_concat, hp] at hup
      cases hup
  | @follow n p q r s target rest henter hlink hw ih =>
    rw [List.mem_cons, not_or] at hsteps
    have hq : d.node? q = some (.link target) := h.node?_of_ne (by simp) hlink
    have hup := d.rooted q (by rw [hq]; exact Option.some_ne_none _)
    obtain ⟨-, -, rfl⟩ := enter_eq_ok.1 henter
    by_cases hdot : s = "."
    · rw [hdot, Place.move_dot, hp] at hq
      cases hq
    · rw [Place.move_name hdot (Ne.symm hsteps.1), List.dropLast_concat, hp] at hup
      cases hup

/-- Does a path climb, or any link? -/
def Climbs (d : LinkedDisk) (steps : List String) : Prop :=
  ".." ∈ steps ∨ ∃ p target, d.node? p = some (.link target) ∧ ".." ∈ linkSteps target

/-- Without climbing, the way to something that was there leads through directories that were there. -/
theorem Grown.walk_back (h : d.Grown d') (hclimbs : ¬d.Climbs steps) (hq : d.node? q ≠ none)
    (hw : Walk d' n p steps q) : Walk d n p steps q := by
  have hthere : ∀ {n : Nat} {p r : Place} {s : String} {rest : List String}, ".." ∉ s :: rest →
      d'.enter p s = .ok r → Walk d' n p (s :: rest) q → d.enter p s = .ok r := by
    intro n p r s rest hup henter hw
    obtain ⟨hp, hs, hr⟩ := enter_eq_ok.1 henter
    refine enter_eq_ok.2 ⟨?_, hs, hr⟩
    rcases h.node p with heq | ⟨hnone, -⟩
    · rw [← heq, hp]
    · exact absurd (h.missing hnone hup hw) hq
  unfold Climbs at hclimbs
  rw [not_or] at hclimbs
  obtain ⟨hup, hlinks⟩ := hclimbs
  induction hw with
  | here => exact .here
  | @step n p r q s rest henter hplain hw ih =>
    have hrest : ".." ∉ rest := fun hmem => hup (List.mem_cons_of_mem s hmem)
    refine .step (hthere hup henter (.step henter hplain hw)) (fun target hr => ?_) (ih hq hthere hrest)
    rcases h.node r with heq | ⟨hnone, -⟩
    · exact hplain target (by rw [heq, hr])
    · rw [hr] at hnone; cases hnone
  | @follow n p r q s target rest henter hlink hw ih =>
    have hrest : ".." ∉ rest := fun hmem => hup (List.mem_cons_of_mem s hmem)
    have hr : d.node? r = some (.link target) := h.node?_of_ne (by simp) hlink
    refine .follow (hthere hup henter (.follow henter hlink hw)) hr (ih hq hthere fun hmem => ?_)
    rcases List.mem_append.1 hmem with hmem | hmem
    · exact hlinks ⟨r, target, hr, hmem⟩
    · exact hrest hmem

/-- A path that led nowhere leads to a file that was there all along.  That happens only where the path climbs, or a
link does. -/
structure Uncovered (path : String) (d d' : LinkedDisk) : Prop where
  nowhere : ∃ e, d.locate path = .error e
  climbs : d.Climbs (Path.steps path)
  shows : ∃ p bytes, d'.locate path = .ok p ∧ d.bytes? p = some bytes ∧ d'.file? path = some bytes

/-- The file at a path is there as before, with the same bytes, or it has been uncovered. -/
def Kept (path : String) (d d' : LinkedDisk) : Prop := d'.file? path = d.file? path ∨ Uncovered path d d'

theorem Grown.kept (h : d.Grown d') (path : String) : Kept path d d' := by
  cases hp : d.locate path with
  | ok p =>
    left
    rw [file?_of_locate hp, file?_of_locate (h.locate hp), h.bytes?_eq p]
  | error e =>
    cases hf : d'.file? path with
    | none => exact .inl (by rw [hf, file?_of_error hp])
    | some bytes =>
      obtain ⟨-, p, hp', hb⟩ := file?_eq_some_iff.1 hf
      rw [h.bytes?_eq p] at hb
      refine .inr ⟨⟨e, hp⟩, ?_, p, bytes, hp', hb, hf⟩
      refine Classical.byContradiction fun hclimbs => ?_
      obtain ⟨hbad, n, hn, hw⟩ := locate_eq_ok.1 hp'
      rw [h.working] at hw
      have hback := locate_eq_ok.2 ⟨hbad, n, hn, h.walk_back hclimbs (node?_of_bytes? hb).2.2 hw⟩
      rw [hp] at hback
      cases hback

/-- What has been kept stays so as long as the path shows the same. -/
theorem Kept.sameAt (h : Kept path d d') (hs : d'.SameAt path d'') : Kept path d d'' := by
  rcases h with heq | ⟨hnowhere, hclimbs, p, bytes, hp, hb, hf⟩
  · exact .inl (hs.file.trans heq)
  · exact .inr ⟨hnowhere, hclimbs, p, bytes, (hs.locate p).2 hp, hb, hs.file.trans hf⟩

/-- Where a path shows nothing, it showed nothing before. -/
theorem Kept.file?_of_none (h : Kept path d d') (hf : d'.file? path = none) : d.file? path = none := by
  rcases h with heq | ⟨-, -, p, bytes, -, -, hb⟩
  · rw [← heq, hf]
  · rw [hf] at hb
    cases hb

/-! ## Files elsewhere -/

/-- Two places are one, or hold names of one file. -/
def OneFile (d : LinkedDisk) (p q : Place) : Prop :=
  p = q ∨ ∃ number, d.node? p = some (.file number) ∧ d.node? q = some (.file number)

/-- What is written to the other path goes to where the path leads, or is swallowed by a device. -/
def Tangled (d : LinkedDisk) (path other : String) : Prop :=
  ∃ q, d.locate other = .ok q ∧
    ((∃ bytes, d.node? q = some (.device bytes)) ∨
      d.node? q ≠ some .directory ∧ ∃ p, d.locate path = .ok p ∧ d.OneFile p q)

theorem Created.locate_iff (h : d.Created q bytes d') (path : String) (p : Place) :
    d'.locate path = .ok p ↔ d.locate path = .ok p := by
  have hnew : d'.node? q = some (.file d.next) := by rw [h.node?, if_pos rfl]
  refine locate_iff_of_changes (X := (· = q)) (fun z hz => by rw [h.node?, if_neg hz]) (fun z hz => ?_)
    (fun z target hz => ?_) h.working
  · rw [hz]
    exact ⟨ne_directory_of_none h.missing, ne_directory_of_file hnew⟩
  · rw [hz, hnew, h.missing]
    simp

theorem locate_fill (d : LinkedDisk) (number : Nat) (bytes : ByteArray) (path : String) (p : Place) :
    (d.fill number bytes).locate path = .ok p ↔ d.locate path = .ok p := by
  exact locate_iff_of_changes (X := fun _ => False) (fun _ _ => rfl) (fun _ h => h.elim) (fun _ _ h => h.elim) rfl

theorem bytes?_fill {number : Nat} (h : d.node? p ≠ some (.file number)) (bytes : ByteArray) :
    (d.fill number bytes).bytes? p = d.bytes? p := by
  refine bytes?_congr rfl fun m hm => if_neg ?_
  rintro rfl
  exact h hm

/-- A new file leaves the bytes in other places. -/
theorem Created.bytes?_eq (h : d.Created q bytes d') (hp : p ≠ q) : d'.bytes? p = d.bytes? p := by
  refine bytes?_congr (by rw [h.node?, if_neg hp]) fun m hm => ?_
  have hlt : m < d.next := d.numbered p _ hm
  rw [h.bytes, if_neg (Nat.ne_of_lt hlt)]

/-- What has been written is read, unless a device has swallowed it. -/
theorem file?_of_write (hdevice : ∀ p kept, d.locate path = .ok p → d.node? p ≠ some (.device kept))
    (h : d.write path bytes = .ok d') : d'.file? path = some bytes := by
  obtain ⟨hslash, hwritten⟩ := write_eq_ok h
  refine file?_eq_some_iff.2 ⟨hslash, ?_⟩
  cases hwritten with
  | @created q d' hq hnew =>
    refine ⟨q, (hnew.locate_iff path q).2 hq, ?_⟩
    rw [bytes?_of_file (by rw [hnew.node?, if_pos rfl]), hnew.bytes, if_pos rfl]
  | @filled q number hq hn =>
    refine ⟨q, (locate_fill d number bytes path q).2 hq, ?_⟩
    have hn' : (d.fill number bytes).node? q = some (.file number) := hn
    rw [bytes?_of_file hn']
    exact congrArg some (if_pos rfl)
  | swallowed hq hn => exact absurd hn (hdevice _ _ hq)

theorem sameAt_of_write (ht : ¬d.Tangled path other) (hw : d.write other bytes = .ok d') : d.SameAt path d' := by
  cases (write_eq_ok hw).2 with
  | @created q d' hq h =>
    refine sameAt_of_locate (h.locate_iff path) fun p hp => h.bytes?_eq fun heq => ?_
    have hfree := ne_directory_of_none h.missing
    exact ht ⟨q, hq, .inr ⟨hfree, p, hp, .inl heq⟩⟩
  | @filled q number hq hn =>
    refine sameAt_of_locate (locate_fill d number bytes path) fun p hp => bytes?_fill (fun hp' => ?_) bytes
    have hfree := ne_directory_of_file hn
    exact ht ⟨q, hq, .inr ⟨hfree, p, hp, .inr ⟨number, hp', hn⟩⟩⟩
  | swallowed hq hn => exact .refl d path

theorem not_tangled_of_write (ht : ¬d.Tangled path other) (hw : d.write other bytes = .ok d') :
    ¬d'.Tangled path other := by
  have hsame := sameAt_of_write ht hw
  rintro ⟨z, hz, htangled⟩
  cases (write_eq_ok hw).2 with
  | @created q d' hq h =>
    rw [h.locate_iff] at hz
    obtain rfl := Except.ok.inj (hq.symm.trans hz)
    have hnew : d'.node? q = some (.file d.next) := by rw [h.node?, if_pos rfl]
    rcases htangled with ⟨kept, hk⟩ | ⟨-, p, hp, hone⟩
    · rw [hnew] at hk
      cases hk
    · rw [hsame.locate] at hp
      have hfree := ne_directory_of_none h.missing
      rcases hone with heq | ⟨number, hp', hq'⟩
      · exact ht ⟨q, hq, .inr ⟨hfree, p, hp, .inl heq⟩⟩
      · -- no other file has the number of the new one
        have hne : p ≠ q := fun heq => ht ⟨q, hq, .inr ⟨hfree, p, hp, .inl heq⟩⟩
        rw [hnew] at hq'
        cases hq'
        rw [h.node?, if_neg hne] at hp'
        exact Nat.lt_irrefl _ (d.numbered p _ hp')
  | @filled q number hq hn =>
    rw [locate_fill] at hz
    refine ht ⟨z, hz, htangled.imp_right ?_⟩
    rintro ⟨hfree, p, hp, hone⟩
    exact ⟨hfree, p, (locate_fill d number bytes path p).1 hp, hone⟩
  | swallowed hq hn => exact ht ⟨z, hz, htangled⟩

end BudgetRules.LinkedDisk
