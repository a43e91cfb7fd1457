import BudgetRules.Proofs.LinkedDisk.Shown

/-!
# Moving a file into place

A name that leads to a file is moved to another name in the same directory, in place of what that stood for.  Then the
path of the other name shows the file, unless it showed nothing before and shows nothing now:

    d.rename (Path.withExtension path e) path = .ok d' → d.file? (Path.withExtension path e) = some bytes →
      ¬d.Tangled path (Path.withExtension path e) →
      d'.file? path = some bytes ∨ d.file? path = none ∧ d'.file? path = none                      (file?_of_rename)

The name itself may be a link, which then leads from the other place to where it led before.  That would fail if the way
came to the one name or to the other; but then the way would come to its own start, or the other name would lead to
where the one does.
-/

namespace BudgetRules.LinkedDisk

open Disk (Place badPath?)

variable {d d' : LinkedDisk} {n m k i : Nat} {start above p q z r y : Place} {front : List String}
  {s path target : String} {e : Entry} {bytes : ByteArray}

/-- A name that leads to a file has been moved to another name in the same directory, which did not lead there within
the links that a path may lead through. -/
structure Replaced (d : LinkedDisk) (n m : Nat) (p q z : Place) (e : Entry) (bytes : ByteArray) (d' : LinkedDisk) :
    Prop where
  moved : d.Moved p q e d'
  beside : q.dropLast = p.dropLast
  leads : Leads d m p z
  reads : d.bytes? z = some bytes
  apart : ∀ k r, n + k ≤ linkMax → Leads d k q r → r ≠ z
  within : n + m ≤ linkMax

namespace Replaced

/-- Apart from the two names nothing has changed, and neither is one of a directory before or after. -/
theorem node?_of_ne (h : d.Replaced n m p q z e bytes d') (hr : ¬(r = p ∨ r = q)) : d'.node? r = d.node? r := by
  rw [not_or] at hr
  rw [h.moved.node?, if_neg hr.2, if_neg hr.1]

theorem ne_directory (h : d.Replaced n m p q z e bytes d') (hr : r = p ∨ r = q) :
    d.node? r ≠ some .directory ∧ d'.node? r ≠ some .directory := by
  have he : some e ≠ some Entry.directory := fun heq => h.moved.plain (Option.some.inj heq)
  have hafter : d'.node? r = some e ∨ d'.node? r = none := by
    rw [h.moved.node?]
    rcases hr with rfl | rfl
    · split
      · exact .inl rfl
      · exact .inr (if_pos rfl)
    · exact .inl (if_pos rfl)
  refine ⟨?_, ?_⟩
  · rcases hr with rfl | rfl
    · rw [h.moved.there]
      exact he
    · exact h.moved.target
  · rcases hafter with heq | heq
    · rw [heq]
      exact he
    · rw [heq]
      exact nofun

theorem node?_target (h : d.Replaced n m p q z e bytes d') : d'.node? q = some e := by
  rw [h.moved.node?, if_pos rfl]

theorem ne (h : d.Replaced n m p q z e bytes d') : p ≠ q := by
  rintro rfl
  exact h.apart m z h.within h.leads rfl

/-- Nothing is left of the first name. -/
theorem node?_source (h : d.Replaced n m p q z e bytes d') : d'.node? p = none := by
  rw [h.moved.node?, if_neg h.ne, if_pos rfl]

theorem file_ne_directory (h : d.Replaced n m p q z e bytes d') : d.node? z ≠ some .directory :=
  (node?_of_bytes? h.reads).1

/-- Where the moved name is a link, the file stands elsewhere than the two names. -/
theorem file_elsewhere (h : d.Replaced n m p q z e bytes d') {target : String}
    (hlink : d.node? p = some (.link target)) : ¬(z = p ∨ z = q) := by
  obtain ⟨-, hplain, -⟩ := node?_of_bytes? h.reads
  rintro (rfl | rfl)
  · exact hplain target hlink
  · have hzero : n + 0 ≤ linkMax := Nat.le_trans (Nat.le_add_right n m) h.within
    exact h.apart 0 z hzero (.plain hplain) rfl

theorem bytes?_file (h : d.Replaced n m p q z e bytes d') (hz : ¬(z = p ∨ z = q)) : d'.bytes? z = some bytes := by
  rw [bytes?_of_bytes_eq (h.node?_of_ne hz) h.moved.bytes, h.reads]

/-- Where the moved name is no link, the other name is one of the file now. -/
theorem bytes?_target (h : d.Replaced n m p q z e bytes d') (hplain : ∀ target, e ≠ .link target) :
    d'.bytes? q = some bytes := by
  have hread := h.reads
  obtain rfl : p = z := by
    cases h.leads with
    | plain _ => rfl
    | link hlink _ => exact absurd (Option.some.inj (h.moved.there.symm.trans hlink)) (hplain _)
  unfold bytes? at hread ⊢
  rw [h.node?_target, h.moved.bytes, ← h.moved.there]
  exact hread

/-! ## Ways that are still there -/

/-- A way stays what it is, unless it ends at one of the two names or comes to a link there. -/
theorem forth (h : d.Replaced n m p q z e bytes d') (hw : Walk d i start front y) :
    Walk d' i start front y ∨ (y = p ∨ y = q) ∨
      ∃ x target j more, (x = p ∨ x = q) ∧ d.node? x = some (.link target) ∧ j < i ∧
        Walk d j (origin x.dropLast target) (linkSteps target ++ more) y :=
  (hw.transfer (X := fun x => x = p ∨ x = q) (fun _ hx => h.node?_of_ne hx)
    (fun _ hx => (h.ne_directory hx).1)).imp_right (.imp_left And.left)

/-- The way of the moved link is the same, if the other name led to a file. -/
theorem way_forth (h : d.Replaced n m p q z e bytes d') (hl : Leads d k q r) (hk : n + k ≤ linkMax)
    (hr : d.node? r ≠ some .directory) (hlink : d.node? p = some (.link target))
    (hw : Walk d i (origin p.dropLast target) (linkSteps target) z) :
    Walk d' i (origin p.dropLast target) (linkSteps target) z := by
  rcases h.forth hw with hw' | hz | ⟨x, target', j, more, hx, hlink', hj, hw'⟩
  · exact hw'
  · exact absurd hz (h.file_elsewhere hlink)
  · rcases hx with rfl | rfl
    · cases hlink.symm.trans hlink'
      exact absurd (hw.not_again hw') (Nat.not_le.2 hj)
    · obtain ⟨-, heq, -⟩ := hl.ends hr hlink' hw'
      exact absurd heq.symm (h.apart k r hk hl)

/-- So is the way to the directory of the two names. -/
theorem front_forth (h : d.Replaced n m p q z e bytes d') (hl : Leads d k q r) (hr : d.node? r ≠ some .directory)
    (habove : d.node? above = some .directory) (hw : Walk d i start front above) : Walk d' i start front above := by
  rcases h.forth hw with hw' | hx | ⟨x, target, j, more, hx, hlink, -, hw'⟩
  · exact hw'
  · exact absurd habove (h.ne_directory hx).1
  · -- neither name leads to the directory
    rcases hx with rfl | rfl
    · obtain ⟨-, rfl, -⟩ := h.leads.ends h.file_ne_directory hlink hw'
      exact absurd habove h.file_ne_directory
    · obtain ⟨-, rfl, -⟩ := hl.ends hr hlink hw'
      exact absurd habove hr

/-- The other name leads to the file now. -/
theorem exists_leads (h : d.Replaced n m p q z e bytes d') (hl : Leads d k q r) (hk : n + k ≤ linkMax)
    (hr : d.node? r ≠ some .directory) : ∃ y, Leads d' m q y ∧ d'.bytes? y = some bytes := by
  have hq := h.node?_target
  cases h.leads with
  | plain hplain =>
    have hplain' : ∀ target, e ≠ .link target := fun target he => hplain target (by rw [h.moved.there, he])
    refine ⟨q, .plain fun target hlink => ?_, h.bytes?_target hplain'⟩
    rw [hq] at hlink
    exact hplain' target (Option.some.inj hlink)
  | @link i _ _ target hlink hw =>
    have hq' : d'.node? q = some (.link target) := by rw [hq, ← h.moved.there, hlink]
    refine ⟨z, .link hq' ?_, h.bytes?_file (h.file_elsewhere hlink)⟩
    rw [h.beside]
    exact h.way_forth hl hk hr hlink hw

/-! ## Ways that were there -/

/-- A way was there before, unless it ends at one of the two names or comes to the moved link. -/
theorem back (h : d.Replaced n m p q z e bytes d') (hw : Walk d' i start front y) :
    Walk d i start front y ∨ (y = p ∨ y = q) ∨
      ∃ target j more, d'.node? q = some (.link target) ∧ j < i ∧
        Walk d' j (origin q.dropLast target) (linkSteps target ++ more) y := by
  rcases hw.transfer (X := fun x => x = p ∨ x = q) (fun x hx => (h.node?_of_ne hx).symm)
    (fun x hx => (h.ne_directory hx).2) with hw' | ⟨hy, -⟩ | ⟨x, target, j, more, hx, hlink, hj, hw'⟩
  · exact .inl hw'
  · exact .inr (.inl hy)
  · rcases hx with rfl | rfl
    · rw [h.node?_source] at hlink
      cases hlink
    · exact .inr (.inr ⟨target, j, more, hlink, hj, hw'⟩)

/-- What the moved link leads to now, apart from the two names, is the file. -/
theorem way_back (h : d.Replaced n m p q z e bytes d') (hlink : d'.node? q = some (.link target))
    (hy : ¬(y = p ∨ y = q)) (hw : Walk d' i (origin q.dropLast target) (linkSteps target) y) : y = z := by
  have hp : d.node? p = some (.link target) := by rw [h.moved.there, ← h.node?_target, hlink]
  rcases h.back hw with hw' | hx | ⟨target', j, more, hlink', hj, hw'⟩
  · cases h.leads with
    | plain hplain => exact absurd hp (hplain target)
    | link hp' hz =>
      cases hp.symm.trans hp'
      rw [h.beside] at hw'
      exact (hw'.unique hz).2
  · exact absurd hx hy
  · -- the way would come to its own start
    cases hlink.symm.trans hlink'
    exact absurd (hw.not_again hw') (Nat.not_le.2 hj)

/-- The directory of the two names was reached by the same way. -/
theorem front_back (h : d.Replaced n m p q z e bytes d') (habove : d'.node? above = some .directory)
    (hw : Walk d' i start front above) : Walk d i start front above := by
  rcases h.back hw with hw' | hx | ⟨target, j, more, hlink, -, hw'⟩
  · exact hw'
  · exact absurd habove (h.ne_directory hx).2
  · -- the link at the other name leads to the file, and no way goes on from there
    obtain ⟨j₁, j₂, y, -, hy, hmore⟩ := hw'.split
    have hdir : d'.node? y = some .directory := by
      cases more with
      | nil => cases hmore; exact habove
      | cons s more => exact hmore.directory_of_ne_nil (List.cons_ne_nil s more)
    have helse : ¬(y = p ∨ y = q) := fun hy => (h.ne_directory hy).2 hdir
    obtain rfl := h.way_back hlink helse hy
    rw [h.node?_of_ne helse] at hdir
    exact absurd hdir h.file_ne_directory

/-- What is read behind the other name now are the bytes of the file. -/
theorem eq_of_leads (h : d.Replaced n m p q z e bytes d') (hl : Leads d' k q y) {found : ByteArray}
    (hy : d'.bytes? y = some found) : found = bytes := by
  have hq := h.node?_target
  cases hl with
  | plain hplain =>
    have hfile := h.bytes?_target fun target he => hplain target (by rw [hq, he])
    exact Option.some.inj (hy.symm.trans hfile)
  | @link _ _ _ target hlink hw =>
    obtain ⟨-, hnolink, hthere⟩ := node?_of_bytes? hy
    have helse : ¬(y = p ∨ y = q) := by
      rintro (rfl | rfl)
      · exact hthere h.node?_source
      · exact hnolink target hlink
    obtain rfl := h.way_back hlink helse hw
    exact Option.some.inj (hy.symm.trans (h.bytes?_file helse))

end Replaced

/-! ## What paths lead to -/

/-- A path ends with the step to a name in a directory. -/
structure EndsAt (d : LinkedDisk) (path : String) (front : List String) (s : String) (n : Nat) (above p : Place) :
    Prop where
  good : badPath? path = none
  steps : Path.steps path = front ++ [s]
  way : Walk d n (origin d.working path) front above
  enter : d.enter above s = .ok p

theorem endsAt_of_locateName (h : d.locateName path = .ok p) (hp : d.node? p ≠ some .directory) :
    ∃ front s n above, d.EndsAt path front s n above p := by
  obtain ⟨hgood, front, s, n, above, hsteps, -, hway, henter⟩ := exists_enter_of_locateName h hp
  exact ⟨front, s, n, above, hgood, hsteps, hway, henter⟩

namespace EndsAt

/-- Such a path leads to where the name leads. -/
theorem locate_iff (h : d.EndsAt path front s n above p) :
    d.locate path = .ok r ↔ ∃ k, n + k ≤ linkMax ∧ Leads d k p r := by
  rw [locate_eq_ok, h.steps]
  constructor
  · rintro ⟨-, j, hj, hw⟩
    obtain ⟨k, rfl, hl⟩ := h.way.last h.enter hw
    exact ⟨k, hj, hl⟩
  · rintro ⟨k, hk, hl⟩
    exact ⟨h.good, n + k, hk, h.way.concat h.enter hl⟩

theorem directory (h : d.EndsAt path front s n above p) : d.node? above = some .directory := (enter_eq_ok.1 h.enter).1

/-- The same steps lead to the name in another tree. -/
theorem of_way (h : d.EndsAt path front s n above p) (hworking : d'.working = d.working)
    (hw : Walk d' n (origin d.working path) front above) (habove : d'.node? above = some .directory) :
    d'.EndsAt path front s n above p := by
  obtain ⟨-, hs, hp⟩ := enter_eq_ok.1 h.enter
  exact ⟨h.good, h.steps, by rwa [hworking], enter_eq_ok.2 ⟨habove, hs, hp⟩⟩

/-- A path with another extension ends in the same directory. -/
theorem beside {e s' : String} {front' : List String} {m : Nat} {above' : Place} (hslash : '/' ∉ e.toList)
    (hdot : '.' ∈ e.toList) (h : d.EndsAt path front s n above q) (hq : d.node? q ≠ some .directory)
    (h' : d.EndsAt (Path.withExtension path e) front' s' m above' p) (hp : d.node? p ≠ some .directory) :
    m = n ∧ above' = above := by
  obtain ⟨hs, -, -⟩ := name_of_enter h.enter hq
  obtain ⟨hs', hup, -⟩ := name_of_enter h'.enter hp
  obtain ⟨rfl, habs⟩ := Path.beside_withExtension hslash hdot h.steps hs h'.steps hs' hup
  have horigin : origin d.working (Path.withExtension path e) = origin d.working path := by
    unfold origin
    rw [habs]
  have hway := h'.way
  rw [horigin] at hway
  exact hway.unique h.way

end EndsAt

/-- A file that has been moved is read from the other path, if something was read from there before. -/
theorem Replaced.file?_eq (h : d.Replaced n m p q z e bytes d') (hq : d.EndsAt path front s n above q)
    (hslash : Path.endsInSlash path = false) (hbefore : d.file? path ≠ none) : d'.file? path = some bytes := by
  obtain ⟨old, hold⟩ := Option.ne_none_iff_exists'.1 hbefore
  obtain ⟨-, r, hr, hread⟩ := file?_eq_some_iff.1 hold
  obtain ⟨k, hk, hl⟩ := hq.locate_iff.1 hr
  have hne := (node?_of_bytes? hread).1
  obtain ⟨y, hy, hbytes⟩ := h.exists_leads hl hk hne
  have habove : d'.node? above = some .directory := by
    rw [h.node?_of_ne fun hx => (h.ne_directory hx).1 hq.directory, hq.directory]
  have hq' := hq.of_way h.moved.working (h.front_forth hl hne hq.directory hq.way) habove
  exact file?_eq_some_iff.2 ⟨hslash, y, hq'.locate_iff.2 ⟨m, h.within, hy⟩, hbytes⟩

/-- Nothing else is read from there. -/
theorem Replaced.eq_of_file? (h : d.Replaced n m p q z e bytes d') (hq : d.EndsAt path front s n above q)
    {found : ByteArray} (hafter : d'.file? path = some found) : found = bytes := by
  obtain ⟨-, y, hy, hread⟩ := file?_eq_some_iff.1 hafter
  obtain ⟨-, j, hj, hw⟩ := locate_eq_ok.1 hy
  rw [hq.steps, h.moved.working] at hw
  obtain ⟨j₁, j₂, above', rfl, hfront, hlast⟩ := hw.split
  have habove := hlast.directory_of_ne_nil (List.cons_ne_nil _ _)
  obtain ⟨rfl, rfl⟩ := (h.front_back habove hfront).unique hq.way
  obtain ⟨k, -, hl⟩ := (hq.of_way h.moved.working hfront habove).locate_iff.1 hy
  exact h.eq_of_leads hl hread

/-- Moving a file with another extension into place. -/
theorem file?_of_rename {e : String} (hslash : '/' ∉ e.toList) (hdot : '.' ∈ e.toList)
    (h : d.rename (Path.withExtension path e) path = .ok d')
    (hread : d.file? (Path.withExtension path e) = some bytes)
    (ht : ¬d.Tangled path (Path.withExtension path e)) :
    d'.file? path = some bytes ∨ d.file? path = none ∧ d'.file? path = none := by
  obtain ⟨p, q, entry, hrenamed⟩ := renamed_of_rename h
  have hp : d.node? p ≠ some .directory := by
    rw [hrenamed.there]
    exact fun heq => hrenamed.plain (Option.some.inj heq)
  obtain ⟨front', s', m', above', hsource⟩ := endsAt_of_locateName hrenamed.locateSource hp
  obtain ⟨front, s, n, above, htarget⟩ := endsAt_of_locateName hrenamed.locateTarget hrenamed.free
  obtain ⟨rfl, rfl⟩ := htarget.beside hslash hdot hrenamed.free hsource hp
  obtain ⟨-, z, hz, hbytes⟩ := file?_eq_some_iff.1 hread
  obtain ⟨m, hm, hleads⟩ := hsource.locate_iff.1 hz
  have hfree := (node?_of_bytes? hbytes).1
  have hapart : ∀ k r, m' + k ≤ linkMax → Leads d k q r → ¬d.OneFile r z := fun k r hk hl hone =>
    ht ⟨z, hz, .inr ⟨hfree, r, htarget.locate_iff.2 ⟨k, hk, hl⟩, hone⟩⟩
  rcases hrenamed.same_or_moved with ⟨rfl, rfl | ⟨hfile, hq⟩⟩ | hmoved
  · exact absurd (.inl rfl) (hapart m z hm hleads)
  · -- the two names are names of one file
    have hthere := hrenamed.there
    obtain ⟨number, rfl⟩ : ∃ number, entry = .file number := by
      cases entry with
      | file number => exact ⟨number, rfl⟩
      | directory => exact hfile.elim
      | link target => exact hfile.elim
      | device kept => exact hfile.elim
    have hplain : ∀ {y : Place}, d'.node? y = some (.file number) → ∀ target, d'.node? y ≠ some (.link target) := by
      intro y hy target hlink
      rw [hy] at hlink
      cases hlink
    obtain rfl : p = z := by
      cases hleads with
      | plain _ => rfl
      | link hlink _ => exact absurd hlink (hplain hthere _)
    have hwithin : m' + 0 ≤ linkMax := Nat.le_trans (Nat.le_add_right m' m) hm
    exact absurd (.inr ⟨number, hq, hthere⟩) (hapart 0 q hwithin (.plain (hplain hq)))
  · have hreplaced : d.Replaced m' m p q z entry bytes d' := by
      refine ⟨hmoved, ?_, hleads, hbytes, fun k r hk hl heq => hapart k r hk hl (.inl heq), hm⟩
      obtain ⟨-, -, rfl⟩ := name_of_enter hsource.enter hp
      obtain ⟨-, -, rfl⟩ := name_of_enter htarget.enter hrenamed.free
      rw [List.dropLast_concat, List.dropLast_concat]
    by_cases hbefore : d.file? path = none
    · cases hafter : d'.file? path with
      | none => exact .inr ⟨hbefore, rfl⟩
      | some found => exact .inl (by rw [hreplaced.eq_of_file? htarget hafter])
    · exact .inl (hreplaced.file?_eq htarget hrenamed.noSlash hbefore)

end BudgetRules.LinkedDisk
