import BudgetRules.Proofs.Disk.Elsewhere
import BudgetRules.Proofs.LinkedDisk.Shown
import BudgetRules.Proofs.Script.Alike

/-!
# Trees without links

A tree without links and devices, in which every file has one name, answers like the `Disk` with the same files and
directories.  So a script comes to the same on both:

    d.Mirrors k → d.locate path = k.locate path                                                 (Mirrors.locate_eq)
    Simulates Mirrors                                                                            (simulates_mirrors)
    h.Alike Mirrors k → (s.run h).1 = (s.run k).1 ∧ (s.run h).2.Alike Mirrors (s.run k).2                (run_alike)
-/

namespace BudgetRules

open FileSystem (Answers Simulates)

/-- A walk over a step and others is one over the step and then one over the others. -/
theorem Disk.walk_step (k : Disk) (p : Place) (s : String) (rest : List String) :
    k.walk p (s :: rest) = k.walk p [s] >>= fun q => k.walk q rest := by
  rw [walk, walk]
  cases k.node? p with
  | none => rfl
  | some n =>
    cases n with
    | file bytes => rfl
    | directory => dsimp only; split <;> rfl

theorem Disk.walk_concat (k : Disk) (p : Place) (s : String) (front : List String) :
    k.walk p (front ++ [s]) = k.walk p front >>= fun q => k.walk q [s] := by
  induction front generalizing p with
  | nil => rfl
  | cons t front ih =>
    rw [List.cons_append, walk_step, walk_step k p t front]
    cases k.walk p [t] with
    | error e => rfl
    | ok q => exact ih q

namespace LinkedDisk

open Disk (Place badPath?)

variable {d d' : LinkedDisk} {k : Disk} {p q : Place} {path s : String} {steps : List String} {bytes : ByteArray}

/-- What stands in a place, if it is a directory or something that is read. -/
def shape? (d : LinkedDisk) (p : Place) : Option Node :=
  if d.node? p = some .directory then some .directory else (d.bytes? p).map .file

/-- A tree without links and devices, in which every file has one name, holds what a disk holds. -/
structure Mirrors (d : LinkedDisk) (k : Disk) : Prop where
  working : d.working = []
  plain : ∀ p e, d.node? p = some e → e = .directory ∨ e.IsFile
  single : ∀ p q number, d.node? p = some (.file number) → d.node? q = some (.file number) → p = q
  node : ∀ p : Place, p.Named → k.node? p = d.shape? p

namespace Mirrors

theorem node?_cases (h : d.Mirrors k) (p : Place) :
    d.node? p = none ∨ d.node? p = some .directory ∨ ∃ number, d.node? p = some (.file number) := by
  cases hn : d.node? p with
  | none => exact .inl rfl
  | some e =>
    cases e with
    | file number => exact .inr (.inr ⟨number, rfl⟩)
    | directory => exact .inr (.inl rfl)
    | link target => exact absurd (h.plain p _ hn) (by simp [Entry.IsFile])
    | device kept => exact absurd (h.plain p _ hn) (by simp [Entry.IsFile])

theorem node?_of_none (h : d.Mirrors k) (hp : p.Named) (hn : d.node? p = none) : k.node? p = none := by
  rw [h.node p hp]
  unfold shape? bytes?
  rw [hn]
  rfl

theorem node?_of_directory (h : d.Mirrors k) (hp : p.Named) (hn : d.node? p = some .directory) :
    k.node? p = some .directory := by
  rw [h.node p hp]
  exact if_pos hn

theorem node?_of_file (h : d.Mirrors k) (hp : p.Named) {number : Nat} (hn : d.node? p = some (.file number)) :
    k.node? p = some (.file (d.bytes number)) := by
  rw [h.node p hp]
  unfold shape? bytes?
  rw [hn]
  rfl

/-! ## Lookup -/

theorem enter_eq (h : d.Mirrors k) (hp : p.Named) (s : String) : d.enter p s = k.walk p [s] := by
  unfold enter Disk.walk
  rcases h.node?_cases p with hn | hn | ⟨number, hn⟩
  · rw [hn, h.node?_of_none hp hn]
  · rw [hn, h.node?_of_directory hp hn]
    rfl
  · rw [hn, h.node?_of_file hp hn]

theorem named_of_enter (hp : p.Named) (hs : '/' ∉ s.toList) (henter : d.enter p s = .ok q) : q.Named := by
  obtain ⟨-, -, rfl⟩ := enter_eq_ok.1 henter
  exact hp.move hs

theorem walkWith_eq (h : d.Mirrors k) (follow : Place → List String → Except FileError Place) (hp : p.Named)
    (hs : ∀ s ∈ steps, '/' ∉ s.toList) : d.walkWith follow p steps = k.walk p steps := by
  induction steps generalizing p with
  | nil => rfl
  | cons s rest ih =>
    obtain ⟨hfirst, hrest⟩ := List.forall_mem_cons.1 hs
    rw [Disk.walk_step, ← h.enter_eq hp]
    cases henter : d.enter p s with
    | error e =>
      rw [walkWith, henter]
      rfl
    | ok q =>
      have hplain : ∀ target, d.node? q ≠ some (.link target) := fun target hlink =>
        absurd (h.plain q _ hlink) (by simp [Entry.IsFile])
      rw [walkWith_of_plain henter hplain]
      exact ih (named_of_enter hp hfirst henter) hrest

theorem walk_eq (h : d.Mirrors k) (limit : Nat) (hp : p.Named) (hs : ∀ s ∈ steps, '/' ∉ s.toList) :
    d.walk limit p steps = k.walk p steps := by
  cases limit <;> exact h.walkWith_eq _ hp hs

theorem origin_eq (h : d.Mirrors k) (path : String) : origin d.working path = Disk.start path := by
  unfold origin Disk.start
  rw [h.working]

theorem named_start (path : String) : (Disk.start path).Named := by
  unfold Disk.start Place.Named
  split <;> decide

theorem locate_eq (h : d.Mirrors k) (path : String) : d.locate path = k.locate path := by
  unfold locate Disk.locate
  cases badPath? path with
  | some e => rfl
  | none =>
    rw [h.origin_eq]
    exact h.walk_eq linkMax (named_start path) fun s => Path.notMem_of_mem_steps

/-- A path leads to its own name. -/
theorem locateName_eq (h : d.Mirrors k) (path : String) : d.locateName path = k.locate path := by
  unfold locateName Disk.locate
  cases hbad : badPath? path with
  | some e => rfl
  | none =>
    have hmem : ∀ s ∈ Path.steps path, '/' ∉ s.toList := fun s => Path.notMem_of_mem_steps
    cases hlast : (Path.steps path).getLast? with
    | none =>
      have hnil := List.getLast?_eq_none_iff.1 hlast
      cases habs : Path.isAbsolute path with
      | false => exact absurd hnil (Disk.steps_ne_nil_of_badPath? hbad habs)
      | true =>
        dsimp only
        rw [hnil]
        unfold Disk.start
        rw [habs]
        rfl
    | some s =>
      obtain ⟨front, hfront⟩ := List.getLast?_eq_some_iff.1 hlast
      rw [hfront] at hmem ⊢
      have hfrontMem : ∀ t ∈ front, '/' ∉ t.toList := fun t ht => hmem t (List.mem_append_left _ ht)
      dsimp only
      rw [List.dropLast_concat, h.origin_eq, h.walk_eq linkMax (named_start path) hfrontMem, Disk.walk_concat]
      cases hw : k.walk (Disk.start path) front with
      | error e => rfl
      | ok p => exact h.enter_eq ((named_start path).walk hfrontMem hw) s

end Mirrors

/-! ## Changes -/

theorem shape?_of_directory (hn : d.node? p = some .directory) : d.shape? p = some .directory := if_pos hn

theorem shape?_of_file {number : Nat} (hn : d.node? p = some (.file number)) :
    d.shape? p = some (.file (d.bytes number)) := by
  unfold shape? bytes?
  rw [hn]
  rfl

theorem shape?_congr (hn : d'.node? p = d.node? p) (hb : d'.bytes? p = d.bytes? p) : d'.shape? p = d.shape? p := by
  unfold shape?
  rw [hn, hb]

namespace Mirrors

/-- Where something else than a directory is replaced, by a directory or the only name of a file, the disk with the same
change is mirrored. -/
theorem put {e : Entry} {n : Node} (h : d.Mirrors k) (hq : q.Named) (hn : d.node? q ≠ some .directory)
    (he : e = .directory ∨ e.IsFile ∧ ∀ r, r ≠ q → d.node? r ≠ some e)
    (hnode : ∀ r, d'.node? r = if r = q then some e else d.node? r)
    (hbytes : ∀ r, r ≠ q → d'.bytes? r = d.bytes? r) (hworking : d'.working = d.working)
    (hshape : d'.shape? q = some n) : d'.Mirrors (k.put q n) := by
  have hself : d'.node? q = some e := by rw [hnode, if_pos rfl]
  have hother : ∀ r, r ≠ q → d'.node? r = d.node? r := fun r hr => by rw [hnode, if_neg hr]
  have halone : ∀ r number, d'.node? q = some (.file number) → d'.node? r = some (.file number) → r = q := by
    intro r number hfile hr
    refine Classical.byContradiction fun hne => ?_
    rw [hself] at hfile
    rw [hother r hne] at hr
    rcases he with rfl | ⟨-, hfree⟩
    · cases hfile
    · exact hfree r hne (hr.trans hfile.symm)
  refine ⟨hworking.trans h.working, fun r e' hr => ?_, fun r r' number hr hr' => ?_, fun r hr => ?_⟩
  · by_cases hrq : r = q
    · rw [hrq, hself] at hr
      cases hr
      exact he.imp_right And.left
    · rw [hother r hrq] at hr
      exact h.plain r e' hr
  · by_cases hrq : r = q
    · rw [hrq] at hr ⊢
      exact (halone r' number hr hr').symm
    · by_cases hrq' : r' = q
      · rw [hrq'] at hr' ⊢
        exact halone r number hr' hr
      · rw [hother r hrq] at hr
        rw [hother r' hrq'] at hr'
        exact h.single r r' number hr hr'
  · have hl : ¬q.Lasting := fun hl => hn (d.lasting q hl)
    by_cases hrq : r = q
    · rw [hrq, Disk.node?_put_self hl, hshape]
    · rw [Disk.node?_put_of_ne (Ne.symm (hr.path_ne hq hl hrq)), h.node r hr,
        shape?_congr (hother r hrq) (hbytes r hrq)]

theorem put_directory (h : d.Mirrors k) (hq : q.Named) (hfits : d.Fits q .directory) :
    (d.put q .directory).Mirrors (k.put q .directory) := by
  have hnode := node?_put hfits
  refine h.put hq hfits.2.1 (.inl rfl) hnode (fun r hr => ?_) (working_put d q _) ?_
  · exact bytes?_of_bytes_eq (by rw [hnode, if_neg hr]) (bytes_put d q _)
  · exact shape?_of_directory (by rw [hnode, if_pos rfl])

theorem created (h : d.Mirrors k) (hq : q.Named) (hc : d.Created q bytes d') : d'.Mirrors (k.put q (.file bytes)) := by
  have hnew : d'.node? q = some (.file d.next) := by rw [hc.node?, if_pos rfl]
  refine h.put (e := .file d.next) hq (ne_directory_of_none hc.missing) (.inr ⟨True.intro, fun r _ hr => ?_⟩)
    hc.node? (fun r hr => hc.bytes?_eq hr) hc.working ?_
  · exact Nat.lt_irrefl _ (d.numbered r _ hr)
  · rw [shape?_of_file hnew, hc.bytes, if_pos rfl]

theorem fill (h : d.Mirrors k) (hq : q.Named) {number : Nat} (hn : d.node? q = some (.file number))
    (bytes : ByteArray) : (d.fill number bytes).Mirrors (k.put q (.file bytes)) := by
  have hdir := ne_directory_of_file hn
  have halone : ∀ r, r ≠ q → d.node? r ≠ some (.file number) := fun r hr hfile => hr (h.single r q number hfile hn)
  refine h.put (e := .file number) hq hdir (.inr ⟨True.intro, halone⟩) (fun r => ?_)
    (fun r hr => bytes?_fill (halone r hr) bytes) rfl ?_
  · split
    · next hr => rw [hr]; exact hn
    · rfl
  · have hn' : (d.fill number bytes).node? q = some (.file number) := hn
    rw [shape?_of_file hn']
    exact congrArg (some ∘ Node.file) (if_pos rfl)

theorem erase (h : d.Mirrors k) (hp : p.Named) (hn : d.node? p ≠ some .directory) :
    (d.erase p).Mirrors (k.erase p) := by
  have hnode := node?_erase hn
  have hl : ¬p.Lasting := fun hl => hn (d.lasting p hl)
  have hback : ∀ r e, (d.erase p).node? r = some e → d.node? r = some e := by
    intro r e hr
    rw [hnode] at hr
    split at hr
    · cases hr
    · exact hr
  refine ⟨(working_erase d p).trans h.working, fun r e hr => h.plain r e (hback r e hr),
    fun r r' number hr hr' => h.single r r' number (hback r _ hr) (hback r' _ hr'), fun r hr => ?_⟩
  by_cases hrp : r = p
  · rw [hrp, Disk.node?_erase_self hl]
    unfold shape? bytes?
    rw [hnode, if_pos rfl]
    rfl
  · have hsame : (d.erase p).node? r = d.node? r := by rw [hnode, if_neg hrp]
    rw [Disk.node?_erase_of_ne (Ne.symm (hr.path_ne hp hl hrp)), h.node r hr,
      shape?_congr hsame (bytes?_of_bytes_eq hsame (bytes_erase d p))]

/-- Where a file stands elsewhere, or under the same name, the disk with the file moved is mirrored. -/
theorem moved (h : d.Mirrors k) (hp : p.Named) (hq : q.Named) {number : Nat} (hn : d.node? p = some (.file number))
    (hfree : d.node? q ≠ some .directory)
    (hnode : ∀ r, d'.node? r = if r = q then some (.file number) else if r = p then none else d.node? r)
    (hbytes : d'.bytes = d.bytes) (hworking : d'.working = d.working) :
    d'.Mirrors ((k.erase p).put q (.file (d.bytes number))) := by
  have hdir := ne_directory_of_file hn
  have herased := node?_erase hdir
  have hnode' : ∀ r, d'.node? r = if r = q then some (.file number) else (d.erase p).node? r := fun r => by
    rw [hnode, herased]
  refine (h.erase hp hdir).put (e := .file number) hq ?_ (.inr ⟨True.intro, fun r _ hr => ?_⟩) hnode' (fun r hr => ?_)
    (hworking.trans (working_erase d p).symm) ?_
  · rw [herased]
    split
    · exact nofun
    · exact hfree
  · -- the file has no other name
    rw [herased] at hr
    split at hr
    · cases hr
    · next hne => exact hne (h.single r p number hr hn)
  · exact bytes?_of_bytes_eq (by rw [hnode', if_neg hr]) (hbytes.trans (bytes_erase d p).symm)
  · rw [shape?_of_file (by rw [hnode', if_pos rfl]), hbytes]

/-! ## Answers -/

theorem read_eq (h : d.Mirrors k) (path : String) : d.read path = k.read path := by
  unfold read Disk.read
  rw [h.locate_eq]
  cases hp : k.locate path with
  | error e => rfl
  | ok p =>
    have hn := Disk.named_of_locate hp
    simp only [bind, Except.bind]
    rcases h.node?_cases p with hnode | hnode | ⟨number, hnode⟩
    · rw [hnode, h.node?_of_none hn hnode]
    · rw [hnode, h.node?_of_directory hn hnode]
    · rw [hnode, h.node?_of_file hn hnode]

theorem isDirectory_eq (h : d.Mirrors k) (path : String) : d.isDirectory path = k.isDirectory path := by
  unfold isDirectory Disk.isDirectory
  rw [h.locate_eq]
  cases hp : k.locate path with
  | error e => rfl
  | ok p =>
    have hn := Disk.named_of_locate hp
    dsimp only
    rcases h.node?_cases p with hnode | hnode | ⟨number, hnode⟩
    · rw [hnode, h.node?_of_none hn hnode]
      rfl
    · rw [hnode, h.node?_of_directory hn hnode]
      rfl
    · rw [hnode, h.node?_of_file hn hnode]
      rfl

theorem answers_makeDir (h : d.Mirrors k) (path : String) : Answers Mirrors (d.makeDir path) (k.makeDir path) := by
  have hname := h.locateName_eq path
  unfold makeDir Disk.makeDir
  rw [hname]
  cases hp : k.locate path with
  | error e => exact .refused e
  | ok p =>
    rw [hp] at hname
    have hn := Disk.named_of_locate hp
    simp only [bind, Except.bind]
    rcases h.node?_cases p with hnode | hnode | ⟨number, hnode⟩
    · rw [hnode, h.node?_of_none hn hnode]
      have hne := ne_directory_of_none hnode
      exact .done (h.put_directory hn ⟨above_of_locateName hname hne, hne, True.intro⟩)
    · rw [hnode, h.node?_of_directory hn hnode]
      exact .refused .alreadyExists
    · rw [hnode, h.node?_of_file hn hnode]
      exact .refused .alreadyExists

theorem answers_write (h : d.Mirrors k) (path : String) (bytes : ByteArray) :
    Answers Mirrors (d.write path bytes) (k.write path bytes) := by
  have hloc := h.locate_eq path
  unfold write Disk.write
  rw [hloc]
  cases hp : k.locate path with
  | error e => exact .refused e
  | ok p =>
    rw [hp] at hloc
    have hn := Disk.named_of_locate hp
    simp only [bind, Except.bind]
    cases Path.endsInSlash path with
    | true => exact .refused .isDirectory
    | false =>
      rcases h.node?_cases p with hnode | hnode | ⟨number, hnode⟩
      · rw [hnode, h.node?_of_none hn hnode]
        have habove := above_of_locate hloc (ne_directory_of_none hnode)
        exact .done (h.created hn (created_create hnode habove bytes))
      · rw [hnode, h.node?_of_directory hn hnode]
        exact .refused .isDirectory
      · rw [hnode, h.node?_of_file hn hnode]
        exact .done (h.fill hn hnode bytes)

/-- Moving a file to its own name changes nothing. -/
theorem answers_move (h : d.Mirrors k) (hp : p.Named) (hq : q.Named) {number : Nat}
    (hn : d.node? p = some (.file number)) (hfree : d.node? q ≠ some .directory)
    (hup : d.node? q.dropLast = some .directory) :
    Answers Mirrors
      (if p = q ∨ (Entry.file number).IsFile ∧ d.node? q = some (.file number) then .ok d
        else .ok ((d.erase p).put q (.file number)))
      (.ok ((k.erase p).put q (.file (d.bytes number)))) := by
  split
  · next hsame =>
    obtain rfl : p = q := hsame.elim id fun hq => h.single p q number hn hq.2
    refine .done (h.moved hp hp hn hfree (fun r => ?_) rfl rfl)
    split
    · next hr => rw [hr, hn]
    · rfl
  · next hother =>
    have hm := moved_put_erase hn (by simp) hup hfree fun heq => hother (.inl heq.symm)
    exact .done (h.moved hp hq hn hfree hm.node? hm.bytes hm.working)

theorem answers_rename (h : d.Mirrors k) (source target : String) :
    Answers Mirrors (d.rename source target) (k.rename source target) := by
  have hsource := h.locateName_eq source
  have htarget := h.locateName_eq target
  unfold rename Disk.rename
  rw [hsource, htarget]
  cases hp : k.locate source with
  | error e => exact .refused e
  | ok p =>
  cases hq : k.locate target with
  | error e => exact .refused e
  | ok q =>
    rw [hq] at htarget
    have hnp := Disk.named_of_locate hp
    have hnq := Disk.named_of_locate hq
    simp only [bind, Except.bind]
    rcases h.node?_cases p with hnode | hnode | ⟨number, hnode⟩
    · rw [hnode, h.node?_of_none hnp hnode]
      exact .refused .notFound
    · rw [hnode, h.node?_of_directory hnp hnode]
      exact .refused .isDirectory
    · rw [hnode, h.node?_of_file hnp hnode]
      dsimp only
      split
      · exact .refused .notDirectory
      · by_cases hfree : d.node? q = some .directory
        · rw [if_pos hfree, h.node?_of_directory hnq hfree]
          exact .refused .isDirectory
        · rw [if_neg hfree]
          have hup := above_of_locateName htarget hfree
          rcases h.node?_cases q with hn | hn | ⟨number', hn⟩
          · rw [h.node?_of_none hnq hn]
            exact h.answers_move hnp hnq hnode hfree hup
          · exact absurd hn hfree
          · rw [h.node?_of_file hnq hn]
            exact h.answers_move hnp hnq hnode hfree hup

end Mirrors

theorem mirrors_empty : empty.Mirrors .empty := by
  have hnode : ∀ p : Place, empty.node? p = if p.Lasting then some .directory else none := fun _ => rfl
  refine ⟨rfl, fun p e hp => ?_, fun p q number hp => ?_, fun p _ => ?_⟩
  · rw [hnode] at hp
    split at hp
    · cases hp; exact .inl rfl
    · cases hp
  · rw [hnode] at hp
    split at hp <;> cases hp
  · by_cases hl : p.Lasting
    · rw [Disk.node?_of_lasting hl, shape?_of_directory (by rw [hnode, if_pos hl])]
    · rw [Disk.node?_empty hl]
      unfold shape? bytes?
      rw [hnode, if_neg hl]
      rfl

/-- Such a tree answers like the disk. -/
theorem simulates_mirrors : Simulates Mirrors where
  read h path := h.read_eq path
  isDirectory h path := h.isDirectory_eq path
  makeDir h path := h.answers_makeDir path
  write h path bytes := h.answers_write path bytes
  rename h source target := h.answers_rename source target

/-- A script comes to the same on a tree without links as on the disk. -/
theorem run_alike {α : Type} {h : Machine LinkedDisk} {h' : Machine Disk} (hk : h.Alike Mirrors h') (s : Script α) :
    (s.run h).1 = (s.run h').1 ∧ (s.run h).2.Alike Mirrors (s.run h').2 := hk.run simulates_mirrors s

end LinkedDisk

end BudgetRules
