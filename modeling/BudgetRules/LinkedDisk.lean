import BudgetRules.Disk

/-!
# Files with links

In a `LinkedDisk` several names can be those of one file, a name can be a link, which stands for another path, and a
device takes what is written to it without keeping it.  Links are followed wherever a path leads through one, and at its
end too, except where a name is made or moved.
-/

namespace BudgetRules

namespace LinkedDisk

/-- What a name can stand for. -/
inductive Entry
  /-- a file by its number; names of one number are names of one file -/
  | file (number : Nat)
  | directory
  | link (target : String)
  /-- gives the same bytes whatever is written to it -/
  | device (bytes : ByteArray)

instance : DecidableEq Entry
  | .file a, .file b => decidable_of_iff (a = b) ⟨congrArg Entry.file, Entry.file.inj⟩
  | .directory, .directory => isTrue rfl
  | .link a, .link b => decidable_of_iff (a = b) ⟨congrArg Entry.link, Entry.link.inj⟩
  | .device a, .device b =>
    @decidable_of_iff _ (a = b) ⟨congrArg Entry.device, Entry.device.inj⟩ (ByteArray.instDecidableEq a b)
  | .file _, .directory | .file _, .link _ | .file _, .device _ => isFalse nofun
  | .directory, .file _ | .directory, .link _ | .directory, .device _ => isFalse nofun
  | .link _, .file _ | .link _, .directory | .link _, .device _ => isFalse nofun
  | .device _, .file _ | .device _, .directory | .device _, .link _ => isFalse nofun

/-- Is it a name of a file? -/
def Entry.IsFile (e : Entry) : Prop :=
  match e with
  | .file _ => True
  | _ => False

instance : (e : Entry) → Decidable e.IsFile
  | .file _ => inferInstanceAs (Decidable True)
  | .directory => inferInstanceAs (Decidable False)
  | .link _ => inferInstanceAs (Decidable False)
  | .device _ => inferInstanceAs (Decidable False)

/-- Has the number of a file been given out before the next one? -/
def Entry.Numbered (next : Nat) : Entry → Prop
  | .file number => number < next
  | _ => True

instance (next : Nat) : (e : Entry) → Decidable (e.Numbered next)
  | .file number => inferInstanceAs (Decidable (number < next))
  | .directory => inferInstanceAs (Decidable True)
  | .link _ => inferInstanceAs (Decidable True)
  | .device _ => inferInstanceAs (Decidable True)

end LinkedDisk

/-- A tree of names, and the bytes of files by their numbers. -/
structure LinkedDisk where
  node? : Disk.Place → Option LinkedDisk.Entry
  bytes : Nat → ByteArray
  /-- the number of the next new file -/
  next : Nat
  /-- the working directory -/
  working : Disk.Place
  lasting : ∀ p : Disk.Place, p.Lasting → node? p = some .directory
  rooted : ∀ p : Disk.Place, node? p ≠ none → node? p.dropLast = some .directory
  numbered : ∀ (p : Disk.Place) (e : LinkedDisk.Entry), node? p = some e → e.Numbered next

namespace LinkedDisk

open Disk (Place badPath? nameMax)

/-! ## Changes of the tree -/

/-- Can something be put in a place?  There must be a directory for it and none in the place. -/
def Fits (d : LinkedDisk) (p : Place) (e : Entry) : Prop :=
  d.node? p.dropLast = some .directory ∧ d.node? p ≠ some .directory ∧ e.Numbered d.next

instance (d : LinkedDisk) (p : Place) (e : Entry) : Decidable (d.Fits p e) := inferInstanceAs (Decidable (_ ∧ _ ∧ _))

/-- What is a directory stays one where another place changes. -/
theorem directory_of_ne {d : LinkedDisk} {p q : Place} {e : Option Entry} (hp : d.node? p ≠ some .directory)
    (hq : d.node? q = some .directory) : (if q = p then e else d.node? q) = some .directory := by
  have hne : q ≠ p := fun heq => hp (heq ▸ hq)
  rw [if_neg hne, hq]

/-- The tree with something in a place, where it fits. -/
def put (d : LinkedDisk) (p : Place) (e : Entry) : LinkedDisk :=
  if h : d.Fits p e then
    { d with
      node? := fun q => if q = p then some e else d.node? q
      lasting := fun q hq => directory_of_ne h.2.1 (d.lasting q hq)
      rooted := by
        intro q hq
        split at hq
        · next heq => exact directory_of_ne h.2.1 (heq ▸ h.1)
        · exact directory_of_ne h.2.1 (d.rooted q hq)
      numbered := by
        intro q e' hq
        split at hq
        · cases hq; exact h.2.2
        · exact d.numbered q e' hq }
  else d

/-- The tree without a name, unless it is one of a directory. -/
def erase (d : LinkedDisk) (p : Place) : LinkedDisk :=
  if h : d.node? p = some .directory then d
  else
    { d with
      node? := fun q => if q = p then none else d.node? q
      lasting := fun q hq => directory_of_ne h (d.lasting q hq)
      rooted := by
        intro q hq
        split at hq
        · exact absurd rfl hq
        · exact directory_of_ne h (d.rooted q hq)
      numbered := by
        intro q e hq
        split at hq
        · cases hq
        · exact d.numbered q e hq }

/-- The tree with other bytes in a file. -/
def fill (d : LinkedDisk) (number : Nat) (bytes : ByteArray) : LinkedDisk :=
  { d with bytes := fun n => if n = number then bytes else d.bytes n }

/-- The tree with one more number given out. -/
def advance (d : LinkedDisk) : LinkedDisk :=
  { d with
    next := d.next + 1
    numbered := by
      intro p e hp
      have hlt := d.numbered p e hp
      cases e with
      | file n => exact Nat.lt_succ_of_lt hlt
      | directory => exact hlt
      | link target => exact hlt
      | device bytes => exact hlt }

/-- The tree with a new file. -/
def create (d : LinkedDisk) (p : Place) (bytes : ByteArray) : LinkedDisk :=
  (d.advance.fill d.next bytes).put p (.file d.next)

/-- A tree with nothing in the working directory. -/
def empty : LinkedDisk where
  node? p := if p.Lasting then some .directory else none
  bytes _ := .empty
  next := 0
  working := []
  lasting := fun p hp => if_pos hp
  rooted := by
    intro p hp
    split at hp
    · next hl =>
      refine if_pos ?_
      rcases hl with hempty | hall
      · match p with
        | [] => exact .inr rfl
        | [s] => exact .inr rfl
        | s :: t :: rest =>
          have hpath : (Place.path (s :: t :: rest)).isEmpty = false := by
            unfold Place.path
            rw [String.intercalate_cons_cons]
            simp
          rw [hpath] at hempty
          cases hempty
      · exact .inr (List.all_eq_true.2 fun s hs => List.all_eq_true.1 hall s (List.dropLast_subset p hs))
    · exact absurd rfl hp
  numbered := by
    intro p e hp
    split at hp
    · cases hp; exact True.intro
    · cases hp

/-! ## Lookup -/

/-- How many links a path may lead through. -/
def linkMax : Nat := 40

def tooManyLinks : FileError := .other 40 "Too many levels of symbolic links"

/-- The place at which the steps of a path start for who is at a place. -/
def origin (p : Place) (path : String) : Place := if Path.isAbsolute path then [""] else p

/-- The steps of a link; what stands behind one that ends in a slash must be a directory. -/
def linkSteps (target : String) : List String :=
  Path.steps target ++ if Path.endsInSlash target then ["."] else []

/-- One step from a place, which must be a directory. -/
def enter (d : LinkedDisk) (p : Place) (step : String) : Except FileError Place :=
  match d.node? p with
  | none => .error .notFound
  | some .directory => if nameMax < step.utf8ByteSize then .error .nameTooLong else .ok (p.move step)
  | some _ => .error .notDirectory

/-- Goes from a place to another; where there is a link, another way is taken. -/
def walkWith (d : LinkedDisk) (follow : Place → List String → Except FileError Place) :
    Place → List String → Except FileError Place
  | p, [] => .ok p
  | p, s :: rest =>
    match d.enter p s with
    | .error e => .error e
    | .ok q =>
      match d.node? q with
      | some (.link target) => follow (origin q.dropLast target) (linkSteps target ++ rest)
      | _ => d.walkWith follow q rest

/-- Goes from a place to another through no more than some links. -/
def walk (d : LinkedDisk) : Nat → Place → List String → Except FileError Place
  | 0 => d.walkWith fun _ _ => .error tooManyLinks
  | n + 1 => d.walkWith (d.walk n)

/-- The place of a path. -/
def locate (d : LinkedDisk) (path : String) : Except FileError Place :=
  match badPath? path with
  | some e => .error e
  | none => d.walk linkMax (origin d.working path) (Path.steps path)

/-- The place of the name that a path ends with, whatever the name stands for. -/
def locateName (d : LinkedDisk) (path : String) : Except FileError Place :=
  match badPath? path with
  | some e => .error e
  | none =>
    match (Path.steps path).getLast? with
    | none => .ok [""]
    | some s => do d.enter (← d.walk linkMax (origin d.working path) (Path.steps path).dropLast) s

/-! ## Operations -/

/-- The bytes of a file. -/
def read (d : LinkedDisk) (path : String) : Except FileError ByteArray := do
  let found (bytes : ByteArray) : Except FileError ByteArray :=
    if Path.endsInSlash path then throw .notDirectory else return bytes
  match d.node? (← d.locate path) with
  | none => throw .notFound
  | some .directory => throw .isDirectory
  | some (.link _) => throw tooManyLinks
  | some (.file number) => found (d.bytes number)
  | some (.device bytes) => found bytes

/-- Is there a directory? -/
def isDirectory (d : LinkedDisk) (path : String) : Bool :=
  match d.locate path with
  | .error _ => false
  | .ok p => d.node? p = some .directory

/-- Makes a directory where the one that it stands in is there. -/
def makeDir (d : LinkedDisk) (path : String) : Except FileError LinkedDisk := do
  let p ← d.locateName path
  match d.node? p with
  | some _ => throw .alreadyExists
  | none => return d.put p .directory

/-- The tree with a file, new or with the bytes of the one that was there replaced. -/
def write (d : LinkedDisk) (path : String) (bytes : ByteArray) : Except FileError LinkedDisk := do
  let p ← d.locate path
  if Path.endsInSlash path then throw .isDirectory
  match d.node? p with
  | none => return d.create p bytes
  | some .directory => throw .isDirectory
  | some (.link _) => throw tooManyLinks
  | some (.file number) => return d.fill number bytes
  | some (.device _) => return d

/-- Moves what a name stands for to another name, in place of what that stood for.  Nothing happens if both are names of
one file; directories are not moved. -/
def rename (d : LinkedDisk) (source target : String) : Except FileError LinkedDisk := do
  let p ← d.locateName source
  let q ← d.locateName target
  match d.node? p with
  | none => throw .notFound
  | some .directory => throw .isDirectory
  | some e =>
    if Path.endsInSlash source ∨ Path.endsInSlash target then throw .notDirectory
    else if d.node? q = some .directory then throw .isDirectory
    else if p = q ∨ e.IsFile ∧ d.node? q = some e then return d
    else return (d.erase p).put q e

instance : FileSystem LinkedDisk where
  read := read
  isDirectory := isDirectory
  makeDir := makeDir
  write := write
  rename := rename

end LinkedDisk

end BudgetRules
