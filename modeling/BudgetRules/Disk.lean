import BudgetRules.FileSystem
import BudgetRules.SortedMap

/-!
# Files and directories

A `Disk` is a tree of files as a value: what stands at each place, by the path of the place.  The working
directory, those it stands in and the root are always there.  An operation gives the disk after it, or says why it
cannot be done; one that fails leaves every file as it was.
-/

namespace BudgetRules

/-- What can stand at a place. -/
inductive Node
  | file (bytes : ByteArray)
  | directory

/-- A tree of files by the paths of their places. -/
structure Disk where
  nodes : SortedMap Node

namespace Disk

def empty : Disk := ⟨.empty⟩

/-- A place: the names that lead to it, the first empty if they start at the root.  Two dots at the start lead
out of the working directory. -/
abbrev Place := List String

/-- The path of a place. -/
def Place.path (p : Place) : String := String.intercalate "/" p

/-- A place where a directory always is. -/
def Place.Lasting (p : Place) : Prop := p.path.isEmpty ∨ p.all (· = "..")

instance (p : Place) : Decidable p.Lasting := inferInstanceAs (Decidable (_ ∨ _))

/-- What stands at a place. -/
def node? (d : Disk) (p : Place) : Option Node := if p.Lasting then some .directory else d.nodes.get? p.path

def put (d : Disk) (p : Place) (n : Node) : Disk := ⟨d.nodes.insert p.path n⟩

def erase (d : Disk) (p : Place) : Disk := ⟨d.nodes.erase p.path⟩

/-- One step from a place. -/
def Place.move (p : Place) (step : String) : Place :=
  if step = "." then p
  else if step = ".." then
    if p = [""] then p
    else if p.all (· = "..") then p ++ [step]
    else p.dropLast
  else p ++ [step]

/-- The place at which the steps of a path start. -/
def start (path : String) : Place := if Path.isAbsolute path then [""] else []

/-- The longest path in bytes. -/
def pathMax : Nat := 4095

/-- The longest name in bytes. -/
def nameMax : Nat := 255

/-- What makes a path unfit before it is looked up. -/
def badPath? (path : String) : Option FileError :=
  if path.toList.any (·.toNat = 0) then some .nulInName
  else if path.isEmpty then some .notFound
  else if pathMax < path.utf8ByteSize then some .nameTooLong
  else none

/-- Goes from a place to another, all but the last through directories. -/
def walk (d : Disk) : Place → List String → Except FileError Place
  | p, [] => .ok p
  | p, s :: rest =>
    match d.node? p with
    | none => .error .notFound
    | some (.file _) => .error .notDirectory
    | some .directory =>
      if nameMax < s.utf8ByteSize then .error .nameTooLong else walk d (p.move s) rest

/-- The place of a path. -/
def locate (d : Disk) (path : String) : Except FileError Place :=
  match badPath? path with
  | some e => .error e
  | none => d.walk (start path) (Path.steps path)

/-- The bytes of a file. -/
def read (d : Disk) (path : String) : Except FileError ByteArray := do
  match d.node? (← d.locate path) with
  | none => throw .notFound
  | some .directory => throw .isDirectory
  | some (.file bytes) => if Path.endsInSlash path then throw .notDirectory else return bytes

/-- The disk with a file, new or in place of the one that was there. -/
def write (d : Disk) (path : String) (bytes : ByteArray) : Except FileError Disk := do
  let p ← d.locate path
  if Path.endsInSlash path then throw .isDirectory
  match d.node? p with
  | some .directory => throw .isDirectory
  | _ => return d.put p (.file bytes)

/-- Is there a directory? -/
def isDirectory (d : Disk) (path : String) : Bool :=
  match d.locate path with
  | .error _ => false
  | .ok p =>
    match d.node? p with
    | some .directory => true
    | _ => false

/-- Makes a directory where the one that it stands in is there. -/
def makeDir (d : Disk) (path : String) : Except FileError Disk := do
  let p ← d.locate path
  match d.node? p with
  | some _ => throw .alreadyExists
  | none => return d.put p .directory

/-- Moves a file, in place of the one that was there. -/
def rename (d : Disk) (source target : String) : Except FileError Disk := do
  let p ← d.locate source
  let q ← d.locate target
  match d.node? p, d.node? q with
  | none, _ => throw .notFound
  | some .directory, _ => throw .isDirectory
  | some (.file bytes), n =>
    if Path.endsInSlash source ∨ Path.endsInSlash target then throw .notDirectory
    else
      match n with
      | some .directory => throw .isDirectory
      | _ => return (d.erase p).put q (.file bytes)

/-- Takes a file away. -/
def remove (d : Disk) (path : String) : Except FileError Disk := do
  let p ← d.locate path
  match d.node? p with
  | some (.file _) => return d.erase p
  | some .directory => throw .isDirectory
  | none => throw .notFound

instance : FileSystem Disk where
  read := read
  isDirectory := isDirectory
  makeDir := makeDir
  write := write
  rename := rename

end Disk

end BudgetRules
