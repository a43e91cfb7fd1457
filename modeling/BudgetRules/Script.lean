import BudgetRules.Disk
import BudgetRules.Event
import BudgetRules.Identity

/-!
# Programs that use files

A `Script` is a program that asks its host for something, goes on with the answer, and so forth until it is
done.  Run against a `Machine`, which is a value, a script is a function; the command line runs the same
scripts against the files of the machine.
-/

namespace BudgetRules

/-- Where a program prints. -/
inductive Stream
  | stdout
  | stderr
deriving DecidableEq

/-- A program that uses files, draws identities, gives notices and prints. -/
inductive Script (α : Type) : Type
  | done (a : α)
  | readFile (path : String) (next : Except FileError ByteArray → Script α)
  | makeDirs (path : String) (next : Except FileError Unit → Script α)
  | writeFile (path : String) (bytes : ByteArray) (next : Except FileError Unit → Script α)
  | renameFile (source target : String) (next : Except FileError Unit → Script α)
  | drawId (next : String → Script α)
  | notify (notice : Notice) (next : Script α)
  | print (stream : Stream) (text : String) (next : Script α)

namespace Script

variable {α β : Type}

/-- One program after another. -/
def bind : Script α → (α → Script β) → Script β
  | .done a, f => f a
  | .readFile path next, f => .readFile path fun x => (next x).bind f
  | .makeDirs path next, f => .makeDirs path fun x => (next x).bind f
  | .writeFile path bytes next, f => .writeFile path bytes fun x => (next x).bind f
  | .renameFile source target next, f => .renameFile source target fun x => (next x).bind f
  | .drawId next, f => .drawId fun x => (next x).bind f
  | .notify notice next, f => .notify notice (next.bind f)
  | .print stream text next, f => .print stream text (next.bind f)

instance : Monad Script where
  pure := done
  bind := bind

/-! ## Requests -/

/-- The bytes of a file. -/
def read (path : String) : Script (Except FileError ByteArray) := .readFile path .done

/-- The text of a file. -/
def readText (path : String) : Script (Except FileError String) := do
  match ← read path with
  | .error e => return .error e
  | .ok bytes =>
    match String.fromUTF8? bytes with
    | some s => return .ok s
    | none => return .error .notText

/-- Makes a directory and those that it stands in. -/
def ensureDirs (path : String) : Script (Except FileError Unit) := .makeDirs path .done

/-- Writes a text to a file, new or in place of the one that was there. -/
def writeText (path text : String) : Script (Except FileError Unit) :=
  .writeFile path text.toUTF8 .done

/-- Moves a file, in place of the one that was there. -/
def rename (source target : String) : Script (Except FileError Unit) := .renameFile source target .done

/-- A new identity. -/
def freshId : Script String := .drawId .done

/-- Tells the host something. -/
def tell (level : Level) (message : String) (fields : List (String × String)) : Script Unit :=
  .notify ⟨level, message, fields⟩ (.done ())

/-- Passes notices on in their order. -/
def tellAll : List Notice → Script Unit
  | [] => .done ()
  | n :: rest => .notify n (tellAll rest)

/-- Prints a text. -/
def say (stream : Stream) (text : String) : Script Unit := .print stream text (.done ())

/-- Prints some texts, one after the other. -/
def sayAll (stream : Stream) : List String → Script Unit
  | [] => .done ()
  | text :: rest => .print stream text (sayAll stream rest)

end Script

/-! ## Machines -/

/-- What a script can ask for. -/
structure Machine (δ : Type) where
  disk : δ
  ids : IdSource
  /-- the notices that have been given, the first of them first -/
  notices : List Notice
  /-- the texts that have been printed, the first of them first -/
  printed : List (Stream × String)

/-- A machine whose files are in a tree without links. -/
abbrev Host := Machine Disk

namespace Machine

variable {δ : Type}

/-- The machine after an operation on the disk, if it can be done. -/
def attempt (h : Machine δ) : Except FileError δ → Except FileError Unit × Machine δ
  | .ok d => (.ok (), { h with disk := d })
  | .error e => (.error e, h)

/-- All that has been printed to a stream. -/
def shown (h : Machine δ) (stream : Stream) : String :=
  String.join ((h.printed.filter (·.1 = stream)).map (·.2))

end Machine

namespace Script

variable {α β δ : Type} [FileSystem δ]

/-- What a script comes to, and the machine after it. -/
def run : Script α → Machine δ → α × Machine δ
  | .done a, h => (a, h)
  | .readFile path next, h => (next (FileSystem.read h.disk path)).run h
  | .makeDirs path next, h =>
    let (r, d) := FileSystem.makeDirs h.disk path
    (next r).run { h with disk := d }
  | .writeFile path bytes next, h =>
    let (r, h) := h.attempt (FileSystem.write h.disk path bytes)
    (next r).run h
  | .renameFile source target next, h =>
    let (r, h) := h.attempt (FileSystem.rename h.disk source target)
    (next r).run h
  | .drawId next, h =>
    let (id, ids) := h.ids.next
    (next id).run { h with ids := ids }
  | .notify notice next, h => next.run { h with notices := h.notices ++ [notice] }
  | .print stream text next, h => next.run { h with printed := h.printed ++ [(stream, text)] }

theorem run_bind (s : Script α) (f : α → Script β) (h : Machine δ) :
    (s.bind f).run h = (f (s.run h).1).run (s.run h).2 := by
  induction s generalizing h with
  | done a => rfl
  | readFile path next ih => exact ih _ h
  | makeDirs path next ih => exact ih _ _
  | writeFile path bytes next ih => exact ih _ _
  | renameFile source target next ih => exact ih _ _
  | drawId next ih => exact ih _ _
  | notify notice next ih => exact ih _
  | print stream text next ih => exact ih _

end Script

end BudgetRules
