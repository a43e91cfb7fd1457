import BudgetRules.Disk.Path

/-!
# What programs ask of files

A `FileSystem` is a type whose values are all the files of a machine.  An operation gives the files after it, or says
why it cannot be done.
-/

namespace BudgetRules

/-- Why an operation on a file cannot be done. -/
inductive FileError
  | notFound
  | alreadyExists
  | notDirectory
  | isDirectory
  | nameTooLong
  | nulInName
  /-- a file that should be a text is not in UTF-8 -/
  | notText
  | other (code : Nat) (description : String)
deriving DecidableEq

def FileError.text : FileError → String
  | .notFound => "No such file or directory (os error 2)"
  | .alreadyExists => "File exists (os error 17)"
  | .notDirectory => "Not a directory (os error 20)"
  | .isDirectory => "Is a directory (os error 21)"
  | .nameTooLong => "File name too long (os error 36)"
  | .nulInName => "file name contained an unexpected NUL byte"
  | .notText => "stream did not contain valid UTF-8"
  | .other code description => s!"{description} (os error {code})"

/-- A type whose values hold files at paths. -/
class FileSystem (δ : Type) where
  /-- the bytes of a file -/
  read : δ → String → Except FileError ByteArray
  /-- is there a directory? -/
  isDirectory : δ → String → Bool
  /-- makes a directory where the one that it stands in is there -/
  makeDir : δ → String → Except FileError δ
  /-- writes a file, new or in place of the one that was there -/
  write : δ → String → ByteArray → Except FileError δ
  /-- moves a file, in place of the one that was there -/
  rename : δ → String → String → Except FileError δ

namespace FileSystem

variable {δ : Type} [FileSystem δ]

/-- What the making of a directory comes to: it has worked as well if there is one already. -/
def settle (d : δ) (path : String) : Except FileError δ → Except FileError Unit × δ
  | .ok d => (.ok (), d)
  | .error e => (if isDirectory d path then .ok () else .error e, d)

/-- Makes the first of some directories; each of them stands in the next one, which is made before it where that is
missing. -/
def makeAll (d : δ) : List String → Except FileError Unit × δ
  | [] => (.error .notFound, d)
  | path :: above =>
    if path.isEmpty then (.ok (), d)
    else
      match makeDir d path with
      | .error .notFound =>
        match makeAll d above with
        | (.ok _, d) => settle d path (makeDir d path)
        | (.error e, d) => (.error e, d)
      | made => settle d path made

/-- Makes a directory and those that it stands in, unless they are there. -/
def makeDirs (d : δ) (path : String) : Except FileError Unit × δ := makeAll d (path :: Path.ancestors path)

end FileSystem

end BudgetRules
