import BudgetRules.CommandLine

/-!
# The program

Runs the command line against the files of the machine.
-/

namespace BudgetRules

/-- An error of the machine. -/
def FileError.ofCode (code : Nat) (description : String) : FileError :=
  if code = 2 then .notFound
  else if code = 17 then .alreadyExists
  else if code = 20 then .notDirectory
  else if code = 21 then .isDirectory
  else if code = 36 then .nameTooLong
  else .other code description

def FileError.ofMachine : IO.Error → FileError
  | .alreadyExists _ code d => .ofCode code.toNat d
  | .otherError code d => .ofCode code.toNat d
  | .resourceBusy code d => .ofCode code.toNat d
  | .resourceVanished code d => .ofCode code.toNat d
  | .unsupportedOperation code d => .ofCode code.toNat d
  | .hardwareFault code d => .ofCode code.toNat d
  | .unsatisfiedConstraints code d => .ofCode code.toNat d
  | .illegalOperation code d => .ofCode code.toNat d
  | .protocolError code d => .ofCode code.toNat d
  | .timeExpired code d => .ofCode code.toNat d
  | .interrupted _ code d => .ofCode code.toNat d
  | .noFileOrDirectory _ code d => .ofCode code.toNat d
  | .invalidArgument _ code d => .ofCode code.toNat d
  | .permissionDenied _ code d => .ofCode code.toNat d
  | .resourceExhausted _ code d => .ofCode code.toNat d
  | .inappropriateType _ code d => .ofCode code.toNat d
  | .noSuchThing _ code d => .ofCode code.toNat d
  | .unexpectedEof => .other 0 "unexpected end of file"
  | .userError d => .other 0 d

/-- What an action comes to, or why it cannot be done. -/
def attempt {α : Type} (action : IO α) : BaseIO (Except FileError α) := do
  match ← action.toBaseIO with
  | .ok a => return .ok a
  | .error e => return .error (.ofMachine e)

/-- The least level of the notices that a filter lets through; `none` lets through none. -/
def Level.ofFilter? (filter : String) : Option Level :=
  if filter = "off" then none
  else some (((Vocabulary.all : List Level).find? fun l => l.label.toLower = filter).getD .info)

/-- A notice on a line. -/
def Notice.line (n : Notice) : String :=
  n.level.label ++ " " ++ n.message ++ String.join (n.fields.map fun (k, v) => " " ++ k ++ "=" ++ v) ++ "\n"

/-- Prints a text, if that can be done. -/
def Stream.put (stream : Stream) (text : String) : IO Unit := do
  let out ← match stream with
    | .stdout => IO.getStdout
    | .stderr => IO.getStderr
  out.putStr text
  out.flush

/-- Runs a script against the files of the machine, unless something cannot be printed; notices below a level are not
shown. -/
def Script.perform {α : Type} (shown : Option Level) : Script α → IO (Option α)
  | .done a => return some a
  | .readFile path next => do (next (← attempt (IO.FS.readBinFile path))).perform shown
  | .makeDirs path next => do (next (← attempt (IO.FS.createDirAll path))).perform shown
  | .writeFile path bytes next => do
    (next (← attempt (IO.FS.writeBinFile path bytes))).perform shown
  | .renameFile source target next => do
    (next (← attempt (IO.FS.rename source target))).perform shown
  | .drawId next => do (next (uuid (← IO.getRandomBytes 16).toList)).perform shown
  | .notify notice next => do
    match shown with
    | some l => if notice.level.reaches l then discard (attempt (Stream.stderr.put notice.line))
    | none => pure ()
    next.perform shown
  | .print stream text next => do
    match ← attempt (stream.put text) with
    | .ok _ => next.perform shown
    | .error _ => return none

/-! ## The environment -/

/-- The texts between some bytes that end them, as far as they are UTF-8. -/
def textsBetween (ends : UInt8) (bytes : ByteArray) : List String :=
  (bytes.toList.splitOn ends).filterMap fun l => String.fromUTF8? ⟨l.toArray⟩

/-- A name and what stands behind the `=` after it. -/
def readVariable (text : String) : Option (String × String) :=
  match text.splitOn "=" with
  | [] => none
  | [_] => none
  | name :: rest => some (name, "=".intercalate rest)

/-- The lines of a file; none if it cannot be read. -/
def readLines (path : String) (ends : UInt8) : BaseIO (List String) := do
  match ← attempt (IO.FS.readBinFile path) with
  | .ok bytes => return textsBetween ends bytes
  | .error _ => return []

/-- The directory of the user's account, by the number of the user. -/
def readAccount : BaseIO (Option String) := do
  let status ← readLines "/proc/self/status" 10
  let user := status.findSome? fun line =>
    match line.splitOn "\t" with
    | "Uid:" :: own :: _ => some own
    | _ => none
  let accounts ← readLines "/etc/passwd" 10
  return accounts.findSome? fun line =>
    match line.splitOn ":" with
    | [_, _, number, _, _, directory, _] => if some number = user then some directory else none
    | _ => none

/-- What the machine says of itself. -/
def readEnvironment : IO CommandLine.Environment := do
  let vars := (← readLines "/proc/self/environ" 0).filterMap readVariable
  let directory := (← IO.currentDir).toString
  return ⟨vars, ← readAccount, (Path.steps directory).length⟩

end BudgetRules

open BudgetRules in
def main (args : List String) : IO UInt32 := do
  let env ← readEnvironment
  let (merged, _) := ((← (EnvFile.load env.depth env.vars).perform none)).getD (env.vars, false)
  let settings := Settings.ofVariables (Settings.home? env.account merged) merged
  match ← (CommandLine.run env args).perform (Level.ofFilter? (settings.elim "off" (·.logFilter))) with
  | none => return UInt32.ofNat CommandLine.brokenCode
  | some output =>
    discard (attempt (Stream.stdout.put output.stdout))
    discard (attempt (Stream.stderr.put output.stderr))
    return UInt32.ofNat output.code
