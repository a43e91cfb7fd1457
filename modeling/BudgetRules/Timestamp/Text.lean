import BudgetRules.Binary64.Shortest
import BudgetRules.Timestamp
import BudgetRules.Unicode.Blank

/-!
# Timestamps as text

A timestamp is written in UTC with as many places after the second as it needs, in groups of three.
The reader takes any offset from UTC; it lets blanks stand between the parts and `UTC`, in any case, in
place of an offset.
-/

namespace BudgetRules.Timestamp

/-! ## Writer -/

/-- A number with at least so many digits. -/
def padded (width n : Nat) : String :=
  let ds := Binary64.digitsOf n
  String.ofList (List.replicate (width - ds.length) '0' ++ ds)

/-- A year of four digits; outside of them it has more, and a sign. -/
def yearText (y : Int) : String :=
  if 0 ≤ y ∧ y ≤ 9999 then padded 4 y.toNat
  else if y < 0 then "-" ++ padded 4 y.natAbs
  else "+" ++ padded 4 y.toNat

/-- The places after a second. -/
def fractionText (nanos : Nat) : String :=
  if nanos = 0 then ""
  else if nanos % 1000000 = 0 then "." ++ padded 3 (nanos / 1000000)
  else if nanos % 1000 = 0 then "." ++ padded 6 (nanos / 1000)
  else "." ++ padded 9 nanos

/-- The timestamp in UTC. -/
def text (t : Timestamp) : String :=
  let d := t.date
  let s := t.secondOfDay
  let extra := t.nanos / 1000000000
  yearText d.year ++ "-" ++ padded 2 d.month ++ "-" ++ padded 2 d.day ++ "T" ++
    padded 2 (s / 3600) ++ ":" ++ padded 2 (s / 60 % 60) ++ ":" ++ padded 2 (s % 60 + extra) ++
    fractionText (t.nanos % 1000000000) ++ "Z"

/-! ## Reader -/

/-- Why a text is not a timestamp. -/
inductive Refusal
  | invalid
  | tooShort
  | tooLong
  | outOfRange
  | impossible
deriving DecidableEq

def Refusal.text : Refusal → String
  | .invalid => "input contains invalid characters"
  | .tooShort => "premature end of input"
  | .tooLong => "trailing input"
  | .outOfRange => "input is out of range"
  | .impossible => "no possible date and time matching input"

/-- Reads a part of a text; the state is what is left of it. -/
abbrev Reader := StateT (List Char) (Except Refusal)

namespace Reader

/-- Passes over blanks. -/
def blanks : Reader Unit := modify fun cs => cs.dropWhile Unicode.isBlank

/-- Passes over one character. -/
def character (c : Char) : Reader Unit := do
  match ← get with
  | [] => throw .tooShort
  | d :: cs => if d = c then set cs else throw .invalid

/-- A number of at least one and at most so many digits. -/
def number (width : Nat) : Reader Nat := do
  let cs ← get
  let ds := (cs.take width).takeWhile Char.isDigit
  if cs.isEmpty then throw .tooShort
  else if ds.isEmpty then throw .invalid
  else
    set (cs.drop ds.length)
    return ds.foldl (fun n c => 10 * n + (c.toNat - 48)) 0

/-- A number from `low` to `high` of at most two digits, after blanks. -/
def within (low high : Nat) : Reader Nat := do
  blanks
  let n ← number 2
  if low ≤ n ∧ n ≤ high then return n else throw .outOfRange

/-- A year: four digits at most, or a sign and any number of digits. -/
def year : Reader Int := do
  blanks
  let cs ← get
  let y : Int ← match cs with
    | '-' :: r => do
      set r
      let n ← number r.length
      pure (-(n : Int))
    | '+' :: r => do
      set r
      let n ← number r.length
      pure (n : Int)
    | _ => do
      let n ← number 4
      pure (n : Int)
  if -2147483648 ≤ y ∧ y ≤ 2147483647 then return y else throw .outOfRange

/-- The nanoseconds after a point; places beyond the ninth are passed over. -/
def fraction : Reader Nat := do
  match ← get with
  | '.' :: r => do
    set r
    let n ← number 9
    let places := ((r.take 9).takeWhile Char.isDigit).length
    modify fun cs => cs.dropWhile Char.isDigit
    return n * Nat.pow 10 (9 - places)
  | _ => return 0

/-- Two digits of an offset. -/
def offsetDigits : Reader (Char × Char) := do
  match ← get with
  | a :: b :: cs => do
    set cs
    return (a, b)
  | [a] => if a.toNat < 128 then throw .tooShort else throw .invalid
  | [] => throw .tooShort

/-- An offset with a sign, in seconds. -/
def signedOffset (sign : Int) : Reader Int := do
  let (a, b) ← offsetDigits
  unless a.isDigit && b.isDigit do throw .invalid
  modify fun cs => cs.dropWhile fun c => c == ':' || Unicode.isBlank c
  let (c, d) ← offsetDigits
  unless c.isDigit && d.isDigit do throw .invalid
  unless c.toNat ≤ '5'.toNat do throw .outOfRange
  let hours : Int := (a.toNat - 48) * 10 + (b.toNat - 48)
  let minutes : Int := (c.toNat - 48) * 10 + (d.toNat - 48)
  return sign * (hours * 3600 + minutes * 60)

/-- Is a letter one of these two? -/
def isOneOf (c upper lower : Char) : Bool := c == upper || c == lower

/-- An offset from UTC, in seconds. -/
def offset : Reader Int := do
  match ← get with
  | [] => throw .tooShort
  | c :: cs =>
    match cs with
    | d :: e :: rest =>
      if isOneOf c 'U' 'u' && isOneOf d 'T' 't' && isOneOf e 'C' 'c' then
        set rest
        return 0
    | _ => pure ()
    if isOneOf c 'Z' 'z' then
      set cs
      return 0
    else if c = '+' then
      set cs
      signedOffset 1
    else if c = '-' ∨ c.toNat = 0x2212 then
      set cs
      signedOffset (-1)
    else throw .invalid

/-- A date, a time of day and an offset. -/
def timestamp : Reader Timestamp := do
  let y ← year
  blanks
  character '-'
  let month ← within 1 12
  blanks
  character '-'
  let day ← within 1 31
  match ← get with
  | [] => throw .tooShort
  | c :: cs => if c = 'T' ∨ c = 't' ∨ c = ' ' then set cs else throw .invalid
  let hour ← within 0 23
  blanks
  character ':'
  let minute ← within 0 59
  blanks
  character ':'
  let second ← within 0 60
  let nanos ← fraction
  blanks
  let off ← offset
  blanks
  unless (← get).isEmpty do throw .tooLong
  let date : Date := ⟨y, month, day⟩
  unless -262143 ≤ y ∧ y ≤ 262142 ∧ date.valid do throw .outOfRange
  unless -86400 < off ∧ off < 86400 do throw .outOfRange
  let seconds := date.toDays * 86400 + hour * 3600 + minute * 60 + min second 59 - off
  let t : Timestamp := ⟨seconds, if second = 60 then nanos + 1000000000 else nanos⟩
  unless -262143 ≤ t.date.year ∧ t.date.year ≤ 262142 do throw .impossible
  return t

end Reader

/-- The timestamp that a text gives. -/
def read (text : String) : Except Refusal Timestamp := (Reader.timestamp.run text.toList).map (·.1)

end BudgetRules.Timestamp
