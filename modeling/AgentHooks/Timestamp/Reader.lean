import AgentHooks.Timestamp.Basic
import AgentHooks.Text.Blank

/-!
Instants read from their RFC 3339 form. Reading is lenient where the form allows no doubt: fields
need no leading zeros, blanks may stand around them, the zone may be `Z`, `UTC` or an offset. Each
field is checked as it is read, so of two faults the first one in the text is reported.
-/

namespace AgentHooks.Timestamp

inductive ReadError where
  | outOfRange
  /-- Every field is within its bounds, but the instant lies outside the years that are instants. -/
  | impossible
  | tooShort
  | invalid
  | tooLong
  deriving DecidableEq

def ReadError.message : ReadError → String
  | outOfRange => "input is out of range"
  | impossible => "no possible date and time matching input"
  | tooShort => "premature end of input"
  | invalid => "input contains invalid characters"
  | tooLong => "trailing input"

def skipBlanks (cs : List Char) : List Char :=
  cs.dropWhile Text.isBlank

def digitsUpTo (most : Nat) (cs : List Char) : List Char × List Char :=
  let digits := (cs.take most).takeWhile Char.isDigit
  (digits, cs.drop digits.length)

def valueOf (digits : List Char) : Nat :=
  digits.foldl (fun n c => n * 10 + (c.toNat - '0'.toNat)) 0

/-- A number of one to `most` digits that no word of 64 bits overflows. -/
def number (most : Nat) (cs : List Char) : Except ReadError (Nat × List Char) :=
  match digitsUpTo most cs with
  | ([], []) => .error .tooShort
  | ([], _) => .error .invalid
  | (digits, rest) =>
    if valueOf digits < Nat.pow 2 63 then .ok (valueOf digits, rest) else .error .outOfRange

def field (low high : Nat) (cs : List Char) : Except ReadError (Nat × List Char) := do
  let (n, rest) ← number 2 (skipBlanks cs)
  if low ≤ n ∧ n ≤ high then .ok (n, rest) else .error .outOfRange

/-- A year of up to four digits, or of any number of digits after a sign. -/
def yearField (cs : List Char) : Except ReadError (Int × List Char) := do
  let (year, rest) ← match skipBlanks cs with
    | '-' :: cs => (number cs.length cs).map fun (n, rest) => (-(n : Int), rest)
    | '+' :: cs => (number cs.length cs).map fun (n, rest) => ((n : Int), rest)
    | cs => (number 4 cs).map fun (n, rest) => ((n : Int), rest)
  if -(Nat.pow 2 31 : Int) ≤ year ∧ year < Nat.pow 2 31 then .ok (year, rest) else .error .outOfRange

def literal (c : Char) (cs : List Char) : Except ReadError (List Char) :=
  match skipBlanks cs with
  | [] => .error .tooShort
  | d :: rest => if d = c then .ok rest else .error .invalid

/-- A fraction of a second in nanoseconds; digits after the ninth are dropped. -/
def fraction : List Char → Except ReadError (Nat × List Char)
  | '.' :: cs => do
    let (_, rest) ← number 9 cs
    let digits := (digitsUpTo 9 cs).1
    .ok (valueOf digits * Nat.pow 10 (9 - digits.length), rest.dropWhile Char.isDigit)
  | cs => .ok (0, cs)

/-- Two digits of an offset. The text is too short for them if it ends within the next two bytes, so one
last character outside ASCII is wrong and not short. -/
def offsetDigits : List Char → Except ReadError (Nat × List Char)
  | [] => .error .tooShort
  | [c] => .error (if c.utf8Size = 1 then .tooShort else .invalid)
  | a :: b :: rest =>
    if a.isDigit && b.isDigit then .ok (valueOf [a, b], rest) else .error .invalid

def offset (sign : Int) (cs : List Char) : Except ReadError (Int × List Char) := do
  let (hours, cs) ← offsetDigits cs
  let (minutes, cs) ← offsetDigits (cs.dropWhile fun c => c == ':' || Text.isBlank c)
  if minutes < 60 then .ok (sign * (hours * 60 + minutes), cs) else .error .outOfRange

def zone (cs : List Char) : Except ReadError (Int × List Char) :=
  match cs with
  | c :: rest =>
    if c = 'Z' ∨ c = 'z' then .ok (0, rest)
    else if c = '+' then offset 1 rest
    else if c = '-' ∨ c = '−' then offset (-1) rest
    else if (cs.take 3).map Char.toLower = ['u', 't', 'c'] then .ok (0, cs.drop 3)
    else .error .invalid
  | [] => .error .tooShort

def isYear (year : Int) : Bool :=
  -262143 ≤ year && year ≤ 262142

/-- The instant at which a clock that is some minutes ahead of universal time shows the given fields. -/
def universal (shown : Timestamp) (ahead : Int) : Except ReadError Timestamp :=
  if ahead ≤ -1440 ∨ 1440 ≤ ahead then .error .outOfRange
  else
    let t := if ahead = 0 then shown else shown.addMinutes (-ahead)
    if isYear t.year then .ok t else .error .impossible

def ofText? (text : String) : Except ReadError Timestamp := do
  let (year, cs) ← yearField text.toList
  let cs ← literal '-' cs
  let (month, cs) ← field 1 12 cs
  let cs ← literal '-' cs
  let (day, cs) ← field 1 31 cs
  let cs ← match cs with
    | [] => .error .tooShort
    | c :: rest => if c = 'T' ∨ c = 't' ∨ c = ' ' then .ok rest else .error .invalid
  let (hour, cs) ← field 0 23 cs
  let cs ← literal ':' cs
  let (minute, cs) ← field 0 59 cs
  let cs ← literal ':' cs
  let (second, cs) ← field 0 60 cs
  let (nanos, cs) ← fraction cs
  let (ahead, cs) ← zone (skipBlanks cs)
  if !(skipBlanks cs).isEmpty then .error .tooLong
  else if Calendar.monthLength year month < day || !isYear year then .error .outOfRange
  else universal { year, month, day, hour, minute, second, nanos } ahead

end AgentHooks.Timestamp
