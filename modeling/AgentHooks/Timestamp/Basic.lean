import AgentHooks.Timestamp.Calendar

/-!
Instants in universal time, held as the fields that are written.
-/

namespace AgentHooks

/-- A date and a time of day in universal time. Second 60 is a leap second. -/
structure Timestamp where
  year : Int
  month : Nat
  day : Nat
  hour : Nat
  minute : Nat
  second : Nat
  nanos : Nat
  deriving DecidableEq, Inhabited

namespace Timestamp

def padded (width n : Nat) : List Char :=
  let digits := Nat.toDigits 10 n
  List.replicate (width - digits.length) '0' ++ digits

/-- Four digits; a sign stands before a year that four digits cannot tell. -/
def yearText (year : Int) : List Char :=
  match year with
  | .ofNat n => if n < 10000 then padded 4 n else '+' :: padded 4 n
  | .negSucc n => '-' :: padded 4 (n + 1)

def dateText (t : Timestamp) : List Char :=
  yearText t.year ++ '-' :: padded 2 t.month ++ '-' :: padded 2 t.day

def timeText (t : Timestamp) : List Char :=
  padded 2 t.hour ++ ':' :: padded 2 t.minute ++ ':' :: padded 2 t.second

/-- No fraction, or three, six or nine digits of it, as few as tell it exactly. -/
def fractionText (nanos : Nat) : List Char :=
  if nanos = 0 then []
  else if nanos % 1000000 = 0 then '.' :: padded 3 (nanos / 1000000)
  else if nanos % 1000 = 0 then '.' :: padded 6 (nanos / 1000)
  else '.' :: padded 9 nanos

def text (t : Timestamp) : String :=
  String.ofList (t.dateText ++ 'T' :: t.timeText ++ fractionText t.nanos ++ ['Z'])

/-- The form shown to people: whole seconds, with the zone in words. -/
def shown (t : Timestamp) : String :=
  String.ofList (t.dateText ++ ' ' :: t.timeText ++ " UTC".toList)

/-- Moves an instant by less than a day. -/
def addMinutes (t : Timestamp) (minutes : Int) : Timestamp :=
  let total := t.hour * 60 + t.minute + minutes
  let (year, month, day) :=
    if total < 0 then Calendar.yesterday t.year t.month t.day
    else if 1440 ≤ total then Calendar.tomorrow t.year t.month t.day
    else (t.year, t.month, t.day)
  let ofDay := (total % 1440).toNat
  { t with year, month, day, hour := ofDay / 60, minute := ofDay % 60 }

def seconds (t : Timestamp) : Int :=
  Calendar.dayNumber t.year t.month t.day * 86400 + t.hour * 3600 + t.minute * 60 + t.second

def minutesSince (later earlier : Timestamp) : Int :=
  ((later.seconds * 1000000000 + later.nanos) - (earlier.seconds * 1000000000 + earlier.nanos)).tdiv
    60000000000

def ofNanos (n : Nat) : Timestamp :=
  let seconds := n / 1000000000
  let days := seconds / 86400
  let (year, month, day) := days.repeat (fun d => Calendar.tomorrow d.1 d.2.1 d.2.2) ((1970 : Int), 1, 1)
  { year, month, day
    hour := seconds % 86400 / 3600, minute := seconds % 3600 / 60, second := seconds % 60
    nanos := n % 1000000000 }

end Timestamp

end AgentHooks
