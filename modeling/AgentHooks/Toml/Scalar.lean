import AgentHooks.Decimal.Nearest
import AgentHooks.Json.Token
import AgentHooks.Text.Blank
import AgentHooks.Timestamp.Calendar

/-!
Words as values: switches, numbers and dates. A value is the JSON document that stands for it. Dates
have no counterpart there; they become objects without members, which nobody takes for a value of
another kind.
-/

namespace AgentHooks.Toml

def digitValue (c : Char) : Nat :=
  (Json.hexDigit? c).getD 0

def ofDigits (base : Nat) (digits : List Char) : Nat :=
  digits.foldl (fun n c => n * base + digitValue c) 0

/-- Digits that may be grouped by single underscores, without them. -/
def grouped? (isDigit : Char → Bool) (cs : List Char) : Option (List Char) :=
  let groups := Text.splitWhere (· == '_') cs
  if groups.all fun g => !g.isEmpty && g.all isDigit then some groups.flatten else none

def wholeDigits? (cs : List Char) : Option (List Char) :=
  match grouped? Char.isDigit cs with
  | some ('0' :: _ :: _) => none
  | digits => digits

def signed (cs : List Char) : Bool × List Char :=
  match cs with
  | '-' :: rest => (true, rest)
  | '+' :: rest => (false, rest)
  | _ => (false, cs)

def int? (n : Int) : Option Json :=
  if -(Nat.pow 2 63 : Int) ≤ n ∧ n < Nat.pow 2 63 then some (.int n) else none

def isBase (base : Nat) (c : Char) : Bool :=
  match Json.hexDigit? c with
  | some d => d < base
  | none => false

def natOfBase? (base : Nat) (cs : List Char) : Option Json :=
  (grouped? (isBase base) cs).bind fun digits => int? (ofDigits base digits)

def integer? (cs : List Char) : Option Json :=
  match cs with
  | '0' :: 'x' :: rest => natOfBase? 16 rest
  | '0' :: 'o' :: rest => natOfBase? 8 rest
  | '0' :: 'b' :: rest => natOfBase? 2 rest
  | _ =>
    let (negative, rest) := signed cs
    (wholeDigits? rest).bind fun digits =>
      let n : Int := ofDigits 10 digits
      int? (if negative then -n else n)

/-- A double as JSON has it: without infinities. A number too large is refused; one too far below zero
has no value. -/
def double? (negative : Bool) (x : Float) : Option Json :=
  if x.isInf then (if negative then some .null else none)
  else some (.float (if negative then -x else x))

def fractional? (cs : List Char) : Option Json := do
  let (negative, rest) := signed cs
  let (mantissa, exponent) := rest.span fun c => c != 'e' && c != 'E'
  let (whole, fraction) := mantissa.span (· != '.')
  if fraction.isEmpty && exponent.isEmpty then none
  else
    let whole ← wholeDigits? whole
    let fraction ← match fraction with
      | [] => some []
      | _ :: digits => grouped? Char.isDigit digits
    let power ← match exponent with
      | [] => some (0 : Int)
      | _ :: digits =>
        let (below, digits) := signed digits
        (grouped? Char.isDigit digits).map fun ds =>
          if below then -(ofDigits 10 ds : Int) else ofDigits 10 ds
    double? negative (Decimal.nearest (ofDigits 10 (whole ++ fraction)) (power - fraction.length))

/-- The numbers that are none have no value in JSON. -/
def special? (cs : List Char) : Option Json :=
  let name := String.ofList (signed cs).2
  if name = "inf" ∨ name = "nan" then some .null else none

def twoDigits? : List Char → Option (Nat × List Char)
  | a :: b :: rest =>
    if a.isDigit && b.isDigit then some (ofDigits 10 [a, b], rest) else none
  | _ => none

def field? (least most : Nat) (cs : List Char) : Option (Nat × List Char) :=
  (twoDigits? cs).bind fun (n, rest) => if least ≤ n ∧ n ≤ most then some (n, rest) else none

def afterDate? (cs : List Char) : Option (List Char) := do
  let (century, cs) ← twoDigits? cs
  let (year, cs) ← twoDigits? cs
  let '-' :: cs := cs | none
  let (month, cs) ← field? 1 12 cs
  let '-' :: cs := cs | none
  let (_, cs) ← field? 1 (Calendar.monthLength (century * 100 + year : Nat) month) cs
  some cs

def afterTime? (cs : List Char) : Option (List Char) := do
  let (_, cs) ← field? 0 23 cs
  let ':' :: cs := cs | none
  let (_, cs) ← field? 0 59 cs
  let ':' :: cs := cs | none
  let (_, cs) ← field? 0 60 cs
  match cs with
  | '.' :: fraction =>
    let rest := fraction.dropWhile Char.isDigit
    if rest.length < fraction.length then some rest else none
  | _ => some cs

/-- A zone, if there is one, whose offset in hours and minutes is accepted. -/
def isZone (accepts : Nat → Nat → Bool) (cs : List Char) : Bool :=
  match cs with
  | [] | ['Z'] | ['z'] => true
  | sign :: rest =>
    (sign == '+' || sign == '-') &&
      match twoDigits? rest with
      | some (hours, ':' :: rest) =>
        match twoDigits? rest with
        | some (minutes, []) => accepts hours minutes
        | _ => false
      | _ => false

def isMomentWith (accepts : Nat → Nat → Bool) (cs : List Char) : Bool :=
  match afterDate? cs with
  | some [] => true
  | some (gap :: rest) =>
    (gap == 'T' || gap == 't' || gap == ' ') && (afterTime? rest).any (isZone accepts)
  | none => (afterTime? cs).any (·.isEmpty)

def isMoment (cs : List Char) : Bool :=
  isMomentWith (fun hours minutes => hours ≤ 23 && minutes ≤ 59) cs

/-- A quoted text that is a date. Its zone may be as far away as a whole day, in whatever minutes. -/
def isQuotedMoment (s : String) : Bool :=
  isMomentWith (fun hours minutes => hours * 60 + minutes ≤ 1440) s.toList

def momentJson : Json :=
  .object []

def scalar? (word : List Char) : Option Json :=
  if word = "true".toList then some (.bool true)
  else if word = "false".toList then some (.bool false)
  else if isMoment word then some momentJson
  else ((special? word).or (fractional? word)).or (integer? word)

end AgentHooks.Toml
