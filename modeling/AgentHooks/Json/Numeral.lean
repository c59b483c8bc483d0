import AgentHooks.Json.Basic

/-!
Numbers as JSON writes them. An integer of at most 64 bits stays an integer; any other number becomes
a double by scaling its leading digits, as many as fit into a word, with a power of ten.
-/

namespace AgentHooks.Json

/-- The parts of a written number: digits before the point, digits after it, and the exponent with its
sign, each present as written. -/
structure Numeral where
  negative : Bool
  whole : List Nat
  fraction : Option (List Nat)
  exponent : Option (Bool × List Nat)

def digit? (c : Char) : Option Nat :=
  if c.isDigit then some (c.toNat - '0'.toNat) else none

def digitRun : List Char → List Nat × List Char
  | [] => ([], [])
  | c :: rest => match digit? c with
    | none => ([], c :: rest)
    | some d => let run := digitRun rest; (d :: run.1, run.2)

namespace Numeral

/-- No digit may follow a leading zero, and there has to be a digit. -/
def wholeDigits? (cs : List Char) : Option (List Nat × List Char) :=
  match digitRun cs with
  | ([], _) => none
  | (0 :: _ :: _, _) => none
  | run => some run

def fraction? : List Char → Option (Option (List Nat) × List Char)
  | '.' :: cs => match digitRun cs with
    | ([], _) => none
    | (ds, rest) => some (some ds, rest)
  | cs => some (none, cs)

def exponentDigits? (negative : Bool) (cs : List Char) : Option (Option (Bool × List Nat) × List Char) :=
  match digitRun cs with
  | ([], _) => none
  | (ds, rest) => some (some (negative, ds), rest)

def exponent? : List Char → Option (Option (Bool × List Nat) × List Char)
  | 'e' :: '-' :: cs | 'E' :: '-' :: cs => exponentDigits? true cs
  | 'e' :: '+' :: cs | 'E' :: '+' :: cs => exponentDigits? false cs
  | 'e' :: cs | 'E' :: cs => exponentDigits? false cs
  | cs => some (none, cs)

def ofChars? (cs : List Char) : Option Numeral := do
  let (negative, cs) := match cs with
    | '-' :: rest => (true, rest)
    | _ => (false, cs)
  let (whole, cs) ← wholeDigits? cs
  let (fraction, cs) ← fraction? cs
  let (exponent, cs) ← exponent? cs
  if cs.isEmpty then some ⟨negative, whole, fraction, exponent⟩ else none

/-- Appends digits to a significand while it fits into a word; answers the digits that did not. -/
def absorb (significand : Nat) : List Nat → Nat × List Nat
  | [] => (significand, [])
  | d :: rest =>
    if maxInt < significand * 10 + d then (significand, d :: rest)
    else absorb (significand * 10 + d) rest

def powerOfTen (n : Nat) : Float :=
  Float.ofScientific 1 false n

/-- `significand · 10 ^ exponent` by one multiplication or division with a power of ten (by two where
the power is too small for a double), if the result is finite. -/
def scaled? (significand : Nat) (exponent : Int) : Option Float :=
  let x := Float.ofNat significand
  match exponent with
  | .ofNat n =>
    if n ≤ 308 then
      let y := x * powerOfTen n
      if y.isInf then none else some y
    else if significand = 0 then some x
    else none
  | .negSucc n =>
    if n + 1 ≤ 308 then some (x / powerOfTen (n + 1))
    else if n + 1 ≤ 616 then some (x / powerOfTen 308 / powerOfTen (n + 1 - 308))
    else some 0.0

def ofDigits (ds : List Nat) : Nat :=
  ds.foldl (fun n d => n * 10 + d) 0

def signed (negative : Bool) (x : Float) : Float :=
  if negative then -x else x

/-- A number with a point, an exponent or more digits than a word holds. An exponent that overflows a
word of 32 bits leaves nothing but zero or no value. -/
def double? (n : Numeral) (significand : Nat) (dropped : Nat) : Option Float :=
  let (significand, places) := match n.fraction with
    | none => (significand, (dropped : Int))
    | some ds =>
      let (significand, rest) := absorb significand ds
      (significand, (dropped : Int) - ((ds.length - rest.length : Nat) : Int))
  match n.exponent with
  | none => scaled? significand places
  | some (negative, ds) =>
    let e := ofDigits ds
    if Nat.pow 2 31 ≤ e then
      if negative || significand = 0 then some 0.0 else none
    else scaled? significand (if negative then places - e else places + e)

/-- The value of a written number. A negative zero, and a negative number below the signed words, are
doubles. -/
def value (n : Numeral) : Json :=
  let (significand, rest) := absorb 0 n.whole
  if rest.isEmpty && n.fraction.isNone && n.exponent.isNone then
    if !n.negative then int significand
    else if significand = 0 || Nat.pow 2 63 < significand then float (-(Float.ofNat significand))
    else int (-significand)
  else
    match double? n significand rest.length with
    | some x => float (signed n.negative x)
    | none => unreadable

end Numeral

end AgentHooks.Json
