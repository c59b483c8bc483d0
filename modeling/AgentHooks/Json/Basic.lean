/-!
JSON documents. A document keeps an object's members as they are written, repeated names included;
its canonical form, with one member a name in the order of names, is what two equal documents share.
-/

namespace AgentHooks

/-- A JSON document. `unreadable` stands for a part that is written correctly and yet has no value: a
number beyond every double, half of a surrogate pair, a nesting that is too deep. It does no harm as
long as nobody needs that part. -/
inductive Json where
  | null
  | bool (b : Bool)
  | int (n : Int)
  | float (x : Float)
  | string (s : String)
  | array (items : List Json)
  | object (members : List (String × Json))
  | unreadable

namespace Json

instance : Inhabited Json := ⟨null⟩

/-- Integers span the signed and the unsigned words of 64 bits; beyond them a number is a double. -/
def maxInt : Nat := Nat.pow 2 64 - 1

mutual

def readable : Json → Bool
  | unreadable => false
  | array items => readableItems items
  | object members => readableMembers members
  | _ => true

def readableItems : List Json → Bool
  | [] => true
  | item :: rest => item.readable && readableItems rest

def readableMembers : List (String × Json) → Bool
  | [] => true
  | (_, value) :: rest => value.readable && readableMembers rest

end

def put (name : String) (value : Json) : List (String × Json) → List (String × Json)
  | [] => [(name, value)]
  | (other, old) :: rest =>
    if name < other then (name, value) :: (other, old) :: rest
    else if name = other then (name, value) :: rest
    else (other, old) :: put name value rest

/-- The members sorted by name; of two with one name the later counts. -/
def sortMembers (members : List (String × Json)) : List (String × Json) :=
  members.foldl (fun sorted member => put member.1 member.2 sorted) []

mutual

def canonical : Json → Json
  | array items => array (canonicalItems items)
  | object members => object (sortMembers (canonicalMembers members))
  | other => other

def canonicalItems : List Json → List Json
  | [] => []
  | item :: rest => item.canonical :: canonicalItems rest

def canonicalMembers : List (String × Json) → List (String × Json)
  | [] => []
  | (name, value) :: rest => (name, value.canonical) :: canonicalMembers rest

end

def member? (name : String) : Json → Option Json
  | object members => members.lookup name
  | _ => none

def string? : Json → Option String
  | string s => some s
  | _ => none

def bool? : Json → Option Bool
  | bool b => some b
  | _ => none

/-- A number that is written as an integer and is not negative. -/
def nat? : Json → Option Nat
  | int (.ofNat n) => some n
  | _ => none

def float? : Json → Option Float
  | int (.ofNat n) => some (.ofNat n)
  | int (.negSucc n) => some (-(.ofNat (n + 1)))
  | float x => some x
  | _ => none

def items? : Json → Option (List Json)
  | array items => some items
  | _ => none

def isNull : Json → Bool
  | null => true
  | _ => false

def ofNat (n : Nat) : Json :=
  int n

def ofOption {α : Type} (write : α → Json) : Option α → Json
  | some a => write a
  | none => null

end Json

end AgentHooks
