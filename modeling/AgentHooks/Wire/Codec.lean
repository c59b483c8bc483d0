import AgentHooks.Wire.DecodeError

/-!
A codec reads a JSON document as a value and writes the value back. The ones here read single values;
records are put together from them in `Wire.Schema`.
-/

namespace AgentHooks

abbrev Decoded (α : Type) := Except DecodeError α

structure Codec (α : Type) where
  read : Json → Decoded α
  write : α → Json

/-- How a part of a document reaches its codec: as it stands, or after it was set aside, as the members of
a value are until the one that tells its kind has been found. -/
inductive Passage where
  | direct
  | setAside
  deriving DecidableEq

namespace Passage

def isNothing : Passage → Json → Bool
  | _, .null => true
  | setAside, .object [] => true
  | _, _ => false

end Passage

namespace Codec

def string : Codec String where
  read
    | .string s => .ok s
    | other => .error (.wrongType other "a string")
  write := .string

def bool : Codec Bool where
  read
    | .bool b => .ok b
    | other => .error (.wrongType other "a boolean")
  write := .bool

def below (bound : Nat) (name : String) : Codec Nat where
  read
    | .int n => if 0 ≤ n ∧ n < bound then .ok n.toNat else .error (.wrongValue (.int n) name)
    | other => .error (.wrongType other name)
  write n := .int n

def word32 : Codec Nat := below (Nat.pow 2 32) "u32"

def word64 : Codec Nat := below (Nat.pow 2 64) "u64"

def json : Codec Json where
  read j := if j.readable then .ok j.canonical else .error .unreadable
  write j := j

def timestamp : Codec Timestamp where
  read
    | .string s => (Timestamp.ofText? s).mapError .wrongTimestamp
    | other => .error (.wrongType other "an RFC 3339 formatted date and time string")
  write t := .string t.text

def list {α : Type} (item : Codec α) : Codec (List α) where
  read
    | .array items => items.mapM item.read
    | other => .error (.wrongType other "a sequence")
  write items := .array (items.map item.write)

def putEntry {α : Type} (key : String) (value : α) : List (String × α) → List (String × α)
  | [] => [(key, value)]
  | (other, old) :: rest =>
    if key < other then (key, value) :: (other, old) :: rest
    else if key = other then (key, value) :: rest
    else (other, old) :: putEntry key value rest

/-- Entries under arbitrary names, sorted by name; of two under one name the later counts. -/
def table {α : Type} (entry : Codec α) : Codec (List (String × α)) where
  read
    | .object members => do
      let entries ← members.mapM fun (name, value) => (entry.read value).map (name, ·)
      .ok (entries.foldl (fun sorted e => putEntry e.1 e.2 sorted) [])
    | other => .error (.wrongType other "a map")
  write entries := .object (entries.map fun (name, value) => (name, entry.write value))

def variantNamed {α : Type} (variants : List (String × α)) (name : String) : Decoded α :=
  match variants.lookup name with
  | some a => .ok a
  | none => .error (.unknownVariant name (variants.map (·.1)))

/-- One of finitely many names, written alone or as the only key over nothing. -/
def variantBy {α : Type} (passage : Passage) (variants : List (String × α)) (nameOf : α → String) :
    Codec α where
  read
    | .string name => variantNamed variants name
    | .object [(name, content)] => do
      let a ← variantNamed variants name
      if passage.isNothing content then .ok a else .error (.wrongType content "unit")
    | .object _ => .error .singleKeyExpected
    | other => .error (.wrongType other "string or map")
  write a := .string (nameOf a)

def variant {α : Type} (variants : List (String × α)) (nameOf : α → String) : Codec α :=
  variantBy .direct variants nameOf

end Codec

end AgentHooks
