import AgentHooks.Wire.Codec

/-!
Records as lists of fields. A record is read from an object in one pass over the members, in the order
in which they stand, so the first bad member is the one reported; or from an array, field by field.
-/

namespace AgentHooks

/-- One field: its name, further names it answers to, how its value is read and written (a field that
writes nothing is left out), and the value it takes when the document does not mention it. -/
structure Field (α : Type) where
  name : String
  aliases : List String
  read : Json → Decoded α
  write : α → Option Json
  absent : Option α

namespace Field

def required {α : Type} (name : String) (codec : Codec α) : Field α :=
  ⟨name, [], codec.read, fun a => some (codec.write a), none⟩

def defaulted {α : Type} (name : String) (codec : Codec α) (absent : α) : Field α :=
  ⟨name, [], codec.read, fun a => some (codec.write a), some absent⟩

/-- May be absent or null, and is left out when it has no value. -/
def optional {α : Type} (name : String) (codec : Codec α) : Field (Option α) where
  name := name
  aliases := []
  read
    | .null => .ok none
    | other => (codec.read other).map some
  write a := a.map codec.write
  absent := some none

def orNamed {α : Type} (f : Field α) (other : String) : Field α :=
  { f with aliases := other :: f.aliases }

def answersTo {α : Type} (f : Field α) (key : String) : Bool :=
  key == f.name || f.aliases.contains key

end Field

/-- The fields of a record in their order, over the tuple of their values. -/
inductive Schema : Type → Type 1 where
  | done : Schema Unit
  | field {α β : Type} (f : Field α) (rest : Schema β) : Schema (α × β)

namespace Schema

def size : {α : Type} → Schema α → Nat
  | _, done => 0
  | _, field _ rest => rest.size + 1

def Draft : {α : Type} → Schema α → Type
  | _, done => Unit
  | _, @field a _ _ rest => Option a × rest.Draft

def blank : {α : Type} → (s : Schema α) → s.Draft
  | _, done => ()
  | _, field _ rest => (none, rest.blank)

def Draft.split {α β : Type} {f : Field α} {rest : Schema β} (d : (field f rest).Draft) :
    Option α × rest.Draft := d

def Draft.join {α β : Type} {f : Field α} {rest : Schema β} (slot : Option α) (more : rest.Draft) :
    (field f rest).Draft := (slot, more)

def visit : {α : Type} → (s : Schema α) → s.Draft → String → Json → Decoded (Option s.Draft)
  | _, done, _, _, _ => .ok none
  | _, field f rest, draft, key, value =>
    let (slot, more) := draft.split
    if f.answersTo key then
      match slot with
      | some _ => .error (.duplicateField f.name)
      | none => (f.read value).map fun a => some (.join (some a) more)
    else (rest.visit more key value).map fun visited => visited.map (.join slot ·)

def finish : {α : Type} → (s : Schema α) → s.Draft → Decoded α
  | _, done, _ => .ok ()
  | _, field f rest, draft =>
    let (slot, more) := draft.split
    match slot.or f.absent with
    | none => .error (.missingField f.name)
    | some a => (rest.finish more).map (a, ·)

/-- One pass over the members: the draft, and the members that no field answers to. -/
def collect {α : Type} (s : Schema α) :
    s.Draft → List (String × Json) → Decoded (s.Draft × List (String × Json))
  | draft, [] => .ok (draft, [])
  | draft, (key, value) :: rest => do
    match ← s.visit draft key value with
    | some draft => s.collect draft rest
    | none =>
      let (draft, others) ← s.collect draft rest
      .ok (draft, (key, value) :: others)

def readMembers {α : Type} (s : Schema α) (members : List (String × Json)) : Decoded α := do
  let (draft, _) ← s.collect s.blank members
  s.finish draft

/-- The fields from the items of an array, the first field standing at `position`; `tooShort` is the error
when the field at a position is absent and has no default. -/
def readFrom (tooShort : Nat → DecodeError) (position : Nat) :
    {α : Type} → (s : Schema α) → List Json → Decoded (α × List Json)
  | _, done, items => .ok ((), items)
  | _, field f rest, [] =>
    match f.absent with
    | none => .error (tooShort position)
    | some a => (rest.readFrom tooShort (position + 1) []).map fun (b, others) => ((a, b), others)
  | _, field f rest, item :: items => do
    let a ← f.read item
    let (b, others) ← rest.readFrom tooShort (position + 1) items
    .ok ((a, b), others)

def elements (n : Nat) : String :=
  toString n ++ if n = 1 then " element" else " elements"

def noMore {α : Type} (s : Schema α) : Passage → String
  | .direct => "fewer elements in array"
  | .setAside => elements s.size ++ " in sequence"

/-- The fields of something that messages call `name` from the items of an array, each in its position.
An array that ends too early is reported with the position of the first field it lacks. -/
def readPositions {α : Type} (s : Schema α) (passage : Passage) (name : String) (items : List Json) :
    Decoded α := do
  let tooShort (position : Nat) := .wrongLength position (name ++ " with " ++ elements s.size)
  let (values, others) ← s.readFrom tooShort 0 items
  if others.isEmpty then .ok values else .error (.wrongLength items.length (s.noMore passage))

def writeMembers : {α : Type} → Schema α → α → List (String × Json)
  | _, done, _ => []
  | _, field f rest, (a, b) =>
    match f.write a with
    | some value => (f.name, value) :: rest.writeMembers b
    | none => rest.writeMembers b

end Schema

namespace Codec

def recordBy {τ α : Type} (passage : Passage) (name : String) (s : Schema τ) (make : τ → α)
    (fields : α → τ) : Codec α where
  read
    | .object members => (s.readMembers members).map make
    | .array items => (s.readPositions passage ("struct " ++ name) items).map make
    | other => .error (.wrongType other ("struct " ++ name))
  write a := .object (s.writeMembers (fields a))

def record {τ α : Type} (name : String) (s : Schema τ) (make : τ → α) (fields : α → τ) : Codec α :=
  recordBy .direct name s make fields

/-- A record that keeps the members it does not name, sorted; it is never read from an array. -/
def openRecord {τ α : Type} (name : String) (s : Schema τ) (make : τ → List (String × Json) → α)
    (fields : α → τ) (others : α → List (String × Json)) : Codec α where
  read
    | .object members => do
      let (draft, rest) ← s.collect s.blank members
      if Json.readableMembers rest then
        (s.finish draft).map fun values => make values (Json.sortMembers (Json.canonicalMembers rest))
      else .error .unreadable
    | other => .error (.wrongType other ("struct " ++ name))
  write a := .object (s.writeMembers (fields a) ++ others a)

end Codec

end AgentHooks
