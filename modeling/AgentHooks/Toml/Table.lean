import AgentHooks.Toml.Scalar

/-!
Tables under construction. What may still be added to a table depends on what brought it about, so each
table remembers that until the text has been read to its end.
-/

namespace AgentHooks.Toml

/-- What brought a table about: its own header, a longer header that leads through it, or a dotted name
that leads through it. -/
inductive Origin where
  | header
  | passage
  | dotted
  deriving DecidableEq

inductive Item where
  | value (v : Json)
  | table (origin : Origin) (entries : List (String × Item))
  /-- The tables that headers in double brackets have added, each one before its predecessor. -/
  | series (tables : List (List (String × Item)))

abbrev Entries := List (String × Item)

def momentName : String := "$__toml_private_datetime"

/-- A table that begins with the text of a date is that date, whatever else it holds. No document is made
of one that promises a date and does not hold one. -/
def tableJson : List (String × Json) → Json
  | [] => .object []
  | (name, value) :: rest =>
    if name = momentName then
      match value with
      | .string s => if isQuotedMoment s then momentJson else .unreadable
      | _ => .unreadable
    else .object ((name, value) :: rest)

mutual

def Item.toJson : Item → Json
  | .value v => v
  | .table _ entries => tableJson (entriesToJson entries)
  | .series tables => .array (tablesToJson tables).reverse

def entriesToJson : List (String × Item) → List (String × Json)
  | [] => []
  | (name, item) :: rest => (name, item.toJson) :: entriesToJson rest

def tablesToJson : List (List (String × Item)) → List Json
  | [] => []
  | entries :: rest => tableJson (entriesToJson entries) :: tablesToJson rest

end

namespace Entries

def toJson (entries : Entries) : Json :=
  tableJson (entriesToJson entries)

/-- Puts an item in the place of the one of its name, or after all others. -/
def set (name : String) (item : Item) : Entries → Entries
  | [] => [(name, item)]
  | (other, old) :: rest =>
    if other = name then (name, item) :: rest else (other, old) :: set name item rest

/-- Changes the table at the end of a way of names. Tables that are missing on the way come about with
origin `fresh`; one that is there is entered if `enter` allows its origin, a series at its latest table;
a value ends the way. -/
def alter (enter : Origin → Bool) (fresh : Origin) (change : Origin → Entries → Option Entries) :
    List String → Origin → Entries → Option Entries
  | [], origin, entries => change origin entries
  | name :: way, _, entries =>
    match entries.lookup name with
    | none =>
      (alter enter fresh change way fresh []).map fun t => set name (.table fresh t) entries
    | some (.table origin t) =>
      if enter origin then
        (alter enter fresh change way origin t).map fun t => set name (.table origin t) entries
      else none
    | some (.series (latest :: before)) =>
      (alter enter fresh change way .header latest).map fun t =>
        set name (.series (t :: before)) entries
    | _ => none

def add (name : String) (item : Item) (entries : Entries) : Option Entries :=
  if (entries.lookup name).isSome then none else some (entries ++ [(name, item)])

/-- Assigns a value to a dotted name. The tables that the name leads through have to belong to such names
alone. -/
def assign (way : List String) (name : String) (value : Json) (entries : Entries) : Option Entries :=
  alter (· ≠ .header) .dotted
    (fun origin t => if way.isEmpty || origin == .dotted then add name (.value value) t else none)
    way .header entries

/-- A header in single brackets: its table may so far only have been passed through, and from now on stands
where its own header stands. -/
def openTable (way : List String) (name : String) (entries : Entries) : Option Entries :=
  alter (fun _ => true) .passage
    (fun _ t => match t.lookup name with
      | none => some (set name (.table .header []) t)
      | some (.table .passage inner) =>
        some (t.filter (·.1 ≠ name) ++ [(name, .table .header inner)])
      | some _ => none)
    way .header entries

def openSeries (way : List String) (name : String) (entries : Entries) : Option Entries :=
  alter (fun _ => true) .passage
    (fun _ t => match t.lookup name with
      | none => some (set name (.series [[]]) t)
      | some (.series tables) => some (set name (.series ([] :: tables)) t)
      | some _ => none)
    way .header entries

def assignIn (header : List String) (way : List String) (name : String) (value : Json)
    (entries : Entries) : Option Entries :=
  alter (fun _ => true) .passage (fun _ t => assign way name value t) header .header entries

end Entries

end AgentHooks.Toml
