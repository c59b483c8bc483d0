/-!
Sets of names, listed in order.
-/

namespace AgentHooks

/-- A finite set of names. Its operations keep the list sorted and free of repetitions. -/
structure NameSet where
  names : List String
  deriving DecidableEq

namespace NameSet

def empty : NameSet :=
  ⟨[]⟩

def contains (s : NameSet) (name : String) : Bool :=
  s.names.contains name

def insertInto (name : String) : List String → List String
  | [] => [name]
  | other :: rest =>
    if name < other then name :: other :: rest
    else if name = other then other :: rest
    else other :: insertInto name rest

def insert (s : NameSet) (name : String) : NameSet :=
  ⟨insertInto name s.names⟩

def erase (s : NameSet) (name : String) : NameSet :=
  ⟨s.names.filter (· ≠ name)⟩

def add (s : NameSet) (name : String) : NameSet × Bool :=
  (s.insert name, !s.contains name)

def take (s : NameSet) (name : String) : NameSet × Bool :=
  (s.erase name, s.contains name)

def ofList (names : List String) : NameSet :=
  names.foldl insert empty

theorem mem_insertInto (name other : String) (names : List String) :
    other ∈ insertInto name names ↔ other = name ∨ other ∈ names := by
  induction names with
  | nil => simp [insertInto]
  | cons head rest ih =>
    simp only [insertInto]
    split
    · simp
    · split
      · rename_i same
        simp [same]
      · simp only [List.mem_cons, ih]
        constructor
        · rintro (h | h | h) <;> simp [h]
        · rintro (h | h | h) <;> simp [h]

theorem contains_insert (s : NameSet) (name other : String) :
    (s.insert name).contains other = (other == name || s.contains other) := by
  rw [Bool.eq_iff_iff]
  simp [contains, insert, mem_insertInto]

theorem contains_erase (s : NameSet) (name other : String) :
    (s.erase name).contains other = (other != name && s.contains other) := by
  rw [Bool.eq_iff_iff]
  simp [contains, erase, and_comm]

end NameSet

end AgentHooks
