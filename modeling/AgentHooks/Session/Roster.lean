/-!
What is remembered about sessions, for a bounded number of them. A session that is new to a full
roster takes the place of the one that came first; nothing else changes who came first.
-/

namespace AgentHooks

/-- The values by session, and the sessions in the order in which they came. -/
structure Roster (α : Type) where
  capacity : Nat
  values : List (String × α)
  arrivals : List String

namespace Roster

variable {α : Type}

/-- A roster holds at least one session. -/
def empty (capacity : Nat) : Roster α :=
  ⟨max 1 capacity, [], []⟩

def size (r : Roster α) : Nat :=
  r.values.length

def get? (r : Roster α) (session : String) : Option α :=
  r.values.lookup session

def contains (r : Roster α) (session : String) : Bool :=
  (r.get? session).isSome

def without (session : String) (values : List (String × α)) : List (String × α) :=
  values.filter (·.1 ≠ session)

/-- Lets those who came first go until there is room for one more. -/
def makeRoom (capacity : Nat) : List String → List (String × α) → List String × List (String × α)
  | [], values => ([], values)
  | oldest :: rest, values =>
    if values.length < capacity then (oldest :: rest, values)
    else makeRoom capacity rest (without oldest values)

/-- The roster with the session in it, under `initial` if it was not there before. -/
def enroll (r : Roster α) (session : String) (initial : α) : Roster α :=
  if r.contains session then r
  else
    let (arrivals, values) := makeRoom r.capacity r.arrivals r.values
    { r with values := (session, initial) :: values, arrivals := arrivals ++ [session] }

def modify (r : Roster α) (session : String) (f : α → α) : Roster α :=
  { r with
    values := r.values.map fun entry => if entry.1 = session then (entry.1, f entry.2) else entry }

def remove (r : Roster α) (session : String) : Roster α :=
  if r.contains session then
    { r with
      values := without session r.values
      arrivals := r.arrivals.filter (· ≠ session) }
  else r

def toList (r : Roster α) : List (String × α) :=
  r.arrivals.filterMap fun session => (r.get? session).map (session, ·)

end Roster

/-- Whether at least `cooldown` calls lie between `last` and `now`; always, if there is no last. -/
def cooledDown (last : Option Nat) (now cooldown : Nat) : Bool :=
  match last with
  | none => true
  | some before => cooldown ≤ now - before

end AgentHooks
