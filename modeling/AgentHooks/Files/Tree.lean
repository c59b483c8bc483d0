import AgentHooks.Files.Content
import AgentHooks.Files.Path

/-!
A directory with everything in it, and what file operations do to it. Only the parts of a file system
that the program relies on are there: files, directories, and the reasons for which an operation fails.
-/

namespace AgentHooks

inductive FileError where
  | notFound
  | alreadyThere
  | notADirectory
  | isADirectory
  /-- Something else would have to make way that is in use. -/
  | busy
  | nameTooLong
  | nulInName
  | notText
  deriving DecidableEq

def FileError.message : FileError → String
  | notFound => "No such file or directory (os error 2)"
  | alreadyThere => "File exists (os error 17)"
  | notADirectory => "Not a directory (os error 20)"
  | isADirectory => "Is a directory (os error 21)"
  | busy => "Device or resource busy (os error 16)"
  | nameTooLong => "File name too long (os error 36)"
  | nulInName => "file name contained an unexpected NUL byte"
  | notText => "stream did not contain valid UTF-8"

inductive Node where
  | directory
  | file (content : Content)
  deriving DecidableEq

/-- Where something is: the names from the top of the tree down. -/
abbrev Place := List String

/-- What is at each place; the top itself is always a directory. Relative paths lead on from `here`, the
working directory. -/
structure FileTree where
  here : Place
  entries : List (Place × Node)

namespace FileTree

def empty : FileTree :=
  ⟨[], []⟩

def node? (t : FileTree) (place : Place) : Option Node :=
  if place = [] then some .directory else t.entries.lookup place

def erase (t : FileTree) (place : Place) : FileTree :=
  { t with entries := t.entries.filter (·.1 ≠ place) }

def set (t : FileTree) (place : Place) (node : Node) : FileTree :=
  { t with entries := (place, node) :: (t.erase place).entries }

def eraseAll (t : FileTree) (place : Place) : FileTree :=
  { t with entries := t.entries.filter (!place.isPrefixOf ·.1) }

theorem lookup_filter_ne (entries : List (Place × Node)) {place other : Place} (apart : other ≠ place) :
    (entries.filter (·.1 ≠ place)).lookup other = entries.lookup other := by
  induction entries with
  | nil => rfl
  | cons entry rest ih =>
    obtain ⟨key, node⟩ := entry
    by_cases same : key = place
    · have differs : (other == key) = false := by simp [same, apart]
      simpa [same, List.lookup_cons, beq_eq_false_iff_ne.mpr apart] using ih
    · simp only [List.filter_cons, same, ne_eq, not_false_eq_true, decide_true, if_true,
        List.lookup_cons]
      rw [← ih]

theorem node?_set_self (t : FileTree) (node : Node) {place : Place} (inside : place ≠ []) :
    (t.set place node).node? place = some node := by
  simp [node?, set, inside]

theorem node?_set_other (t : FileTree) (node : Node) {place other : Place} (apart : other ≠ place) :
    (t.set place node).node? other = t.node? other := by
  simp only [node?, set, erase, List.lookup_cons, beq_eq_false_iff_ne.mpr apart]
  rw [lookup_filter_ne t.entries apart]

theorem node?_erase_other (t : FileTree) {place other : Place} (apart : other ≠ place) :
    (t.erase place).node? other = t.node? other := by
  simp only [node?, erase]
  rw [lookup_filter_ne t.entries apart]

def stepFrom (here : Place) (name : String) : Place :=
  if name = "." then here
  else if name = ".." then here.dropLast
  else here ++ [name]

def maxNameBytes : Nat := 255

def maxPathBytes : Nat := 4095

/-- The place that steps lead to. Every place passed on the way has to be a directory. -/
def walk (t : FileTree) (here : Place) : List String → Except FileError Place
  | [] => .ok here
  | name :: rest =>
    match t.node? here with
    | none => .error .notFound
    | some (.file _) => .error .notADirectory
    | some .directory =>
      if maxNameBytes < name.utf8ByteSize then .error .nameTooLong
      else t.walk (stepFrom here name) rest

def origin (t : FileTree) (p : Path) : Place :=
  if p.isAbsolute then [] else t.here

def check (p : Path) : Except FileError Unit :=
  if p.text.toList.contains '\x00' then .error .nulInName
  else if maxPathBytes < p.text.utf8ByteSize then .error .nameTooLong
  else .ok ()

def resolve (t : FileTree) (p : Path) : Except FileError Place := do
  check p
  t.walk (t.origin p) p.steps

def fetch (t : FileTree) (p : Path) : Except FileError Content := do
  match t.node? (← t.resolve p) with
  | none => .error .notFound
  | some .directory => .error .isADirectory
  | some (.file content) => .ok content

def read (t : FileTree) (p : Path) : Except FileError String := do
  match ← t.fetch p with
  | .text s => .ok s
  | .garbled _ _ => .error .notText

/-- Makes the directories that are missing on the way from `here`, a directory; those that were made stay
even if others cannot be. A file on the way stops the walk to the directory that is wanted; where that one
has to be made itself, or some directory before it, the file is there already. -/
def makeSteps (t : FileTree) (made : Bool) (here : Place) :
    List String → Except FileError Unit × FileTree
  | [] => (.ok (), t)
  | name :: rest =>
    if maxNameBytes < name.utf8ByteSize then (.error .nameTooLong, t)
    else
      let there := stepFrom here name
      match t.node? there with
      | none => (t.set there .directory).makeSteps true there rest
      | some .directory => t.makeSteps made there rest
      | some (.file _) => (.error (if made || rest.isEmpty then .alreadyThere else .notADirectory), t)

def makeDirectory (t : FileTree) (p : Path) : Except FileError Unit × FileTree :=
  match check p with
  | .error e => (.error e, t)
  | .ok () => t.makeSteps false (t.origin p) p.names

/-- Makes the directory that a path's last name stands in, with all that is missing on the way. -/
def makeParents (t : FileTree) (p : Path) : Except FileError Unit × FileTree :=
  t.makeDirectory p.parent

/-- The place where a path lets a file be moved to. A path that ends in dots has no name to give to the
file, and one that ends in a slash wants a directory. -/
def destination (t : FileTree) (p : Path) : Except FileError Place := do
  check p
  let place ← t.walk (t.origin p) p.walk
  if p.endsInDots then .error .busy
  else if p.endsInSlash then .error .notADirectory
  else .ok place

/-- Puts a text into place in one step: whoever reads the file sees the old text or the new one. The text
is written to `draft` first, which is then moved to its place or, where that fails, removed. -/
def replace (t : FileTree) (draft p : Path) (text : String) : Except FileError FileTree := do
  let _ ← t.resolve draft
  let place ← t.destination p
  match t.node? place with
  | some .directory => .error .isADirectory
  | _ => .ok (t.set place (.file text))

/-- Adds a text at the end of a file, which comes into being when it is missing. -/
def append (t : FileTree) (p : Path) (text : String) : Except FileError FileTree := do
  let place ← t.resolve p
  match t.node? place with
  | some .directory => .error .isADirectory
  | some (.file old) => .ok (t.set place (.file (old ++ text)))
  | none => .ok (t.set place (.file text))

def remove (t : FileTree) (p : Path) : Except FileError FileTree := do
  let place ← t.resolve p
  match t.node? place with
  | none => .error .notFound
  | some .directory => .error .isADirectory
  | some (.file _) => .ok (t.erase place)

def below (t : FileTree) (place : Place) : List (Place × Node) :=
  t.entries.filterMap fun (there, node) =>
    if place.isPrefixOf there && there ≠ place then some (there.drop place.length, node) else none

/-- What somebody else does to a place: whatever is there goes, and `node`, if any, takes its place. A
directory that should be there and is there stays as it is. -/
def overwrite (t : FileTree) (p : Path) (node : Option Node) : FileTree :=
  match t.resolve p, node with
  | .ok place, none => t.eraseAll place
  | .error _, none => t
  | _, some node =>
    match t.makeParents p with
    | (.error _, t) => t
    | (.ok (), t) =>
      match t.resolve p with
      | .error _ => t
      | .ok place =>
        match t.node? place, node with
        | some .directory, .directory => t
        | _, _ => (t.eraseAll place).set place node

end FileTree

end AgentHooks
