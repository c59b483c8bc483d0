import AgentHooks.Text.Blank

/-!
Paths as they are written, and the steps they tell.
-/

namespace AgentHooks

structure Path where
  text : String
  deriving DecidableEq

namespace Path

def isAbsolute (p : Path) : Bool :=
  Text.begins "/" p.text

/-- The path `relative` as seen from `p`: an absolute path stands for itself. -/
def join (p : Path) (relative : String) : Path :=
  if Path.isAbsolute ⟨relative⟩ || p.text = "" then ⟨relative⟩
  else if p.text.toList.getLast? = some '/' then ⟨p.text ++ relative⟩
  else ⟨p.text ++ "/" ++ relative⟩

def pieces (p : Path) : List String :=
  (Text.splitWhere (· == '/') p.text.toList).map String.ofList

def isIdle (piece : String) : Bool :=
  piece == "" || piece == "."

def names (p : Path) : List String :=
  p.pieces.filter (!isIdle ·)

/-- The steps on the way, those that stay where they are among them. -/
def walk (p : Path) : List String :=
  p.pieces.filter (· ≠ "")

/-- A closing slash, like a last step that stays, says that the path leads to a directory. -/
def endsInSlash (p : Path) : Bool :=
  p.text.toList.getLast? = some '/'

def steps (p : Path) : List String :=
  p.walk ++ if p.endsInSlash then ["."] else []

def endsInDots (p : Path) : Bool :=
  match p.walk.getLast? with
  | none => true
  | some step => step == "." || step == ".."

/-- The last name, if the path does not end by turning back. -/
def fileName? (p : Path) : Option String :=
  p.names.getLast?.filter (· ≠ "..")

def parent (p : Path) : Path :=
  let before := ((p.pieces.reverse.dropWhile isIdle).drop 1).dropWhile isIdle
  if before.isEmpty && p.isAbsolute then ⟨"/"⟩ else ⟨String.intercalate "/" before.reverse⟩

/-- The path with another name in the place of its last one, or with one more name if it has none. -/
def withName (p : Path) (name : String) : Path :=
  (if p.fileName?.isSome then p.parent else p).join name

/-- The part of the last name after its last dot, if there is a part before that dot. -/
def extension? (p : Path) : Option String :=
  p.fileName?.bind fun name =>
    match (Text.splitWhere (· == '.') name.toList).reverse with
    | last :: before :: rest =>
      if rest = [] ∧ before = [] then none else some (String.ofList last)
    | _ => none

end Path

end AgentHooks
