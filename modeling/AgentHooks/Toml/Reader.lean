import AgentHooks.Toml.Scalar
import AgentHooks.Toml.Table
import AgentHooks.Toml.Token

/-!
From tokens to a document: a table of tables, as the JSON document with the same contents. The reader
takes one step a token; the arrays and inline tables that are open form a stack.
-/

namespace AgentHooks.Toml

/-- A piece of a name: a simple name or the dot between two. -/
inductive NamePiece where
  | simple (s : String)
  | dot

/-- An open container, with what it holds so far in reverse; the name whose value is to come stands on
top of its inline table, or at the bottom. -/
inductive Frame where
  | array (items : List Json)
  | inline (entries : Entries)
  | named (way : List String) (name : String)

/-- What the next token may be. Pieces of names are held in reverse. -/
inductive Awaits where
  /-- The start of a line outside all containers. -/
  | line
  /-- What follows the first bracket of a line. -/
  | header
  | headerName (double : Bool) (pieces : List NamePiece)
  /-- The second closing bracket of a header in double brackets. -/
  | headerEnd (pieces : List NamePiece)
  | name (pieces : List NamePiece)
  | value
  /-- What follows a value, or a header. -/
  | separator

structure Reading where
  entries : Entries
  /-- The name in the latest header. -/
  place : List String
  stack : List Frame
  awaits : Awaits

/-- Containers stand inside containers, and names lead through tables, at most this deep. -/
def maxDepth : Nat := 79

def isBareChar (c : Char) : Bool :=
  c.isAlphanum || c == '_' || c == '-'

def piecesOfWord? (word : List Char) : Option (List NamePiece) :=
  if word.all fun c => isBareChar c || c == '.' then
    let simple (cs : List Char) : List NamePiece := if cs.isEmpty then [] else [.simple (String.ofList cs)]
    match Text.splitWhere (· == '.') word with
    | [] => some []
    | first :: rest => some (simple first ++ rest.flatMap fun cs => .dot :: simple cs)
  else none

/-- The simple names of a dotted name: names and dots take turns, and a name stands at either end. -/
def simpleNames? : List NamePiece → Option (List String)
  | [.simple s] => some [s]
  | .simple s :: .dot :: rest => (simpleNames? rest).map (s :: ·)
  | _ => none

def way? (pieces : List NamePiece) : Option (List String × String) := do
  let names ← simpleNames? pieces.reverse
  let last ← names.getLast?
  if names.length ≤ maxDepth then some (names.dropLast, last) else none

def pieces? : Token → Option (List NamePiece)
  | .word letters => piecesOfWord? letters
  | .text s false => some [.simple s]
  | _ => none

namespace Reading

def start : Reading := ⟨[], [], [], .line⟩

def give (r : Reading) (value : Json) : List Frame → Option Reading
  | .array items :: stack => some { r with stack := .array (value :: items) :: stack, awaits := .separator }
  | .named way name :: .inline entries :: stack =>
    (Entries.assign way name value entries).map fun entries =>
      { r with stack := .inline entries :: stack, awaits := .separator }
  | [.named way name] =>
    (Entries.assignIn r.place way name value r.entries).map fun entries =>
      { r with entries, stack := [], awaits := .separator }
  | _ => none

def isContainer : Frame → Bool
  | .named _ _ => false
  | _ => true

def openContainer (r : Reading) (frame : Frame) (awaits : Awaits) : Option Reading :=
  if r.stack.countP isContainer < maxDepth then some { r with stack := frame :: r.stack, awaits }
  else none

def closeArray (r : Reading) : Option Reading :=
  match r.stack with
  | .array items :: stack => r.give (.array items.reverse) stack
  | _ => none

def closeInline (r : Reading) : Option Reading :=
  match r.stack with
  | .inline entries :: stack => r.give (Entries.toJson entries) stack
  | _ => none

def enter (r : Reading) (double : Bool) (pieces : List NamePiece) : Option Reading := do
  let (way, name) ← way? pieces
  let entries ← if double then Entries.openSeries way name r.entries else Entries.openTable way name r.entries
  some { r with entries, place := way ++ [name], awaits := .separator }

def lineStep (r : Reading) (token : Token) : Option Reading :=
  match token with
  | .blank | .lineBreak => some r
  | .bracketOpen => some { r with awaits := .header }
  | token => (pieces? token).map fun ps => { r with awaits := .name ps.reverse }

def headerStep (r : Reading) (double : Bool) (pieces : List NamePiece) (token : Token) : Option Reading :=
  match token with
  | .blank => some { r with awaits := .headerName double pieces }
  | .bracketClose => if double then some { r with awaits := .headerEnd pieces } else r.enter false pieces
  | token => (pieces? token).map fun ps => { r with awaits := .headerName double (ps.reverse ++ pieces) }

def nameStep (r : Reading) (pieces : List NamePiece) (token : Token) : Option Reading :=
  match token with
  | .blank => some r
  | .equals => (way? pieces).map fun (way, name) =>
    { r with stack := .named way name :: r.stack, awaits := .value }
  | .braceClose =>
    match pieces, r.stack with
    | [], .inline [] :: _ => r.closeInline
    | _, _ => none
  | token => (pieces? token).map fun ps => { r with awaits := .name (ps.reverse ++ pieces) }

def valueStep (r : Reading) (token : Token) : Option Reading :=
  match token with
  | .blank => some r
  | .lineBreak =>
    match r.stack with
    | .array _ :: _ => some r
    | _ => none
  | .word letters => (scalar? letters).bind fun value => r.give value r.stack
  | .text s _ => r.give (.string s) r.stack
  | .bracketOpen => r.openContainer (.array []) .value
  | .bracketClose => r.closeArray
  | .braceOpen => r.openContainer (.inline []) (.name [])
  | _ => none

def separatorStep (r : Reading) (token : Token) : Option Reading :=
  match token, r.stack with
  | .blank, _ => some r
  | .lineBreak, [] => some { r with awaits := .line }
  | .lineBreak, .array _ :: _ => some r
  | .comma, .array _ :: _ => some { r with awaits := .value }
  | .comma, .inline _ :: _ => some { r with awaits := .name [] }
  | .bracketClose, _ => r.closeArray
  | .braceClose, _ => r.closeInline
  | _, _ => none

def step (r : Reading) (token : Token) : Option Reading :=
  match r.awaits with
  | .line => r.lineStep token
  | .header =>
    match token with
    | .bracketOpen => some { r with awaits := .headerName true [] }
    | token => r.headerStep false [] token
  | .headerName double pieces => r.headerStep double pieces token
  | .headerEnd pieces =>
    match token with
    | .bracketClose => r.enter true pieces
    | _ => none
  | .name pieces => r.nameStep pieces token
  | .value => r.valueStep token
  | .separator => r.separatorStep token

def finish (r : Reading) : Option Json :=
  let document := Entries.toJson r.entries
  match r.awaits, r.stack with
  | .line, _ | .separator, [] => if document.readable then some document else none
  | _, _ => none

end Reading

def document? (text : String) : Option Json :=
  (tokens? text.toList).bind fun tokens =>
    (tokens.foldlM Reading.step Reading.start).bind Reading.finish

end AgentHooks.Toml
