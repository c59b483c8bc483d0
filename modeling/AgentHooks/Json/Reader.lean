import AgentHooks.Json.Token

/-!
From tokens to a document. The containers that are open form a stack, so the reader takes one step a
token and nesting costs no recursion.
-/

namespace AgentHooks.Json

/-- An open container with what it holds so far, in reverse; a member whose value is still to come
stands on top of its object. -/
inductive Frame where
  | array (items : List Json)
  | object (members : List (Option String × Json))
  | member (name : Option String)

/-- What the next token may be: a value, a value or the end of an empty array, a name, a name or the
end of an empty object, a colon, or what follows a value inside a container. -/
inductive Awaits where
  | value
  | firstItem
  | name
  | firstName
  | colon
  | separator

inductive Reading where
  | going (stack : List Frame) (awaits : Awaits)
  | done (value : Json)

def maxDepth : Nat := 127

def Frame.isContainer : Frame → Bool
  | .member _ => false
  | _ => true

def depth (stack : List Frame) : Nat :=
  stack.countP Frame.isContainer

def readNames : List (Option String × Json) → Option (List (String × Json))
  | [] => some []
  | (some name, value) :: rest => (readNames rest).map ((name, value) :: ·)
  | (none, _) :: _ => none

namespace Reading

def start : Reading := going [] .value

def give (value : Json) : List Frame → Option Reading
  | [] => some (done value)
  | .array items :: stack => some (going (.array (value :: items) :: stack) .separator)
  | .member name :: .object members :: stack =>
    some (going (.object ((name, value) :: members) :: stack) .separator)
  | _ => none

/-- A closed container has a value unless `stack`, which it stood on, is too deep already. -/
def within (stack : List Frame) (value : Json) : Json :=
  if depth stack < maxDepth then value else unreadable

def closeArray : List Frame → Option Reading
  | .array items :: stack => give (within stack (array items.reverse)) stack
  | _ => none

def closeObject : List Frame → Option Reading
  | .object members :: stack =>
    let value := match readNames members.reverse with
      | some members => object members
      | none => unreadable
    give (within stack value) stack
  | _ => none

def open? (stack : List Frame) : Token → Option Reading
  | .arrayOpen => some (going (.array [] :: stack) .firstItem)
  | .objectOpen => some (going (.object [] :: stack) .firstName)
  | .text (some s) => give (string s) stack
  | .text none => give unreadable stack
  | .atom value => give value stack
  | _ => none

def next (stack : List Frame) : Option Reading :=
  match stack with
  | .array _ :: _ => some (going stack .value)
  | .object _ :: _ => some (going stack .name)
  | _ => none

def step : Reading → Token → Option Reading
  | done _, _ => none
  | going stack awaits, token =>
    match awaits, token with
    | .value, token => open? stack token
    | .firstItem, .arrayClose => closeArray stack
    | .firstItem, token => open? stack token
    | .name, .text name => some (going (.member name :: stack) .colon)
    | .firstName, .text name => some (going (.member name :: stack) .colon)
    | .firstName, .objectClose => closeObject stack
    | .colon, .colon => some (going stack .value)
    | .separator, .comma => next stack
    | .separator, .arrayClose => closeArray stack
    | .separator, .objectClose => closeObject stack
    | _, _ => none

def finish : Reading → Option Json
  | done value => some value
  | going _ _ => none

end Reading

def ofTokens? (tokens : List Token) : Option Json :=
  (tokens.foldlM Reading.step Reading.start).bind Reading.finish

def document? (text : String) : Option Json :=
  (tokens? text.toList).bind ofTokens?

/-- The value that a text writes: every part has to be readable, and objects are brought into their
canonical form. -/
def value? (text : String) : Option Json :=
  (document? text).bind fun doc => if doc.readable then some doc.canonical else none

end AgentHooks.Json
