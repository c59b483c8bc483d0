import AgentHooks.Json.Basic
import AgentHooks.Decimal.Shortest

/-!
JSON texts: compact on one line, or indented by two blanks a level with one item or member a line.
-/

namespace AgentHooks.Json

/-- Controls other than the five with a letter are written by their code in four digits. -/
def controlEscape (c : Char) : List Char :=
  "\\u00".toList ++ [Nat.digitChar (c.toNat / 16), Nat.digitChar (c.toNat % 16)]

def escapeChar (c : Char) : List Char :=
  match c with
  | '"' => ['\\', '"']
  | '\\' => ['\\', '\\']
  | '\x08' => ['\\', 'b']
  | '\x0c' => ['\\', 'f']
  | '\n' => ['\\', 'n']
  | '\r' => ['\\', 'r']
  | '\t' => ['\\', 't']
  | c => if c.toNat < 0x20 then controlEscape c else [c]

def printString (s : String) : List Char :=
  '"' :: s.toList.flatMap escapeChar ++ ['"']

def printInt : Int → List Char
  | .ofNat n => Nat.toDigits 10 n
  | .negSucc n => '-' :: Nat.toDigits 10 (n + 1)

def printAtom : Json → List Char
  | bool true => "true".toList
  | bool false => "false".toList
  | int n => printInt n
  | float x => (Decimal.floatText x).toList
  | string s => printString s
  | _ => "null".toList

mutual

def printCompact : Json → List Char
  | array items => '[' :: printItems items ++ [']']
  | object members => '\x7b' :: printMembers members ++ ['\x7d']
  | other => printAtom other

def printItems : List Json → List Char
  | [] => []
  | [item] => item.printCompact
  | item :: rest => item.printCompact ++ ',' :: printItems rest

def printMembers : List (String × Json) → List Char
  | [] => []
  | [(name, value)] => printString name ++ ':' :: value.printCompact
  | (name, value) :: rest =>
    printString name ++ ':' :: value.printCompact ++ ',' :: printMembers rest

end

def newLine (level : Nat) : List Char :=
  '\n' :: List.replicate (2 * level) ' '

mutual

def printIndented (level : Nat) : Json → List Char
  | array [] => ['[', ']']
  | array items =>
    '[' :: printIndentedItems (level + 1) items ++ newLine level ++ [']']
  | object [] => ['\x7b', '\x7d']
  | object members =>
    '\x7b' :: printIndentedMembers (level + 1) members ++ newLine level ++ ['\x7d']
  | other => printAtom other

def printIndentedItems (level : Nat) : List Json → List Char
  | [] => []
  | [item] => newLine level ++ item.printIndented level
  | item :: rest => newLine level ++ item.printIndented level ++ ',' :: printIndentedItems level rest

def printIndentedMembers (level : Nat) : List (String × Json) → List Char
  | [] => []
  | [(name, value)] => newLine level ++ printString name ++ ':' :: ' ' :: value.printIndented level
  | (name, value) :: rest =>
    newLine level ++ printString name ++ ':' :: ' ' :: value.printIndented level ++
      ',' :: printIndentedMembers level rest

end

def compact (j : Json) : String :=
  String.ofList j.printCompact

def indented (j : Json) : String :=
  String.ofList (j.printIndented 0)

end AgentHooks.Json
