import AgentHooks.Json.Numeral

/-!
The tokens of a JSON text, found in one pass over its characters. A token ends where a character
cannot continue it, so each character is looked at once.
-/

namespace AgentHooks.Json

/-- A string token carries its text, or nothing when an escape names half of a surrogate pair. -/
inductive Token where
  | arrayOpen
  | arrayClose
  | objectOpen
  | objectClose
  | comma
  | colon
  | text (s : Option String)
  | atom (value : Json)

/-- What the characters read last belong to; lists are held in reverse. A string is held as code
units, since an escape may name half of a pair. -/
inductive Lexeme where
  | blank
  | word (letters : List Char)
  | numeral (chars : List Char)
  | string (units : List Nat)
  | escape (units : List Nat)
  | hex (units : List Nat) (missing : Nat) (unit : Nat)

structure Scan where
  lexeme : Lexeme
  tokens : List Token

/-- The characters that code units spell, if every surrogate has its other half. -/
def ofUnits? : List Nat → Option (List Char)
  | [] => some []
  | u :: rest =>
    if 0xd800 ≤ u && u < 0xdc00 then
      match rest with
      | v :: rest =>
        if 0xdc00 ≤ v && v < 0xe000 then
          (ofUnits? rest).map (Char.ofNat (0x10000 + (u - 0xd800) * 0x400 + (v - 0xdc00)) :: ·)
        else none
      | [] => none
    else if 0xdc00 ≤ u && u < 0xe000 then none
    else (ofUnits? rest).map (Char.ofNat u :: ·)

def hexDigit? (c : Char) : Option Nat :=
  if '0' ≤ c && c ≤ '9' then some (c.toNat - '0'.toNat)
  else if 'a' ≤ c && c ≤ 'f' then some (c.toNat - 'a'.toNat + 10)
  else if 'A' ≤ c && c ≤ 'F' then some (c.toNat - 'A'.toNat + 10)
  else none

def escape? : Char → Option Char
  | '"' => some '"'
  | '\\' => some '\\'
  | '/' => some '/'
  | 'b' => some '\x08'
  | 'f' => some '\x0c'
  | 'n' => some '\n'
  | 'r' => some '\r'
  | 't' => some '\t'
  | _ => none

def literal? : List Char → Option Json
  | ['t', 'r', 'u', 'e'] => some (bool true)
  | ['f', 'a', 'l', 's', 'e'] => some (bool false)
  | ['n', 'u', 'l', 'l'] => some null
  | _ => none

def isNumeralChar (c : Char) : Bool :=
  c.isDigit || c == '-' || c == '+' || c == '.' || c == 'e' || c == 'E'

namespace Scan

def empty : Scan := ⟨.blank, []⟩

def push (s : Scan) (t : Token) : Scan :=
  ⟨.blank, t :: s.tokens⟩

def begin (s : Scan) (c : Char) : Option Scan :=
  match c with
  | ' ' | '\n' | '\t' | '\r' => some s
  | '[' => some (s.push .arrayOpen)
  | ']' => some (s.push .arrayClose)
  | '\x7b' => some (s.push .objectOpen)
  | '\x7d' => some (s.push .objectClose)
  | ',' => some (s.push .comma)
  | ':' => some (s.push .colon)
  | '"' => some ⟨.string [], s.tokens⟩
  | c =>
    if c.isDigit || c == '-' then some ⟨.numeral [c], s.tokens⟩
    else if c.isLower then some ⟨.word [c], s.tokens⟩
    else none

/-- Ends a token that only the next character, or the end of the text, can end. -/
def settle (s : Scan) : Option Scan :=
  match s.lexeme with
  | .blank => some s
  | .word letters => (literal? letters.reverse).map fun value => s.push (.atom value)
  | .numeral chars => (Numeral.ofChars? chars.reverse).map fun n => s.push (.atom n.value)
  | _ => none

def step (s : Scan) (c : Char) : Option Scan :=
  match s.lexeme with
  | .blank => s.begin c
  | .word letters =>
    if c.isLower then some ⟨.word (c :: letters), s.tokens⟩ else s.settle.bind (·.begin c)
  | .numeral chars =>
    if isNumeralChar c then some ⟨.numeral (c :: chars), s.tokens⟩ else s.settle.bind (·.begin c)
  | .string units =>
    match c with
    | '"' => some (s.push (.text ((ofUnits? units.reverse).map String.ofList)))
    | '\\' => some ⟨.escape units, s.tokens⟩
    | c => if c.toNat < 0x20 then none else some ⟨.string (c.toNat :: units), s.tokens⟩
  | .escape units =>
    if c == 'u' then some ⟨.hex units 4 0, s.tokens⟩
    else (escape? c).map fun e => ⟨.string (e.toNat :: units), s.tokens⟩
  | .hex units missing unit =>
    (hexDigit? c).map fun d =>
      if missing ≤ 1 then ⟨.string ((unit * 16 + d) :: units), s.tokens⟩
      else ⟨.hex units (missing - 1) (unit * 16 + d), s.tokens⟩

end Scan

def tokens? (cs : List Char) : Option (List Token) :=
  (cs.foldlM Scan.step Scan.empty).bind fun s => s.settle.map (·.tokens.reverse)

end AgentHooks.Json
