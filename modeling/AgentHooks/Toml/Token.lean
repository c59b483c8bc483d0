import AgentHooks.Json.Token

/-!
The tokens of a TOML text, found in one pass over its characters. Bare names, numbers, dates and the
dots between names are all words here: which of them a word is depends on where it stands.
-/

namespace AgentHooks.Toml

inductive Token where
  | word (letters : List Char)
  /-- A text in quotes; `long` when three of them stand on either side. -/
  | text (s : String) (long : Bool)
  | equals
  | comma
  | bracketOpen
  | bracketClose
  | braceOpen
  | braceClose
  | blank
  | lineBreak

/-- What the last characters of a text in quotes have begun. -/
inductive Progress where
  /-- Right after the opening marks of a long text; a line break here is no part of it. -/
  | start
  | going
  /-- A carriage return, and whether the line break that it begins is part of the text. -/
  | carriageReturn (kept : Bool)
  /-- Marks in a long text: fewer than three are part of it, three or more end it. -/
  | marks (count : Nat)
  | escape
  | hex (missing : Nat) (code : Nat)
  /-- A backslash at the end of a line: blanks and line breaks after it are skipped. -/
  | joining (broken : Bool)
  | joiningReturn

structure Quoting where
  mark : Char
  long : Bool

/-- What the characters read last belong to; lists are held in reverse. -/
inductive Lexeme where
  | between
  | word (letters : List Char)
  /-- A date and one blank: a time of day may follow, and then all of it is one word. -/
  | dateGap (letters : List Char)
  | comment
  | carriageReturn
  | opening (mark : Char)
  | openingTwice (mark : Char)
  | inside (q : Quoting) (chars : List Char) (progress : Progress)

structure Scan where
  lexeme : Lexeme
  tokens : List Token

def isWordChar (c : Char) : Bool :=
  c.isAlphanum || c == '_' || c == '-' || c == '+' || c == '.' || c == ':'

def isBlank (c : Char) : Bool :=
  c == ' ' || c == '\t'

def isPlain (c : Char) : Bool :=
  c == '\t' || (0x20 ≤ c.toNat && c.toNat ≠ 0x7f)

def isDateShape : List Char → Bool
  | [d2, d1, '-', m2, m1, '-', y4, y3, y2, y1] =>
    [d2, d1, m2, m1, y4, y3, y2, y1].all Char.isDigit
  | _ => false

def escape? : Char → Option Char
  | '"' => some '"'
  | '\\' => some '\\'
  | 'b' => some '\x08'
  | 'f' => some '\x0c'
  | 'n' => some '\n'
  | 'r' => some '\r'
  | 't' => some '\t'
  | _ => none

namespace Scan

def empty : Scan := ⟨.between, []⟩

def push (s : Scan) (t : Token) : Scan :=
  ⟨.between, t :: s.tokens⟩

def pushText (s : Scan) (q : Quoting) (chars : List Char) : Scan :=
  s.push (.text (String.ofList chars.reverse) q.long)

def begin (s : Scan) (c : Char) : Option Scan :=
  match c with
  | ' ' | '\t' => some (s.push .blank)
  | '\n' => some (s.push .lineBreak)
  | '\r' => some ⟨.carriageReturn, s.tokens⟩
  | '#' => some ⟨.comment, s.tokens⟩
  | '=' => some (s.push .equals)
  | ',' => some (s.push .comma)
  | '[' => some (s.push .bracketOpen)
  | ']' => some (s.push .bracketClose)
  | '\x7b' => some (s.push .braceOpen)
  | '\x7d' => some (s.push .braceClose)
  | '"' | '\x27' => some ⟨.opening c, s.tokens⟩
  | c => if isWordChar c then some ⟨.word [c], s.tokens⟩ else none

def settle (s : Scan) : Option Scan :=
  match s.lexeme with
  | .between | .comment => some ⟨.between, s.tokens⟩
  | .word letters => some (s.push (.word letters.reverse))
  | .dateGap letters => some ((s.push (.word letters.reverse)).push .blank)
  | .openingTwice mark => some (s.pushText ⟨mark, false⟩ [])
  | .inside q chars (.marks count) =>
    if 3 ≤ count then some (s.pushText q (List.replicate (count - 3) q.mark ++ chars)) else none
  | _ => none

def inside (s : Scan) (q : Quoting) (chars : List Char) (progress : Progress) : Scan :=
  ⟨.inside q chars progress, s.tokens⟩

def goOn (s : Scan) (q : Quoting) (chars : List Char) (c : Char) : Option Scan :=
  if c = q.mark then
    some (if q.long then s.inside q chars (.marks 1) else s.pushText q chars)
  else if c = '\\' ∧ q.mark = '"' then some (s.inside q chars .escape)
  else if q.long ∧ c = '\n' then some (s.inside q (c :: chars) .going)
  else if q.long ∧ c = '\r' then some (s.inside q chars (.carriageReturn true))
  else if isPlain c then some (s.inside q (c :: chars) .going)
  else none

def join (s : Scan) (q : Quoting) (chars : List Char) (broken : Bool) (c : Char) : Option Scan :=
  if isBlank c then some (s.inside q chars (.joining broken))
  else if c = '\n' then some (s.inside q chars (.joining true))
  else if c = '\r' then some (s.inside q chars .joiningReturn)
  else if broken then s.goOn q chars c
  else none

/-- A code point is complete after four or eight digits, and has to be that of a character. -/
def hexDigit (s : Scan) (q : Quoting) (chars : List Char) (missing code : Nat) (c : Char) :
    Option Scan :=
  (Json.hexDigit? c).bind fun d =>
    let code := code * 16 + d
    if 1 < missing then some (s.inside q chars (.hex (missing - 1) code))
    else if code.isValidChar then some (s.inside q (Char.ofNat code :: chars) .going)
    else none

def stepInside (s : Scan) (q : Quoting) (chars : List Char) (progress : Progress) (c : Char) :
    Option Scan :=
  match progress with
  | .start =>
    if c = '\n' then some (s.inside q chars .going)
    else if c = '\r' then some (s.inside q chars (.carriageReturn false))
    else s.goOn q chars c
  | .going => s.goOn q chars c
  | .carriageReturn kept =>
    if c = '\n' then some (s.inside q (if kept then c :: chars else chars) .going) else none
  | .marks count =>
    if c = q.mark ∧ count < 5 then some (s.inside q chars (.marks (count + 1)))
    else if 3 ≤ count then s.settle.bind (·.begin c)
    else s.goOn q (List.replicate count q.mark ++ chars) c
  | .escape =>
    if c = 'u' then some (s.inside q chars (.hex 4 0))
    else if c = 'U' then some (s.inside q chars (.hex 8 0))
    else match escape? c with
      | some e => some (s.inside q (e :: chars) .going)
      | none => if q.long then s.join q chars false c else none
  | .hex missing code => s.hexDigit q chars missing code c
  | .joining broken => s.join q chars broken c
  | .joiningReturn => if c = '\n' then some (s.inside q chars (.joining true)) else none

def step (s : Scan) (c : Char) : Option Scan :=
  match s.lexeme with
  | .between => s.begin c
  | .word letters =>
    if isWordChar c then some ⟨.word (c :: letters), s.tokens⟩
    else if c = ' ' ∧ isDateShape letters then some ⟨.dateGap letters, s.tokens⟩
    else s.settle.bind (·.begin c)
  | .dateGap letters =>
    if c.isDigit then some ⟨.word (c :: ' ' :: letters), s.tokens⟩ else s.settle.bind (·.begin c)
  | .comment => if isPlain c then some s else s.settle.bind (·.begin c)
  | .carriageReturn => if c = '\n' then some (s.push .lineBreak) else none
  | .opening mark =>
    if c = mark then some ⟨.openingTwice mark, s.tokens⟩ else s.goOn ⟨mark, false⟩ [] c
  | .openingTwice mark =>
    if c = mark then some (s.inside ⟨mark, true⟩ [] .start) else s.settle.bind (·.begin c)
  | .inside q chars progress => s.stepInside q chars progress c

end Scan

/-- The tokens of a text, if it consists of tokens. A byte order mark may stand before the first. -/
def tokens? (cs : List Char) : Option (List Token) :=
  let cs := match cs with
    | '\ufeff' :: rest => rest
    | _ => cs
  (cs.foldlM Scan.step Scan.empty).bind fun s => s.settle.map (·.tokens.reverse)

end AgentHooks.Toml
