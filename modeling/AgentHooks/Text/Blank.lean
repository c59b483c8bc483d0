/-!
White space as Unicode's White_Space property has it, and the texts cut at it. Everything the program
trims, splits into words or skips as blank goes through `isBlank`.
-/

namespace AgentHooks.Text

/-- The twenty-five characters with the property White_Space. -/
def isBlank (c : Char) : Bool :=
  let n := c.toNat
  (9 ≤ n && n ≤ 13) || n == 0x20 || n == 0x85 || n == 0xa0 || n == 0x1680 ||
    (0x2000 ≤ n && n ≤ 0x200a) || n == 0x2028 || n == 0x2029 || n == 0x202f || n == 0x205f ||
    n == 0x3000

def dropEnd (p : Char → Bool) (cs : List Char) : List Char :=
  (cs.reverse.dropWhile p).reverse

def trimBlank (cs : List Char) : List Char :=
  dropEnd isBlank (cs.dropWhile isBlank)

def trim (s : String) : String :=
  String.ofList (trimBlank s.toList)

def trimStart (s : String) : String :=
  String.ofList (s.toList.dropWhile isBlank)

theorem toList_trim (s : String) : (trim s).toList = trimBlank s.toList := by
  simp [trim]

/-- The pieces between the characters of class `p`: always one more than there are such characters. -/
def splitWhere (p : Char → Bool) : List Char → List (List Char)
  | [] => [[]]
  | c :: rest =>
    if p c then [] :: splitWhere p rest
    else match splitWhere p rest with
      | [] => [[c]]
      | piece :: pieces => (c :: piece) :: pieces

theorem splitWhere_ne_nil (p : Char → Bool) (cs : List Char) : splitWhere p cs ≠ [] := by
  cases cs with
  | nil => simp [splitWhere]
  | cons c rest =>
    simp only [splitWhere]
    split
    · simp
    · split <;> simp

theorem splitWhere_append_cons (p : Char → Bool) (c : Char) (separates : p c = true)
    (before after : List Char) :
    splitWhere p (before ++ c :: after) = splitWhere p before ++ splitWhere p after := by
  induction before with
  | nil => simp [splitWhere, separates]
  | cons b rest ih =>
    simp only [List.cons_append, splitWhere, ih]
    split
    · rfl
    · cases pieces : splitWhere p rest with
      | nil => exact absurd pieces (splitWhere_ne_nil p rest)
      | cons piece more => rfl

def words (cs : List Char) : List (List Char) :=
  (splitWhere isBlank cs).filter (! ·.isEmpty)

/-- A line's end is a line feed, or a carriage return right before it. -/
def dropReturn (line : List Char) : List Char :=
  match line.reverse with
  | '\r' :: rest => rest.reverse
  | _ => line

/-- The lines among the pieces between line feeds: an empty last piece is no line, and a last line
without its line feed keeps a carriage return. -/
def linesOfPieces : List (List Char) → List (List Char)
  | [] => []
  | [last] => if last.isEmpty then [] else [last]
  | line :: rest => dropReturn line :: linesOfPieces rest

def lines (cs : List Char) : List (List Char) :=
  linesOfPieces (splitWhere (· == '\n') cs)

def begins (start s : String) : Bool :=
  start.toList.isPrefixOf s.toList

def occursIn (needle : List Char) : List Char → Bool
  | [] => needle.isEmpty
  | c :: rest => needle.isPrefixOf (c :: rest) || occursIn needle rest

end AgentHooks.Text
