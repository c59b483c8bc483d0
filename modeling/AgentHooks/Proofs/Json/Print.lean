import AgentHooks.Proofs.Json.Numeral
import AgentHooks.Proofs.Json.Tokens

/-! Printed documents, read again. Some tokens end only where something follows that cannot be part of
them; what a printed document puts behind such a token is always of that kind. -/

namespace AgentHooks.Json

def IsEnd (c : Char) : Prop :=
  c.isLower = false ∧ isNumeralChar c = false

namespace Scan

/-- A text that makes up some tokens, the last of which may still be open. -/
def Spells (cs : List Char) (tokens : List Token) : Prop :=
  ∀ ts, ∃ s : Scan, cs.foldlM step ⟨.blank, ts⟩ = some s ∧ s.settle = some ⟨.blank, tokens.reverse ++ ts⟩

/-- A text that makes up some tokens, all of them ended. -/
def Closes (cs : List Char) (tokens : List Token) : Prop :=
  ∀ ts, cs.foldlM step ⟨.blank, ts⟩ = some ⟨.blank, tokens.reverse ++ ts⟩

variable {cs ds : List Char} {xs ys : List Token}

theorem Closes.spells (closes : Closes cs xs) : Spells cs xs :=
  fun ts => ⟨_, closes ts, rfl⟩

theorem Closes.append (first : Closes cs xs) (second : Closes ds ys) : Closes (cs ++ ds) (xs ++ ys) := by
  intro ts
  rw [List.foldlM_append, first ts, List.reverse_append, List.append_assoc]
  exact second _

theorem Closes.append_spells (first : Closes cs xs) (second : Spells ds ys) :
    Spells (cs ++ ds) (xs ++ ys) := by
  intro ts
  obtain ⟨s, scanned, settled⟩ := second (xs.reverse ++ ts)
  refine ⟨s, ?_, ?_⟩
  · rw [List.foldlM_append, first ts]
    exact scanned
  · rw [settled, List.reverse_append, List.append_assoc]

/-- An open token is ended by a character that cannot go on with it. -/
theorem step_of_settle {s : Scan} {ts : List Token} {c : Char}
    (settled : s.settle = some ⟨.blank, ts⟩) (ends : IsEnd c) :
    s.step c = (⟨.blank, ts⟩ : Scan).step c := by
  obtain ⟨lexeme, tokens⟩ := s
  cases lexeme with
  | blank =>
    cases settled
    rfl
  | word letters => simp only [step, ends.1, settled, Option.bind_some, Bool.false_eq_true, if_false]
  | numeral chars => simp only [step, ends.2, settled, Option.bind_some, Bool.false_eq_true, if_false]
  | string units => cases settled
  | escape units => cases settled
  | hex units missing unit => cases settled

theorem foldlM_of_settle {s : Scan} {ts : List Token} {c : Char}
    (settled : s.settle = some ⟨.blank, ts⟩) (ends : IsEnd c) :
    (c :: ds).foldlM step s = (c :: ds).foldlM step ⟨.blank, ts⟩ := by
  rw [List.foldlM_cons, List.foldlM_cons, step_of_settle settled ends]

theorem Spells.append {c : Char} (first : Spells cs xs) (ends : IsEnd c)
    (second : Spells (c :: ds) ys) : Spells (cs ++ c :: ds) (xs ++ ys) := by
  intro ts
  obtain ⟨s, scanned, settled⟩ := first ts
  obtain ⟨s', scanned', settled'⟩ := second (xs.reverse ++ ts)
  refine ⟨s', ?_, ?_⟩
  · rw [List.foldlM_append, scanned]
    exact (foldlM_of_settle settled ends).trans scanned'
  · rw [settled', List.reverse_append, List.append_assoc]

theorem Spells.append_closes {c : Char} (first : Spells cs xs) (ends : IsEnd c)
    (second : Closes (c :: ds) ys) : Closes (cs ++ c :: ds) (xs ++ ys) := by
  intro ts
  obtain ⟨s, scanned, settled⟩ := first ts
  rw [List.foldlM_append, scanned, List.reverse_append, List.append_assoc]
  exact (foldlM_of_settle settled ends).trans (second _)

theorem tokens?_of_spells (spells : Spells cs xs) : tokens? cs = some xs := by
  obtain ⟨s, scanned, settled⟩ := spells []
  simp only [tokens?, empty, scanned, Option.bind_some, settled, Option.map_some, List.append_nil,
    List.reverse_reverse]

/-! Strings. -/

theorem ofUnits?_chars (cs : List Char) : ofUnits? (cs.map Char.toNat) = some cs := by
  induction cs with
  | nil => rfl
  | cons c rest ih =>
    have whole : ¬(0xd800 ≤ c.toNat ∧ c.toNat < 0xe000) := by
      have valid := c.valid
      simp only [UInt32.isValidChar, Nat.isValidChar] at valid
      change ¬(0xd800 ≤ c.val.toNat ∧ c.val.toNat < 0xe000)
      omega
    have high : (decide (0xd800 ≤ c.toNat) && decide (c.toNat < 0xdc00)) = false := by
      rw [Bool.and_eq_false_iff, decide_eq_false_iff_not, decide_eq_false_iff_not]
      omega
    have low : (decide (0xdc00 ≤ c.toNat) && decide (c.toNat < 0xe000)) = false := by
      rw [Bool.and_eq_false_iff, decide_eq_false_iff_not, decide_eq_false_iff_not]
      omega
    rw [List.map_cons, ofUnits?.eq_def]
    simp only [high, low, Bool.false_eq_true, if_false, ih, Option.map_some, Char.ofNat_toNat]

theorem hexDigit?_digitChar : ∀ d < 16, hexDigit? (Nat.digitChar d) = some d := by
  decide

theorem foldlM_escapeChar (c : Char) (units : List Nat) (ts : List Token) :
    (escapeChar c).foldlM step ⟨.string units, ts⟩ = some ⟨.string (c.toNat :: units), ts⟩ := by
  unfold escapeChar
  split
  case h_8 quote backslash _ _ _ _ _ =>
    split
    next control =>
      have upper := hexDigit?_digitChar (c.toNat / 16) (by omega)
      have lower := hexDigit?_digitChar (c.toNat % 16) (by omega)
      change [Nat.digitChar (c.toNat / 16), Nat.digitChar (c.toNat % 16)].foldlM step
        ⟨.hex units 2 0, ts⟩ = _
      simp only [List.foldlM_cons, List.foldlM_nil, step, upper, lower, Option.map_some,
        Option.bind_eq_bind, Option.bind_some, Option.pure_def]
      simp only [Nat.reduceLeDiff, if_false, if_true, Nat.reduceSub, Nat.le_refl]
      have whole : (0 * 16 + c.toNat / 16) * 16 + c.toNat % 16 = c.toNat := by omega
      rw [whole]
      rfl
    next plain =>
      simp only [List.foldlM_cons, List.foldlM_nil, step, if_neg plain, Option.bind_eq_bind,
        Option.bind_some, Option.pure_def]
  all_goals rfl

theorem foldlM_escaped (cs : List Char) (units : List Nat) (ts : List Token) :
    (cs.flatMap escapeChar).foldlM step ⟨.string units, ts⟩ =
      some ⟨.string ((cs.map Char.toNat).reverse ++ units), ts⟩ := by
  induction cs generalizing units with
  | nil => rfl
  | cons c rest ih =>
    rw [List.flatMap_cons, List.foldlM_append, foldlM_escapeChar]
    change (rest.flatMap escapeChar).foldlM step ⟨.string (c.toNat :: units), ts⟩ = _
    rw [ih]
    simp only [List.map_cons, List.reverse_cons, List.append_assoc, List.cons_append, List.nil_append]

theorem closes_printString (s : String) : Closes (printString s) [.text (some s)] := by
  intro ts
  change (s.toList.flatMap escapeChar ++ ['"']).foldlM step ⟨.string [], ts⟩ = _
  rw [List.foldlM_append, foldlM_escaped, List.append_nil]
  change some (Scan.push ⟨.string (s.toList.map Char.toNat).reverse, ts⟩ _) = _
  rw [List.reverse_reverse, ofUnits?_chars, Option.map_some, String.ofList_toList]
  rfl

/-! Numbers. -/

theorem foldlM_numeral (cs chars : List Char) (ts : List Token)
    (numeral : ∀ c ∈ cs, isNumeralChar c = true) :
    cs.foldlM step ⟨.numeral chars, ts⟩ = some ⟨.numeral (cs.reverse ++ chars), ts⟩ := by
  induction cs generalizing chars with
  | nil => rfl
  | cons c rest ih =>
    have own : isNumeralChar c = true := numeral c (by simp)
    simp only [List.foldlM_cons, step, own, if_true, Option.bind_eq_bind, Option.bind_some]
    rw [ih (c :: chars) fun d member => numeral d (by simp [member])]
    simp only [List.reverse_cons, List.append_assoc, List.cons_append, List.nil_append]

theorem isNumeralChar_of_mem_printInt {n : Int} {c : Char} (member : c ∈ printInt n) :
    isNumeralChar c = true := by
  cases n with
  | ofNat n => simp only [isNumeralChar, isDigit_of_mem_toDigits member, Bool.true_or]
  | negSucc n =>
    rcases List.mem_cons.1 member with rfl | later
    · rfl
    · simp only [isNumeralChar, isDigit_of_mem_toDigits later, Bool.true_or]

theorem printInt_head (n : Int) : ∃ c rest, printInt n = c :: rest ∧ (c.isDigit || c == '-') = true := by
  cases n with
  | ofNat n =>
    cases digits : Nat.toDigits 10 n with
    | nil => exact absurd digits Nat.toDigits_ne_nil
    | cons c rest =>
      have digit : c.isDigit = true := isDigit_of_mem_toDigits (n := n) (by simp [digits])
      exact ⟨c, rest, digits, by simp only [digit, Bool.true_or]⟩
  | negSucc n => exact ⟨'-', _, rfl, rfl⟩

theorem begin_numeral {c : Char} (number : (c.isDigit || c == '-') = true) (ts : List Token) :
    (⟨.blank, ts⟩ : Scan).step c = some ⟨.numeral [c], ts⟩ := by
  simp only [step, begin]
  split
  case h_12 => rw [if_pos number]
  all_goals exact absurd number (by decide)

theorem spells_numeral {n : Numeral} (parsed : Numeral.ofChars? cs = some n)
    (numeral : ∀ c ∈ cs, isNumeralChar c = true) (head : ∃ c rest, cs = c :: rest ∧ (c.isDigit || c == '-') = true) :
    Spells cs [.atom n.value] := by
  intro ts
  obtain ⟨c, rest, rfl, number⟩ := head
  refine ⟨⟨.numeral (rest.reverse ++ [c]), ts⟩, ?_, ?_⟩
  · rw [List.foldlM_cons, begin_numeral number]
    exact foldlM_numeral rest [c] ts fun d member => numeral d (List.mem_cons_of_mem c member)
  · simp only [settle, List.reverse_append, List.reverse_reverse, List.reverse_cons, List.reverse_nil,
      List.nil_append, List.cons_append, parsed]
    rfl

theorem spells_printInt (n : Int) :
    Spells (printInt n) [.atom (Numeral.ofWhole (decide (n < 0)) n.natAbs).value] :=
  spells_numeral (Numeral.ofChars?_printInt n) (fun _ member => isNumeralChar_of_mem_printInt member) (printInt_head n)

end Scan

mutual

/-- Whether a document can be written so that it reads back: its numbers are integers that fit. -/
def IsWritable : Json → Prop
  | int n => Numeral.Fits n
  | array items => AreWritable items
  | object members => MembersWritable members
  | float _ => False
  | unreadable => False
  | _ => True

def AreWritable : List Json → Prop
  | [] => True
  | item :: rest => item.IsWritable ∧ AreWritable rest

def MembersWritable : List (String × Json) → Prop
  | [] => True
  | (_, value) :: rest => value.IsWritable ∧ MembersWritable rest

end

namespace Scan

theorem spells_printAtom {j : Json} (writable : j.IsWritable) (single : j.tokens = [.atom j]) :
    Spells (printAtom j) j.tokens := by
  cases j with
  | null => exact fun ts => ⟨⟨.word ['l', 'l', 'u', 'n'], ts⟩, rfl, rfl⟩
  | bool b =>
    cases b with
    | true => exact fun ts => ⟨⟨.word ['e', 'u', 'r', 't'], ts⟩, rfl, rfl⟩
    | false => exact fun ts => ⟨⟨.word ['e', 's', 'l', 'a', 'f'], ts⟩, rfl, rfl⟩
  | int n =>
    have spelled := spells_printInt n
    rwa [Numeral.value_ofWhole writable] at spelled
  | float x => exact absurd writable id
  | string s => cases single
  | array items => cases single
  | object members => cases single
  | unreadable => exact absurd writable id

theorem isEnd_newLine : IsEnd '\n' := by
  constructor <;> decide

theorem closes_newLine (level : Nat) : Closes (newLine level) [] := by
  intro ts
  change (List.replicate (2 * level) ' ').foldlM step ⟨.blank, ts⟩ = _
  generalize 2 * level = n
  induction n with
  | zero => rfl
  | succ n ih => exact ih

theorem closes_mark {c : Char} {t : Token}
    (mark : ∀ ts, (⟨.blank, ts⟩ : Scan).step c = some ⟨.blank, t :: ts⟩) : Closes [c] [t] := by
  intro ts
  simp only [List.foldlM_cons, List.foldlM_nil, mark ts, bind_pure]
  rfl

theorem closes_blank : Closes [' '] [] :=
  fun _ => rfl

theorem closes_name (level : Nat) (name : String) :
    Closes (newLine level ++ printString name ++ [':', ' ']) [.text (some name), .colon] :=
  ((closes_newLine level).append (closes_printString name)).append
    ((closes_mark (c := ':') fun _ => rfl).append closes_blank)

theorem isEnd_comma : IsEnd ',' := by
  constructor <;> decide

theorem spells_comma (rest : Spells ds ys) : Spells (',' :: ds) (.comma :: ys) :=
  (closes_mark (c := ',') fun _ => rfl).append_spells rest

theorem closes_between {opening closing : Char} {first last : Token} (level : Nat)
    (opens : ∀ ts, (⟨.blank, ts⟩ : Scan).step opening = some ⟨.blank, first :: ts⟩)
    (shuts : ∀ ts, (⟨.blank, ts⟩ : Scan).step closing = some ⟨.blank, last :: ts⟩)
    (inside : Spells cs xs) :
    Closes (opening :: cs ++ newLine level ++ [closing]) (first :: xs ++ [last]) := by
  have front : Spells (opening :: cs) (first :: xs) := (closes_mark opens).append_spells inside
  have line : Closes (opening :: cs ++ newLine level) (first :: xs ++ []) :=
    front.append_closes isEnd_newLine (closes_newLine level)
  rw [List.append_nil] at line
  exact line.append (closes_mark shuts)

mutual

theorem spells_printIndented (j : Json) (level : Nat) (writable : j.IsWritable) :
    Spells (j.printIndented level) j.tokens := by
  match j with
  | array [] =>
    exact ((closes_mark (c := '[') fun _ => rfl).append (closes_mark (c := ']') fun _ => rfl)).spells
  | array (item :: rest) =>
    exact (closes_between level (fun _ => rfl) (fun _ => rfl)
      (spells_printIndentedItems (item :: rest) (level + 1) writable)).spells
  | object [] =>
    exact ((closes_mark (c := '\x7b') fun _ => rfl).append (closes_mark (c := '\x7d') fun _ => rfl)).spells
  | object (member :: rest) =>
    exact (closes_between level (fun _ => rfl) (fun _ => rfl)
      (spells_printIndentedMembers (member :: rest) (level + 1) writable)).spells
  | string s => exact (closes_printString s).spells
  | null => exact spells_printAtom writable rfl
  | bool b => exact spells_printAtom writable rfl
  | int n => exact spells_printAtom writable rfl
  | float x => exact absurd writable id
  | unreadable => exact absurd writable id

theorem spells_printIndentedItems (items : List Json) (level : Nat) (writable : AreWritable items) :
    Spells (printIndentedItems level items) (itemTokens items) := by
  match items with
  | [] => exact fun ts => ⟨_, rfl, rfl⟩
  | [item] =>
    exact (closes_newLine level).append_spells (spells_printIndented item level writable.1)
  | item :: next :: rest =>
    have own := (closes_newLine level).append_spells (spells_printIndented item level writable.1)
    have others := spells_printIndentedItems (next :: rest) level writable.2
    exact own.append isEnd_comma (spells_comma others)

theorem spells_printIndentedMembers (members : List (String × Json)) (level : Nat)
    (writable : MembersWritable members) :
    Spells (printIndentedMembers level members) (memberTokens members) := by
  match members with
  | [] => exact fun ts => ⟨_, rfl, rfl⟩
  | [(name, value)] =>
    have own := (closes_name level name).append_spells (spells_printIndented value level writable.1)
    rw [List.append_assoc] at own
    exact own
  | (name, value) :: next :: rest =>
    have own := (closes_name level name).append_spells (spells_printIndented value level writable.1)
    have others := spells_printIndentedMembers (next :: rest) level writable.2
    have both := own.append isEnd_comma (spells_comma others)
    rw [List.append_assoc (newLine level ++ printString name)] at both
    exact both

end

end Scan

/-- A document that can be written is read back from its indented form as it was. -/
theorem document?_indented {j : Json} (writable : j.IsWritable) (shallow : j.nesting ≤ maxDepth) :
    document? j.indented = some j := by
  have scanned := Scan.tokens?_of_spells (Scan.spells_printIndented j 0 writable)
  rw [document?, indented, String.toList_ofList, scanned, Option.bind_some, ofTokens?_tokens]
  exact congrArg some (cut_of_room j 0 (by omega))

end AgentHooks.Json
