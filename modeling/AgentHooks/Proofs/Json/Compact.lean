import AgentHooks.Proofs.Json.Double
import AgentHooks.Proofs.Json.Print

/-! Documents on one line. Every document can be printed, and what is printed is a document again, without a control
character anywhere; it says the same but for numbers that cannot be had back exactly and parts that have no value. -/

namespace AgentHooks.Json

def ofWritten (cs : List Char) : Json :=
  ((Numeral.ofChars? cs).map Numeral.value).getD unreadable

mutual

/-- What a document's text says: numbers as they are read from it, and null in place of what has no value. -/
def restated : Json → Json
  | int n => ofWritten (printInt n)
  | float x => ofWritten (Decimal.floatText x).toList
  | array items => array (restatedItems items)
  | object members => object (restatedMembers members)
  | unreadable => null
  | other => other

def restatedItems : List Json → List Json
  | [] => []
  | item :: rest => item.restated :: restatedItems rest

def restatedMembers : List (String × Json) → List (String × Json)
  | [] => []
  | (name, value) :: rest => (name, value.restated) :: restatedMembers rest

end

mutual

theorem restated_of_writable (j : Json) (writable : j.IsWritable) : j.restated = j := by
  match j with
  | int n =>
    rw [restated, ofWritten, Numeral.ofChars?_printInt, Option.map_some, Option.getD_some]
    exact Numeral.value_ofWhole writable
  | float x => exact absurd writable id
  | unreadable => exact absurd writable id
  | array items => rw [restated, restatedItems_of_writable items writable]
  | object members => rw [restated, restatedMembers_of_writable members writable]
  | null | bool _ | string _ => rfl

theorem restatedItems_of_writable (items : List Json) (writable : AreWritable items) :
    restatedItems items = items := by
  match items with
  | [] => rfl
  | item :: rest => rw [restatedItems, restated_of_writable item writable.1, restatedItems_of_writable rest writable.2]

theorem restatedMembers_of_writable (members : List (String × Json)) (writable : MembersWritable members) :
    restatedMembers members = members := by
  match members with
  | [] => rfl
  | (name, value) :: rest =>
    rw [restatedMembers, restated_of_writable value writable.1, restatedMembers_of_writable rest writable.2]

end

namespace Scan

variable {cs : List Char} {xs : List Token}

theorem tokens_value (n : Numeral) : n.value.tokens = [.atom n.value] := by
  unfold Numeral.value
  dsimp only
  repeat' split
  all_goals rfl

theorem spells_ofWritten {n : Numeral} (parsed : Numeral.ofChars? cs = some n)
    (spelled : Spells cs [.atom n.value]) : Spells cs (ofWritten cs).tokens := by
  rw [ofWritten, parsed, Option.map_some, Option.getD_some, tokens_value]
  exact spelled

theorem spells_float (x : Float) :
    Spells (Decimal.floatText x).toList (ofWritten (Decimal.floatText x).toList).tokens := by
  obtain ⟨n, negative, proper, text⟩ := Decimal.floatText_written x
  rw [text]
  exact spells_ofWritten (Written.ofChars?_signed proper negative)
    (spells_numeral (Written.ofChars?_signed proper negative)
      (fun _ member => Written.isNumeralChar_of_mem_signed proper member) (Written.signed_head proper negative))

theorem closes_enclosed {opening closing : Char} {first last : Token}
    (opens : ∀ ts, (⟨.blank, ts⟩ : Scan).step opening = some ⟨.blank, first :: ts⟩)
    (shuts : ∀ ts, (⟨.blank, ts⟩ : Scan).step closing = some ⟨.blank, last :: ts⟩) (ends : IsEnd closing)
    (inside : Spells cs xs) : Closes (opening :: cs ++ [closing]) (first :: xs ++ [last]) :=
  ((closes_mark opens).append_spells inside).append_closes ends (closes_mark shuts)

theorem closes_label (name : String) : Closes (printString name ++ [':']) [.text (some name), .colon] :=
  (closes_printString name).append (closes_mark (c := ':') fun _ => rfl)

theorem isEnd_bracket : IsEnd ']' := by
  constructor <;> decide

theorem isEnd_brace : IsEnd '\x7d' := by
  constructor <;> decide

mutual

/-- A document on one line spells the tokens of what it says. -/
theorem spells_printCompact (j : Json) : Spells j.printCompact j.restated.tokens := by
  match j with
  | array items =>
    exact (closes_enclosed (fun _ => rfl) (fun _ => rfl) isEnd_bracket (spells_printItems items)).spells
  | object members =>
    exact (closes_enclosed (fun _ => rfl) (fun _ => rfl) isEnd_brace (spells_printMembers members)).spells
  | string s => exact (closes_printString s).spells
  | int n => exact spells_ofWritten (Numeral.ofChars?_printInt n) (spells_printInt n)
  | float x => exact spells_float x
  | null => exact spells_printAtom (j := null) trivial rfl
  | bool b => exact spells_printAtom (j := bool b) trivial rfl
  | unreadable => exact spells_printAtom (j := null) trivial rfl

theorem spells_printItems (items : List Json) : Spells (printItems items) (itemTokens (restatedItems items)) := by
  match items with
  | [] => exact fun ts => ⟨_, rfl, rfl⟩
  | [item] => exact spells_printCompact item
  | item :: next :: rest =>
    exact (spells_printCompact item).append isEnd_comma (spells_comma (spells_printItems (next :: rest)))

theorem spells_printMembers (members : List (String × Json)) :
    Spells (printMembers members) (memberTokens (restatedMembers members)) := by
  match members with
  | [] => exact fun ts => ⟨_, rfl, rfl⟩
  | [(name, value)] =>
    have own := (closes_label name).append_spells (spells_printCompact value)
    rw [List.append_assoc] at own
    exact own
  | (name, value) :: next :: rest =>
    have own := (closes_label name).append_spells (spells_printCompact value)
    have both := own.append isEnd_comma (spells_comma (spells_printMembers (next :: rest)))
    rw [List.append_assoc (printString name)] at both
    exact both

end

end Scan

/-- Whatever is printed on one line is a document. -/
theorem document?_compact (j : Json) : document? j.compact = some (j.restated.cut 0) := by
  have scanned := Scan.tokens?_of_spells (Scan.spells_printCompact j)
  rw [document?, compact, String.toList_ofList, scanned]
  exact ofTokens?_tokens j.restated

/-! Control characters. -/

def Plain (cs : List Char) : Prop :=
  ∀ c ∈ cs, 0x20 ≤ c.toNat

theorem plain_nil : Plain [] :=
  fun _ none => absurd none List.not_mem_nil

theorem Plain.append {cs ds : List Char} (first : Plain cs) (second : Plain ds) : Plain (cs ++ ds) :=
  fun c member => (List.mem_append.1 member).elim (first c) (second c)

theorem Plain.cons {c : Char} {cs : List Char} (first : 0x20 ≤ c.toNat) (rest : Plain cs) : Plain (c :: cs) :=
  List.forall_mem_cons.2 ⟨first, rest⟩

theorem plain_digitChar : ∀ d < 16, 0x20 ≤ (Nat.digitChar d).toNat := by
  decide

theorem plain_escapeChar (c : Char) : Plain (escapeChar c) := by
  unfold escapeChar
  split
  case h_8 =>
    split
    next control =>
      have upper := plain_digitChar (c.toNat / 16) (by omega)
      have lower := plain_digitChar (c.toNat % 16) (by omega)
      have start : Plain ['\\', 'u', '0', '0'] := by
        simp [Plain]
      exact start.append (.cons upper (.cons lower plain_nil))
    next plain => exact .cons (Nat.le_of_not_lt plain) plain_nil
  all_goals exact .cons (by decide) (.cons (by decide) plain_nil)

theorem plain_printString (s : String) : Plain (printString s) := by
  have inside : Plain (s.toList.flatMap escapeChar) := by
    intro c member
    obtain ⟨source, -, escaped⟩ := List.mem_flatMap.1 member
    exact plain_escapeChar source c escaped
  exact .cons (by decide) (inside.append (.cons (by decide) plain_nil))

theorem plain_of_numeral {cs : List Char} (numeral : ∀ c ∈ cs, isNumeralChar c = true) : Plain cs := by
  intro c member
  have own := numeral c member
  simp only [isNumeralChar, Bool.or_eq_true, beq_iff_eq] at own
  rcases own with ((((digit | rfl) | rfl) | rfl) | rfl) | rfl
  · have low : '0' ≤ c := of_decide_eq_true (Bool.and_eq_true_iff.1 digit).1
    exact Nat.le_trans (by decide) low
  all_goals decide

theorem plain_printAtom (j : Json) : Plain (printAtom j) := by
  cases j with
  | bool b => cases b <;> simp [Plain, printAtom]
  | int n => exact plain_of_numeral fun _ member => Scan.isNumeralChar_of_mem_printInt member
  | float x =>
    obtain ⟨n, negative, proper, text⟩ := Decimal.floatText_written x
    rw [printAtom, text]
    exact plain_of_numeral fun _ member => Written.isNumeralChar_of_mem_signed proper member
  | string s => exact plain_printString s
  | null | array _ | object _ | unreadable => simp [Plain, printAtom]

mutual

/-- However a document's texts and names are made, on one line it holds no control character. -/
theorem plain_printCompact (j : Json) : Plain j.printCompact := by
  match j with
  | array items =>
    exact .cons (by decide) ((plain_printItems items).append (.cons (by decide) plain_nil))
  | object members =>
    exact .cons (by decide) ((plain_printMembers members).append (.cons (by decide) plain_nil))
  | null => exact plain_printAtom null
  | bool b => exact plain_printAtom (bool b)
  | int n => exact plain_printAtom (int n)
  | float x => exact plain_printAtom (float x)
  | string s => exact plain_printAtom (string s)
  | unreadable => exact plain_printAtom unreadable

theorem plain_printItems (items : List Json) : Plain (printItems items) := by
  match items with
  | [] => exact plain_nil
  | [item] => exact plain_printCompact item
  | item :: next :: rest =>
    exact (plain_printCompact item).append (.cons (by decide) (plain_printItems (next :: rest)))

theorem plain_printMembers (members : List (String × Json)) : Plain (printMembers members) := by
  match members with
  | [] => exact plain_nil
  | [(name, value)] => exact (plain_printString name).append (.cons (by decide) (plain_printCompact value))
  | (name, value) :: next :: rest =>
    have own := (plain_printString name).append (.cons (c := ':') (by decide) (plain_printCompact value))
    exact own.append (.cons (by decide) (plain_printMembers (next :: rest)))

end

end AgentHooks.Json
