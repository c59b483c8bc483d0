import AgentHooks.Text.Blank
import Mathlib.Data.List.DropRight

/-! The lines of a text. Texts of whole lines can be put behind each other, and lines can be taken out of a text with
their ends, each without touching the others. Every text is whole lines and the beginning of one more. -/

namespace AgentHooks

namespace Text

theorem separates_of_mem_splitWhere {p : Char → Bool} {cs piece : List Char} (member : piece ∈ splitWhere p cs) :
    ∀ c ∈ piece, p c = false := by
  induction cs generalizing piece with
  | nil =>
    cases List.mem_singleton.1 member
    exact List.forall_mem_nil _
  | cons d rest ih =>
    simp only [splitWhere] at member
    split at member
    · rcases List.mem_cons.1 member with rfl | later
      · exact List.forall_mem_nil _
      · exact ih later
    next other =>
      split at member
      next none' => exact absurd none' (splitWhere_ne_nil _ rest)
      next first more pieces =>
        rw [pieces] at ih
        rcases List.mem_cons.1 member with rfl | later
        · exact List.forall_mem_cons.2 ⟨Bool.eq_false_iff.2 other, ih List.mem_cons_self⟩
        · exact ih (List.mem_cons_of_mem first later)

theorem not_mem_of_mem_splitWhere {c : Char} {cs piece : List Char}
    (member : piece ∈ splitWhere (· == c) cs) : c ∉ piece :=
  fun inside => beq_eq_false_iff_ne.1 (separates_of_mem_splitWhere member c inside) rfl

theorem splitWhere_of_none {p : Char → Bool} {cs : List Char} (none : ∀ c ∈ cs, p c = false) :
    splitWhere p cs = [cs] := by
  induction cs with
  | nil => rfl
  | cons d rest ih =>
    obtain ⟨own, others⟩ := List.forall_mem_cons.1 none
    simp only [splitWhere, own, Bool.false_eq_true, if_false, ih others]

theorem splitWhere_of_not_mem {c : Char} {cs : List Char} (free : c ∉ cs) : splitWhere (· == c) cs = [cs] :=
  splitWhere_of_none fun _ member => beq_false_of_ne fun same => free (same ▸ member)

def Whole (text : String) : Prop :=
  text = "" ∨ ∃ before, text = before ++ "\n"

theorem linesOfPieces_append (pieces : List (List Char)) {more : List (List Char)} (some : more ≠ []) :
    linesOfPieces (pieces ++ more) = pieces.map dropReturn ++ linesOfPieces more := by
  induction pieces with
  | nil => rfl
  | cons piece rest ih =>
    cases tail : rest ++ more with
    | nil => exact absurd (List.append_eq_nil_iff.1 tail).2 some
    | cons next others =>
      rw [List.cons_append, tail, linesOfPieces, ← tail, ih]
      · rfl
      · simp

/-- Behind whole lines the next line begins. -/
theorem lines_append {first : String} (whole : Whole first) (second : String) :
    lines (first ++ second).toList = lines first.toList ++ lines second.toList := by
  rcases whole with rfl | ⟨before, rfl⟩
  · rw [String.empty_append]
    rfl
  · have cut : ∀ rest : List Char, lines (before.toList ++ '\n' :: rest) =
        (splitWhere (· == '\n') before.toList).map dropReturn ++ lines rest := by
      intro rest
      rw [lines, splitWhere_append_cons _ '\n' rfl]
      exact linesOfPieces_append _ (splitWhere_ne_nil _ rest)
    have spelled : (before ++ "\n" ++ second).toList = before.toList ++ '\n' :: second.toList := by simp
    have spelled' : (before ++ "\n").toList = before.toList ++ '\n' :: [] := by simp
    rw [spelled, spelled', cut, cut, List.append_assoc]
    rfl

theorem Whole.append {first second : String} (whole : Whole first) (whole' : Whole second) :
    Whole (first ++ second) := by
  rcases whole' with rfl | ⟨before, rfl⟩
  · rwa [String.append_empty]
  · exact .inr ⟨first ++ before, (String.append_assoc).symm⟩

theorem lines_nil : lines [] = [] :=
  rfl

theorem lines_line {line : List Char} (free : '\n' ∉ line) (rest : List Char) :
    lines (line ++ '\n' :: rest) = dropReturn line :: lines rest := by
  rw [lines, splitWhere_append_cons _ '\n' rfl, splitWhere_of_not_mem free]
  exact linesOfPieces_append [line] (splitWhere_ne_nil _ rest)

theorem lines_last {line : List Char} (free : '\n' ∉ line) : lines line = if line.isEmpty then [] else [line] := by
  rw [lines, splitWhere_of_not_mem free, linesOfPieces]

theorem dropReturn_of_not_mem {line : List Char} (free : '\r' ∉ line) : dropReturn line = line := by
  unfold dropReturn
  split
  next rest ends =>
    have inside : '\r' ∈ line.reverse := by
      rw [ends]
      exact List.mem_cons_self
    exact absurd (List.mem_reverse.1 inside) free
  · rfl

/-- Only what ends with a carriage return loses it. -/
theorem dropReturn_append (front : List Char) {back : List Char} (free : '\r' ∉ back) (some' : back ≠ []) :
    dropReturn (front ++ back) = front ++ back := by
  have mirrored : (front ++ back).reverse = back.reverse ++ front.reverse := List.reverse_append
  cases last : back.reverse with
  | nil => exact absurd (List.reverse_eq_nil_iff.1 last) some'
  | cons c rest =>
    have apart : c ≠ '\r' := by
      rintro rfl
      exact free (List.mem_reverse.1 (last ▸ List.mem_cons_self))
    rw [dropReturn, mirrored, last]
    split
    next same => exact absurd (List.cons.inj same).1 apart
    · rfl

/-! Finished lines, and what stands behind them. -/

def finished (text : String) : String :=
  String.ofList (text.toList.rdropWhile (· != '\n'))

def unfinished (text : String) : List Char :=
  text.toList.rtakeWhile (· != '\n')

theorem finished_unfinished (text : String) : text = finished text ++ String.ofList (unfinished text) := by
  rw [finished, unfinished, ← String.ofList_append, List.rdropWhile_append_rtakeWhile, String.ofList_toList]

theorem newline_not_mem_unfinished (text : String) : '\n' ∉ unfinished text := by
  intro inside
  have kept := List.mem_rtakeWhile_imp inside
  exact absurd kept (by decide)

theorem whole_finished (text : String) : Whole (finished text) := by
  rw [finished]
  induction text.toList using List.reverseRecOn with
  | nil => exact .inl rfl
  | append_singleton front c ih =>
    rw [List.rdropWhile_concat]
    split
    · exact ih
    next feed =>
      have ends : c = '\n' := by simpa using feed
      exact .inr ⟨String.ofList front, by rw [ends, String.ofList_append]⟩

theorem unfinished_of_whole {text : String} (whole : Whole text) : unfinished text = [] := by
  rcases whole with rfl | ⟨before, rfl⟩
  · rfl
  · rw [unfinished, String.toList_append]
    exact List.rtakeWhile_concat_neg _ _ _ (by decide)

theorem finished_of_whole {text : String} (whole : Whole text) : finished text = text := by
  have parts := finished_unfinished text
  rw [unfinished_of_whole whole, String.ofList_nil, String.append_empty] at parts
  exact parts.symm

/-! Lines taken out. -/

def keepPieces (keep : List Char → Bool) : List (List Char) → List Char
  | [] => []
  | [last] => if keep last then last else []
  | line :: rest => (if keep (dropReturn line) then line ++ ['\n'] else []) ++ keepPieces keep rest

def keepLines (keep : List Char → Bool) (cs : List Char) : List Char :=
  keepPieces keep (splitWhere (· == '\n') cs)

theorem lines_keepPieces (keep : List Char → Bool) {pieces : List (List Char)}
    (free : ∀ piece ∈ pieces, '\n' ∉ piece) :
    lines (keepPieces keep pieces) = (linesOfPieces pieces).filter keep := by
  induction pieces with
  | nil => rfl
  | cons line rest ih =>
    obtain ⟨own, others⟩ := List.forall_mem_cons.1 free
    cases rest with
    | nil =>
      have whole := lines_last own
      cases line with
      | nil => cases kept : keep [] <;> simp [keepPieces, kept, linesOfPieces, lines_nil]
      | cons c cs =>
        cases kept : keep (c :: cs) with
        | true => simpa [keepPieces, kept, linesOfPieces] using whole
        | false => simp [keepPieces, kept, linesOfPieces, lines_nil]
    | cons next more =>
      simp only [keepPieces, linesOfPieces, List.filter_cons]
      split
      · rw [List.append_assoc, List.singleton_append, lines_line own, ih others]
      · rw [List.nil_append, ih others]

/-- The lines that are left are the lines that were kept. -/
theorem lines_keepLines (keep : List Char → Bool) (cs : List Char) :
    lines (keepLines keep cs) = (lines cs).filter keep :=
  lines_keepPieces keep fun _ member => not_mem_of_mem_splitWhere member

end Text

end AgentHooks
