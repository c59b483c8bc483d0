import AgentHooks.Proofs.Files.Course
import AgentHooks.Proofs.Json.Compact
import AgentHooks.Proofs.Json.Seam
import AgentHooks.Proofs.Loop.Record
import AgentHooks.Proofs.Text.Lines
import AgentHooks.Proofs.Wire.Stable
import AgentHooks.Proofs.World.Journal

/-! The journal read back. An entry's line is one line whatever its texts hold, and it says all there is to know about
the entry. What is added to the journal stands behind what is there: behind a finished line it is a line of its own,
behind an unfinished one it is part of that line. -/

namespace AgentHooks

/-! One entry. -/

theorem Stage.codec_keeps (s : Stage) : Stage.codec.Keeps s := by
  cases s <;> rfl

namespace Entry

open Codec Json

theorem codec_keeps {e : Entry} (instant : e.time.Valid) : codec.Keeps e := by
  unfold codec
  refine record_keeps _ rfl (by decide) ?_
  have text : ∀ {name : String} (s : Option String), (Field.optional name Codec.string).Keeps s := by
    intro name s
    cases s with
    | none => exact rfl
    | some s => exact Field.optional_keeps (string_keeps s) (by simp [Codec.string])
  exact ⟨Field.required_keeps _ (timestamp_keeps instant), Field.required_keeps _ (string_keeps _),
    Field.required_keeps _ (Stage.codec_keeps _), Field.required_keeps _ (string_keeps _), text _, text _, trivial⟩

theorem write_writable (e : Entry) : (codec.write e).IsWritable := by
  obtain ⟨time, ⟨hook, stage, reason, event, session⟩⟩ := e
  cases event with
  | none =>
    cases session with
    | none => exact ⟨trivial, trivial, trivial, trivial, trivial⟩
    | some session => exact ⟨trivial, trivial, trivial, trivial, trivial, trivial⟩
  | some event =>
    cases session with
    | none => exact ⟨trivial, trivial, trivial, trivial, trivial, trivial⟩
    | some session => exact ⟨trivial, trivial, trivial, trivial, trivial, trivial, trivial⟩

theorem write_shallow (e : Entry) : (codec.write e).nesting ≤ maxDepth := by
  obtain ⟨time, ⟨hook, stage, reason, event, session⟩⟩ := e
  have flat : (codec.write ⟨time, ⟨hook, stage, reason, event, session⟩⟩).nesting = 1 := by
    cases event <;> cases session <;> rfl
  rw [flat]
  decide

/-- An entry stands as it is wherever it is written. -/
theorem cut_write (e : Entry) : (codec.write e).restated.cut 0 = codec.write e := by
  rw [restated_of_writable _ e.write_writable]
  exact cut_of_room _ 0 (by have := e.write_shallow; omega)

theorem toList_line (e : Entry) : e.line.toList = (codec.write e).printCompact := by
  rw [line, compact, String.toList_ofList]

/-- An entry's line holds no control character, so it is one line. -/
theorem plain_line (e : Entry) : Plain e.line.toList := by
  rw [toList_line]
  exact plain_printCompact _

theorem line_begins (e : Entry) : ∃ rest, e.line.toList = '\x7b' :: '"' :: 't' :: 's' :: '"' :: rest :=
  e.toList_line ▸ ⟨_, rfl⟩

/-- Behind other text an entry's line is that entry if nothing but blanks stands in front of it, and no entry at all
otherwise. -/
theorem ofLine?_behind {e : Entry} (instant : e.time.Valid) (front : List Char) :
    ofLine? (String.ofList (front ++ e.line.toList)) = if front.all isSpace then some e else none := by
  obtain ⟨rest, begins⟩ := e.line_begins
  have spells := Scan.spells_printCompact (codec.write e)
  rw [← toList_line, begins] at spells
  -- Inside a string the first quote would end it, and `ts` would have to be a word.
  rw [ofLine?, begins, document?_behind spells (fun _ _ => rfl), cut_write]
  split
  · rw [Option.bind_some, codec_keeps instant]
    rfl
  · rfl

theorem ofLine?_line {e : Entry} (instant : e.time.Valid) : ofLine? e.line = some e := by
  have alone := ofLine?_behind instant []
  rwa [List.nil_append, String.ofList_toList] at alone

theorem ofLine?_of_blank {cs : List Char} (blank : cs.all isSpace = true) : ofLine? (String.ofList cs) = none := by
  rw [ofLine?, document?, String.toList_ofList, tokens?_eq_nil_iff.2 blank]
  rfl

end Entry

/-! A journal's text. -/

namespace Journal

open Text

theorem entriesOf_append {first : String} (whole : Whole first) (second : String) :
    entriesOf (first ++ second) = entriesOf first ++ entriesOf second := by
  rw [entriesOf, lines_append whole, List.filterMap_append]
  rfl

theorem entriesOf_last {cs : List Char} (free : '\n' ∉ cs) :
    entriesOf (String.ofList cs) = (Entry.ofLine? (String.ofList cs)).toList := by
  rw [entriesOf, String.toList_ofList, lines_last free]
  cases cs with
  | nil => exact congrArg Option.toList (Entry.ofLine?_of_blank rfl).symm
  | cons c rest =>
    rw [List.isEmpty_cons, if_neg Bool.false_ne_true, List.filterMap_cons]
    cases Entry.ofLine? (String.ofList (c :: rest)) <;> rfl

theorem entriesOf_behind {e : Entry} (instant : e.time.Valid) {front : List Char} (free : '\n' ∉ front) :
    entriesOf (String.ofList front ++ (e.line ++ "\n")) = if front.all Json.isSpace then [e] else [] := by
  have plain := e.plain_line
  have feed : '\n' ∉ front ++ e.line.toList := by
    intro inside
    rcases List.mem_append.1 inside with before | within
    · exact free before
    · exact absurd (plain _ within) (by decide)
  have return' : '\r' ∉ e.line.toList := fun within => absurd (plain _ within) (by decide)
  have some' : e.line.toList ≠ [] := by
    obtain ⟨rest, begins⟩ := e.line_begins
    rw [begins]
    exact List.cons_ne_nil _ _
  have spelled : (String.ofList front ++ (e.line ++ "\n")).toList = front ++ e.line.toList ++ '\n' :: [] := by simp
  rw [entriesOf, spelled, lines_line feed, dropReturn_append front return' some', lines_nil, List.filterMap_cons,
    Entry.ofLine?_behind instant]
  cases front.all Json.isSpace <;> rfl

/-- The entries of the finished lines, and the one that an unfinished line may be. -/
theorem entriesOf_eq (text : String) :
    entriesOf text = entriesOf (finished text) ++ (Entry.ofLine? (String.ofList (unfinished text))).toList := by
  conv_lhs => rw [finished_unfinished text]
  rw [entriesOf_append (whole_finished text), entriesOf_last (newline_not_mem_unfinished text)]

/-- What becomes of a text's entries when one is added. -/
theorem entriesOf_line {e : Entry} (instant : e.time.Valid) (text : String) :
    entriesOf (text ++ (e.line ++ "\n")) =
      entriesOf (finished text) ++ if (unfinished text).all Json.isSpace then [e] else [] := by
  conv_lhs => rw [finished_unfinished text]
  rw [String.append_assoc, entriesOf_append (whole_finished text),
    entriesOf_behind instant (newline_not_mem_unfinished text)]

def answer : Content → Except Fault (List Entry)
  | .text text => .ok (entriesOf text)
  | .garbled _ _ => .error (.io FileError.notText.message)

def textOf (es : List Entry) : String :=
  String.join (es.map fun e => e.line ++ "\n")

theorem textOf_cons (e : Entry) (es : List Entry) : textOf (e :: es) = e.line ++ "\n" ++ textOf es := by
  rw [textOf, List.map_cons, String.join_cons, textOf]

theorem entriesOf_textOf {es : List Entry} (instants : ∀ e ∈ es, e.time.Valid) {text : String} (whole : Whole text) :
    entriesOf (text ++ textOf es) = entriesOf text ++ es := by
  induction es generalizing text with
  | nil =>
    rw [textOf, List.map_nil, String.join_nil, String.append_empty, List.append_nil]
  | cons e rest ih =>
    obtain ⟨instant, instants⟩ := List.forall_mem_cons.1 instants
    have first : entriesOf (text ++ (e.line ++ "\n")) = entriesOf text ++ [e] := by
      rw [entriesOf_line instant, finished_of_whole whole, unfinished_of_whole whole]
      rfl
    rw [textOf_cons, ← String.append_assoc, ih instants (whole.append e.whole_line), first, List.append_assoc,
      List.singleton_append]

end Journal

/-! The journal's file. -/

namespace FileTree

variable {t : FileTree} {q : Path} {j : Journal} {content : Content}

/-- A path leads to a file that can be written and holds this; a file that is still to be made holds no text. -/
structure Bears (q : Path) (t : FileTree) (content : Content) : Prop where
  writable : Writable q t
  content : (t.content? (t.placeOf q)).getD (.text "") = content
  shown : t.Shows q

theorem takes_of_fetch (found : t.fetch q = .ok content) : Takes q t := by
  have stands := content_of_fetch found
  have resolved := placeOf_of_fetch found
  exact ⟨makeParents_of_resolve resolved, resolved, shape?_eq_file.2 ⟨content, content?_eq_some.1 stands⟩⟩

theorem fetch_of_writable (writable : Writable q t) :
    (∃ content, t.fetch q = .ok content) ∨ t.fetch q = .error .notFound := by
  refine (em (t.fetch q = .error .notFound)).symm.imp_left fun found => ?_
  have same := (makeParents_makes t q).fetch found
  rw [← same] at found ⊢
  obtain ⟨place, resolved, free, -⟩ := append_of_append writable.2 ""
  simp only [fetch, resolved, bind, Except.bind] at found ⊢
  split at found
  · exact absurd rfl found
  next standing => exact absurd standing free
  next content stands => exact ⟨content, rfl⟩

theorem bears_of_fetch (found : t.fetch q = .ok content) : Bears q t content :=
  ⟨(takes_of_fetch found).writable, by rw [content_of_fetch found, Option.getD_some], shows_of_fetch found⟩

theorem bears_of_absent (absent : t.content? (t.placeOf q) = none) (writable : Writable q t) :
    Bears q t (.text "") :=
  ⟨writable, by rw [absent, Option.getD_none], fun _ => absent⟩

namespace Bears

variable (bears : Bears q t content) (kept : j.path = some q)

include bears kept

theorem entries : j.entries t = Journal.answer content := by
  have same := bears.content
  simp only [Journal.entries, kept]
  rcases fetch_of_writable bears.writable with ⟨content', found⟩ | missing
  · rw [content_of_fetch found, Option.getD_some] at same
    rw [read_of_fetch found, same]
    cases content <;> rfl
  · rw [bears.shown missing, Option.getD_none] at same
    rw [read_of_unfetched missing, ← same]
    rfl

theorem record (e : Entry) : Bears q (j.record e t) (content ++ (e.line ++ "\n")) := by
  obtain ⟨takes, added⟩ := record_of_writable kept bears.writable e
  rw [bears.content, ← placeOf_eq (j.record_here e t) q] at added
  exact bears_of_fetch (fetch_of_content takes.resolves added)

theorem recordAll (es : List Entry) : Bears q (recordAll j es t) (content ++ Journal.textOf es) := by
  induction es generalizing t content with
  | nil =>
    rw [Journal.textOf, List.map_nil, String.join_nil, Content.append_empty]
    exact bears
  | cons e rest ih =>
    have more := ih (bears.record kept e)
    rwa [Content.append_assoc, ← Journal.textOf_cons] at more

end Bears

end FileTree

namespace Journal

open FileTree Text

variable {t : FileTree} {q : Path} {j : Journal} {content : Content}

/-- From a file that is no text nothing is told, whatever is added to it. -/
theorem untold_of_garbled (kept : j.path = some q) (bears : Bears q t content) (garbled : content.text? = none)
    (es : List Entry) : ∃ fault, j.entries t = .error fault ∧ j.entries (recordAll j es t) = .error fault := by
  cases content with
  | text text => cases garbled
  | garbled bytes broken => exact ⟨_, bears.entries kept, (bears.recordAll kept es).entries kept⟩

/-- A journal whose file is missing, empty or made of whole lines tells what it told before and then the entries that
were added, whatever they say, and what it held before stands in front. If that is no text, nothing can be told of the
file, before or after. -/
theorem added_entries_read_back {es : List Entry} (kept : j.path = some q) (bears : Bears q t content)
    (whole : ∀ text, content = .text text → Whole text) (instants : ∀ e ∈ es, e.time.Valid) :
    (∀ text, content = .text text →
      ∃ told, j.entries t = .ok told ∧ j.entries (recordAll j es t) = .ok (told ++ es)) ∧
    (content.text? = none →
      ∃ fault, j.entries t = .error fault ∧ j.entries (recordAll j es t) = .error fault) ∧
    Bears q (recordAll j es t) (content ++ textOf es) := by
  have after := bears.recordAll kept es
  refine ⟨?_, fun garbled => untold_of_garbled kept bears garbled es, after⟩
  rintro text rfl
  refine ⟨entriesOf text, bears.entries kept, ?_⟩
  rw [after.entries kept]
  exact congrArg Except.ok (entriesOf_textOf instants (whole text rfl))

/-- Behind a line that is no entry, and into a directory that is not there yet. -/
theorem added_entries_read_back_awkward :
    let e : Entry := ⟨⟨9999, 12, 31, 23, 59, 59, 1⟩, ⟨"\n\"\r\n\\", .skip, "\x00é𝄞\u2028", some "", some "\x7b\n"⟩⟩
    let j : Journal := ⟨some ⟨"logs/audit.jsonl"⟩⟩
    let t : FileTree := ⟨[], [(["logs"], .directory), (["logs", "audit.jsonl"], .file "\x7b\"ts\":\n")]⟩
    j.entries (recordAll j [e, e] .empty) = .ok [e, e] ∧ j.entries (recordAll j [e, e] t) = .ok [e, e] := by
  intro e j t
  have instants : ∀ e' ∈ [e, e], e'.time.Valid := by
    have valid : e.time.Valid := by constructor <;> decide
    simp [valid]
  constructor
  · have bears : Bears ⟨"logs/audit.jsonl"⟩ .empty (.text "") := bears_of_absent rfl (by decide +kernel)
    have whole : ∀ text, Content.text "" = .text text → Whole text := by
      rintro _ ⟨⟩
      exact .inl rfl
    obtain ⟨told, before, after⟩ := (added_entries_read_back rfl bears whole instants).1 _ rfl
    have nothing : told = [] := by
      cases before
      rfl
    rw [after, nothing, List.nil_append]
  · have bears : Bears ⟨"logs/audit.jsonl"⟩ t (.text "\x7b\"ts\":\n") := bears_of_fetch rfl
    have whole : ∀ text, Content.text "\x7b\"ts\":\n" = .text text → Whole text := by
      rintro _ ⟨⟩
      exact .inr ⟨"\x7b\"ts\":", by decide +kernel⟩
    obtain ⟨told, before, after⟩ := (added_entries_read_back rfl bears whole instants).1 _ rfl
    have nothing : told = [] := by
      cases before
      rfl
    rw [after, nothing, List.nil_append]

/-- What stands in the finished lines is told before an entry is added and after. The entry itself is told behind it
just if nothing but blanks stands behind the last line's end: otherwise its line goes on from that piece and is no
entry, and if the piece was one by itself it is lost as well. Of a file that is no text nothing is told, before or
after. -/
theorem added_entry_told_iff {e : Entry} (kept : j.path = some q) (bears : Bears q t content) (instant : e.time.Valid) :
    (∀ text, content = .text text →
      let told := entriesOf (finished text)
      let piece := unfinished text
      (j.entries t = .ok (told ++ (Entry.ofLine? (String.ofList piece)).toList) ∧
        j.entries (j.record e t) = .ok (told ++ if piece.all Json.isSpace then [e] else [])) ∧
      ((∃ before, j.entries t = .ok before ∧ j.entries (j.record e t) = .ok (before ++ [e])) ↔
        piece.all Json.isSpace = true) ∧
      ((∃ before more, j.entries t = .ok before ∧ j.entries (j.record e t) = .ok (before ++ more)) ↔
        Entry.ofLine? (String.ofList piece) = none)) ∧
    (content.text? = none →
      ∃ fault, j.entries t = .error fault ∧ j.entries (j.record e t) = .error fault) := by
  refine ⟨?_, fun garbled => untold_of_garbled kept bears garbled [e]⟩
  rintro text rfl told piece
  have before : j.entries t = .ok (told ++ (Entry.ofLine? (String.ofList piece)).toList) := by
    rw [bears.entries kept, answer, entriesOf_eq]
  have after : j.entries (j.record e t) = .ok (told ++ if piece.all Json.isSpace then [e] else []) := by
    rw [(bears.record kept e).entries kept]
    exact congrArg Except.ok (entriesOf_line instant text)
  have blank : piece.all Json.isSpace = true → Entry.ofLine? (String.ofList piece) = none := Entry.ofLine?_of_blank
  refine ⟨⟨before, after⟩, ?_, ?_⟩
  · rw [before, after]
    cases clear : piece.all Json.isSpace with
    | true => simp [blank clear]
    | false => simp
  · rw [before, after]
    cases lost : Entry.ofLine? (String.ofList piece) with
    | none => simp
    | some other =>
      have filled : piece.all Json.isSpace = false := by
        refine Bool.eq_false_iff.2 fun clear => ?_
        rw [blank clear] at lost
        cases lost
      simp [filled]

/-- A journal that breaks off behind an entry loses it, and the next one with it. -/
theorem added_entry_told_iff_torn :
    let e : Entry := ⟨⟨2024, 1, 15, 10, 30, 0, 0⟩, ⟨"autopilot", .inject, "continuation_sent", none, some "ses_1"⟩⟩
    let e' : Entry := ⟨⟨2024, 1, 15, 10, 30, 5, 0⟩, ⟨"dispatcher", .dispatch, "hook_ok", none, none⟩⟩
    let j : Journal := ⟨some ⟨"audit.jsonl"⟩⟩
    let t : FileTree := ⟨[], [(["audit.jsonl"], .file e.line)]⟩
    j.entries t = .ok [e] ∧ j.entries (j.record e' t) = .ok [] := by
  intro e e' j t
  have valid : e.time.Valid := by constructor <;> decide
  have valid' : e'.time.Valid := by constructor <;> decide
  have bears : Bears ⟨"audit.jsonl"⟩ t (.text e.line) := bears_of_fetch rfl
  obtain ⟨⟨before, after⟩, -, -⟩ := (added_entry_told_iff rfl bears valid').1 e.line rfl
  have finished' : finished e.line = "" := by decide +kernel
  have piece : String.ofList (unfinished e.line) = e.line := by decide +kernel
  have filled : (unfinished e.line).all Json.isSpace = false := by decide +kernel
  rw [piece, finished', Entry.ofLine?_line valid] at before
  rw [finished', filled] at after
  exact ⟨before, after⟩

end Journal

end AgentHooks
