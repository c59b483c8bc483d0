import AgentHooks.Proofs.Settings.WellFormed
import AgentHooks.Proofs.Text.Words
import AgentHooks.Session.StopWords

/-! Which stop commands are recognised. A command line is judged by its first word, so a configured name is recognised
wherever commands are given if its first word is a configured name; names without blanks are. -/

namespace AgentHooks

namespace Text

variable {s t : String}

theorem Trimmed.letter (trimmed : Trimmed s) (same : SameLetters s t) : ∀ c ∈ t.toList.head?, isBlank c = false := by
  intro c first
  have heads : s.toList.head?.map Char.toLower = t.toList.head?.map Char.toLower := by
    rw [← List.head?_map, ← List.head?_map]
    exact congrArg List.head? same
  rw [Option.mem_def.1 first] at heads
  obtain ⟨d, first', lower⟩ := Option.map_eq_some_iff.1 heads
  rw [← isBlank_toLower, ← lower, isBlank_toLower]
  exact trimmed.front d first'

theorem Trimmed.filled_of_sameLetters (trimmed : Trimmed s) (same : SameLetters s t) : t.toList ≠ [] := by
  intro nothing
  have empty : s.toList = [] := by
    unfold SameLetters at same
    rw [nothing] at same
    exact List.map_eq_nil_iff.1 same
  exact trimmed.filled (String.toList_eq_nil_iff.1 empty)

theorem takeWhile_toLower (cs : List Char) :
    (cs.map Char.toLower).takeWhile (! isBlank ·) = (cs.takeWhile (! isBlank ·)).map Char.toLower := by
  rw [List.takeWhile_map]
  refine congrArg (fun p => (cs.takeWhile p).map Char.toLower) ?_
  exact funext fun c => congrArg (!·) (isBlank_toLower c)

theorem firstWord_slash (letter : ∀ c ∈ s.toList.head?, isBlank c = false) :
    firstWord ("/" ++ s) = '/' :: firstWord s := by
  have slash : isBlank '/' = false := by decide
  rw [firstWord_of_letter letter, firstWord_of_letter (by simp [slash])]
  simp [slash]

theorem firstWord_arguments (filled : s.toList ≠ []) (letter : ∀ c ∈ s.toList.head?, isBlank c = false)
    (arguments : String) : firstWord (s ++ " " ++ arguments) = firstWord s := by
  have line : (s ++ " " ++ arguments).toList = s.toList ++ ' ' :: arguments.toList := by simp
  have space : (' ' :: arguments.toList).takeWhile (! isBlank ·) = [] := List.takeWhile_cons_of_neg (by decide)
  have letter' : ∀ c ∈ (s ++ " " ++ arguments).toList.head?, isBlank c = false := by
    rwa [line, List.head?_append_of_ne_nil _ filled]
  rw [firstWord_of_letter letter, firstWord_of_letter letter', line, List.takeWhile_append, space]
  split
  next whole => rw [List.append_nil, (List.takeWhile_prefix _).eq_of_length whole]
  next => rfl

end Text

open Text

namespace StopWords

/-! What a name or a line comes down to. -/

theorem plain_toLower (name : List Char) : plain (name.map Char.toLower) = plain name := by
  have same : (· == '/') ∘ Char.toLower = (· == '/') := funext slash_toLower
  unfold plain lower
  rw [List.dropWhile_map, same, String.toList_ofList, String.toList_ofList]
  exact congrArg String.ofList (lowerFrom_toLower [] _)

theorem plain_slash (name : List Char) : plain ('/' :: name) = plain name := by
  rw [plain, List.dropWhile_cons_of_pos (by decide), plain]

/-- The ways of giving a name as a command, in capitals or not: alone, behind a slash, and with arguments. -/
def Invokes (line name : String) : Prop :=
  ∃ said, SameLetters name said ∧
    (line = said ∨ line = "/" ++ said ∨ ∃ arguments, line = "/" ++ said ++ " " ++ arguments)

/-- Whichever way a trimmed name is given, the line begins with a word, which comes down to the name's first word. -/
theorem Invokes.word {line name : String} (given : Invokes line name) (trimmed : Trimmed name) :
    firstWord line ≠ [] ∧ plain (firstWord line) = plain (firstWord name) := by
  obtain ⟨said, same, way⟩ := given
  have letter := trimmed.letter same
  have said_name : plain (firstWord said) = plain (firstWord name) := by
    rw [firstWord_of_letter letter, firstWord_of_letter trimmed.front, ← plain_toLower, ← takeWhile_toLower, ← same,
      takeWhile_toLower, plain_toLower]
  have behindSlash := firstWord_slash letter
  rcases way with rfl | rfl | ⟨arguments, rfl⟩
  · refine ⟨?_, said_name⟩
    rw [firstWord_of_letter letter]
    cases text : line.toList with
    | nil => exact absurd text (trimmed.filled_of_sameLetters same)
    | cons c rest =>
      have first : isBlank c = false := letter c (by rw [text]; rfl)
      simp [first]
  · rw [behindSlash, plain_slash]
    exact ⟨List.cons_ne_nil _ _, said_name⟩
  · have slash : isBlank '/' = false := by decide
    rw [firstWord_arguments (by simp) (by simp [slash]), behindSlash, plain_slash]
    exact ⟨List.cons_ne_nil _ _, said_name⟩

/-! The three places where a command is given. -/

theorem matchesCommand_iff {w : StopWords} {line : String} (filled : firstWord line ≠ []) :
    w.matchesCommand line = true ↔ plain (firstWord line) ∈ w.commands := by
  have first := head?_words line
  rw [if_neg filled] at first
  unfold matchesCommand
  cases cut : words line.toList with
  | nil =>
    rw [cut] at first
    cases first
  | cons word rest =>
    rw [cut] at first
    obtain rfl := Option.some.inj first
    exact List.contains_iff_mem

theorem matchesTool_of_mem {s : StopSettings} {tool line : String} {call : ToolCall} {args : ToolArguments}
    (listed : tool ∈ s.slashCommandTools) (named : SameLetters tool call.tool) (passes : args.command? = some line) :
    (ofSettings s).matchesTool call args = (ofSettings s).matchesCommand line := by
  have known : (ofSettings s).tools.contains (lower call.tool) = true := by
    rw [List.contains_iff_mem, ← named.lower]
    exact List.mem_map_of_mem listed
  rw [matchesTool, known, passes]
  rfl

/-- The message begins with the line: parts without a word may come before it, and blanks. -/
def Opens (message : Composition) (line : String) : Prop :=
  ∃ silent part rest, message.parts = silent ++ part :: rest ∧
    (∀ p ∈ silent, ∀ text ∈ p.text, trimStart text = "") ∧ part.text.map trimStart = some line

theorem matchesChat_of_opens {w : StopWords} {message : Composition} {line : String} (opens : Opens message line)
    (slash : begins "/" line = true) : w.matchesChat message = w.matchesCommand line := by
  obtain ⟨silent, part, rest, parts, nothing, here⟩ := opens
  obtain ⟨text, saying, rfl⟩ := Option.map_eq_some_iff.1 here
  have said : trimStart text ≠ "" := by
    intro empty
    rw [empty] at slash
    exact absurd slash (by decide)
  have quiet : ((silent.filterMap (·.text)).map trimStart).find? (· ≠ "") = none := by
    rw [List.find?_eq_none]
    intro t member
    obtain ⟨raw, present, rfl⟩ := List.mem_map.1 member
    obtain ⟨p, inside, own⟩ := List.mem_filterMap.1 present
    simpa using nothing p inside raw own
  have first : firstText message.parts = some (trimStart text) := by
    rw [firstText, parts, List.filterMap_append, List.filterMap_cons, saying, List.map_append, List.find?_append, quiet]
    simp [said]
  rw [matchesChat, first]
  simp [slash]

/-! Names from the settings. -/

def Known (s : StopSettings) (name : String) : Prop :=
  ∃ own ∈ s.commandNames ++ s.legacyCommandNames, plain own.toList = plain (firstWord name)

theorem known_of_unbroken {s : StopSettings} {name : String} (own : name ∈ s.commandNames ++ s.legacyCommandNames)
    (unbroken : Unbroken name) : Known s name :=
  ⟨name, own, by rw [unbroken.firstWord]⟩

theorem Invokes.matches_iff {s : StopSettings} {line name : String} (given : Invokes line name)
    (trimmed : Trimmed name) : (ofSettings s).matchesCommand line = true ↔ Known s name := by
  obtain ⟨filled, same⟩ := given.word trimmed
  rw [matchesCommand_iff filled, same]
  exact List.mem_map

/-- A stop command from the settings is recognised if its first word is one of the names in the settings, and only
then, in every place where a command is given, alone or with arguments, in capitals or not. A name without blanks is
always recognised. -/
theorem configured_name_recognised_iff (raw : Json) (name line : String)
    (own : name ∈ (Settings.ofJson raw).stopGuard.commandNames ++ (Settings.ofJson raw).stopGuard.legacyCommandNames)
    (given : Invokes line name) :
    let s := (Settings.ofJson raw).stopGuard
    (Unbroken name → Known s name) ∧
      ((ofSettings s).matchesCommand line = true ↔ Known s name) ∧
      (∀ tool ∈ s.slashCommandTools, ∀ call : ToolCall, ∀ args : ToolArguments, SameLetters tool call.tool →
        args.command? = some line → ((ofSettings s).matchesTool call args = true ↔ Known s name)) ∧
      (begins "/" line = true → ∀ message, Opens message line →
        ((ofSettings s).matchesChat message = true ↔ Known s name)) := by
  intro s
  have trimmed : Trimmed name := by
    refine Settings.trimmed_of_mem_wordings raw name ?_
    simp only [Settings.wordings, List.mem_append] at own ⊢
    rcases own with command | legacy
    · exact .inl (.inl (.inl (.inr command)))
    · exact .inl (.inl (.inr legacy))
  have recognised : (ofSettings s).matchesCommand line = true ↔ Known s name := given.matches_iff trimmed
  refine ⟨known_of_unbroken own, recognised, ?_, ?_⟩
  · intro tool listed call args named passes
    rw [matchesTool_of_mem listed named passes]
    exact recognised
  · intro slash message opens
    rw [matchesChat_of_opens opens slash]
    exact recognised

def naming (name : String) : Json :=
  .object [("stopContinuationGuard",
    .object [("commandNames", .array [.string name]), ("legacyCommandNames", .array [])])]

theorem configured_name_recognised_shouted :
    "halt" ∈ (Settings.ofJson (naming "halt")).stopGuard.commandNames ++
        (Settings.ofJson (naming "halt")).stopGuard.legacyCommandNames ∧
      Invokes "/HALT at once" "halt" ∧ Unbroken "halt" ∧
      (ofSettings (Settings.ofJson (naming "halt")).stopGuard).matchesCommand "/HALT at once" = true := by
  have own : "halt" ∈ (Settings.ofJson (naming "halt")).stopGuard.commandNames ++
      (Settings.ofJson (naming "halt")).stopGuard.legacyCommandNames := by decide +kernel
  have given : Invokes "/HALT at once" "halt" :=
    ⟨"HALT", by decide, .inr (.inr ⟨"at once", by decide⟩)⟩
  have unbroken : Unbroken "halt" := by decide
  obtain ⟨known, recognised, -⟩ := configured_name_recognised_iff (naming "halt") "halt" "/HALT at once" own given
  exact ⟨own, given, unbroken, recognised.2 (known unbroken)⟩

/-- A name with a blank inside is admitted, and is recognised nowhere. -/
theorem broken_name_unrecognised :
    "stop now" ∈ (Settings.ofJson (naming "stop now")).stopGuard.commandNames ∧
      "slashcommand" ∈ (Settings.ofJson (naming "stop now")).stopGuard.slashCommandTools ∧
      (ofSettings (Settings.ofJson (naming "stop now")).stopGuard).matchesCommand "stop now" = false ∧
      (ofSettings (Settings.ofJson (naming "stop now")).stopGuard).matchesCommand "/stop now please" = false ∧
      (ofSettings (Settings.ofJson (naming "stop now")).stopGuard).matchesTool ⟨"slashcommand", "s", "c"⟩
        ⟨.object [("command", .string "/stop now please")]⟩ = false ∧
      (ofSettings (Settings.ofJson (naming "stop now")).stopGuard).matchesChat
        ⟨[.ofText "/stop now please"]⟩ = false := by
  decide +kernel

end StopWords

end AgentHooks
