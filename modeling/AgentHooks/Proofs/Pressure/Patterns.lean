import AgentHooks.Proofs.Loop.Marker
import AgentHooks.Proofs.Pressure.Listing
import AgentHooks.Proofs.Session.StopWords
import AgentHooks.Proofs.Text.Spacing
import AgentHooks.Proofs.Timestamp.Text

/-! Whether a process counts whose command line contains a pattern. The words of the command line are put together anew,
and the pattern is not, so a pattern that is not evenly spaced is found nowhere. Both are put into lower case, each on
its own, so a capital sigma has to end a word in the command line if it ends one in the pattern, and only then. Every
other pattern is found wherever it is contained. -/

namespace AgentHooks

namespace Text

variable {s t : String}

theorem Trimmed.of_sameLetters (trimmed : Trimmed s) (same : SameLetters s t) : Trimmed t := by
  refine ⟨?_, trimmed.letter same, fun c last => ?_⟩
  · exact fun empty => trimmed.filled_of_sameLetters same (String.toList_eq_nil_iff.2 empty)
  · have lasts : s.toList.getLast?.map Char.toLower = t.toList.getLast?.map Char.toLower := by
      rw [← List.getLast?_map, ← List.getLast?_map]
      exact congrArg List.getLast? same
    rw [Option.mem_def.1 last] at lasts
    obtain ⟨d, last', lower⟩ := Option.map_eq_some_iff.1 lasts
    rw [← isBlank_toLower, ← lower, isBlank_toLower]
    exact trimmed.back d last'

theorem Trimmed.trim_eq (trimmed : Trimmed s) : trim s = s := by
  have back : ∀ c ∈ s.toList.reverse.head?, isBlank c = false := by
    rw [List.head?_reverse]
    exact trimmed.back
  rw [← String.toList_inj, toList_trim, trimBlank, dropEnd, dropWhile_of_letter trimmed.front, dropWhile_of_letter back,
    List.reverse_reverse]

theorem words_of_allBlank {cs : List Char} (blanks : AllBlank cs) : words cs = [] := by
  induction cs with
  | nil => rfl
  | cons c rest ih =>
    obtain ⟨first, others⟩ := List.forall_mem_cons.1 blanks
    rw [words_cons_blank first, ih others]

theorem words_allBlank_append {cs : List Char} (blanks : AllBlank cs) (ds : List Char) : words (cs ++ ds) = words ds := by
  rw [words_append_left fun c last => blanks c (List.mem_of_mem_getLast? last), words_of_allBlank blanks, List.nil_append]

end Text

open Text

namespace ProcessRow

variable {line commandLine : List Char} {rssKb : Nat} {p : String} {patterns : List String}

/-! A row and its command line. -/

/-- The line of a process: its number, its size, a blank, and behind it the command line as it is. -/
def Prints (line : List Char) (rssKb : Nat) (commandLine : List Char) : Prop :=
  ∃ lead pid gap rss blank n, line = lead ++ (pid ++ (gap ++ (rss ++ blank :: commandLine))) ∧
    AllBlank lead ∧ Writes pid n ∧ n < Nat.pow 2 32 ∧ AllBlank gap ∧ gap ≠ [] ∧
    Writes rss rssKb ∧ rssKb < Nat.pow 2 64 ∧ isBlank blank = true

theorem Writes.solid {word : List Char} {n : Nat} (writes : Writes word n) :
    word ≠ [] ∧ ∀ c ∈ word, isBlank c = false := by
  obtain ⟨sign, digits, rfl, sign', filled, plain, -⟩ := writes
  refine ⟨fun nothing => filled (List.append_eq_nil_iff.1 nothing).2, fun c member => ?_⟩
  rcases List.mem_append.1 member with own | digit
  · rcases sign' with rfl | rfl
    · cases own
    · rw [List.mem_singleton.1 own]
      decide
  · exact Timestamp.isBlank_of_isDigit (plain c digit)

theorem Writes.words {word : List Char} {n : Nat} (writes : Writes word n) : words word = [word] :=
  words_of_solid writes.solid.1 writes.solid.2

theorem Prints.tells (prints : Prints line rssKb commandLine) : Tells line rssKb (evenly commandLine) := by
  obtain ⟨lead, pid, gap, rss, blank, n, rfl, leading, number, small, between, some, size, small', behind⟩ := prints
  refine ⟨pid, rss, words commandLine, n, ?_, number, small, size, small', rfl⟩
  cases gap with
  | nil => exact absurd rfl some
  | cons b gap =>
    obtain ⟨first, others⟩ := List.forall_mem_cons.1 between
    rw [words_allBlank_append leading, List.cons_append, words_blank first, words_allBlank_append others,
      words_blank behind, number.words, size.words]
    rfl

/-! A pattern in a command line. -/

/-- The pattern occurs in the text, as it stands or when the ASCII letters of both are small. -/
def Contains (text : List Char) (p : String) : Prop :=
  p.toList <:+: text ∨ p.toList.map Char.toLower <:+: text.map Char.toLower

/-- The pattern, its ASCII letters in either case, stands at a place of the text where the same of its capital sigmas end
words as in the pattern alone. -/
def Legible (text : List Char) (p : String) : Prop :=
  ∃ (before : List Char) (said : String) (after : List Char), text = before ++ said.toList ++ after ∧
    SameLetters p said ∧ SigmasKept before.reverse said.toList after

theorem Contains.place (contains : Contains commandLine p) :
    ∃ (before : List Char) (said : String) (after : List Char),
      commandLine = before ++ said.toList ++ after ∧ SameLetters p said := by
  rcases contains with ⟨before, after, whole⟩ | ⟨before, after, whole⟩
  · exact ⟨before, p, after, whole.symm, rfl⟩
  · obtain ⟨front, after', rfl, fronts, -⟩ := List.map_eq_append_iff.1 whole.symm
    obtain ⟨before', said, rfl, -, same⟩ := List.map_eq_append_iff.1 fronts
    refine ⟨before', String.ofList said, after', by rw [String.toList_ofList], ?_⟩
    rw [SameLetters, String.toList_ofList, same]

theorem sigma_mem_of_sameLetters {said : String} (same : SameLetters p said) (free : 'Σ' ∉ p.toList) :
    'Σ' ∉ said.toList := by
  have sigma : ∀ c : Char, c.toLower = 'Σ' ↔ c = 'Σ' := toLower_eq_iff (by decide)
  have kept : ∀ cs : List Char, 'Σ' ∈ cs.map Char.toLower ↔ 'Σ' ∈ cs := by
    intro cs
    simp only [List.mem_map, sigma, exists_eq_right]
  rwa [← kept, ← show p.toList.map Char.toLower = said.toList.map Char.toLower from same, kept]

/-- A pattern without capital sigmas is legible wherever it is contained. -/
theorem Contains.legible (contains : Contains commandLine p) (free : 'Σ' ∉ p.toList) : Legible commandLine p := by
  obtain ⟨before, said, after, whole, same⟩ := contains.place
  exact ⟨before, said, after, whole, same, sigmasKept_of_not_mem (sigma_mem_of_sameLetters same free) _ _⟩

/-- An evenly spaced pattern that is legible in the command line is found in its words. -/
theorem Legible.found (legible : Legible commandLine p) (trimmed : Trimmed p) (even : EvenlySpaced p.toList) :
    lowerFrom [] p.toList <:+: lowerFrom [] (evenly commandLine) := by
  obtain ⟨before, said, after, rfl, same, kept⟩ := legible
  have trimmed' := trimmed.of_sameLetters same
  have even' : EvenlySpaced said.toList := by
    rw [← evenlySpaced_toLower, ← show p.toList.map Char.toLower = said.toList.map Char.toLower from same]
    exact evenlySpaced_toLower.2 even
  obtain ⟨before', after', put, edge, edge'⟩ :=
    evenly_around even' (fun nothing => trimmed'.filled (String.toList_eq_nil_iff.1 nothing)) trimmed'.front
      trimmed'.back before after
  have lowered : lowerBetween before'.reverse said.toList after' = lowerFrom [] p.toList := by
    rw [← lowerBetween_congr edge.meetsCased_eq edge'.meetsCased_eq, lowerBetween_eq_lowerFrom_iff.2 kept,
      ← lowerFrom_toLower [] p.toList, show p.toList.map Char.toLower = said.toList.map Char.toLower from same]
    exact (lowerFrom_toLower [] said.toList).symm
  rw [put, lowerFrom_eq [] (before' ++ said.toList ++ after'), List.append_assoc, lowerBetween_append,
    lowerBetween_append, List.append_nil, List.append_nil, List.append_nil, lowered]
  exact ⟨_, _, List.append_assoc _ _ _⟩

theorem names_of_mem (member : p ∈ patterns) (trimmed : Trimmed p)
    (found : lowerFrom [] p.toList <:+: lowerFrom [] commandLine) : Names patterns (String.ofList commandLine) := by
  refine ⟨p, member, ?_, ?_⟩
  · rw [trimmed.trim_eq]
    exact trimmed.filled
  · simpa only [trimmed.trim_eq, lower, String.toList_ofList] using found

theorem names_singleton_iff (trimmed : Trimmed p) :
    Names [p] (String.ofList commandLine) ↔ lowerFrom [] p.toList <:+: lowerFrom [] commandLine := by
  refine ⟨?_, names_of_mem (List.mem_singleton_self p) trimmed⟩
  rintro ⟨q, member, -, found⟩
  rw [List.mem_singleton.1 member] at found
  simpa only [trimmed.trim_eq, lower, String.toList_ofList] using found

end ProcessRow

namespace Sample

open ProcessRow

variable {listing other : String} {line commandLine : List Char} {rssKb : Nat} {p : String}

/-- A row adds one to the count if its words contain one of the patterns, and nothing otherwise. -/
theorem processCount_of_listed (listed : (Text.lines listing.toList).Perm (line :: Text.lines other.toList))
    (row : Prints line rssKb commandLine) (patterns : List String) :
    (ofListing listing patterns).processCount = (ofListing other patterns).processCount + 1 ↔
      Names patterns (String.ofList (evenly commandLine)) := by
  have read : ofLine? line = some ⟨rssKb, String.ofList (evenly commandLine)⟩ := by
    rw [ofLine?_eq_some_iff, String.toList_ofList]
    exact row.tells
  have counts : (sizes patterns (Text.lines listing.toList)).length =
      (sizes patterns (line :: Text.lines other.toList)).length := (listed.filterMap _).length_eq
  have named : isMatch (plainPatterns patterns) ⟨rssKb, String.ofList (evenly commandLine)⟩ = true ↔
      Names patterns (String.ofList (evenly commandLine)) := isMatch_plainPatterns_iff
  rw [ofListing_eq, ofListing_eq, counts, ← named, sizes, sizes]
  cases found : isMatch (plainPatterns patterns) ⟨rssKb, String.ofList (evenly commandLine)⟩ with
  | false =>
    have missed : counted patterns line = Option.none := by simp [counted, read, found]
    simp [List.filterMap_cons_none missed, sizes]
  | true =>
    have hit : counted patterns line = some rssKb := by simp [counted, read, found]
    simp [List.filterMap_cons_some hit, sizes]

/-- A pattern that is not evenly spaced is found nowhere. -/
theorem ofListing_cons_of_uneven (trimmed : Trimmed p) (uneven : ¬EvenlySpaced p.toList) (listing : String)
    (patterns : List String) : ofListing listing (p :: patterns) = ofListing listing patterns := by
  have nowhere : ∀ line, counted (p :: patterns) line = counted patterns line := by
    intro line
    refine Option.ext fun kb => ?_
    rw [counted_eq_some_iff, counted_eq_some_iff]
    refine exists_congr fun text => and_congr_right fun tells => ?_
    refine ⟨?_, Names.mono (List.subset_cons_self p patterns)⟩
    rintro ⟨q, member, filled, found⟩
    rcases List.mem_cons.1 member with rfl | member
    · obtain ⟨_, _, args, _, cut, -, -, -, -, words⟩ := tells
      -- The pattern would have to stand in what the words of the row make, and there is no place for it there.
      have even : EvenlySpaced (lowerFrom [] text.toList) := by
        rw [words]
        refine evenlySpaced_lower_intercalate fun w inside => ?_
        have word : w ∈ Text.words line := by
          rw [cut]
          exact List.mem_cons_of_mem _ (List.mem_cons_of_mem _ inside)
        exact solid_of_mem_words word
      rw [trimmed.trim_eq, lower, lower, String.toList_ofList, String.toList_ofList] at found
      exact absurd (evenlySpaced_of_lower (even.of_part found)) uneven
    · exact ⟨q, member, filled, found⟩
  rw [ofListing_eq, ofListing_eq, sizes, sizes, funext nowhere]

/-- A row whose command line contains a pattern counts if the pattern is evenly spaced and legible there, whichever other
patterns there are. Without capital sigmas all that matters is the spacing. In general the row counts because of the
pattern exactly if the pattern is evenly spaced and its lower-case form stands in that of the words of the command line;
a pattern that is not evenly spaced might as well not be there. -/
theorem contained_pattern_counted_iff
    (listed : (Text.lines listing.toList).Perm (line :: Text.lines other.toList))
    (row : Prints line rssKb commandLine) (trimmed : Trimmed p) (contains : Contains commandLine p) :
    let counts := fun patterns =>
      (ofListing listing patterns).processCount = (ofListing other patterns).processCount + 1
    (∀ patterns, p ∈ patterns → EvenlySpaced p.toList → Legible commandLine p → counts patterns) ∧
      ('Σ' ∉ p.toList → (counts [p] ↔ EvenlySpaced p.toList)) ∧
      (counts [p] ↔ EvenlySpaced p.toList ∧ lowerFrom [] p.toList <:+: lowerFrom [] (evenly commandLine)) ∧
      (¬EvenlySpaced p.toList → ∀ patterns, ofListing listing (p :: patterns) = ofListing listing patterns) := by
  intro counts
  have counts_iff : ∀ patterns, counts patterns ↔ Names patterns (String.ofList (evenly commandLine)) :=
    processCount_of_listed listed row
  have alone : counts [p] ↔ EvenlySpaced p.toList ∧ lowerFrom [] p.toList <:+: lowerFrom [] (evenly commandLine) := by
    rw [counts_iff, names_singleton_iff trimmed]
    refine ⟨fun found => ⟨?_, found⟩, And.right⟩
    exact evenlySpaced_of_lower ((evenlySpaced_lower_intercalate fun _ => solid_of_mem_words).of_part found)
  refine ⟨fun patterns member even legible => ?_, fun free => ?_, alone, fun uneven patterns => ?_⟩
  · exact (counts_iff patterns).2 (names_of_mem member trimmed (legible.found trimmed even))
  · exact alone.trans ⟨And.left, fun even => ⟨even, (contains.legible free).found trimmed even⟩⟩
  · exact ofListing_cons_of_uneven trimmed uneven listing patterns

/-- A pattern in capitals that ends inside a word with sigmas is found; one with a tab in it is not. -/
theorem contained_pattern_counted_shouted :
    let rest := "1 1024 init"
    let listing := "1 1024 init\n  412  2097152 /opt/ΟΔΥΣΣΕΥΣ\t--port  4096\n"
    let line := "  412  2097152 /opt/ΟΔΥΣΣΕΥΣ\t--port  4096".toList
    let commandLine := "/opt/ΟΔΥΣΣΕΥΣ\t--port  4096".toList
    let shouted := "/OPT/ΟΔΥΣΣΕ"
    let uneven := "ΕΥΣ\t--port"
    ((Text.lines listing.toList).Perm (line :: Text.lines rest.toList) ∧ Prints line 2097152 commandLine ∧
      (Trimmed shouted ∧ Contains commandLine shouted ∧ EvenlySpaced shouted.toList ∧ Legible commandLine shouted) ∧
      Trimmed uneven ∧ Contains commandLine uneven ∧ ¬EvenlySpaced uneven.toList) ∧
    (ofListing listing ["node", shouted]).processCount = (ofListing rest ["node", shouted]).processCount + 1 ∧
      ofListing listing [uneven, "node"] = ofListing listing ["node"] := by
  intro rest listing line commandLine shouted uneven
  have listed : (Text.lines listing.toList).Perm (line :: Text.lines rest.toList) := by decide +kernel
  obtain ⟨pid, pidSmall⟩ : Writes ['4', '1', '2'] 412 ∧ 412 < Nat.pow 2 32 :=
    number?_eq_some_iff.1 (by decide +kernel)
  obtain ⟨size, sizeSmall⟩ : Writes "2097152".toList 2097152 ∧ 2097152 < Nat.pow 2 64 :=
    number?_eq_some_iff.1 (by decide +kernel)
  have gap : AllBlank [' ', ' '] := by simp [AllBlank, isBlank]
  have row : Prints line 2097152 commandLine :=
    ⟨[' ', ' '], ['4', '1', '2'], [' ', ' '], "2097152".toList, ' ', 412, by decide, gap, pid, pidSmall, gap,
      by decide, size, sizeSmall, by decide⟩
  have trimmed : Trimmed shouted := by decide
  have trimmed' : Trimmed uneven := by decide
  have contains : Contains commandLine shouted := .inr (by decide)
  have contains' : Contains commandLine uneven := .inl (by decide)
  have even : EvenlySpaced shouted.toList := by decide
  have uneven' : ¬EvenlySpaced uneven.toList := by decide
  have legible : Legible commandLine shouted :=
    ⟨[], "/opt/ΟΔΥΣΣΕ", "ΥΣ\t--port  4096".toList, by decide, by decide,
      lowerBetween_eq_lowerFrom_iff.1 (by decide +kernel)⟩
  obtain ⟨counted, -⟩ := contained_pattern_counted_iff listed row trimmed contains
  obtain ⟨-, -, -, ignored⟩ := contained_pattern_counted_iff listed row trimmed' contains'
  exact ⟨⟨listed, row, ⟨trimmed, contains, even, legible⟩, trimmed', contains', uneven'⟩,
    counted _ (by decide) even legible, ignored uneven' _⟩

-- The blanks of the command line are put in order, those of the pattern are not.
example : ofListing "412 2048 node  worker.js" ["node  worker"] = ⟨0, 0⟩ := by decide +kernel

-- The sigma ends a word in the pattern alone.
example : ofListing "412 2048 /opt/ΟΔΟΣΑ" ["ΟΔΟΣ"] = ⟨0, 0⟩ := by decide +kernel

end Sample

end AgentHooks
