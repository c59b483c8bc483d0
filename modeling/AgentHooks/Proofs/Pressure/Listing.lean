import AgentHooks.Pressure.Sample
import AgentHooks.Proofs.Text.Lowering
import Mathlib.Algebra.Order.BigOperators.Group.List
import Mathlib.Algebra.Order.Ring.Nat
import Mathlib.Data.List.Infix

/-! What a listing of processes comes to. Each line is looked at on its own and is one process or none, so the sample is
told by the lines that count, and neither their order nor the lines between them matter. -/

namespace AgentHooks

namespace Text

theorem occursIn_iff (needle cs : List Char) : occursIn needle cs = true ↔ needle <:+: cs := by
  induction cs with
  | nil => simp [occursIn]
  | cons c rest ih => simp only [occursIn, Bool.or_eq_true, List.isPrefixOf_iff_prefix, ih, List.infix_cons_iff]

end Text

namespace ProcessRow

/-- The number that a word writes in decimal digits, with or without a plus sign before them. -/
def Writes (word : List Char) (n : Nat) : Prop :=
  ∃ sign digits, word = sign ++ digits ∧ (sign = [] ∨ sign = ['+']) ∧ digits ≠ [] ∧
    (∀ c ∈ digits, c.isDigit = true) ∧ Nat.ofDigitChars 10 digits 0 = n

def Tells (line : List Char) (rssKb : Nat) (commandLine : List Char) : Prop :=
  ∃ pid rss args n, Text.words line = pid :: rss :: args ∧ Writes pid n ∧ n < Nat.pow 2 32 ∧
    Writes rss rssKb ∧ rssKb < Nat.pow 2 64 ∧ commandLine = [' '].intercalate args

/-- A command line in which one of the patterns occurs when both are in lower case, the pattern without the blanks around
it; blank patterns occur nowhere. -/
def Names (patterns : List String) (commandLine : String) : Prop :=
  ∃ p ∈ patterns, Text.trim p ≠ "" ∧ (Text.lower (Text.trim p)).toList <:+: (Text.lower commandLine).toList

def ofDigits? (bound : Nat) (digits : List Char) : Option Nat :=
  if digits.isEmpty || !digits.all Char.isDigit then none
  else
    let n := Nat.ofDigitChars 10 digits 0
    if n < bound then some n else none

theorem ofDigits?_eq_some_iff {bound n : Nat} {digits : List Char} :
    ofDigits? bound digits = some n ↔
      (digits ≠ [] ∧ ∀ c ∈ digits, c.isDigit = true) ∧ Nat.ofDigitChars 10 digits 0 = n ∧ n < bound := by
  have tested : (digits.isEmpty || !digits.all Char.isDigit) = true ↔
      ¬(digits ≠ [] ∧ ∀ c ∈ digits, c.isDigit = true) := by
    simp [List.isEmpty_iff, imp_iff_not_or]
  simp only [ofDigits?, tested, ite_not, Option.ite_none_right_eq_some, Option.some.injEq]
  constructor
  · rintro ⟨numeral, small, rfl⟩
    exact ⟨numeral, rfl, small⟩
  · rintro ⟨numeral, rfl, small⟩
    exact ⟨numeral, small, rfl⟩

theorem number?_eq_ofDigits? (bound : Nat) {word digits : List Char}
    (split : word = '+' :: digits ∨ word = digits ∧ ∀ rest, word ≠ '+' :: rest) :
    number? bound word = ofDigits? bound digits := by
  have decimal : digits.foldl (fun n c => n * 10 + (c.toNat - '0'.toNat)) 0 = Nat.ofDigitChars 10 digits 0 := by
    simp only [Nat.ofDigitChars_eq_foldl, Nat.mul_comm]
  rcases split with rfl | ⟨rfl, unsigned⟩
  · simp only [number?, decimal, ofDigits?]
  · unfold number?
    split
    next rest => exact absurd rfl (unsigned rest)
    next => simp only [decimal, ofDigits?]

theorem number?_eq_some_iff {bound n : Nat} {word : List Char} :
    number? bound word = some n ↔ Writes word n ∧ n < bound := by
  constructor
  · intro found
    by_cases signed : ∃ digits, word = '+' :: digits
    · obtain ⟨digits, rfl⟩ := signed
      rw [number?_eq_ofDigits? bound (.inl rfl), ofDigits?_eq_some_iff] at found
      obtain ⟨⟨filled, plain⟩, value, small⟩ := found
      exact ⟨⟨['+'], digits, rfl, .inr rfl, filled, plain, value⟩, small⟩
    · rw [number?_eq_ofDigits? bound (.inr ⟨rfl, not_exists.1 signed⟩), ofDigits?_eq_some_iff] at found
      obtain ⟨⟨filled, plain⟩, value, small⟩ := found
      exact ⟨⟨[], word, rfl, .inl rfl, filled, plain, value⟩, small⟩
  · rintro ⟨⟨sign, digits, rfl, sign', filled, plain, value⟩, small⟩
    have split : sign ++ digits = '+' :: digits ∨ sign ++ digits = digits ∧ ∀ rest, sign ++ digits ≠ '+' :: rest := by
      rcases sign' with rfl | rfl
      · refine .inr ⟨rfl, fun rest signed => ?_⟩
        have begins : digits = '+' :: rest := signed
        have digit : '+'.isDigit = true := plain '+' (begins ▸ List.mem_cons_self)
        exact absurd digit (by decide)
      · exact .inl rfl
    exact (number?_eq_ofDigits? bound split).trans (ofDigits?_eq_some_iff.2 ⟨⟨filled, plain⟩, value, small⟩)

/-- The rows that lines are read as are the processes that they tell of. -/
theorem ofLine?_eq_some_iff {line : List Char} {row : ProcessRow} :
    ofLine? line = some row ↔ Tells line row.rssKb row.commandLine.toList := by
  constructor
  · intro read
    unfold ofLine? at read
    split at read
    next pid rss args cut =>
      split at read
      next n rssKb first second =>
        cases read
        obtain ⟨number, small⟩ := number?_eq_some_iff.1 first
        obtain ⟨size, small'⟩ := number?_eq_some_iff.1 second
        exact ⟨pid, rss, args, n, cut, number, small, size, small', String.toList_ofList⟩
      · cases read
    · cases read
  · rintro ⟨pid, rss, args, n, cut, number, small, size, small', words⟩
    have first := number?_eq_some_iff.2 ⟨number, small⟩
    have second := number?_eq_some_iff.2 ⟨size, small'⟩
    simp only [ofLine?, cut, first, second, ← words, String.ofList_toList]

theorem isMatch_plainPatterns_iff {patterns : List String} {row : ProcessRow} :
    row.isMatch (Sample.plainPatterns patterns) = true ↔ Names patterns row.commandLine := by
  simp only [isMatch, Sample.plainPatterns, List.any_eq_true, List.mem_filter, List.mem_map, decide_eq_true_eq,
    Text.occursIn_iff]
  constructor
  · rintro ⟨-, ⟨⟨p, member, rfl⟩, filled⟩, occurs⟩
    exact ⟨p, member, fun blank => filled ((Text.lower_eq_empty_iff _).2 blank), occurs⟩
  · rintro ⟨p, member, filled, occurs⟩
    exact ⟨_, ⟨⟨p, member, rfl⟩, fun blank => filled ((Text.lower_eq_empty_iff _).1 blank)⟩, occurs⟩

theorem Names.mono {patterns more : List String} (fewer : patterns ⊆ more) {commandLine : String}
    (names : Names patterns commandLine) : Names more commandLine := by
  obtain ⟨p, member, occurs⟩ := names
  exact ⟨p, fewer member, occurs⟩

end ProcessRow

namespace Sample

open ProcessRow

def counted (patterns : List String) (line : List Char) : Option Nat :=
  ((ofLine? line).filter (·.isMatch (plainPatterns patterns))).map rssKb

theorem counted_eq_some_iff {patterns : List String} {line : List Char} {rssKb : Nat} :
    counted patterns line = some rssKb ↔
      ∃ commandLine : String, Tells line rssKb commandLine.toList ∧ Names patterns commandLine := by
  simp only [counted, Option.map_eq_some_iff, Option.filter_eq_some_iff, ofLine?_eq_some_iff,
    isMatch_plainPatterns_iff]
  constructor
  · rintro ⟨row, ⟨tells, names⟩, rfl⟩
    exact ⟨row.commandLine, tells, names⟩
  · rintro ⟨commandLine, tells, names⟩
    exact ⟨⟨rssKb, commandLine⟩, ⟨tells, names⟩, rfl⟩

def sizes (patterns : List String) (lines : List (List Char)) : List Nat :=
  lines.filterMap (counted patterns)

/-- Adding up within a word: once the bound is reached the sum stays there, so it is the bounded whole sum. -/
theorem foldl_add (rows : List ProcessRow) {kb count : Nat} (within : kb ≤ Json.maxInt) :
    rows.foldl add (kb, count) = (min (kb + (rows.map rssKb).sum) Json.maxInt, count + rows.length) := by
  induction rows generalizing kb count with
  | nil => simp [Nat.min_eq_left within]
  | cons row rest ih =>
    rw [List.foldl_cons, add, ih (Nat.min_le_right _ _), List.map_cons, List.sum_cons, List.length_cons]
    congr 1 <;> omega

theorem ofListing_eq (listing : String) (patterns : List String) :
    ofListing listing patterns =
      ⟨min (sizes patterns (Text.lines listing.toList)).sum Json.maxInt / 1024,
        (sizes patterns (Text.lines listing.toList)).length⟩ := by
  have summed : ((rows listing).filter (·.isMatch (plainPatterns patterns))).map rssKb =
      sizes patterns (Text.lines listing.toList) := by
    rw [rows, List.filter_filterMap, List.map_filterMap]
    rfl
  have told : ((rows listing).filter (·.isMatch (plainPatterns patterns))).length =
      (sizes patterns (Text.lines listing.toList)).length := by
    rw [← summed, List.length_map]
  simp only [ofListing, foldl_add _ (Nat.zero_le _), Nat.zero_add, summed, told]

theorem sizes_sublist {patterns more : List String} (fewer : patterns ⊆ more) (lines : List (List Char)) :
    (sizes patterns lines).Sublist (sizes more lines) := by
  induction lines with
  | nil => exact List.Sublist.refl _
  | cons line rest ih =>
    cases found : counted patterns line with
    | none =>
      rw [sizes, List.filterMap_cons_none found]
      exact ih.trans (List.Sublist.filterMap _ (List.sublist_cons_self line rest))
    | some kb =>
      obtain ⟨commandLine, tells, names⟩ := counted_eq_some_iff.1 found
      have found' := counted_eq_some_iff.2 ⟨commandLine, tells, names.mono fewer⟩
      rw [sizes, sizes, List.filterMap_cons_some found, List.filterMap_cons_some found']
      exact ih.cons_cons kb

theorem ofListing_of_perm {listing other : String} {patterns others : List String}
    (same : (sizes others (Text.lines other.toList)).Perm (sizes patterns (Text.lines listing.toList))) :
    ofListing other others = ofListing listing patterns := by
  rw [ofListing_eq, ofListing_eq, same.sum_eq, same.length_eq]

theorem sizes_of_uncounted {patterns : List String} {extra : List (List Char)}
    (uncounted : ∀ line ∈ extra, counted patterns line = Option.none) (lines : List (List Char)) :
    sizes patterns (extra ++ lines) = sizes patterns lines := by
  have nothing : sizes patterns extra = [] := List.filterMap_eq_nil_iff.2 uncounted
  rw [sizes, List.filterMap_append, ← sizes, nothing, List.nil_append, sizes]

/-- A sample is the count and the sum of the lines that count, the sum kept within a word before it is divided. A line
counts when its first two words are numbers that fit and some pattern, in lower case, occurs in its other words, put
together with one blank between them and in lower case as well; it counts once, whichever patterns occur in it. So
neither the order of the lines nor lines that do not count make a difference, and patterns that are added take nothing
away. -/
theorem listing_sums_up (listing : String) (patterns : List String) :
    let lines := Text.lines listing.toList
    let sample := ofListing listing patterns
    (∀ line rssKb, counted patterns line = some rssKb ↔
      ∃ commandLine : String, Tells line rssKb commandLine.toList ∧ Names patterns commandLine) ∧
    sample.processCount = lines.countP (fun line => (counted patterns line).isSome) ∧
    sample.totalRssMb = min (lines.filterMap (counted patterns)).sum (Nat.pow 2 64 - 1) / 1024 ∧
    (∀ other : String, (Text.lines other.toList).Perm lines → ofListing other patterns = sample) ∧
    (∀ (other : String) (extra : List (List Char)), (Text.lines other.toList).Perm (extra ++ lines) →
      (∀ line ∈ extra, counted patterns line = Option.none) → ofListing other patterns = sample) ∧
    ∀ more, patterns ⊆ more →
      sample.processCount ≤ (ofListing listing more).processCount ∧
        sample.totalRssMb ≤ (ofListing listing more).totalRssMb := by
  intro lines sample
  have summed : sample = _ := ofListing_eq listing patterns
  refine ⟨fun line rssKb => counted_eq_some_iff, ?_, ?_, fun other turned => ?_, ?_, fun more fewer => ?_⟩
  · rw [summed]
    exact List.length_filterMap_eq_countP
  · rw [summed]
    rfl
  · exact ofListing_of_perm (turned.filterMap _)
  · intro other extra inserted uncounted
    have ignored := sizes_of_uncounted uncounted lines
    exact ofListing_of_perm ((inserted.filterMap _).trans (.of_eq ignored))
  · have kept := sizes_sublist fewer (Text.lines listing.toList)
    have sums := kept.sum_le_sum fun size _ => Nat.zero_le size
    rw [summed, ofListing_eq]
    exact ⟨kept.length_le, Nat.div_le_div_right (min_le_min_right _ sums)⟩

/-- Two processes that are looked for, one of them by both patterns; the same listing turned round, with lines that are
no rows or no such process, and with one more pattern. -/
theorem listing_sums_up_turned :
    let listing := "  412  2097152 /usr/bin/OpenCode --port 4096\r\n+9 +2048 node\topencode\n"
    let turned := "+9 +2048 node\topencode\n  412  2097152 /usr/bin/OpenCode --port 4096"
    let noisy := "PID RSS COMMAND\n  412  2097152 /usr/bin/OpenCode --port 4096\n+9 +2048 node\topencode\n1 6400 init"
    let noise := ["PID RSS COMMAND".toList, "1 6400 init".toList]
    let patterns := [" OPENcode ", "node o", " "]
    (ofListing listing patterns = ⟨2050, 2⟩ ∧
      (Text.lines turned.toList).Perm (Text.lines listing.toList) ∧
      (Text.lines noisy.toList).Perm (noise ++ Text.lines listing.toList) ∧
      (∀ line ∈ noise, counted patterns line = Option.none) ∧ patterns ⊆ "init" :: patterns) ∧
    ofListing turned patterns = ⟨2050, 2⟩ ∧ ofListing noisy patterns = ⟨2050, 2⟩ ∧
      (ofListing noisy patterns).totalRssMb ≤ (ofListing noisy ("init" :: patterns)).totalRssMb := by
  intro listing turned noisy noise patterns
  have sample : ofListing listing patterns = ⟨2050, 2⟩ := by decide +kernel
  have order : (Text.lines turned.toList).Perm (Text.lines listing.toList) := by decide +kernel
  have inserted : (Text.lines noisy.toList).Perm (noise ++ Text.lines listing.toList) := by decide +kernel
  have uncounted : ∀ line ∈ noise, counted patterns line = Option.none := by decide +kernel
  have fewer : patterns ⊆ "init" :: patterns := List.subset_cons_self _ _
  obtain ⟨-, -, -, anyOrder, anyNoise, -⟩ := listing_sums_up listing patterns
  obtain ⟨-, -, -, -, -, anyMore⟩ := listing_sums_up noisy patterns
  exact ⟨⟨sample, order, inserted, uncounted, fewer⟩, (anyOrder turned order).trans sample,
    (anyNoise noisy noise inserted uncounted).trans sample, (anyMore _ fewer).2⟩

end Sample

end AgentHooks
