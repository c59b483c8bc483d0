import AgentHooks.Text.Blank
import AgentHooks.Text.Lowercase
import Mathlib.Data.List.TakeWhile

/-! The first word of a text, and letters of either case. A text that is written with other capitals among the ASCII
letters has its blanks and its slashes at the same places, and it is the same in lower case. -/

namespace AgentHooks.Text

/-! The first word. -/

/-- What stands between the blanks at the front, if there are any, and the next blank. -/
def firstWord (s : String) : List Char :=
  (s.toList.dropWhile isBlank).takeWhile (! isBlank ·)

def Unbroken (s : String) : Prop :=
  ∀ c ∈ s.toList, isBlank c = false

theorem unbroken_iff (s : String) : Unbroken s ↔ s.toList.all (! isBlank ·) = true := by
  simp only [Unbroken, List.all_eq_true, Bool.not_eq_true']

instance (s : String) : Decidable (Unbroken s) :=
  decidable_of_iff' _ (unbroken_iff s)

theorem head?_splitWhere (p : Char → Bool) (cs : List Char) :
    (splitWhere p cs).head? = some (cs.takeWhile (! p ·)) := by
  induction cs with
  | nil => rfl
  | cons c rest ih =>
    simp only [splitWhere]
    split
    next separates => simp [separates]
    next kept =>
      split
      next nothing => exact absurd nothing (splitWhere_ne_nil p rest)
      next piece pieces cut =>
        rw [cut] at ih
        obtain rfl := Option.some.inj ih
        simp [kept]

theorem head?_words (s : String) :
    (words s.toList).head? = if firstWord s = [] then none else some (firstWord s) := by
  unfold firstWord
  induction s.toList with
  | nil => rfl
  | cons c rest ih =>
    cases blank : isBlank c with
    | true =>
      have skipped : words (c :: rest) = words rest := by simp [words, splitWhere, blank]
      rw [skipped, ih, List.dropWhile_cons_of_pos blank]
    | false =>
      have first := head?_splitWhere isBlank (c :: rest)
      rw [List.dropWhile_cons_of_neg (by simp [blank])]
      simp only [List.takeWhile_cons, blank, Bool.not_false, if_true, reduceCtorEq, if_false] at first ⊢
      unfold words
      cases cut : splitWhere isBlank (c :: rest) with
      | nil => exact absurd cut (splitWhere_ne_nil isBlank _)
      | cons piece pieces =>
        rw [cut] at first
        obtain rfl := Option.some.inj first
        rfl

theorem dropWhile_of_letter {cs : List Char} (letter : ∀ c ∈ cs.head?, isBlank c = false) :
    cs.dropWhile isBlank = cs := by
  cases cs with
  | nil => rfl
  | cons c rest => exact List.dropWhile_cons_of_neg (by simp [letter c rfl])

theorem firstWord_of_letter {s : String} (letter : ∀ c ∈ s.toList.head?, isBlank c = false) :
    firstWord s = s.toList.takeWhile (! isBlank ·) := by
  rw [firstWord, dropWhile_of_letter letter]

theorem Unbroken.firstWord {s : String} (unbroken : Unbroken s) : firstWord s = s.toList := by
  rw [firstWord_of_letter fun c first => unbroken c (List.mem_of_mem_head? first), List.takeWhile_eq_self_iff]
  intro c member
  rw [unbroken c member]
  rfl

/-! Letters of either case. -/

def SameLetters (s t : String) : Prop :=
  s.toList.map Char.toLower = t.toList.map Char.toLower

instance (s t : String) : Decidable (SameLetters s t) :=
  inferInstanceAs (Decidable (_ = _))

/-- What does not tell a capital ASCII letter from the small one does not look at the case of ASCII letters. -/
theorem congr_toLower {α : Type} {f : Char → α}
    (same : ∀ n ∈ List.range' 65 26, f (Char.ofNat n).toLower = f (Char.ofNat n)) (c : Char) : f c.toLower = f c := by
  by_cases capital : c.toNat ∈ List.range' 65 26
  · have here := same c.toNat capital
    rwa [Char.ofNat_toNat] at here
  · have kept : c.toLower = c := by
      refine dif_neg fun inside => capital (List.mem_range'_1.2 ⟨inside.1, Nat.lt_succ_of_le inside.2⟩)
    rw [kept]

theorem isBlank_toLower (c : Char) : isBlank c.toLower = isBlank c :=
  congr_toLower (by decide) c

theorem toLower_eq_iff {d : Char}
    (other : ∀ n ∈ List.range' 65 26, ((Char.ofNat n).toLower == d) = (Char.ofNat n == d)) (c : Char) :
    c.toLower = d ↔ c = d := by
  rw [← beq_iff_eq, congr_toLower (f := (· == d)) other, beq_iff_eq]

theorem slash_toLower (c : Char) : (c.toLower == '/') = (c == '/') :=
  congr_toLower (f := (· == '/')) (by decide) c

theorem cased_toLower (c : Char) : inRanges casedRanges c.toLower = inRanges casedRanges c :=
  congr_toLower (by decide +kernel) c

theorem caseIgnorable_toLower (c : Char) : inRanges caseIgnorableRanges c.toLower = inRanges caseIgnorableRanges c :=
  congr_toLower (by decide +kernel) c

theorem meetsCased_toLower (cs : List Char) : meetsCased (cs.map Char.toLower) = meetsCased cs := by
  have same : inRanges caseIgnorableRanges ∘ Char.toLower = inRanges caseIgnorableRanges := funext caseIgnorable_toLower
  unfold meetsCased
  rw [List.dropWhile_map, same]
  cases cs.dropWhile (inRanges caseIgnorableRanges) with
  | nil => rfl
  | cons c rest => exact cased_toLower c

theorem lowerAt_toLower (before after : List Char) (c : Char) :
    lowerAt (before.map Char.toLower) c.toLower (after.map Char.toLower) = lowerAt before c after := by
  have sigma : (c.toLower == 'Σ') = (c == 'Σ') := congr_toLower (f := (· == 'Σ')) (by decide) c
  have dotted : (c.toLower == 'İ') = (c == 'İ') := congr_toLower (f := (· == 'İ')) (by decide) c
  have moved : mapByRuns lowerRuns c.toLower = mapByRuns lowerRuns c := congr_toLower (by decide +kernel) c
  simp only [lowerAt, sigma, dotted, moved, meetsCased_toLower]

theorem lowerFrom_toLower (before cs : List Char) :
    lowerFrom (before.map Char.toLower) (cs.map Char.toLower) = lowerFrom before cs := by
  induction cs generalizing before with
  | nil => rfl
  | cons c rest ih =>
    simp only [List.map_cons, lowerFrom, lowerAt_toLower]
    exact congrArg (lowerAt before c rest ++ ·) (ih (c :: before))

theorem SameLetters.lower {s t : String} (same : SameLetters s t) : lower s = lower t := by
  unfold Text.lower
  rw [← lowerFrom_toLower [] s.toList, ← lowerFrom_toLower [] t.toList, same]

end AgentHooks.Text
