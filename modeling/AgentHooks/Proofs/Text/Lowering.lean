import AgentHooks.Proofs.Text.Folding
import AgentHooks.Proofs.Text.Words

/-! Lower case in its surroundings. Only a capital sigma is written in one of two ways, and only the letters around it
decide which; nothing beyond the nearest blank does. So a text in lower case is its parts in lower case, as long as the
sigmas in them end words in the whole text if they do so in the part. -/

namespace AgentHooks.Text

variable {before before' after after' cs ds : List Char} {b c d : Char}

/-! Blanks. -/

theorem lowerRuns_miss : ∀ run ∈ lowerRuns, ∀ n ∈ blanks,
    (n : Int) - run.shift < run.first ∨ run.last < n - run.shift := by
  decide +kernel

theorem lowerRuns_keep : ∀ n ∈ blanks, mapByRuns lowerRuns (Char.ofNat n) = Char.ofNat n := by
  decide +kernel

theorem isBlank_of_mem_lowerAt (member : d ∈ lowerAt before c after) : isBlank d = isBlank c := by
  unfold lowerAt at member
  split at member
  next sigma =>
    rw [beq_iff_eq.1 sigma, List.mem_singleton.1 member]
    split <;> decide
  · split at member
    next dotted =>
      rw [beq_iff_eq.1 dotted]
      rcases List.mem_cons.1 member with rfl | second
      · decide
      · rw [List.mem_singleton.1 second]
        decide
    next =>
      rw [List.mem_singleton.1 member]
      exact isBlank_mapByRuns lowerRuns_miss lowerRuns_keep c

theorem lowerAt_of_isBlank (blank : isBlank b = true) (before after : List Char) : lowerAt before b after = [b] := by
  have sigma : (b == 'Σ') = false := by
    refine beq_eq_false_iff_ne.2 fun same => ?_
    rw [same] at blank
    exact absurd blank (by decide)
  have dotted : (b == 'İ') = false := by
    refine beq_eq_false_iff_ne.2 fun same => ?_
    rw [same] at blank
    exact absurd blank (by decide)
  have kept := lowerRuns_keep b.toNat (mem_blanks blank)
  rw [Char.ofNat_toNat] at kept
  simp [lowerAt, sigma, dotted, kept]

/-! Nothing becomes nothing. -/

theorem lowerAt_ne_nil (before : List Char) (c : Char) (after : List Char) : lowerAt before c after ≠ [] := by
  unfold lowerAt
  split
  · simp
  · split <;> simp

theorem lowerFrom_eq_nil_iff : lowerFrom before cs = [] ↔ cs = [] := by
  cases cs with
  | nil => exact Iff.rfl
  | cons c rest => simp [lowerFrom, lowerAt_ne_nil]

theorem lower_eq_empty_iff (s : String) : lower s = "" ↔ s = "" := by
  rw [← String.toList_inj, ← String.toList_inj, lower, String.toList_ofList]
  exact lowerFrom_eq_nil_iff

/-! What a sigma sees. -/

/-- Whether a capital sigma between these texts, the one before it read backwards, ends a word. -/
def endsWord (before after : List Char) : Bool :=
  meetsCased before && !meetsCased after

theorem meetsCased_cons (c : Char) (cs : List Char) :
    meetsCased (c :: cs) =
      if inRanges caseIgnorableRanges c = true then meetsCased cs else inRanges casedRanges c := by
  by_cases ignored : inRanges caseIgnorableRanges c = true
  · rw [if_pos ignored, meetsCased, List.dropWhile_cons_of_pos ignored, meetsCased]
  · rw [if_neg ignored, meetsCased, List.dropWhile_cons_of_neg ignored]

theorem meetsCased_congr (same : meetsCased before = meetsCased before') (cs : List Char) :
    meetsCased (cs ++ before) = meetsCased (cs ++ before') := by
  induction cs with
  | nil => exact same
  | cons c rest ih => rw [List.cons_append, List.cons_append, meetsCased_cons, meetsCased_cons, ih]

/-- Nothing is seen through a blank. -/
theorem meetsCased_of_edge (edge : ∀ c ∈ cs.head?, isBlank c = true) : meetsCased cs = false := by
  cases cs with
  | nil => rfl
  | cons b rest =>
    have blank : isBlank b = true := edge b rfl
    have plain : ∀ n ∈ blanks, inRanges caseIgnorableRanges (Char.ofNat n) = false ∧
        inRanges casedRanges (Char.ofNat n) = false := by
      decide +kernel
    obtain ⟨ignored, cased⟩ := plain b.toNat (mem_blanks blank)
    rw [Char.ofNat_toNat] at ignored cased
    rw [meetsCased_cons, ignored, cased]
    rfl

/-! A text between others. -/

def lowerBetween (before : List Char) : List Char → List Char → List Char
  | [], _ => []
  | c :: rest, after => lowerAt before c (rest ++ after) ++ lowerBetween (c :: before) rest after

theorem lowerFrom_eq (before cs : List Char) : lowerFrom before cs = lowerBetween before cs [] := by
  induction cs generalizing before with
  | nil => rfl
  | cons c rest ih => rw [lowerFrom, lowerBetween, ih, List.append_nil]

theorem lowerBetween_append (before cs ds after : List Char) :
    lowerBetween before (cs ++ ds) after =
      lowerBetween before cs (ds ++ after) ++ lowerBetween (cs.reverse ++ before) ds after := by
  induction cs generalizing before with
  | nil => rfl
  | cons c rest ih =>
    rw [List.cons_append, lowerBetween, ih, lowerBetween]
    simp

theorem length_lowerAt (before after before' after' : List Char) (c : Char) :
    (lowerAt before c after).length = (lowerAt before' c after').length := by
  unfold lowerAt
  split
  · rfl
  · split <;> rfl

theorem lowerAt_eq_iff :
    lowerAt before c after = lowerAt before' c after' ↔
      (c = 'Σ' → endsWord before after = endsWord before' after') := by
  by_cases sigma : c = 'Σ'
  · subst sigma
    have written : ∀ front back, lowerAt front 'Σ' back = [if endsWord front back = true then 'ς' else 'σ'] :=
      fun _ _ => rfl
    rw [written, written]
    cases endsWord before after <;> cases endsWord before' after' <;> decide
  · simp [lowerAt, beq_false_of_ne sigma, sigma]

/-- A text has the same lower-case form in two places exactly if the same of its capital sigmas end words there. -/
theorem lowerBetween_eq_iff :
    lowerBetween before cs after = lowerBetween before' cs after' ↔
      ∀ u v, cs = u ++ 'Σ' :: v →
        endsWord (u.reverse ++ before) (v ++ after) = endsWord (u.reverse ++ before') (v ++ after') := by
  induction cs generalizing before before' with
  | nil => simp [lowerBetween]
  | cons c rest ih =>
    -- A character has as many letters in lower case wherever it stands, so the forms agree piece by piece.
    have cut : ∀ xs ys, lowerAt before c (rest ++ after) ++ xs = lowerAt before' c (rest ++ after') ++ ys ↔
        lowerAt before c (rest ++ after) = lowerAt before' c (rest ++ after') ∧ xs = ys := by
      intro xs ys
      refine ⟨fun same => List.append_inj same (length_lowerAt _ _ _ _ c), ?_⟩
      rintro ⟨first, rfl⟩
      rw [first]
    rw [lowerBetween, lowerBetween, cut, lowerAt_eq_iff, ih]
    constructor
    · rintro ⟨here, later⟩ u v split
      cases u with
      | nil =>
        obtain ⟨rfl, rfl⟩ := List.cons_eq_cons.1 split
        exact here rfl
      | cons d u =>
        obtain ⟨rfl, rfl⟩ := List.cons_eq_cons.1 split
        simpa using later u v rfl
    · intro all
      refine ⟨fun sigma => ?_, fun u v split => ?_⟩
      · simpa using all [] rest (by rw [sigma]; rfl)
      · simpa using all (c :: u) v (by rw [split]; rfl)

theorem lowerBetween_congr (front : meetsCased before = meetsCased before') (back : meetsCased after = meetsCased after')
    (cs : List Char) : lowerBetween before cs after = lowerBetween before' cs after' := by
  refine lowerBetween_eq_iff.2 fun u v _ => ?_
  rw [endsWord, endsWord, meetsCased_congr front, meetsCased_congr back]

/-- The capital sigmas of a text that end words between these others are the ones that do so without them. -/
def SigmasKept (before cs after : List Char) : Prop :=
  ∀ u v, cs = u ++ 'Σ' :: v → endsWord (u.reverse ++ before) (v ++ after) = endsWord u.reverse v

theorem lowerBetween_eq_lowerFrom_iff :
    lowerBetween before cs after = lowerFrom [] cs ↔ SigmasKept before cs after := by
  rw [lowerFrom_eq, lowerBetween_eq_iff]
  simp only [SigmasKept, List.append_nil]

theorem sigmasKept_of_not_mem (free : 'Σ' ∉ cs) (before after : List Char) : SigmasKept before cs after := by
  intro u v split
  rw [split] at free
  exact absurd (List.mem_append_right u List.mem_cons_self) free

/-- Each side of a blank is put into lower case on its own. -/
theorem lowerFrom_blank (blank : isBlank b = true) (cs ds : List Char) :
    lowerFrom [] (cs ++ b :: ds) = lowerFrom [] cs ++ b :: lowerFrom [] ds := by
  have edge : ∀ rest, meetsCased (b :: rest) = meetsCased [] := fun rest =>
    meetsCased_of_edge fun c first => Option.some.inj first ▸ blank
  rw [lowerFrom_eq, lowerBetween_append, lowerBetween, lowerAt_of_isBlank blank, List.singleton_append, List.append_nil,
    lowerBetween_congr rfl (edge ds), lowerBetween_congr (edge _) rfl, ← lowerFrom_eq, ← lowerFrom_eq]

theorem isBlank_of_mem_lowerFrom (solid : ∀ c ∈ cs, isBlank c = false) :
    ∀ d ∈ lowerFrom before cs, isBlank d = false := by
  induction cs generalizing before with
  | nil => simp [lowerFrom]
  | cons c rest ih =>
    obtain ⟨first, others⟩ := List.forall_mem_cons.1 solid
    intro d member
    rcases List.mem_append.1 member with here | later
    · exact (isBlank_of_mem_lowerAt here).trans first
    · exact ih others d later

end AgentHooks.Text
