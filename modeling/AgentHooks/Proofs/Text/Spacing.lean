import AgentHooks.Proofs.Text.Lines
import AgentHooks.Proofs.Text.Lowering
import Mathlib.Data.List.Chain
import Mathlib.Data.List.Infix

/-! Texts whose words stand one space apart. Putting the words of a text back together makes such a text of it, and what
was evenly spaced before is still found in it, between the same letters. -/

namespace AgentHooks.Text

variable {cs ds w : List Char} {ws vs : List (List Char)} {b : Char}

def evenly (cs : List Char) : List Char :=
  [' '].intercalate (words cs)

structure EvenlySpaced (cs : List Char) : Prop where
  spaces : ∀ c ∈ cs, isBlank c = true → c = ' '
  apart : cs.IsChain fun c d => isBlank c = false ∨ isBlank d = false

theorem evenlySpaced_iff (cs : List Char) :
    EvenlySpaced cs ↔ (∀ c ∈ cs, isBlank c = true → c = ' ') ∧
      cs.IsChain fun c d => isBlank c = false ∨ isBlank d = false :=
  ⟨fun ⟨spaces, apart⟩ => ⟨spaces, apart⟩, fun ⟨spaces, apart⟩ => ⟨spaces, apart⟩⟩

instance (cs : List Char) : Decidable (EvenlySpaced cs) :=
  -- Only the characters of the text are gone through, not all there are.
  have : Decidable (∀ c ∈ cs, isBlank c = true → c = ' ') := List.decidableBAll _ cs
  decidable_of_iff' _ (evenlySpaced_iff cs)

theorem EvenlySpaced.of_part (even : EvenlySpaced ds) (inside : cs <:+: ds) : EvenlySpaced cs := by
  refine ⟨fun c member => even.spaces c (inside.subset member), ?_⟩
  obtain ⟨before, after, rfl⟩ := inside
  exact even.apart.left_of_append.right_of_append

theorem evenlySpaced_of_solid (solid : ∀ c ∈ cs, isBlank c = false) : EvenlySpaced cs := by
  refine ⟨fun c member blank => ?_, ?_⟩
  · rw [solid c member] at blank
    cases blank
  · exact List.Pairwise.isChain (List.pairwise_of_forall_mem_list fun c member _ _ => .inl (solid c member))

theorem EvenlySpaced.append (first : EvenlySpaced cs) (second : EvenlySpaced ds)
    (seam : ∀ c ∈ cs.getLast?, ∀ d ∈ ds.head?, isBlank c = false ∨ isBlank d = false) : EvenlySpaced (cs ++ ds) := by
  refine ⟨fun c member => ?_, List.isChain_append.2 ⟨first.apart, second.apart, seam⟩⟩
  exact (List.mem_append.1 member).elim (first.spaces c) (second.spaces c)

/-! Words. -/

theorem words_blank (blank : isBlank b = true) (cs ds : List Char) : words (cs ++ b :: ds) = words cs ++ words ds := by
  rw [words, splitWhere_append_cons _ b blank, List.filter_append]
  rfl

theorem words_cons_blank (blank : isBlank b = true) (ds : List Char) : words (b :: ds) = words ds :=
  words_blank blank [] ds

theorem words_of_solid (filled : w ≠ []) (solid : ∀ c ∈ w, isBlank c = false) : words w = [w] := by
  rw [words, splitWhere_of_none solid]
  simp [filled]

theorem solid_of_mem_words (member : w ∈ words cs) : w ≠ [] ∧ ∀ c ∈ w, isBlank c = false := by
  obtain ⟨piece, filled⟩ := List.mem_filter.1 member
  exact ⟨by simpa using filled, separates_of_mem_splitWhere piece⟩

theorem words_append_left (edge : ∀ c ∈ cs.getLast?, isBlank c = true) (ds : List Char) :
    words (cs ++ ds) = words cs ++ words ds := by
  rcases List.eq_nil_or_concat cs with rfl | ⟨front, b, rfl⟩
  · rfl
  · have blank : isBlank b = true := edge b (by simp)
    rw [List.concat_eq_append, List.append_assoc, List.singleton_append, words_blank blank, words_blank blank]
    rw [show words [] = [] from rfl, List.append_nil]

theorem words_append_right (edge : ∀ d ∈ ds.head?, isBlank d = true) (cs : List Char) :
    words (cs ++ ds) = words cs ++ words ds := by
  cases ds with
  | nil => rw [List.append_nil, show words [] = [] from rfl, List.append_nil]
  | cons b rest =>
    have blank : isBlank b = true := edge b rfl
    rw [words_blank blank, words_cons_blank blank]

/-! Words put together. -/

theorem intercalate_splitWhere (spaces : ∀ c ∈ cs, isBlank c = true → c = ' ') :
    [' '].intercalate (splitWhere isBlank cs) = cs := by
  induction cs with
  | nil => rfl
  | cons c rest ih =>
    obtain ⟨own, others⟩ := List.forall_mem_cons.1 spaces
    simp only [splitWhere]
    split
    next blank =>
      rw [List.intercalate_cons_of_ne_nil (splitWhere_ne_nil _ rest), ih others, own blank]
      rfl
    · have joined := ih others
      split
      next nothing => exact absurd nothing (splitWhere_ne_nil _ rest)
      next piece pieces cut =>
        rw [cut] at joined
        rw [List.intercalate_cons_cons_left, joined]

theorem filled_of_mem_splitWhere (apart : cs.IsChain fun c d => isBlank c = false ∨ isBlank d = false)
    (back : ∀ c ∈ cs.getLast?, isBlank c = false) : ∀ piece ∈ (splitWhere isBlank cs).tail, piece ≠ [] := by
  induction cs with
  | nil => simp [splitWhere]
  | cons c rest ih =>
    cases rest with
    | nil =>
      have solid : isBlank c = false := back c rfl
      simp [splitWhere, solid]
    | cons d rest =>
      obtain ⟨seam, apart'⟩ := List.isChain_cons.1 apart
      have later := ih apart' (by rwa [List.getLast?_cons_cons] at back)
      have first := head?_splitWhere isBlank (d :: rest)
      rw [splitWhere]
      cases cut : splitWhere isBlank (d :: rest) with
      | nil => exact absurd cut (splitWhere_ne_nil _ _)
      | cons piece pieces =>
        rw [cut] at first later
        split
        next blank =>
          have solid : isBlank d = false := (seam d rfl).resolve_left (by simp [blank])
          have begun : piece ≠ [] := by
            rw [Option.some.inj first]
            simp [solid]
          exact List.forall_mem_cons.2 ⟨begun, later⟩
        next => exact later

/-- A text that is evenly spaced between letters is as its words are when put together. -/
theorem evenly_of_evenlySpaced (even : EvenlySpaced cs) (front : ∀ c ∈ cs.head?, isBlank c = false)
    (back : ∀ c ∈ cs.getLast?, isBlank c = false) : evenly cs = cs := by
  cases cs with
  | nil => rfl
  | cons c rest =>
    have first := head?_splitWhere isBlank (c :: rest)
    have later := filled_of_mem_splitWhere even.apart back
    have kept : words (c :: rest) = splitWhere isBlank (c :: rest) := by
      rw [words, List.filter_eq_self]
      cases cut : splitWhere isBlank (c :: rest) with
      | nil => exact absurd cut (splitWhere_ne_nil _ _)
      | cons piece pieces =>
        rw [cut] at first later
        have begun : piece ≠ [] := by
          rw [Option.some.inj first]
          simp [front c rfl]
        intro own member
        rcases List.mem_cons.1 member with rfl | member
        · simpa using begun
        · simpa using later own member
    rw [evenly, kept, intercalate_splitWhere even.spaces]

theorem evenlySpaced_intercalate (solid : ∀ w ∈ ws, w ≠ [] ∧ ∀ c ∈ w, isBlank c = false) :
    EvenlySpaced ([' '].intercalate ws) ∧ ∀ c ∈ ([' '].intercalate ws).head?, isBlank c = false := by
  induction ws with
  | nil => exact ⟨evenlySpaced_of_solid (List.forall_mem_nil _), fun c first => nomatch first⟩
  | cons w rest ih =>
    obtain ⟨⟨filled, letters⟩, others⟩ := List.forall_mem_cons.1 solid
    obtain ⟨even, front⟩ := ih others
    have head : ∀ more c, c ∈ (w ++ more).head? → isBlank c = false := by
      intro more c first
      rw [List.head?_append_of_ne_nil _ filled] at first
      exact letters c (List.mem_of_mem_head? first)
    cases rest with
    | nil =>
      rw [List.intercalate_singleton]
      exact ⟨evenlySpaced_of_solid letters, fun c first => letters c (List.mem_of_mem_head? first)⟩
    | cons next more =>
      rw [List.intercalate_cons_cons, List.append_assoc]
      refine ⟨(evenlySpaced_of_solid letters).append (EvenlySpaced.append ?_ even ?_) ?_, head _⟩
      · exact ⟨fun c member _ => List.mem_singleton.1 member, List.isChain_singleton _⟩
      · exact fun _ _ d first => .inr (front d first)
      · exact fun c last _ _ => .inl (letters c (List.mem_of_mem_getLast? last))

theorem intercalate_append_left (ws : List (List Char)) (some : vs ≠ []) :
    ∃ front, [' '].intercalate (ws ++ vs) = front ++ [' '].intercalate vs ∧
      ∀ c ∈ front.getLast?, isBlank c = true := by
  induction ws with
  | nil => exact ⟨[], rfl, fun c last => nomatch last⟩
  | cons w rest ih =>
    obtain ⟨front, joined, edge⟩ := ih
    have more : rest ++ vs ≠ [] := by simp [some]
    refine ⟨w ++ ' ' :: front, ?_, ?_⟩
    · rw [List.cons_append, List.intercalate_cons_of_ne_nil more, joined]
      simp
    · intro c last
      rw [List.getLast?_append, List.getLast?_cons, Option.some_or, Option.mem_some] at last
      cases ends : front.getLast? with
      | none =>
        rw [ends] at last
        exact last ▸ rfl
      | some d =>
        rw [ends] at last
        exact last ▸ edge d ends

theorem intercalate_append_right (some : ws ≠ []) (vs : List (List Char)) :
    ∃ back, [' '].intercalate (ws ++ vs) = [' '].intercalate ws ++ back ∧ ∀ c ∈ back.head?, isBlank c = true := by
  cases vs with
  | nil => exact ⟨[], by simp, fun c first => nomatch first⟩
  | cons v rest =>
    refine ⟨' ' :: [' '].intercalate (v :: rest), ?_, fun c first => Option.some.inj first ▸ rfl⟩
    induction ws with
    | nil => exact absurd rfl some
    | cons w more ih =>
      cases more with
      | nil => simp
      | cons next more =>
        have joined := ih (List.cons_ne_nil next more)
        rw [List.cons_append, List.cons_append, List.intercalate_cons_cons, List.intercalate_cons_cons,
          ← List.cons_append, joined]
        simp

/-! A text inside others. -/

def SameEdge (cs ds : List Char) : Prop :=
  ∃ near far far', cs = near ++ far ∧ ds = near ++ far' ∧
    (∀ c ∈ far.head?, isBlank c = true) ∧ ∀ c ∈ far'.head?, isBlank c = true

theorem SameEdge.meetsCased_eq (same : SameEdge cs ds) : meetsCased cs = meetsCased ds := by
  obtain ⟨near, far, far', rfl, rfl, edge, edge'⟩ := same
  refine meetsCased_congr ?_ near
  rw [meetsCased_of_edge edge, meetsCased_of_edge edge']

theorem solid_edge (cs : List Char) :
    ∃ near far, cs = near ++ far ∧ (∀ c ∈ near, isBlank c = false) ∧ ∀ c ∈ far.head?, isBlank c = true := by
  refine ⟨cs.takeWhile (! isBlank ·), cs.dropWhile (! isBlank ·), List.takeWhile_append_dropWhile.symm, ?_, ?_⟩
  · intro c member
    simpa using List.all_eq_true.1 List.all_takeWhile c member
  · intro c first
    have stopped := List.head?_dropWhile_not (! isBlank ·) cs
    rw [Option.mem_def.1 first] at stopped
    simpa using stopped

section Around

variable (even : EvenlySpaced cs) (filled : cs ≠ []) (front : ∀ c ∈ cs.head?, isBlank c = false)
  (back : ∀ c ∈ cs.getLast?, isBlank c = false)

include even filled front back

theorem evenly_between {left right : List Char} (leftSolid : ∀ c ∈ left, isBlank c = false)
    (rightSolid : ∀ c ∈ right, isBlank c = false) : evenly (left ++ cs ++ right) = left ++ cs ++ right := by
  refine evenly_of_evenlySpaced ?_ (fun c first => ?_) (fun c last => ?_)
  · refine ((evenlySpaced_of_solid leftSolid).append even ?_).append (evenlySpaced_of_solid rightSolid) ?_
    · exact fun c last _ _ => .inl (leftSolid c (List.mem_of_mem_getLast? last))
    · exact fun _ _ d first => .inr (rightSolid d (List.mem_of_mem_head? first))
  · rw [List.append_assoc, List.head?_append, Option.mem_def, Option.or_eq_some_iff] at first
    rcases first with near | ⟨-, own⟩
    · exact leftSolid c (List.mem_of_mem_head? near)
    · rw [List.head?_append_of_ne_nil _ filled] at own
      exact front c own
  · rw [List.getLast?_append, Option.mem_def, Option.or_eq_some_iff] at last
    rcases last with near | ⟨-, own⟩
    · exact rightSolid c (List.mem_of_mem_getLast? near)
    · rw [List.getLast?_append_of_ne_nil _ filled] at own
      exact back c own

/-- An evenly spaced text is still there when the words around it are put together, and so are the letters right around
it. -/
theorem evenly_around (before after : List Char) :
    ∃ before' after', evenly (before ++ cs ++ after) = before' ++ cs ++ after' ∧
      SameEdge before.reverse before'.reverse ∧ SameEdge after after' := by
  obtain ⟨left, far, turned, leftSolid, farEdge⟩ := solid_edge before.reverse
  obtain ⟨right, far', rfl, rightSolid, farEdge'⟩ := solid_edge after
  obtain rfl : before = far.reverse ++ left.reverse := by
    rw [← List.reverse_append, ← turned, List.reverse_reverse]
  -- Blanks bound the text with the letters right around it, so its words are words of the whole.
  let core := left.reverse ++ cs ++ right
  have coreKept : [' '].intercalate (words core) = core :=
    evenly_between even filled front back (fun c member => leftSolid c (List.mem_reverse.1 member)) rightSolid
  have coreFilled : words core ≠ [] := by
    intro nothing
    rw [nothing] at coreKept
    have empty : core = [] := coreKept.symm
    exact filled (List.append_eq_nil_iff.1 (List.append_eq_nil_iff.1 empty).1).2
  have cut : words (far.reverse ++ left.reverse ++ cs ++ (right ++ far')) =
      words far.reverse ++ (words core ++ words far') := by
    have edge : ∀ c ∈ far.reverse.getLast?, isBlank c = true := by rwa [List.getLast?_reverse]
    rw [← words_append_right farEdge' core, ← words_append_left edge]
    exact congrArg words (by simp only [core, List.append_assoc])
  have some : words core ++ words far' ≠ [] := fun nothing => coreFilled (List.append_eq_nil_iff.1 nothing).1
  obtain ⟨start, joined, startEdge⟩ := intercalate_append_left (words far.reverse) some
  obtain ⟨stop, joined', stopEdge⟩ := intercalate_append_right coreFilled (words far')
  refine ⟨start ++ left.reverse, right ++ stop, ?_, ⟨left, far, start.reverse, ?_, ?_, farEdge, ?_⟩,
    ⟨right, far', stop, rfl, rfl, farEdge', stopEdge⟩⟩
  · rw [evenly, cut, joined, joined', coreKept]
    simp only [core, List.append_assoc]
  · rw [← List.reverse_append, List.reverse_reverse]
  · rw [List.reverse_append, List.reverse_reverse]
  · rwa [List.head?_reverse]

end Around

/-! In lower case. -/

theorem evenlySpaced_toLower : EvenlySpaced (cs.map Char.toLower) ↔ EvenlySpaced cs := by
  have space : ∀ c : Char, c.toLower = ' ' ↔ c = ' ' := toLower_eq_iff (by decide)
  simp only [evenlySpaced_iff, List.forall_mem_map, List.isChain_map, isBlank_toLower, space]

theorem lowerFrom_intercalate (ws : List (List Char)) :
    lowerFrom [] ([' '].intercalate ws) = [' '].intercalate (ws.map (lowerFrom [])) := by
  induction ws with
  | nil => rfl
  | cons w rest ih =>
    cases rest with
    | nil => simp
    | cons next more =>
      rw [List.intercalate_cons_cons, List.append_assoc, List.singleton_append, lowerFrom_blank rfl, ih]
      simp [List.intercalate_cons_cons]

theorem evenlySpaced_lower_intercalate (solid : ∀ w ∈ ws, w ≠ [] ∧ ∀ c ∈ w, isBlank c = false) :
    EvenlySpaced (lowerFrom [] ([' '].intercalate ws)) := by
  rw [lowerFrom_intercalate]
  refine (evenlySpaced_intercalate fun w member => ?_).1
  obtain ⟨word, among, rfl⟩ := List.mem_map.1 member
  obtain ⟨filled, letters⟩ := solid word among
  exact ⟨fun nothing => filled (lowerFrom_eq_nil_iff.1 nothing), isBlank_of_mem_lowerFrom letters⟩

theorem evenlySpaced_of_lower (even : EvenlySpaced (lowerFrom [] cs)) : EvenlySpaced cs := by
  refine ⟨fun c member blank => ?_, ?_⟩
  · obtain ⟨front, back, rfl⟩ := List.append_of_mem member
    rw [lowerFrom_blank blank] at even
    exact even.spaces c (by simp) blank
  · refine List.isChain_iff_forall_rel_of_append_cons_cons.2 fun a b front back split => ?_
    cases blank : isBlank a with
    | false => exact .inl rfl
    | true =>
      cases blank' : isBlank b with
      | false => exact .inr rfl
      | true =>
        -- Both blanks are still next to each other in lower case.
        have lowered : lowerFrom [] cs = lowerFrom [] front ++ a :: b :: lowerFrom [] back := by
          rw [split, lowerFrom_blank blank]
          exact congrArg (lowerFrom [] front ++ a :: ·) (lowerFrom_blank blank' [] back)
        have seam := List.isChain_iff_forall_rel_of_append_cons_cons.1 even.apart lowered
        rwa [blank, blank'] at seam

end AgentHooks.Text
