import AgentHooks.Loop.Marker
import AgentHooks.Loop.Prompt

/-! Which texts carry a mark, and whether the mark that a prompt asks for is one of them. -/

namespace AgentHooks

namespace Text

def Alike (cs ds : List Char) : Prop :=
  cs.map fold = ds.map fold

def AllBlank (cs : List Char) : Prop :=
  ∀ c ∈ cs, isBlank c = true

theorem Alike.refl (cs : List Char) : Alike cs cs :=
  rfl

theorem AllBlank.nil : AllBlank [] :=
  List.forall_mem_nil _

theorem AllBlank.cons {c : Char} {cs : List Char} (first : isBlank c = true) (rest : AllBlank cs) :
    AllBlank (c :: cs) :=
  List.forall_mem_cons.2 ⟨first, rest⟩

theorem AllBlank.append {cs ds : List Char} (hcs : AllBlank cs) (hds : AllBlank ds) : AllBlank (cs ++ ds) :=
  List.forall_mem_append.2 ⟨hcs, hds⟩

theorem allBlank_takeWhile (cs : List Char) : AllBlank (cs.takeWhile isBlank) :=
  List.all_eq_true.1 List.all_takeWhile

theorem trimBlank_between (cs : List Char) :
    ∃ front back, AllBlank front ∧ AllBlank back ∧ cs = front ++ (trimBlank cs ++ back) := by
  let started := cs.dropWhile isBlank
  have back : AllBlank (started.reverse.takeWhile isBlank).reverse := by
    intro c hc
    exact allBlank_takeWhile _ c (List.mem_reverse.1 hc)
  refine ⟨cs.takeWhile isBlank, (started.reverse.takeWhile isBlank).reverse, allBlank_takeWhile cs, back, ?_⟩
  have ended : trimBlank cs ++ (started.reverse.takeWhile isBlank).reverse = started := by
    change (started.reverse.dropWhile isBlank).reverse ++ _ = _
    rw [← List.reverse_append, List.takeWhile_append_dropWhile, List.reverse_reverse]
  rw [ended]
  exact List.takeWhile_append_dropWhile.symm

theorem allBlank_of_trimBlank {cs : List Char} (empty : trimBlank cs = []) : AllBlank cs := by
  obtain ⟨front, back, hfront, hback, split⟩ := trimBlank_between cs
  rw [split, empty]
  exact hfront.append (AllBlank.nil.append hback)

theorem trim_eq_empty_iff (s : String) : trim s = "" ↔ trimBlank s.toList = [] := by
  rw [← String.toList_inj, toList_trim]
  rfl

def blanks : List Nat :=
  [9, 10, 11, 12, 13, 0x20, 0x85, 0xa0, 0x1680, 0x2000, 0x2001, 0x2002, 0x2003, 0x2004, 0x2005, 0x2006,
    0x2007, 0x2008, 0x2009, 0x200a, 0x2028, 0x2029, 0x202f, 0x205f, 0x3000]

theorem mem_blanks {c : Char} (blank : isBlank c = true) : c.toNat ∈ blanks := by
  simp only [isBlank, Bool.or_eq_true, Bool.and_eq_true, decide_eq_true_eq, beq_iff_eq] at blank
  simp only [blanks, List.mem_cons, List.not_mem_nil]
  omega

theorem fold_of_isBlank {c : Char} (blank : isBlank c = true) : fold c = c := by
  have all : ∀ n ∈ blanks, fold (Char.ofNat n) = Char.ofNat n := by decide +kernel
  have here := all c.toNat (mem_blanks blank)
  rwa [Char.ofNat_toNat] at here

end Text

namespace Marker

/-- The texts that are the mark: its three parts up to case, with any blanks around the token. -/
def Spells (m : Marker) (text : List Char) : Prop :=
  ∃ opening front token back closing, Text.Alike m.opening opening ∧ Text.AllBlank front ∧
    Text.Alike m.token token ∧ Text.AllBlank back ∧ Text.Alike m.closing closing ∧
    text = opening ++ (front ++ (token ++ (back ++ closing)))

theorem after?_eq_some {word cs rest : List Char} :
    after? word cs = some rest ↔ ∃ start, Text.Alike word start ∧ cs = start ++ rest := by
  induction word generalizing cs with
  | nil =>
    constructor
    · rintro ⟨⟩
      exact ⟨[], rfl, rfl⟩
    · rintro ⟨start, alike, rfl⟩
      cases start with
      | nil => rfl
      | cons c start => cases alike
  | cons w word ih =>
    cases cs with
    | nil =>
      constructor
      · rintro ⟨⟩
      · rintro ⟨start, alike, empty⟩
        rw [(List.append_eq_nil_iff.1 empty.symm).1] at alike
        cases alike
    | cons c cs =>
      simp only [after?, Text.sameFold, beq_iff_eq]
      constructor
      · intro found
        split at found
        next same =>
          obtain ⟨start, alike, rfl⟩ := ih.1 found
          refine ⟨c :: start, ?_, rfl⟩
          exact List.cons_eq_cons.2 ⟨same, alike⟩
        · cases found
      · rintro ⟨start, alike, cut⟩
        cases start with
        | nil => cases alike
        | cons d start =>
          injection alike with same alike
          injection cut with first cut
          rw [if_pos (first ▸ same)]
          exact ih.2 ⟨start, alike, cut⟩

theorem afterBlanks_iff {found : List Char → Bool} {cs : List Char} :
    afterBlanks found cs = true ↔
      ∃ blanks rest, Text.AllBlank blanks ∧ found rest = true ∧ cs = blanks ++ rest := by
  induction cs with
  | nil =>
    constructor
    · intro here
      exact ⟨[], [], Text.AllBlank.nil, here, rfl⟩
    · rintro ⟨blanks, rest, -, here, empty⟩
      rw [(List.append_eq_nil_iff.1 empty.symm).2] at here
      exact here
  | cons c cs ih =>
    simp only [afterBlanks, Bool.or_eq_true, Bool.and_eq_true, ih]
    constructor
    · rintro (here | ⟨blank, blanks, rest, blanks', here, rfl⟩)
      · exact ⟨[], c :: cs, Text.AllBlank.nil, here, rfl⟩
      · exact ⟨c :: blanks, rest, blanks'.cons blank, here, rfl⟩
    · rintro ⟨blanks, rest, allBlank, here, cut⟩
      cases blanks with
      | nil =>
        rw [cut]
        exact .inl here
      | cons d blanks =>
        injection cut with head cut
        subst head
        obtain ⟨first, others⟩ := List.forall_mem_cons.1 allBlank
        exact .inr ⟨first, blanks, rest, others, here, cut⟩

theorem startsAt_iff (m : Marker) (cs : List Char) :
    m.startsAt cs = true ↔ ∃ mark rest, m.Spells mark ∧ cs = mark ++ rest := by
  constructor
  · intro found
    unfold startsAt at found
    split at found
    · cases found
    next tail opened =>
      obtain ⟨opening, hopening, rfl⟩ := after?_eq_some.1 opened
      obtain ⟨front, tail, hfront, inner, rfl⟩ := afterBlanks_iff.1 found
      split at inner
      · cases inner
      next tail said =>
        obtain ⟨token, htoken, rfl⟩ := after?_eq_some.1 said
        obtain ⟨back, tail, hback, ended, rfl⟩ := afterBlanks_iff.1 inner
        obtain ⟨rest, closed⟩ := Option.isSome_iff_exists.1 ended
        obtain ⟨closing, hclosing, rfl⟩ := after?_eq_some.1 closed
        have spelled : m.Spells (opening ++ (front ++ (token ++ (back ++ closing)))) :=
          ⟨opening, front, token, back, closing, hopening, hfront, htoken, hback, hclosing, rfl⟩
        refine ⟨_, rest, spelled, ?_⟩
        simp only [List.append_assoc]
  · rintro ⟨mark, rest, spelled, rfl⟩
    obtain ⟨opening, front, token, back, closing, hopening, hfront, htoken, hback, hclosing, rfl⟩ := spelled
    have opened : after? m.opening (opening ++ (front ++ (token ++ (back ++ (closing ++ rest))))) = some _ :=
      after?_eq_some.2 ⟨opening, hopening, rfl⟩
    have said : after? m.token (token ++ (back ++ (closing ++ rest))) = some _ :=
      after?_eq_some.2 ⟨token, htoken, rfl⟩
    have closed : after? m.closing (closing ++ rest) = some rest :=
      after?_eq_some.2 ⟨closing, hclosing, rfl⟩
    simp only [startsAt, List.append_assoc, opened]
    refine afterBlanks_iff.2 ⟨front, _, hfront, ?_, rfl⟩
    simp only [said]
    refine afterBlanks_iff.2 ⟨back, _, hback, ?_, rfl⟩
    simp only [closed, Option.isSome_some]

/-- A text carries a mark exactly if some part of it spells the mark. -/
theorem occursIn_iff (m : Marker) (cs : List Char) :
    m.occursIn cs = true ↔ ∃ before mark rest, m.Spells mark ∧ cs = before ++ (mark ++ rest) := by
  induction cs with
  | nil =>
    simp only [occursIn, startsAt_iff]
    constructor
    · rintro ⟨mark, rest, spelled, cut⟩
      exact ⟨[], mark, rest, spelled, cut⟩
    · rintro ⟨before, mark, rest, spelled, cut⟩
      exact ⟨mark, rest, spelled, (List.append_eq_nil_iff.1 cut.symm).2.symm⟩
  | cons c cs ih =>
    simp only [occursIn, Bool.or_eq_true, startsAt_iff, ih]
    constructor
    · rintro (⟨mark, rest, spelled, cut⟩ | ⟨before, mark, rest, spelled, rfl⟩)
      · exact ⟨[], mark, rest, spelled, cut⟩
      · exact ⟨c :: before, mark, rest, spelled, rfl⟩
    · rintro ⟨before, mark, rest, spelled, cut⟩
      cases before with
      | nil => exact .inl ⟨mark, rest, spelled, cut⟩
      | cons b before => exact .inr ⟨before, mark, rest, spelled, (List.cons.inj cut).2⟩

theorem isIn_between {m : Marker} {mark : String} (spelled : m.Spells mark.toList) (a b : String) :
    m.isIn (a ++ mark ++ b) = true := by
  refine (m.occursIn_iff _).2 ⟨a.toList, mark.toList, b.toList, spelled, ?_⟩
  simp only [String.toList_append, List.append_assoc]

def text (m : Marker) : String :=
  String.ofList (m.opening ++ (m.token ++ m.closing))

theorem spells_text (m : Marker) : m.Spells m.text.toList := by
  refine ⟨m.opening, [], m.token, [], m.closing, .refl _, .nil, .refl _, .nil, .refl _, ?_⟩
  rw [text, String.toList_ofList]
  rfl

/-- A text with no letter that agrees with some letter of the token does not carry the mark. -/
theorem occursIn_of_letter {m : Marker} {letter : Char} (needed : letter ∈ m.token) {cs : List Char}
    (missing : Text.fold letter ∉ cs.map Text.fold) : m.occursIn cs = false := by
  cases found : m.occursIn cs with
  | false => rfl
  | true =>
    obtain ⟨before, mark, rest, ⟨opening, front, token, back, closing, -, -, alike, -, -, rfl⟩, rfl⟩ :=
      (m.occursIn_iff cs).1 found
    have folded : Text.fold letter ∈ token.map Text.fold := by
      rw [← show m.token.map Text.fold = token.map Text.fold from alike]
      exact List.mem_map_of_mem needed
    refine absurd ?_ missing
    simp only [List.map_append, List.mem_append, folded, true_or, or_true]

end Marker

namespace Loop

def marker (l : Loop) : Marker :=
  Marker.ofMode l.mode l.promise

theorem marker_promise {l : Loop} (promises : l.mode = .promise) :
    l.marker = ⟨"<promise>".toList, Marker.promiseToken l.promise, "</promise>".toList⟩ := by
  rw [marker, promises]
  rfl

theorem markerText_promise {l : Loop} (promises : l.mode = .promise) :
    l.markerText.toList = "<promise>".toList ++ (l.promise.toList ++ "</promise>".toList) := by
  simp only [markerText, promises, String.toList_append, List.append_assoc]

theorem marker_objective {l : Loop} (objective : l.mode = .objective) :
    l.marker = ⟨"<objective-complete>".toList, "true".toList, "</objective-complete>".toList⟩ := by
  rw [marker, objective]
  rfl

theorem markerText_objective {l : Loop} (objective : l.mode = .objective) :
    l.markerText = "<objective-complete>true</objective-complete>" := by
  rw [markerText, objective]

theorem promptSignal_asks (l : Loop) :
    ∃ lead, l.promptSignal = lead ++ "output exactly:\n\n" ++ l.markerText ++ "\n\n" := by
  unfold promptSignal
  cases l.mode with
  | promise =>
    have split : "When the task is fully complete, output exactly:\n\n" =
        "When the task is fully complete, " ++ "output exactly:\n\n" := by decide
    refine ⟨"## COMPLETION SIGNAL\n\n" ++ "When the task is fully complete, ", ?_⟩
    simp only [split, String.append_assoc]
  | objective =>
    have split : "When the objective is fully met, output exactly:\n\n" =
        "When the objective is fully met, " ++ "output exactly:\n\n" := by decide
    refine ⟨"## COMPLETION SIGNAL\n\n" ++ "When the objective is fully met, ", ?_⟩
    simp only [split, String.append_assoc]

theorem continuationPrompt_asks (l : Loop) :
    ∃ lead, l.continuationPrompt = lead ++ "output exactly:\n\n" ++ l.markerText ++ "\n\n" ++
      "Only signal completion when every open todo is finished.\n" := by
  obtain ⟨lead, asks⟩ := l.promptSignal_asks
  refine ⟨l.promptHead ++ "Your previous turn ended before the task was complete. " ++
    "Continue working on it; do not restart from scratch.\n\n" ++ l.promptTask ++ lead, ?_⟩
  unfold continuationPrompt
  rw [asks]
  simp only [String.append_assoc]

theorem spells_objective {l : Loop} (objective : l.mode = .objective) :
    l.marker.Spells l.markerText.toList := by
  rw [marker_objective objective, markerText_objective objective]
  exact ⟨_, [], _, [], _, .refl _, .nil, .refl _, .nil, .refl _, by decide⟩

/-- A promise that says something is asked for as it is, and searched for without the blanks around it. -/
theorem spells_promise {l : Loop} (promises : l.mode = .promise)
    (said : Text.trimBlank l.promise.toList ≠ []) : l.marker.Spells l.markerText.toList := by
  obtain ⟨front, back, hfront, hback, split⟩ := Text.trimBlank_between l.promise.toList
  have token : Marker.promiseToken l.promise = Text.trimBlank l.promise.toList := by
    unfold Marker.promiseToken
    split
    next empty => exact absurd empty said
    · rfl
  rw [marker_promise promises, markerText_promise promises, token]
  refine ⟨_, front, _, back, _, .refl _, hfront, .refl _, hback, .refl _, ?_⟩
  conv => lhs; rw [split]
  simp only [List.append_assoc]

/-- A blank promise is asked for as it is, but `DONE` is searched for. -/
theorem markerText_missed {l : Loop} (promises : l.mode = .promise)
    (blank : Text.trimBlank l.promise.toList = []) : l.marker.isIn l.markerText = false := by
  have token : Marker.promiseToken l.promise = "DONE".toList := by
    rw [Marker.promiseToken, blank]
  have letter : 'D' ∈ l.marker.token := by
    rw [marker_promise promises, token]
    decide
  refine Marker.occursIn_of_letter letter ?_
  rw [markerText_promise promises, List.map_append, List.map_append]
  have tags : Text.fold 'D' ∉ "<promise>".toList.map Text.fold ∧
      Text.fold 'D' ∉ "</promise>".toList.map Text.fold := by
    decide +kernel
  have isBlank := Text.allBlank_of_trimBlank blank
  intro here
  rcases List.mem_append.1 here with opening | here
  · exact tags.1 opening
  · rcases List.mem_append.1 here with said | closing
    · obtain ⟨c, inside, same⟩ := List.mem_map.1 said
      rw [Text.fold_of_isBlank (isBlank c inside)] at same
      have folded : Text.isBlank (Text.fold 'D') = false := by decide +kernel
      rw [← same, isBlank c inside] at folded
      cases folded
    · exact tags.2 closing

/-- The agent is recognised when it says what the prompt asks for, whatever it says around it, exactly if the
loop does not promise a blank text. It is always recognised when it says the mark that is searched for, which
for a blank promise is not the one that the prompt asks for. -/
theorem markerText_recognised_iff (l : Loop) :
    (∃ lead, l.continuationPrompt = lead ++ "output exactly:\n\n" ++ l.markerText ++ "\n\n" ++
      "Only signal completion when every open todo is finished.\n") ∧
    ((∀ a b, l.marker.isIn (a ++ l.markerText ++ b) = true) ↔
      l.mode = .objective ∨ Text.trim l.promise ≠ "") ∧
    (l.marker.isIn l.markerText = true ↔ l.mode = .objective ∨ Text.trim l.promise ≠ "") ∧
    ∀ a b, l.marker.isIn (a ++ l.marker.text ++ b) = true := by
  have spelled (said : l.mode = .objective ∨ Text.trim l.promise ≠ "") :
      l.marker.Spells l.markerText.toList := by
    cases mode : l.mode with
    | objective => exact spells_objective mode
    | promise =>
      rcases said with objective | said
      · cases mode.symm.trans objective
      · exact spells_promise mode fun blank => said ((Text.trim_eq_empty_iff _).2 blank)
  have missed (here : l.marker.isIn l.markerText = true) :
      l.mode = .objective ∨ Text.trim l.promise ≠ "" := by
    cases mode : l.mode with
    | objective => exact .inl rfl
    | promise =>
      refine .inr fun blank => ?_
      rw [markerText_missed mode ((Text.trim_eq_empty_iff _).1 blank)] at here
      cases here
  have alone : "" ++ l.markerText ++ "" = l.markerText := by
    rw [String.empty_append, String.append_empty]
  refine ⟨l.continuationPrompt_asks, ⟨?_, ?_⟩, ⟨missed, ?_⟩, Marker.isIn_between l.marker.spells_text⟩
  · intro always
    exact missed (alone ▸ always "" "")
  · intro said
    exact Marker.isIn_between (spelled said)
  · intro said
    exact alone ▸ Marker.isIn_between (spelled said) "" ""

end Loop

end AgentHooks
