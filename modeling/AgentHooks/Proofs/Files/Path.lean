import AgentHooks.Files.Path
import AgentHooks.Proofs.Text.Lines

/-! Paths taken apart and put together again. The path up to the last name takes the same steps as the whole
path, as far as it goes, and a name joined to a path is one step more. -/

namespace AgentHooks

theorem Text.splitWhere_eq_splitOn (c : Char) (cs : List Char) :
    Text.splitWhere (· == c) cs = cs.splitOn c := by
  induction cs with
  | nil => rfl
  | cons d rest ih =>
    simp only [Text.splitWhere, List.splitOn, List.splitOnP_cons_eq_if_modifyHead] at ih ⊢
    rw [ih]
    split
    · rfl
    · cases pieces : rest.splitOnP (· == c) with
      | nil => exact absurd pieces (List.splitOnP_ne_nil _ rest)
      | cons piece more => rfl

namespace Path

variable {p q : Path} {name : String}

theorem pieces_eq_splitOn (p : Path) :
    p.pieces = (p.text.toList.splitOn '/').map String.ofList := by
  rw [pieces, Text.splitWhere_eq_splitOn]

theorem slash_not_mem_of_mem_pieces {piece : String} (member : piece ∈ p.pieces) : '/' ∉ piece.toList := by
  obtain ⟨cs, cut, rfl⟩ := List.mem_map.1 member
  rw [String.toList_ofList]
  exact Text.not_mem_of_mem_splitWhere cut

theorem pieces_intercalate {parts : List String} (some : parts ≠ [])
    (plain : ∀ part ∈ parts, '/' ∉ part.toList) : pieces ⟨String.intercalate "/" parts⟩ = parts := by
  have free : ∀ cs ∈ parts.map String.toList, '/' ∉ cs := by
    intro cs member
    obtain ⟨part, among, rfl⟩ := List.mem_map.1 member
    exact plain part among
  have slash : "/".toList = ['/'] := rfl
  rw [pieces_eq_splitOn, String.toList_intercalate, slash, List.splitOn_intercalate '/' free (by simpa using some)]
  simp

theorem intercalate_pieces (p : Path) : String.intercalate "/" p.pieces = p.text := by
  have slash : "/".toList = ['/'] := rfl
  rw [← String.toList_inj, String.toList_intercalate, slash, pieces_eq_splitOn, List.map_map]
  have back : (String.toList ∘ String.ofList) = id := by
    funext cs
    simp
  rw [back, List.map_id, List.intercalate_splitOn]

theorem pieces_append (x y : String) : pieces ⟨x ++ "/" ++ y⟩ = pieces ⟨x⟩ ++ pieces ⟨y⟩ := by
  have spelled : (x ++ "/" ++ y).toList = x.toList ++ '/' :: y.toList := by simp
  simp only [pieces, spelled]
  rw [Text.splitWhere_append_cons _ '/' rfl, List.map_append]

theorem pieces_of_plain (plain : '/' ∉ name.toList) : pieces ⟨name⟩ = [name] := by
  have alone : String.intercalate "/" [name] = name := rfl
  have single := pieces_intercalate (List.cons_ne_nil name []) (by simpa using plain)
  rwa [alone] at single

theorem isAbsolute_iff : p.isAbsolute = true ↔ p.text.toList.head? = some '/' := by
  have slash : "/".toList = ['/'] := rfl
  rw [isAbsolute, Text.begins, slash]
  cases p.text.toList with
  | nil => decide
  | cons c rest =>
    simp only [List.isPrefixOf, Bool.and_true, beq_iff_eq, List.head?_cons, Option.some_inj]
    exact eq_comm

theorem isAbsolute_append {x : String} (some : x ≠ "") (y : String) :
    isAbsolute ⟨x ++ y⟩ = isAbsolute ⟨x⟩ := by
  rw [Bool.eq_iff_iff, isAbsolute_iff, isAbsolute_iff, String.toList_append]
  cases spelled : x.toList with
  | nil => exact absurd (String.toList_eq_nil_iff.1 spelled) some
  | cons c rest => rfl

/-! The path up to the last name. -/

def above (p : Path) : List String :=
  (((p.pieces.reverse.dropWhile isIdle).drop 1).dropWhile isIdle).reverse

theorem parent_eq (p : Path) :
    p.parent = if p.above = [] ∧ p.isAbsolute = true then ⟨"/"⟩ else ⟨String.intercalate "/" p.above⟩ := by
  simp only [parent, above, List.reverse_eq_nil_iff, Bool.and_eq_true, List.isEmpty_iff]

/-- Behind the pieces before the last name comes that name and whatever is idle about it. -/
theorem pieces_eq_above (last : p.names.getLast? = some name) :
    ∃ rest, p.pieces = p.above ++ rest ∧ rest.filter (!isIdle ·) = [name] := by
  obtain ⟨others, named⟩ := List.getLast?_eq_some_iff.1 last
  obtain ⟨before, after, cut, -, own⟩ := List.filter_eq_append_iff.1 named
  obtain ⟨idle, idle', rfl, quiet, own', nothing⟩ := List.filter_eq_cons_iff.1 own
  have active : isIdle name = false := by simpa using own'
  have quiet' : ∀ piece ∈ idle'.reverse, isIdle piece = true := by
    simpa [List.filter_eq_nil_iff] using nothing
  have cut' : p.pieces = before ++ idle ++ name :: idle' := by rw [cut, List.append_assoc]
  have reached : p.above = ((before ++ idle).reverse.dropWhile isIdle).reverse := by
    have turned : p.pieces.reverse = idle'.reverse ++ name :: (before ++ idle).reverse := by
      simp [cut']
    rw [above, turned, List.dropWhile_append_of_pos quiet', List.dropWhile_cons, active]
    rfl
  have dropped : ((before ++ idle).reverse.takeWhile isIdle).reverse.filter (!isIdle ·) = [] := by
    have all := List.all_eq_true.1 (List.all_takeWhile (p := isIdle) (l := (before ++ idle).reverse))
    rw [List.filter_eq_nil_iff]
    intro piece member
    simpa using all piece (List.mem_reverse.1 member)
  refine ⟨((before ++ idle).reverse.takeWhile isIdle).reverse ++ name :: idle', ?_, ?_⟩
  · rw [reached, ← List.append_assoc, ← List.reverse_append, List.takeWhile_append_dropWhile,
      List.reverse_reverse, cut']
  · rw [List.filter_append, dropped, List.filter_cons, active, nothing]
    rfl

theorem above_of_unnamed (unnamed : p.names = []) : p.above = [] := by
  have idle : ∀ piece ∈ p.pieces.reverse, isIdle piece = true := by
    simpa [names, List.filter_eq_nil_iff] using unnamed
  have nothing : p.pieces.reverse.dropWhile isIdle = [] := by
    rw [← List.append_nil p.pieces.reverse, List.dropWhile_append_of_pos idle]
    rfl
  rw [above, nothing]
  rfl

theorem pieces_extend_above (p : Path) : ∃ rest, p.pieces = p.above ++ rest ∧ rest ≠ [] := by
  cases last : p.names.getLast? with
  | some name =>
    obtain ⟨rest, cut, named⟩ := pieces_eq_above last
    refine ⟨rest, cut, ?_⟩
    rintro rfl
    cases named
  | none =>
    refine ⟨p.pieces, ?_, ?_⟩
    · rw [above_of_unnamed (List.getLast?_eq_none_iff.1 last), List.nil_append]
    · simp only [pieces, ne_eq, List.map_eq_nil_iff]
      exact Text.splitWhere_ne_nil _ _

theorem above_ne_blank (p : Path) : p.above ≠ [""] := by
  intro blank
  have ended := List.head?_dropWhile_not isIdle ((p.pieces.reverse.dropWhile isIdle).drop 1)
  rw [above, List.reverse_eq_iff, List.reverse_singleton] at blank
  rw [blank] at ended
  exact Bool.noConfusion ended

section Parent

variable (p : Path)

theorem parent_of_above_nil (top : p.above = []) :
    p.parent = if p.isAbsolute = true then ⟨"/"⟩ else ⟨""⟩ := by
  rw [parent_eq, top]
  simp only [true_and]
  rfl

theorem parent_of_above (some : p.above ≠ []) :
    p.parent.pieces = p.above ∧ p.parent.text ≠ "" ∧ ∃ y, p.text = p.parent.text ++ "/" ++ y := by
  obtain ⟨rest, cut, more⟩ := pieces_extend_above p
  have plain : ∀ piece ∈ p.pieces, '/' ∉ piece.toList := fun _ => slash_not_mem_of_mem_pieces
  rw [cut] at plain
  have plain' : ∀ piece ∈ p.above, '/' ∉ piece.toList :=
    fun piece member => plain piece (List.mem_append_left rest member)
  have same : p.parent = ⟨String.intercalate "/" p.above⟩ := by
    rw [parent_eq, if_neg fun top => some top.1]
  have pieces : p.parent.pieces = p.above := by
    rw [same, pieces_intercalate some plain']
  refine ⟨pieces, fun blank => ?_, String.intercalate "/" rest, ?_⟩
  · have single : p.parent.pieces = [""] := by
      rw [Path.pieces, blank]
      rfl
    exact above_ne_blank p (pieces.symm.trans single)
  · have joined : Path.pieces ⟨p.parent.text ++ "/" ++ String.intercalate "/" rest⟩ = p.pieces := by
      rw [pieces_append, pieces_intercalate more fun piece member =>
        plain piece (List.mem_append_right p.above member), cut]
      exact congrArg (· ++ rest) pieces
    rw [← intercalate_pieces p, ← joined, intercalate_pieces]

theorem walk_parent : p.parent.walk = p.above.filter (· ≠ "") := by
  by_cases top : p.above = []
  · rw [parent_of_above_nil p top, top]
    split <;> rfl
  · rw [walk, (parent_of_above p top).1]

theorem isAbsolute_parent : p.parent.isAbsolute = p.isAbsolute := by
  by_cases top : p.above = []
  · rw [parent_of_above_nil p top]
    split
    next absolute => rw [absolute]; rfl
    next relative => rw [eq_false_of_ne_true relative]; rfl
  · obtain ⟨-, some, y, spelled⟩ := parent_of_above p top
    calc p.parent.isAbsolute = isAbsolute ⟨p.parent.text ++ ("/" ++ y)⟩ := (isAbsolute_append some _).symm
      _ = p.isAbsolute := by rw [← String.append_assoc, ← spelled]

theorem text_eq_parent : ∃ y, p.text = p.parent.text ++ y := by
  by_cases top : p.above = []
  · rw [parent_of_above_nil p top]
    split
    next absolute =>
      obtain ⟨cs, begins⟩ := List.head?_eq_some_iff.1 (isAbsolute_iff.1 absolute)
      refine ⟨String.ofList cs, ?_⟩
      rw [← String.toList_inj, begins]
      simp
    next relative => exact ⟨p.text, (String.empty_append).symm⟩
  · obtain ⟨-, -, y, spelled⟩ := parent_of_above p top
    exact ⟨"/" ++ y, by rw [spelled, String.append_assoc]⟩

end Parent

/-- The steps to the last name are the steps to the path it stands in, and some more. -/
theorem walk_eq_parent (last : p.names.getLast? = some name) :
    ∃ rest, p.walk = p.parent.walk ++ rest ∧ rest ≠ [] := by
  obtain ⟨rest, cut, named⟩ := pieces_eq_above last
  refine ⟨rest.filter (· ≠ ""), ?_, fun nothing => ?_⟩
  · rw [walk, cut, List.filter_append, walk_parent]
  · have member : name ∈ rest.filter (!isIdle ·) := by simp [named]
    obtain ⟨inside, active⟩ := List.mem_filter.1 member
    have blank : name = "" := by simpa using List.filter_eq_nil_iff.1 nothing name inside
    rw [blank] at active
    exact Bool.noConfusion active

theorem names_eq_walk (p : Path) : p.names = p.walk.filter (· ≠ ".") := by
  rw [names, walk, List.filter_filter]
  refine List.filter_congr fun piece _ => ?_
  by_cases blank : piece = ""
  · simp [isIdle, blank]
  · rw [isIdle, beq_eq_false_iff_ne.2 blank, Bool.eq_iff_iff]
    simp [blank]

theorem steps_filter (p : Path) : p.steps.filter (· ≠ ".") = p.names := by
  rw [steps, List.filter_append, names_eq_walk]
  split <;> simp

/-! One more name. -/

section Join

variable (plain : '/' ∉ name.toList) (q : Path)

include plain

theorem relative_of_plain : isAbsolute ⟨name⟩ = false := by
  refine eq_false_of_ne_true fun absolute => plain ?_
  exact List.mem_of_head? (isAbsolute_iff.1 absolute)

omit plain in
/-- What stands before a name that is joined to a path does not depend on the name. -/
theorem text_join (q : Path) :
    ∃ before, ∀ {name : String}, '/' ∉ name.toList → (q.join name).text = before ++ name := by
  by_cases blank : q.text = ""
  · exact ⟨"", fun _ => by simp [join, blank]⟩
  by_cases closed : q.text.toList.getLast? = some '/'
  · exact ⟨q.text, fun plain => by simp [join, relative_of_plain plain, blank, closed]⟩
  · exact ⟨q.text ++ "/", fun plain => by simp [join, relative_of_plain plain, blank, closed]⟩

theorem isAbsolute_join : (q.join name).isAbsolute = q.isAbsolute := by
  rw [join, relative_of_plain plain, Bool.false_or]
  by_cases blank : q.text = ""
  · have relative : q.isAbsolute = false := by
      rw [isAbsolute, blank]
      rfl
    rw [if_pos (by simpa using blank), relative_of_plain plain, relative]
  · rw [if_neg (by simpa using blank)]
    split
    · exact isAbsolute_append blank name
    · rw [String.append_assoc]
      exact isAbsolute_append blank _

theorem endsInSlash_append (some : name ≠ "") (x : String) : endsInSlash ⟨x ++ name⟩ = false := by
  simp only [endsInSlash, decide_eq_false_iff_not, String.toList_append]
  intro ended
  rw [List.getLast?_append] at ended
  cases own : name.toList.getLast? with
  | none => exact some (String.toList_eq_nil_iff.1 (List.getLast?_eq_none_iff.1 own))
  | some c =>
    rw [own] at ended
    cases ended
    exact plain (List.mem_of_getLast? own)

theorem steps_join (some : name ≠ "") : (q.join name).steps = q.walk ++ [name] := by
  have own : ∀ x : String, (pieces ⟨x⟩ ++ [name]).filter (· ≠ "") = walk ⟨x⟩ ++ [name] := by
    intro x
    rw [List.filter_append, List.filter_cons, if_pos (by simpa using some)]
    rfl
  have stepsOf : ∀ x : String, steps ⟨x ++ name⟩ = walk ⟨x ++ name⟩ := by
    intro x
    rw [steps, endsInSlash_append plain some]
    exact List.append_nil _
  rw [join, relative_of_plain plain, Bool.false_or]
  by_cases blank : q.text = ""
  · have alone : pieces ⟨"" ++ name⟩ = [name] := by rw [String.empty_append, pieces_of_plain plain]
    have nowhere : q.walk = [] := by
      rw [walk, pieces, blank]
      rfl
    rw [if_pos (by simpa using blank), ← String.empty_append (s := name), stepsOf, walk, alone, nowhere,
      String.empty_append]
    exact own ""
  · rw [if_neg (by simpa using blank)]
    split
    next slashed =>
      obtain ⟨cs, ended⟩ := List.getLast?_eq_some_iff.1 slashed
      have cut : q.text = String.ofList cs ++ "/" ++ "" := by
        rw [← String.toList_inj, ended]
        simp
      have closing : q.walk = walk ⟨String.ofList cs⟩ := by
        rw [walk, pieces, cut]
        change (pieces ⟨String.ofList cs ++ "/" ++ ""⟩).filter _ = _
        rw [pieces_append, List.filter_append]
        exact List.append_nil _
      rw [stepsOf, walk, cut, String.append_empty, pieces_append, pieces_of_plain plain, own, closing]
    · rw [stepsOf, walk, pieces_append, pieces_of_plain plain]
      exact own q.text

end Join

end Path

end AgentHooks
