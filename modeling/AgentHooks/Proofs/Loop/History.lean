import AgentHooks.Proofs.Loop.Store

/-! The cell over time. A save goes through several moments, none of which shows a reader half a text; and over any
history of operations and of what other processes write, the cell holds what was put there last. -/

namespace AgentHooks

open FileTree

namespace LoopCell

variable {cell : LoopCell} {t : FileTree} {l : Loop} {mark : String}

/-! A save, moment by moment. -/

def draftUnder (cell : LoopCell) (mark : String) : String :=
  "." ++ cell.path.fileName?.getD "loop-state" ++ "." ++ mark ++ ".tmp"

def draftPath (cell : LoopCell) (mark : String) : Path :=
  cell.path.withName (cell.draftUnder mark)

/-- A mark as it is drawn: a word as long as all marks are, with which nobody else names anything. -/
structure Fresh (cell : LoopCell) (mark : String) (t : FileTree) : Prop where
  plain : '/' ∉ mark.toList
  clean : '\x00' ∉ mark.toList
  size : mark.utf8ByteSize = draftMark.utf8ByteSize
  unused : t.node? (t.placeOf (cell.draftPath mark)) = none
  off : t.placeOf (cell.draftPath mark) ∉ t.wayOf cell.path

/-- Puts a loop into the cell step by step: with the answer, the tree once the directories are made and after each
step from there. -/
def saveSteps (cell : LoopCell) (mark : String) (l : Loop) (t : FileTree) :
    Except Fault Unit × List FileTree :=
  match t.makeParents cell.path with
  | (.error e, made) => (.error (.io e.message), [made])
  | (.ok (), made) =>
    match made.replaceSteps (cell.draftPath mark) cell.path (cell.render l) with
    | (.error e, moments) => (.error (.io e.message), made :: moments)
    | (.ok (), moments) => (.ok (), made :: moments)

/-- What can be seen at a moment of a save: in the file what was there or the new text, and anywhere else, but for the
draft, at most directories that were missing. -/
structure Moment (cell : LoopCell) (mark : String) (l : Loop) (t moment : FileTree) : Prop where
  content : moment.content? (t.placeOf cell.path) = t.content? (t.placeOf cell.path) ∨
    moment.content? (t.placeOf cell.path) = some (.text (cell.render l))
  others : ∀ place, place ≠ t.placeOf cell.path → place ≠ t.placeOf (cell.draftPath mark) →
    moment.node? place = t.node? place ∨
      place ∈ t.wayOf cell.path.parent ∧ t.node? place = none ∧ moment.node? place = some .directory

structure Course (cell : LoopCell) (mark : String) (l : Loop) (t : FileTree) : Prop where
  answer : (cell.saveSteps mark l t).1 = (cell.save l t).1
  ends : (cell.saveSteps mark l t).2.getLast? = some (cell.save l t).2
  cleaned : (cell.save l t).2.node? (t.placeOf (cell.draftPath mark)) = none
  moments : ∀ moment ∈ (cell.saveSteps mark l t).2, cell.Moment mark l t moment

theorem Fresh.alike (fresh : cell.Fresh mark t) : Alike (cell.draftUnder mark) cell.draftName := by
  have slash := slash_not_mem_draftName cell
  simp only [draftName, String.toList_append, List.mem_append, not_or] at slash
  have some' : ∀ x : String, "." ++ cell.path.fileName?.getD "loop-state" ++ "." ++ x ++ ".tmp" ≠ "" := by
    intro x blank
    have none' := String.toList_eq_nil_iff.2 blank
    simp at none'
  refine ⟨?_, slash_not_mem_draftName cell, some' mark, some' draftMark, ?_, ?_⟩
  · simp only [draftUnder, String.toList_append, List.mem_append, not_or]
    exact ⟨⟨⟨⟨slash.1.1.1.1, slash.1.1.1.2⟩, slash.1.1.2⟩, fresh.plain⟩, slash.2⟩
  · have clean' : '\x00' ∉ draftMark.toList := by decide
    simp only [draftUnder, draftName, String.toList_append, List.mem_append, fresh.clean, clean']
  · simp only [draftUnder, draftName, String.utf8ByteSize_append, fresh.size]

theorem Fresh.apart (fresh : cell.Fresh mark t) : t.placeOf (cell.draftPath mark) ≠ t.placeOf cell.path := by
  intro same
  apply fresh.off
  rw [same]
  exact placeOf_mem_wayOf t cell.path

theorem Fresh.replace (fresh : cell.Fresh mark t) (made : FileTree) (text : String) :
    made.replace (cell.draftPath mark) cell.path text = made.replace cell.draft cell.path text := by
  unfold draftPath draft Path.withName
  exact replace_draft_congr (fresh.alike.resolve_join made _) cell.path text

theorem Fresh.of_makes {made : FileTree} (fresh : cell.Fresh mark t)
    (makes : Makes (t.wayOf cell.path.parent) t made) : cell.Fresh mark made where
  plain := fresh.plain
  clean := fresh.clean
  size := fresh.size
  unused := by
    rw [placeOf_eq makes.here, makes.node_off fun member => fresh.off (way_parent_subset t cell.path member)]
    exact fresh.unused
  off := by
    rw [placeOf_eq makes.here, wayOf_eq makes.here]
    exact fresh.off

section Moments

variable {made : FileTree} (makes : Makes (t.wayOf cell.path.parent) t made)

include makes

theorem moment_of_makes : cell.Moment mark l t made :=
  ⟨.inl (makes.spares _).content, fun place _ _ => makes.node place⟩

theorem moment_of_draft (fresh : cell.Fresh mark t) (text : String) :
    cell.Moment mark l t (made.set (t.placeOf (cell.draftPath mark)) (.file text)) := by
  refine ⟨.inl ?_, fun place _ other => ?_⟩
  · rw [content?_set_other _ fresh.apart.symm, (makes.spares _).content]
  · rw [node?_set_other _ _ other]
    exact makes.node place

theorem moment_of_put (free : made.node? (t.placeOf cell.path) ≠ some .directory) :
    cell.Moment mark l t (made.set (t.placeOf cell.path) (.file (cell.render l))) := by
  refine ⟨.inr (content?_set_self free), fun place other _ => ?_⟩
  rw [node?_set_other _ _ other]
  exact makes.node place

end Moments

theorem save_cleaned (fresh : cell.Fresh mark t) (l : Loop) :
    (cell.save l t).2.node? (t.placeOf (cell.draftPath mark)) = none := by
  have untouched := (save_ending l t).others fresh.apart
  rw [fresh.unused] at untouched
  exact untouched.resolve_right fun made => fresh.off (way_parent_subset t cell.path made.1)

theorem course_of (fresh : cell.Fresh mark t) {answer : Except Fault Unit} {moments : List FileTree} {after : FileTree}
    (steps : cell.saveSteps mark l t = (answer, moments)) (whole : cell.save l t = (answer, after))
    (ends : moments.getLast? = some after) (each : ∀ moment ∈ moments, cell.Moment mark l t moment) :
    cell.Course mark l t := by
  refine ⟨?_, ?_, save_cleaned fresh l, ?_⟩
  · rw [steps, whole]
  · rw [steps, whole, ends]
  · rw [steps]
    exact each

/-- Once the directories are made, everything depends on the step that puts the text into place. -/
theorem course_of_made (fresh : cell.Fresh mark t) (l : Loop) {made : FileTree}
    (parents : t.makeParents cell.path = (.ok (), made)) : cell.Course mark l t := by
  have makes := makeParents_makes t cell.path
  rw [parents] at makes
  have first : cell.Moment mark l t made := moment_of_makes makes
  have fresh' : cell.Fresh mark made := fresh.of_makes makes
  have replaced := fresh.replace made (cell.render l)
  have drafted := moment_of_draft (l := l) makes fresh (cell.render l)
  rw [← placeOf_eq makes.here] at drafted
  -- The draft is moved into place, or it could not be written, or it is removed again.
  rcases replaceSteps_eq (cell.render l) fresh'.unused fresh'.off with
    ⟨after, done, taken⟩ | ⟨e, failed, taken | taken⟩
  · rw [replaced] at done
    have steps : cell.saveSteps mark l t =
        (.ok (), [made, made.set (made.placeOf (cell.draftPath mark)) (.file (cell.render l)), after]) := by
      unfold saveSteps
      simp only [parents, taken]
    have whole : cell.save l t = (.ok (), after) := by
      unfold save
      simp only [parents, done]
    have put : cell.Moment mark l t after := by
      obtain ⟨place, destined, free, rfl⟩ := place_of_replace done
      have own : place = t.placeOf cell.path :=
        (resolve_eq_placeOf (resolve_of_destination destined)).trans (placeOf_eq makes.here _)
      subst own
      exact moment_of_put makes free
    refine course_of fresh steps whole rfl ?_
    exact List.forall_mem_cons.2 ⟨first, List.forall_mem_cons.2 ⟨drafted, List.forall_mem_singleton.2 put⟩⟩
  all_goals
    rw [replaced] at failed
    have whole : cell.save l t = (.error (.io e.message), made) := by
      unfold save
      simp only [parents, failed]
  · have steps : cell.saveSteps mark l t = (.error (.io e.message), [made]) := by
      unfold saveSteps
      simp only [parents, taken]
    exact course_of fresh steps whole rfl (List.forall_mem_singleton.2 first)
  · have steps : cell.saveSteps mark l t = (.error (.io e.message),
        [made, made.set (made.placeOf (cell.draftPath mark)) (.file (cell.render l)), made]) := by
      unfold saveSteps
      simp only [parents, taken]
    refine course_of fresh steps whole rfl ?_
    exact List.forall_mem_cons.2 ⟨first, List.forall_mem_cons.2 ⟨drafted, List.forall_mem_singleton.2 first⟩⟩

theorem course (fresh : cell.Fresh mark t) (l : Loop) : cell.Course mark l t := by
  have makes := makeParents_makes t cell.path
  cases parents : t.makeParents cell.path with
  | mk result made =>
    rw [parents] at makes
    cases result with
    | ok => exact course_of_made fresh l parents
    | error e =>
      have steps : cell.saveSteps mark l t = (.error (.io e.message), [made]) := by
        unfold saveSteps
        simp only [parents]
      have whole : cell.save l t = (.error (.io e.message), made) := by
        unfold save
        simp only [parents]
      exact course_of fresh steps whole rfl (List.forall_mem_singleton.2 (moment_of_makes makes))

/-! What an update asks. -/

/-- An update asks its function about nothing but the loop that is in the cell. -/
theorem update_congr {α : Type} {f g : Loop → Option Loop × α} (same : ∀ l, cell.load t = .ok (some l) → f l = g l) :
    cell.update f t = cell.update g t := by
  cases loaded : cell.load t with
  | error fault => rw [update_of_error f loaded, update_of_error g loaded]
  | ok held =>
    cases held with
    | none => rw [update_of_none f loaded, update_of_none g loaded]
    | some l => rw [update_of_some loaded, update_of_some loaded, same l loaded]

theorem puts_of_refused {α : Type} {op : CellOp α} {held : Option Content}
    (refused : (cell.answer op held).isOk = false) : cell.puts op held = none := by
  cases op with
  | load => rfl
  | save l => cases refused
  | clear => cases refused
  | clearSession session => cases refused
  | update f =>
    rw [answer, isOk_map] at refused
    simp only [puts]
    split
    next decoded =>
      rw [decoded] at refused
      cases refused
    · rfl

end LoopCell

/-! Histories. -/

/-- What happens to a cell: an operation at some time, or another process that writes there or takes away what is
there. -/
inductive Happening : Type 1 where
  | done {α : Type} (now : Timestamp) (op : CellOp α)
  | written (content : Content)
  | removed

namespace Happening

def deposit (path : Path) (content : Content) (t : FileTree) : Except FileError Unit × FileTree :=
  match t.makeParents path with
  | (.error e, made) => (.error e, made)
  | (.ok (), made) =>
    match made.write path content with
    | .error e => (.error e, made)
    | .ok after => (.ok (), after)

/-- The files afterwards, and what was put into the cell, if something was: a content, or nothing. -/
def step (path : Path) (t : FileTree) : Happening → FileTree × Option (Option Content)
  | .done now op =>
    let cell : LoopCell := ⟨path, now⟩
    ((cell.perform op t).2, if (cell.perform op t).1.isOk then cell.puts op (t.seen path) else none)
  | .written content =>
    ((deposit path content t).2, if (deposit path content t).1.isOk then some (some content) else none)
  | .removed =>
    match t.remove path with
    | .ok after => (after, some none)
    | .error _ => (t, none)

def run (path : Path) (t : FileTree) : List Happening → FileTree × List (Option Content)
  | [] => (t, [])
  | h :: rest =>
    let (u, put) := h.step path t
    let (v, puts) := run path u rest
    (v, put.toList ++ puts)

variable {path : Path} {t : FileTree}

theorem deposit_cases (path : Path) (content : Content) (t : FileTree) :
    (∃ after, deposit path content t = (.ok (), after) ∧ after.fetch path = .ok content) ∨
      ∃ e made, deposit path content t = (.error e, made) ∧ Makes (t.wayOf path.parent) t made := by
  have makes := makeParents_makes t path
  unfold deposit
  split
  next e made parents =>
    rw [parents] at makes
    exact .inr ⟨e, made, rfl, makes⟩
  next made parents =>
    rw [parents] at makes
    cases written : made.write path content with
    | error e => exact .inr ⟨e, made, rfl, makes⟩
    | ok after => exact .inl ⟨after, rfl, fetch_of_write written⟩

theorem step_shows (shown : t.Shows path) (h : Happening) :
    (h.step path t).1.Shows path ∧ (h.step path t).1.seen path = (h.step path t).2.getD (t.seen path) := by
  cases h with
  | done now op =>
    generalize located : (⟨path, now⟩ : LoopCell) = cell
    have own : cell.path = path := by rw [← located]
    rw [← own] at shown ⊢
    obtain ⟨done, refused, -, shown'⟩ := LoopCell.perform_obeys shown op
    simp only [step, located, own] at done refused shown' ⊢
    refine ⟨shown', ?_⟩
    by_cases obstructed : cell.Obstructed op t
    · obtain ⟨failed, same⟩ := refused obstructed
      rw [if_neg (by simp [failed]), same, Option.getD_none]
    · obtain ⟨answered, seen⟩ := done obstructed
      rw [seen, answered]
      split
      · rfl
      next failed => rw [LoopCell.puts_of_refused (eq_false_of_ne_true failed)]
  | written content =>
    simp only [step]
    rcases deposit_cases path content t with ⟨after, deposited, read⟩ | ⟨e, made, failed, makes⟩
    · rw [deposited]
      exact ⟨shows_of_fetch read, seen_of_fetch read⟩
    · rw [failed]
      exact makes.seen shown
  | removed =>
    simp only [step]
    split
    next after removed =>
      obtain ⟨content, read, rfl⟩ := remove_eq_ok.1 removed
      exact shows_of_erase read
    · exact ⟨shown, rfl⟩

/-- After a history what is seen is what was put last. -/
theorem run_shows (shown : t.Shows path) (history : List Happening) :
    (run path t history).1.Shows path ∧
      (run path t history).1.seen path = ((run path t history).2.getLast?).getD (t.seen path) := by
  induction history generalizing t with
  | nil => exact ⟨shown, rfl⟩
  | cons h rest ih =>
    obtain ⟨shown', seen⟩ := step_shows shown h
    obtain ⟨shown'', last⟩ := ih shown'
    refine ⟨shown'', ?_⟩
    simp only [run, last, seen]
    generalize (run path (h.step path t).1 rest).2 = puts
    cases h.step path t with
    | mk u put =>
      cases put <;> cases puts <;> simp [List.getLast?_cons]

end Happening

namespace LoopCell

/-- A loop that was saved is loaded as it was, at any later time; and its text is the same wherever, whenever and over
whatever it is saved. -/
theorem saved_loop_survives {l : Loop} (valid : l.Valid) :
    ∃ text, ∀ (path : Path) (now : Timestamp) (t t' : FileTree),
      (⟨path, now⟩ : LoopCell).save l t = (.ok (), t') →
      t'.fetch path = .ok (.text text) ∧ ∀ later, (⟨path, later⟩ : LoopCell).load t' = .ok (some l) := by
  refine ⟨(⟨⟨""⟩, l.startedAt⟩ : LoopCell).render l, fun path now t t' saved => ?_⟩
  have read := fetch_of_save saved
  refine ⟨read, fun later => ?_⟩
  have loaded : (⟨path, later⟩ : LoopCell).load t' = _ := load_of_fetch read
  rw [loaded, render_eq ⟨path, now⟩ ⟨path, later⟩, loopIn?_render _ valid]

/-- Quotes, backslashes, line breaks, control characters and letters beyond ASCII, the largest counters, and a start
between two seconds, over a file that holds something else. -/
theorem saved_loop_survives_awkward :
    let l : Loop :=
      { active := false, session := "s\"\\\n\x00", prompt := "\u2028é𝄞\x7f", iteration := 18446744073709551615,
        maxIterations := 18446744073709551615, mode := .objective, promise := "\t", ignoredCompletions := 0,
        startedAt := ⟨9999, 2, 28, 23, 59, 59, 1⟩ }
    let cell : LoopCell := ⟨⟨"/p/loop.json"⟩, ⟨2024, 5, 1, 12, 0, 0, 0⟩⟩
    let t : FileTree := ⟨[], [(["p"], .directory), (["p", "loop.json"], .file "null")]⟩
    l.Valid ∧ (cell.save l t).1.isOk = true ∧ cell.load (cell.save l t).2 = .ok (some l) := by
  intro l cell t
  have valid : l.Valid := by
    refine ⟨by decide, by decide, ?_, by decide⟩
    constructor <;> decide
  have done : (cell.save l t).1.isOk = true := by decide +kernel
  obtain ⟨text, survives⟩ := saved_loop_survives valid
  exact ⟨valid, done, (survives _ _ t _ (save_of_isOk done)).2 cell.now⟩

/-- The file is one cell. Whatever is there, an operation that fails leaves every file as it is, and none changes
anything but the cell's file and missing directories on the way to it; an update depends on its function at the loaded
loop alone; and a save, step by step, is the save at once, with nothing but what was there or the new text to be read at
any moment. Where the path tells what is there, the cell holds what was put there last, through any history, and every
operation answers as one on that does, unless the way is barred or the name does not do. -/
theorem store_is_one_cell (path : Path) (t : FileTree) :
    (∀ {α : Type} (now : Timestamp) (op : CellOp α), (⟨path, now⟩ : LoopCell).Sparing op t) ∧
    (∀ {α : Type} (now : Timestamp) (f g : Loop → Option Loop × α),
      (∀ l, (⟨path, now⟩ : LoopCell).load t = .ok (some l) → f l = g l) →
      (⟨path, now⟩ : LoopCell).update f t = (⟨path, now⟩ : LoopCell).update g t) ∧
    (∀ (now : Timestamp) (mark : String) (l : Loop), (⟨path, now⟩ : LoopCell).Fresh mark t →
      (⟨path, now⟩ : LoopCell).Course mark l t) ∧
    (t.Shows path → ∀ history : List Happening,
      let run := Happening.run path t history
      run.1.seen path = run.2.getLast?.getD (t.seen path) ∧
      ∀ {α : Type} (now : Timestamp) (op : CellOp α), (⟨path, now⟩ : LoopCell).Obeys op run.1) := by
  refine ⟨fun now op => perform_sparing op t, fun now f g same => update_congr same,
    fun now mark l fresh => course fresh l, fun shown history => ?_⟩
  obtain ⟨shown', last⟩ := Happening.run_shows shown history
  refine ⟨last, fun now op => ?_⟩
  exact @perform_obeys _ ⟨path, now⟩ _ shown' op

/-- A loop in its file, which is ended by an update; and the same file after another process wrote half a text there, a
save over it, and the file's removal. -/
theorem store_is_one_cell_turns :
    let now : Timestamp := ⟨2024, 5, 1, 12, 0, 0, 0⟩
    let path : Path := ⟨"/p/loop.json"⟩
    let cell : LoopCell := ⟨path, now⟩
    let mark := "11111111-1111-4111-8111-111111111111"
    let l := Loop.start now "s" "task" 5 .promise "DONE"
    let ends : Loop → Option Loop × Bool := fun _ => (none, true)
    let endsThis : Loop → Option Loop × Bool := fun l' => (if l' = l then none else some l', true)
    let t : FileTree := ⟨[], [(["p"], .directory), (["p", "loop.json"], .file (cell.render l))]⟩
    let history : List Happening := [.written "\x7b", .done now (.save l), .removed]
    (∀ l', cell.load t = .ok (some l') → ends l' = endsThis l') ∧ cell.Fresh mark t ∧ t.Shows path ∧
      cell.update ends t = cell.update endsThis t ∧ (cell.saveSteps mark l t).1 = (cell.save l t).1 ∧
      (Happening.run path t history).1.seen path = none ∧
      cell.Obeys .load (Happening.run path t history).1 := by
  intro now path cell mark l ends endsThis t history
  have valid : l.Valid := Loop.start_valid (by constructor <;> decide) _ _ (by decide) _ _
  have read : t.fetch path = .ok (.text (cell.render l)) := fetch_of_seen (by decide +kernel)
  have loaded : cell.load t = .ok (some l) := by
    have found : cell.load t = _ := load_of_fetch read
    rw [found, loopIn?_render cell valid]
  have same : ∀ l', cell.load t = .ok (some l') → ends l' = endsThis l' := by
    intro l' loaded'
    rw [loaded] at loaded'
    cases loaded'
    simp [ends, endsThis]
  have fresh : cell.Fresh mark t :=
    ⟨by decide, by decide, by decide +kernel, by decide +kernel, by decide +kernel⟩
  have shown : t.Shows path := shows_of_state (.inr (.inr (.inl ⟨_, read⟩)))
  obtain ⟨-, update, course, told⟩ := store_is_one_cell path t
  obtain ⟨last, obeys⟩ := told shown history
  refine ⟨same, fresh, shown, update now ends endsThis same, (course now mark l fresh).answer, ?_, obeys now .load⟩
  have puts : (Happening.run path t history).2.getLast? = some none := by decide +kernel
  rw [last, puts, Option.getD_some]

end LoopCell

end AgentHooks
