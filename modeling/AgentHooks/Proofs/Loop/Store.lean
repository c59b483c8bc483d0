import AgentHooks.Proofs.Files.Course
import AgentHooks.Proofs.Loop.Access

/-! The cell as its users see it: one place that holds something or nothing. Every operation does what it would do to that
place alone, or fails and leaves all files as they are. A failed operation may leave directories that were missing on
the way to the file, and nothing else. -/

namespace AgentHooks

open FileTree

/-- What is asked of a cell. -/
inductive CellOp : Type → Type 1 where
  | load : CellOp (Option Loop)
  | save (l : Loop) : CellOp Unit
  | clear : CellOp Bool
  | clearSession (session : String) : CellOp Bool
  | update {α : Type} (f : Loop → Option Loop × α) : CellOp (Option α)

namespace LoopCell

variable {α : Type} (cell : LoopCell) {t t' : FileTree} {content : Content} {session : String} {l : Loop}

/-! The cell as one place. -/

/-- Whose a content is: the loop's session, or the session that a text without a loop names. -/
def owner? (content : Content) : Option String :=
  match cell.loopIn? content with
  | some l => some l.session
  | none => nameIn? content

theorem clears_iff : cell.Clears session content ↔ (cell.owner? content).getD session = session := by
  unfold Clears owner?
  cases cell.loopIn? content with
  | some l => simp
  | none => cases nameIn? content <;> simp

instance (session : String) (content : Content) : Decidable (cell.Clears session content) :=
  decidable_of_iff _ cell.clears_iff.symm

def decode : Option Content → Except Fault (Option Loop)
  | none => .ok none
  | some content =>
    match cell.loopIn? content with
    | some l => .ok (some l)
    | none => .error (cell.faultOf content)

def answer : {α : Type} → CellOp α → Option Content → Except Fault α
  | _, .load, held => cell.decode held
  | _, .save _, _ => .ok ()
  | _, .clear, held => .ok held.isSome
  | _, .clearSession session, held => .ok (held.any (cell.Clears session ·))
  | _, .update f, held => (cell.decode held).map fun l => l.map fun l => (f l).2

/-- What an operation puts into a place that holds `held`: a text, or nothing. Not every operation puts anything. -/
def puts : {α : Type} → CellOp α → Option Content → Option (Option Content)
  | _, .load, _ => none
  | _, .save l, _ => some (some (.text (cell.render l)))
  | _, .clear, _ => some none
  | _, .clearSession session, held => if held.any (cell.Clears session ·) then some none else none
  | _, .update f, held =>
    match cell.decode held with
    | .ok (some l) => some ((f l).1.map fun next => .text (cell.render next))
    | _ => none

/-! The cell as a file. -/

def perform : {α : Type} → CellOp α → FileTree → Except Fault α × FileTree
  | _, .load, t => (cell.load t, t)
  | _, .save l, t => cell.save l t
  | _, .clear, t => cell.clear t
  | _, .clearSession session, t => cell.clearSession session t
  | _, .update f, t => cell.update f t

/-- A loop can be put into the cell: the missing directories can be made, the path then leads to a place that is not a
directory, and the name leaves room for a draft's. -/
def Accepts (t : FileTree) : Prop :=
  ∃ made place, t.makeParents cell.path = (.ok (), made) ∧ made.resolve cell.path = .ok place ∧
    made.node? place ≠ some .directory ∧ cell.admits = true

def Barred (t : FileTree) : Prop :=
  ∃ e, t.fetch cell.path = .error e ∧ e ≠ .notFound

def Obstructed : {α : Type} → CellOp α → FileTree → Prop
  | _, .save _, t => ¬cell.Accepts t
  | _, .update f, t =>
    cell.Barred t ∨ (∃ l next, cell.load t = .ok (some l) ∧ (f l).1 = some next) ∧ ¬cell.Accepts t
  | _, _, t => cell.Barred t

/-- An operation on a tree, whatever is there: if it fails, at most directories on the way to the file were made, and
nothing else changed; and it never changes anything but the file itself and such directories. -/
structure Sparing (op : CellOp α) (t : FileTree) : Prop where
  failed : (cell.perform op t).1.isOk = false → Makes (t.wayOf cell.path.parent) t (cell.perform op t).2
  others : ∀ place, place ≠ t.placeOf cell.path → (cell.perform op t).2.node? place = t.node? place ∨
    place ∈ t.wayOf cell.path.parent ∧ t.node? place = none ∧
      (cell.perform op t).2.node? place = some .directory

/-- An operation on a tree is an operation on what is seen there: unless it cannot be carried out, it answers
and puts what it would for that alone, and where it puts nothing, it changes nothing. -/
structure Obeys (op : CellOp α) (t : FileTree) : Prop where
  done : ¬cell.Obstructed op t →
    (cell.perform op t).1 = cell.answer op (t.seen cell.path) ∧
      (cell.perform op t).2.seen cell.path = (cell.puts op (t.seen cell.path)).getD (t.seen cell.path)
  refused : cell.Obstructed op t →
    (cell.perform op t).1.isOk = false ∧ (cell.perform op t).2.seen cell.path = t.seen cell.path
  idle : ¬cell.Obstructed op t → cell.puts op (t.seen cell.path) = none → (cell.perform op t).2 = t
  shown : (cell.perform op t).2.Shows cell.path

/-! Putting a loop in. -/

variable {cell}

theorem save_of_accepts (accepts : cell.Accepts t) (l : Loop) :
    ∃ made, Makes (t.wayOf cell.path.parent) t made ∧
      cell.save l t = (.ok (), made.set (t.placeOf cell.path) (.file (cell.render l))) := by
  obtain ⟨made, place, parents, resolved, free, admits⟩ := accepts
  have makes := makeParents_makes t cell.path
  rw [parents] at makes
  refine ⟨made, makes, ?_⟩
  rcases replace_of_resolve resolved free (cell.render l) with ⟨-, replaced⟩ | ⟨closed, -⟩
  · have own : place = t.placeOf cell.path := (resolve_eq_placeOf resolved).trans (placeOf_eq makes.here _)
    unfold save
    simp only [parents, replaced, own]
  · rw [admits] at closed
    cases closed

theorem save_of_not_accepts (rejects : ¬cell.Accepts t) (l : Loop) :
    ∃ fault, cell.save l t = (.error fault, (t.makeParents cell.path).2) := by
  unfold save
  split
  next e made parents =>
    rw [parents]
    exact ⟨_, rfl⟩
  next made parents =>
    rw [parents]
    split
    next e replaced => exact ⟨_, rfl⟩
    next after replaced =>
      obtain ⟨place, destined, free, -⟩ := place_of_replace replaced
      have resolved := resolve_of_destination destined
      rcases replace_of_resolve resolved free (cell.render l) with ⟨admits, -⟩ | ⟨-, e, failed⟩
      · exact absurd ⟨made, place, parents, resolved, free, admits⟩ rejects
      · rw [failed] at replaced
        cases replaced

theorem not_barred_of_fetch (found : t.fetch cell.path = .ok content) : ¬cell.Barred t := by
  rintro ⟨e, unread, -⟩
  rw [found] at unread
  cases unread

theorem barred_of_unread {e : FileError} (unread : t.fetch cell.path = .error e) : cell.Barred t ↔ e ≠ .notFound := by
  constructor
  · rintro ⟨e', unread', there⟩
    rw [unread] at unread'
    cases unread'
    exact there
  · exact fun there => ⟨e, unread, there⟩

theorem load_of_seen (clear : ¬cell.Barred t) : cell.load t = cell.decode (t.seen cell.path) := by
  cases read : t.fetch cell.path with
  | ok content =>
    rw [load_of_fetch read, seen_of_fetch read]
    rfl
  | error e =>
    have missing : e = .notFound := Decidable.byContradiction fun there => clear ((barred_of_unread read).2 there)
    rw [load_of_unread read, seen_of_unread read, if_pos missing]
    rfl

/-! What becomes of the files. -/

variable (cell) in
/-- How an operation can end: it fails, or has nothing to change, and at most makes directories; it puts a text into
the file's place; or it takes the file away. -/
inductive Ending (t : FileTree) : Except Fault α × FileTree → Prop where
  | kept (answer : Except Fault α) {t' : FileTree} (makes : Makes (t.wayOf cell.path.parent) t t') :
      Ending t (answer, t')
  | put (a : α) (text : String) {made : FileTree} (makes : Makes (t.wayOf cell.path.parent) t made) :
      Ending t (.ok a, made.set (t.placeOf cell.path) (.file text))
  | gone (a : α) : Ending t (.ok a, t.erase (t.placeOf cell.path))

namespace Ending

theorem unchanged (answer : Except Fault α) : cell.Ending t (answer, t) :=
  .kept answer (.refl _ t)

theorem map {β : Type} {outcome : Except Fault α × FileTree} (ending : cell.Ending t outcome) (f : α → β) :
    cell.Ending t (outcome.1.map f, outcome.2) := by
  cases ending with
  | kept answer makes => exact .kept _ makes
  | put a text makes => exact .put (f a) text makes
  | gone a => exact .gone (f a)

theorem failed {outcome : Except Fault α × FileTree} (ending : cell.Ending t outcome)
    (error : outcome.1.isOk = false) : Makes (t.wayOf cell.path.parent) t outcome.2 := by
  cases ending with
  | kept answer makes => exact makes
  | put a text makes => cases error
  | gone a => cases error

theorem others {outcome : Except Fault α × FileTree} (ending : cell.Ending t outcome) {place : Place}
    (apart : place ≠ t.placeOf cell.path) : outcome.2.node? place = t.node? place ∨
      place ∈ t.wayOf cell.path.parent ∧ t.node? place = none ∧ outcome.2.node? place = some .directory := by
  cases ending with
  | kept answer makes => exact makes.node place
  | put a text makes =>
    rw [node?_set_other _ _ apart]
    exact makes.node place
  | gone a => exact .inl (node?_erase_other t apart)

end Ending

theorem save_ending (l : Loop) (t : FileTree) : cell.Ending t (cell.save l t) := by
  by_cases accepts : cell.Accepts t
  · obtain ⟨made, makes, saved⟩ := save_of_accepts accepts l
    rw [saved]
    exact .put () _ makes
  · obtain ⟨fault, failed⟩ := save_of_not_accepts accepts l
    rw [failed]
    exact .kept _ (makeParents_makes t cell.path)

theorem clear_ending (t : FileTree) : cell.Ending t (cell.clear t) := by
  cases read : t.fetch cell.path with
  | ok content =>
    rw [clear_of_fetch read]
    exact .gone true
  | error e =>
    rw [clear_of_unread read]
    exact .unchanged _

theorem clearSession_ending (session : String) (t : FileTree) : cell.Ending t (cell.clearSession session t) := by
  cases read : t.fetch cell.path with
  | ok content =>
    rcases clearSession_of_fetch session read with ⟨-, cleared⟩ | ⟨-, kept⟩
    · rw [cleared]
      exact .gone true
    · rw [kept]
      exact .unchanged _
  | error e =>
    rw [clearSession_of_unread read]
    exact .unchanged _

theorem update_of_some {f : Loop → Option Loop × α} (loaded : cell.load t = .ok (some l)) :
    cell.update f t = match (f l).1 with
      | some next => ((cell.save next t).1.map fun _ => some (f l).2, (cell.save next t).2)
      | none => ((cell.clear t).1.map fun _ => some (f l).2, (cell.clear t).2) := by
  unfold update
  rw [loaded]
  dsimp only
  generalize f l = chosen
  obtain ⟨next, a⟩ := chosen
  cases next <;> rfl

theorem update_of_none (f : Loop → Option Loop × α) (loaded : cell.load t = .ok none) :
    cell.update f t = (.ok none, t) := by
  simp only [update, loaded]

theorem update_of_error (f : Loop → Option Loop × α) {fault : Fault} (loaded : cell.load t = .error fault) :
    cell.update f t = (.error fault, t) := by
  simp only [update, loaded]

theorem update_ending (f : Loop → Option Loop × α) (t : FileTree) : cell.Ending t (cell.update f t) := by
  cases loaded : cell.load t with
  | error fault =>
    rw [update_of_error f loaded]
    exact .unchanged _
  | ok held =>
    cases held with
    | none =>
      rw [update_of_none f loaded]
      exact .unchanged _
    | some l =>
      rw [update_of_some loaded]
      split
      next next _ => exact (save_ending next t).map _
      next => exact (clear_ending t).map _

theorem perform_ending (op : CellOp α) (t : FileTree) : cell.Ending t (cell.perform op t) := by
  cases op with
  | load => exact .unchanged _
  | save l => exact save_ending l t
  | clear => exact clear_ending t
  | clearSession session => exact clearSession_ending session t
  | update f => exact update_ending f t

theorem perform_sparing (op : CellOp α) (t : FileTree) : cell.Sparing op t :=
  ⟨(perform_ending op t).failed, fun _ => (perform_ending op t).others⟩

/-! What becomes of the content. -/

theorem fetch_of_save (saved : cell.save l t = (.ok (), t')) : t'.fetch cell.path = .ok (.text (cell.render l)) := by
  obtain ⟨ready, stands⟩ := ready_of_save saved
  exact fetch_of_content ready.resolve stands

variable (shown : t.Shows cell.path)

include shown

omit shown in
theorem obeys_of_put {op : CellOp α} {put : Option Content} (clear : ¬cell.Obstructed op t)
    (putting : cell.puts op (t.seen cell.path) = some put)
    (answered : (cell.perform op t).1 = cell.answer op (t.seen cell.path))
    (seen : (cell.perform op t).2.seen cell.path = put) (shown : (cell.perform op t).2.Shows cell.path) :
    cell.Obeys op t := by
  refine ⟨fun _ => ⟨answered, ?_⟩, fun obstructed => absurd obstructed clear, fun _ nothing => ?_, shown⟩
  · rw [putting, Option.getD_some, seen]
  · rw [putting] at nothing
    cases nothing

theorem obeys_of_kept {op : CellOp α} (clear : ¬cell.Obstructed op t)
    (kept : cell.perform op t = (cell.answer op (t.seen cell.path), t))
    (same : (cell.puts op (t.seen cell.path)).getD (t.seen cell.path) = t.seen cell.path) : cell.Obeys op t := by
  refine ⟨fun _ => ⟨?_, ?_⟩, fun obstructed => absurd obstructed clear, fun _ _ => ?_, ?_⟩
  · rw [kept]
  · rw [kept, same]
  · rw [kept]
  · rw [kept]
    exact shown

theorem obeys_of_refused {op : CellOp α} (obstructed : cell.Obstructed op t)
    (failed : ∃ fault, cell.perform op t = (.error fault, t)) : cell.Obeys op t := by
  obtain ⟨fault, failed⟩ := failed
  refine ⟨fun clear => absurd obstructed clear, fun _ => ⟨?_, ?_⟩, fun _ _ => ?_, ?_⟩
  · rw [failed]
    rfl
  · rw [failed]
  · rw [failed]
  · rw [failed]
    exact shown

theorem load_obeys : cell.Obeys .load t := by
  by_cases barred : cell.Barred t
  · obtain ⟨e, unread, there⟩ := barred
    exact obeys_of_refused shown ⟨e, unread, there⟩ ⟨_, by rw [perform, load_of_unread unread, if_neg there]⟩
  · refine obeys_of_kept shown barred ?_ rfl
    rw [perform, load_of_seen barred, answer]

theorem save_obeys (l : Loop) : cell.Obeys (.save l) t := by
  by_cases accepts : cell.Accepts t
  · obtain ⟨made, -, saved⟩ := save_of_accepts accepts l
    have read := fetch_of_save saved
    refine obeys_of_put (not_not_intro accepts) rfl ?_ ?_ ?_
    · rw [perform, saved, answer]
    · rw [perform, saved]
      exact seen_of_fetch read
    · rw [perform, saved]
      exact shows_of_fetch read
  · obtain ⟨fault, failed⟩ := save_of_not_accepts accepts l
    obtain ⟨shown', same⟩ := (makeParents_makes t cell.path).seen shown
    generalize (t.makeParents cell.path).2 = made at failed shown' same
    refine ⟨fun clear => absurd accepts clear, fun _ => ⟨?_, ?_⟩, fun clear => absurd accepts clear, ?_⟩
    · rw [perform, failed]
      rfl
    · rw [perform, failed, same]
    · rw [perform, failed]
      exact shown'

theorem clear_obeys : cell.Obeys .clear t := by
  cases read : t.fetch cell.path with
  | ok content =>
    obtain ⟨shown', absent⟩ := shows_of_erase read
    refine obeys_of_put (not_barred_of_fetch read) rfl ?_ ?_ ?_
    · rw [perform, clear_of_fetch read, answer, seen_of_fetch read, Option.isSome_some]
    · rw [perform, clear_of_fetch read, absent]
    · rw [perform, clear_of_fetch read]
      exact shown'
  | error e =>
    by_cases missing : e = .notFound
    · refine obeys_of_kept shown (fun barred => (barred_of_unread read).1 barred missing) ?_ ?_
      · rw [perform, clear_of_unread read, if_pos missing, answer, seen_of_unread read, Option.isSome_none]
      · rw [seen_of_unread read]
        rfl
    · have refused := (barred_of_unread read).2 missing
      exact obeys_of_refused shown refused ⟨_, by rw [perform, clear_of_unread read, if_neg missing]⟩

theorem clearSession_obeys (session : String) : cell.Obeys (.clearSession session) t := by
  cases read : t.fetch cell.path with
  | ok content =>
    have seen := seen_of_fetch read
    rcases clearSession_of_fetch session read with ⟨mine, cleared⟩ | ⟨other, kept⟩
    · obtain ⟨shown', absent⟩ := shows_of_erase read
      have putting : cell.puts (.clearSession session) (t.seen cell.path) = some none := by
        simp only [puts, seen, Option.any_some, mine, decide_true, if_true]
      refine obeys_of_put (not_barred_of_fetch read) putting ?_ ?_ ?_
      · simp only [perform, cleared, answer, seen, Option.any_some, mine, decide_true]
      · simp only [perform, cleared, absent]
      · simp only [perform, cleared, shown']
    · refine obeys_of_kept shown (not_barred_of_fetch read) ?_ ?_
      · simp only [perform, kept, answer, seen, Option.any_some, other, decide_false]
      · simp [puts, seen, other]
  | error e =>
    have kept : cell.clearSession session t = _ := clearSession_of_unread read
    by_cases missing : e = .notFound
    · refine obeys_of_kept shown (fun barred => (barred_of_unread read).1 barred missing) ?_ ?_
      · rw [perform, kept, if_pos missing, answer, seen_of_unread read, Option.any_none]
      · simp [puts, seen_of_unread read]
    · have refused := (barred_of_unread read).2 missing
      exact obeys_of_refused shown refused ⟨_, by rw [perform, kept, if_neg missing]⟩

omit shown in
theorem isOk_map {β : Type} (f : α → β) (answer : Except Fault α) : (answer.map f).isOk = answer.isOk := by
  cases answer <;> rfl

omit shown in
theorem obeys_of_like {β : Type} {op : CellOp α} {like : CellOp β} (f : β → α) (obeys : cell.Obeys like t)
    (result : (cell.perform op t).1 = (cell.perform like t).1.map f)
    (files : (cell.perform op t).2 = (cell.perform like t).2)
    (answers : cell.answer op (t.seen cell.path) = (cell.answer like (t.seen cell.path)).map f)
    (putting : cell.puts op (t.seen cell.path) = cell.puts like (t.seen cell.path))
    (barred : cell.Obstructed op t ↔ cell.Obstructed like t) : cell.Obeys op t := by
  refine ⟨fun clear => ?_, fun obstructed => ?_, fun clear nothing => ?_, ?_⟩
  · obtain ⟨answered, seen⟩ := obeys.done (mt barred.2 clear)
    exact ⟨by rw [result, answered, answers], by rw [files, seen, putting]⟩
  · obtain ⟨failed, seen⟩ := obeys.refused (barred.1 obstructed)
    exact ⟨by rw [result, isOk_map, failed], by rw [files, seen]⟩
  · rw [files]
    exact obeys.idle (mt barred.2 clear) (putting.symm.trans nothing)
  · rw [files]
    exact obeys.shown

theorem update_obeys_of_some {f : Loop → Option Loop × α} (clear : ¬cell.Barred t)
    (held : cell.decode (t.seen cell.path) = .ok (some l)) : cell.Obeys (.update f) t := by
  have loaded := load_of_seen clear
  rw [held] at loaded
  have updated := update_of_some (f := f) loaded
  have answers : cell.answer (.update f) (t.seen cell.path) = .ok (some (f l).2) := by
    simp only [answer, held, Except.map, Option.map_some]
  cases chosen : (f l).1 with
  | some next =>
    refine obeys_of_like (fun _ => some (f l).2) (save_obeys shown next) ?_ ?_ answers ?_ ⟨?_, ?_⟩
    · simp only [perform, updated, chosen]
    · simp only [perform, updated, chosen]
    · simp only [puts, held, chosen, Option.map_some]
    · rintro (barred | ⟨-, rejects⟩)
      · exact absurd barred clear
      · exact rejects
    · exact fun rejects => .inr ⟨⟨l, next, loaded, chosen⟩, rejects⟩
  | none =>
    refine obeys_of_like (fun _ => some (f l).2) (clear_obeys shown) ?_ ?_ answers ?_ ⟨?_, .inl⟩
    · simp only [perform, updated, chosen]
    · simp only [perform, updated, chosen]
    · simp only [puts, held, chosen, Option.map_none]
    · rintro (barred | ⟨⟨l', next, loaded', chosen'⟩, -⟩)
      · exact barred
      · rw [loaded] at loaded'
        cases loaded'
        rw [chosen] at chosen'
        cases chosen'

theorem update_obeys (f : Loop → Option Loop × α) : cell.Obeys (.update f) t := by
  by_cases barred : cell.Barred t
  · have refused : cell.Obstructed (.update f) t := .inl barred
    obtain ⟨e, unread, there⟩ := barred
    exact obeys_of_refused shown refused ⟨_, by rw [perform, update_of_unread f unread, if_neg there]⟩
  have loaded := load_of_seen barred
  have idle : (∀ l, cell.load t ≠ .ok (some l)) → ¬cell.Obstructed (.update f) t := by
    rintro nothing (barred' | ⟨⟨l, next, loaded', -⟩, -⟩)
    · exact barred barred'
    · exact nothing l loaded'
  cases held : cell.decode (t.seen cell.path) with
  | error fault =>
    rw [held] at loaded
    refine obeys_of_kept shown (idle (by simp [loaded])) ?_ ?_
    · rw [perform, update_of_error f loaded, answer, held, Except.map]
    · simp only [puts, held, Option.getD_none]
  | ok found =>
    cases found with
    | none =>
      rw [held] at loaded
      refine obeys_of_kept shown (idle (by simp [loaded])) ?_ ?_
      · rw [perform, update_of_none f loaded, answer, held, Except.map, Option.map_none]
      · simp only [puts, held, Option.getD_none]
    | some l => exact update_obeys_of_some shown barred held

/-- Where the path tells what is there, every operation is one on what is seen there. -/
theorem perform_obeys (op : CellOp α) : cell.Obeys op t := by
  cases op with
  | load => exact load_obeys shown
  | save l => exact save_obeys shown l
  | clear => exact clear_obeys shown
  | clearSession session => exact clearSession_obeys shown session
  | update f => exact update_obeys shown f

end LoopCell

end AgentHooks
