import AgentHooks.Proofs.Files.Frame
import AgentHooks.Proofs.Loop.Record

/-! The cell told by what its file holds, and as long as it can be written. Once a loop was put into it, the way
there stays open, and every later operation on it succeeds. -/

namespace AgentHooks

variable {cell : LoopCell} {t t' : FileTree} {l : Loop}

namespace LoopCell

open FileTree

/-! What a file holds. -/

def loopIn? (cell : LoopCell) (content : Content) : Option Loop :=
  content.text?.bind cell.parse

theorem loopIn?_render (cell : LoopCell) (valid : l.Valid) : cell.loopIn? (.text (cell.render l)) = some l :=
  cell.parse_render valid

theorem loopIn?_valid (instant : cell.now.Valid) {content : Content} (held : cell.loopIn? content = some l) :
    l.Valid := by
  obtain ⟨text, -, parsed⟩ := Option.bind_eq_some_iff.1 held
  exact parse_valid instant parsed

def nameIn? (content : Content) : Option String :=
  ((content.text?.bind Json.value?).bind (·.member? "sessionId")).bind Json.string?

def faultOf (cell : LoopCell) : Content → Fault
  | .text _ => cell.parseFault
  | .garbled _ _ => cell.readFault .notText

variable {content : Content} {session : String} {e : FileError}

theorem load_of_fetch (found : t.fetch cell.path = .ok content) :
    cell.load t = match cell.loopIn? content with
      | some l => .ok (some l)
      | none => .error (cell.faultOf content) := by
  unfold load
  rw [read_of_fetch found]
  cases content with
  | text s => rfl
  | garbled bytes broken => rfl

theorem load_of_unread (unread : t.fetch cell.path = .error e) :
    cell.load t = if e = .notFound then .ok none else .error (cell.readFault e) := by
  unfold load
  rw [read_of_unfetched unread]
  cases e <;> rfl

theorem rawOwner?_of_fetch (found : t.fetch cell.path = .ok content) : cell.rawOwner? t = nameIn? content := by
  unfold rawOwner?
  rw [read_of_fetch found]
  cases content with
  | text s => rfl
  | garbled bytes broken => rfl

/-! Taking away. -/

theorem clear_of_fetch (found : t.fetch cell.path = .ok content) :
    cell.clear t = (.ok true, t.erase (t.placeOf cell.path)) := by
  have removed : t.remove cell.path = .ok (t.erase (t.placeOf cell.path)) :=
    remove_eq_ok.2 ⟨content, found, rfl⟩
  simp only [clear, removed]

theorem clear_of_unread (unread : t.fetch cell.path = .error e) :
    cell.clear t = (if e = .notFound then .ok false else .error (.io e.message), t) := by
  unfold clear
  rw [remove_of_fetch_error unread]
  cases e <;> rfl

/-- The files that go when a session is over: its loop, active or not, and a file without a loop that names
the session, or nobody. -/
def Clears (cell : LoopCell) (session : String) (content : Content) : Prop :=
  (∃ l, cell.loopIn? content = some l ∧ l.session = session) ∨
    cell.loopIn? content = none ∧ (nameIn? content = some session ∨ nameIn? content = none)

theorem clearSession_of_fetch (session : String) (found : t.fetch cell.path = .ok content) :
    cell.Clears session content ∧ cell.clearSession session t = (.ok true, t.erase (t.placeOf cell.path)) ∨
      ¬cell.Clears session content ∧ cell.clearSession session t = (.ok false, t) := by
  have named := rawOwner?_of_fetch found
  have loaded := load_of_fetch found
  unfold Clears clearSession
  cases held : cell.loopIn? content with
  | some l =>
    rw [held] at loaded
    simp only [loaded]
    by_cases mine : l.session = session
    · simp [mine, clear_of_fetch found]
    · simp [mine]
  | none =>
    rw [held] at loaded
    simp only [loaded, named]
    cases owner : nameIn? content with
    | none => simp [clear_of_fetch found]
    | some other =>
      by_cases mine : other = session
      · simp [mine, clear_of_fetch found]
      · simp [mine]

theorem clearSession_of_unread (unread : t.fetch cell.path = .error e) :
    cell.clearSession session t = (if e = .notFound then .ok false else .error (.io e.message), t) := by
  have nobody : cell.rawOwner? t = none := by simp only [rawOwner?, read_of_unfetched unread]
  unfold clearSession
  rw [load_of_unread unread, nobody]
  by_cases missing : e = .notFound
  · simp only [if_pos missing]
  · simp only [if_neg missing, clear_of_unread unread]

theorem clearSession_cases (cell : LoopCell) (session : String) (t : FileTree) :
    (cell.clearSession session t).2 = t ∨
      ∃ content, t.content? (t.placeOf cell.path) = some content ∧ cell.Clears session content ∧
        cell.clearSession session t = (.ok true, t.erase (t.placeOf cell.path)) := by
  cases found : t.fetch cell.path with
  | error e =>
    left
    rw [clearSession_of_unread found]
  | ok content =>
    rcases clearSession_of_fetch session found with ⟨clears, cleared⟩ | ⟨-, kept⟩
    · exact .inr ⟨content, content_of_fetch found, clears, cleared⟩
    · left
      rw [kept]

/-! The way to the cell. -/

/-- The way to the cell is open: its directories stand, there is room for a draft, and a file may be moved
into its place. -/
structure Ready (cell : LoopCell) (t : FileTree) : Prop where
  parents : t.makeParents cell.path = (.ok (), t)
  draft : ∃ place, t.resolve cell.draft = .ok place
  destination : t.destination cell.path = .ok (t.placeOf cell.path)

theorem Ready.of_grows (ready : cell.Ready t) (grows : Grows t t') : cell.Ready t' := by
  refine ⟨makeParents_again ready.parents grows, ?_, ?_⟩
  · obtain ⟨place, resolved⟩ := ready.draft
    exact ⟨place, grows.resolve resolved⟩
  · rw [placeOf_eq grows.here]
    exact grows.destination ready.destination

theorem Ready.resolve (ready : cell.Ready t) : t.resolve cell.path = .ok (t.placeOf cell.path) :=
  resolve_of_destination ready.destination

/-- A loop that was put into the cell is in it, and the way stays open. -/
theorem ready_of_save (saved : cell.save l t = (.ok (), t')) :
    cell.Ready t' ∧ t'.content? (t'.placeOf cell.path) = some (.text (cell.render l)) := by
  unfold save at saved
  split at saved
  · cases saved
  next made done =>
    split at saved
    · cases saved
    next replaced =>
      cases saved
      simp only [replace, bind, Except.bind] at replaced
      split at replaced
      · cases replaced
      next draft drafted =>
        split at replaced
        · cases replaced
        next place destined =>
          split at replaced
          · cases replaced
          next free =>
            cases replaced
            have grows : Grows made (made.set place (.file (cell.render l))) := grows_set _ free
            have here : place = made.placeOf cell.path :=
              resolve_eq_placeOf (resolve_of_destination destined)
            refine ⟨⟨makeParents_again done grows, ⟨draft, grows.resolve drafted⟩, ?_⟩, ?_⟩
            · rw [placeOf_eq grows.here, ← here]
              exact grows.destination destined
            · rw [placeOf_eq grows.here, ← here]
              exact content?_set_self free

theorem Ready.load (ready : cell.Ready t) (valid : l.Valid)
    (stands : t.content? (t.placeOf cell.path) = some (.text (cell.render l))) : cell.load t = .ok (some l) := by
  rw [load_of_fetch (fetch_of_content ready.resolve stands), loopIn?_render cell valid]

theorem Ready.save (ready : cell.Ready t) (free : t.node? (t.placeOf cell.path) ≠ some .directory)
    (l : Loop) :
    cell.save l t = (.ok (), t.set (t.placeOf cell.path) (.file (cell.render l))) := by
  obtain ⟨place, drafted⟩ := ready.draft
  unfold LoopCell.save
  simp only [ready.parents, replace, drafted, ready.destination, bind, Except.bind]

theorem content_of_load (loaded : cell.load t = .ok (some l)) :
    ∃ content, t.fetch cell.path = .ok content ∧ cell.loopIn? content = some l := by
  cases found : t.fetch cell.path with
  | error e =>
    rw [load_of_unread found] at loaded
    split at loaded <;> cases loaded
  | ok content =>
    rw [load_of_fetch found] at loaded
    split at loaded
    next held =>
      cases loaded
      exact ⟨content, rfl, held⟩
    · cases loaded

theorem load_of_spares (loaded : cell.load t = .ok (some l))
    (spared : Spares (t.placeOf cell.path) t t') : cell.load t' = .ok (some l) := by
  obtain ⟨content, found, held⟩ := content_of_load loaded
  rw [load_of_fetch (spared.fetch found), held]

theorem clear_of_load (loaded : cell.load t = .ok (some l)) :
    cell.clear t = (.ok true, t.erase (t.placeOf cell.path)) := by
  obtain ⟨content, found, -⟩ := content_of_load loaded
  exact clear_of_fetch found

theorem save_failed_spares {fault : Fault} (failed : cell.save l t = (.error fault, t')) (place : Place) :
    Spares place t t' := by
  have made := makeParents_spares t place cell.path
  unfold save at failed
  split at failed
  next parents =>
    cases failed
    rw [parents] at made
    exact made
  next parents =>
    rw [parents] at made
    split at failed
    · cases failed
      exact made
    · cases failed

theorem save_of_isOk (done : (cell.save l t).1.isOk = true) :
    cell.save l t = (.ok (), (cell.save l t).2) := by
  generalize cell.save l t = outcome at done ⊢
  obtain ⟨result, files⟩ := outcome
  cases result with
  | ok => rfl
  | error fault => cases done

/-! Whatever is done to the cell, the working directory stays. -/

theorem save_here (cell : LoopCell) (l : Loop) (t : FileTree) : (cell.save l t).2.here = t.here := by
  have made := makeParents_here t cell.path
  unfold save
  split
  next parents =>
    rw [parents] at made
    exact made
  next files parents =>
    rw [parents] at made
    split
    · exact made
    next replaced => exact (replace_here replaced).trans made

theorem clear_here (cell : LoopCell) (t : FileTree) : (cell.clear t).2.here = t.here := by
  unfold clear
  split
  next removed => exact remove_here removed
  · rfl
  · rfl

theorem clearSession_here (cell : LoopCell) (session : String) (t : FileTree) :
    (cell.clearSession session t).2.here = t.here := by
  unfold clearSession
  split
  · rfl
  · split
    · exact clear_here cell t
    · rfl
  · split
    · split
      · exact clear_here cell t
      · rfl
    · exact clear_here cell t

theorem update_here {α : Type} (cell : LoopCell) (f : Loop → Option Loop × α) (t : FileTree) :
    (cell.update f t).2.here = t.here := by
  unfold update
  split
  · rfl
  · rfl
  · split
    next next a _ =>
      have here := save_here cell next t
      generalize cell.save next t = outcome at here ⊢
      exact here
    next a _ =>
      have here := clear_here cell t
      generalize cell.clear t = outcome at here ⊢
      exact here

theorem load_of_absent (absent : t.content? (t.placeOf cell.path) = none) (l : Loop) :
    cell.load t ≠ .ok (some l) := by
  obtain ⟨e, unread⟩ := fetch_of_absent absent
  rw [load_of_unread unread]
  split <;> simp

end LoopCell

end AgentHooks
