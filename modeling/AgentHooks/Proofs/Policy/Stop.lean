import AgentHooks.Policy.Stop
import AgentHooks.Proofs.World.Quiet

/-! What the stop hook does to the latch: a stop command sets it for its session, an ordinary chat
message or the end of the session opens it, and apart from that it stays. -/

namespace AgentHooks

open World

namespace StopWords

def stops (words : StopWords) (session : String) : (e : Event) → e.Output → Bool
  | .toolBefore call, args => call.session == session && words.matchesTool call args
  | .commandBefore command, _ => command.session == session && words.matchesCommand command.command
  | _, _ => false

/-- An event that lets a stopped session go on: a chat message that does not repeat a stop command, or
the end of the session. -/
def resumes (words : StopWords) (session : String) : (e : Event) → e.Output → Bool
  | .chatMessage turn, parts => turn.session == session && !words.matchesChat parts
  | .lifecycle e, _ => e.kind == "session.deleted" && e.session? == some session
  | _, _ => false

def discards (words : StopWords) (session : String) : (e : Event) → e.Output → Bool
  | .lifecycle e, _ => e.kind == "session.deleted" && e.session? == some session
  | e, out => words.stops session e out

theorem elsewhere_of_discards {words : StopWords} {session : String} {e : Event} {out : e.Output}
    (discarded : words.discards session e out = true) (call : ToolCall) : e ≠ .toolAfter call := by
  rintro rfl
  cases discarded

end StopWords

namespace World

theorem isStopped_stop (w : World) (session other : String) :
    (w.stop session).isStopped other = (session == other || w.isStopped other) := by
  rw [BEq.comm]
  exact NameSet.contains_insert w.stopped session other

theorem isStopped_clearStop (w : World) (session other : String) :
    (w.clearStop session).isStopped other = (session != other && w.isStopped other) := by
  rw [bne_comm]
  exact NameSet.contains_erase w.stopped session other

end World

namespace StopPolicy

theorem latch_moves (w : World) (session event : String) : Moves w (latch w session event) := by
  unfold latch
  split
  · exact .refl w
  · exact ⟨_, .remark _ _⟩

theorem release_moves (w : World) (session event : String) : Moves w (release w session event) := by
  unfold release
  split
  · exact ⟨_, .remark _ _⟩
  · exact .refl w

theorem isStopped_latch (w : World) {session : String} (event other : String) (named : other ≠ "") :
    (latch w session event).isStopped other = (session == other || w.isStopped other) := by
  unfold latch
  split
  next blank => simp [blank, named.symm]
  · exact isStopped_stop w session other

theorem isStopped_release (w : World) (session event other : String) :
    (release w session event).isStopped other = (session != other && w.isStopped other) := by
  unfold release
  split
  · exact isStopped_clearStop w session other
  next running =>
    by_cases same : session = other
    · subst same
      simpa using running
    · simp [same]

theorem handle_moves (words : StopWords) (e : Event) (out : e.Output) (w : World) :
    Moves w (handle words e out w).state := by
  cases e with
  | toolBefore call =>
    simp only [handle, Handled.pass]
    split
    · exact latch_moves _ _ _
    · exact .refl w
  | commandBefore command =>
    simp only [handle, Handled.pass]
    split
    · exact latch_moves _ _ _
    · exact .refl w
  | chatMessage turn =>
    simp only [handle, Handled.pass]
    split
    · exact .refl w
    · exact release_moves _ _ _
  | lifecycle e =>
    simp only [handle, Handled.pass]
    split
    · split
      · exact release_moves _ _ _
      · exact .refl w
    · exact .refl w
  | toolAfter call => exact .refl w
  | messagesTransform request => exact .refl w

theorem handle_isStopped (words : StopWords) (e : Event) (out : e.Output) (w : World)
    {session : String} (named : session ≠ "") :
    (handle words e out w).state.isStopped session =
      (words.stops session e out || !words.resumes session e out && w.isStopped session) := by
  cases e with
  | toolBefore call =>
    simp only [handle, Handled.pass, StopWords.stops, StopWords.resumes]
    split
    next found => simp [isStopped_latch _ _ _ named, found]
    next other => simp [other]
  | commandBefore command =>
    simp only [handle, Handled.pass, StopWords.stops, StopWords.resumes]
    split
    next found => simp [isStopped_latch _ _ _ named, found]
    next other => simp [other]
  | chatMessage turn =>
    simp only [handle, Handled.pass, StopWords.stops, StopWords.resumes]
    split
    next echo => simp [echo]
    next plain => simp [isStopped_release, plain, bne]
  | lifecycle e =>
    simp only [handle, Handled.pass, StopWords.stops, StopWords.resumes]
    split
    next ended =>
      split
      next about => simp [isStopped_release, ended, about, bne]
      next nobody => simp [nobody]
    next other => simp [other]
  | toolAfter call => simp [handle, Handled.pass, StopWords.stops, StopWords.resumes]
  | messagesTransform request => simp [handle, Handled.pass, StopWords.stops, StopWords.resumes]

theorem handle_fault (words : StopWords) (e : Event) (out : e.Output) (w : World) :
    (handle words e out w).fault = none := by
  cases e <;> rfl

end StopPolicy

end AgentHooks
