import AgentHooks.Policy.Compaction
import AgentHooks.Policy.Context
import AgentHooks.Policy.Continuation
import AgentHooks.Policy.Pressure
import AgentHooks.Policy.Stop
import AgentHooks.Proofs.World.Alike

/-! The hooks in worlds that they cannot tell apart: they do the same in both, and leave worlds behind that
nobody else can tell apart either. -/

namespace AgentHooks

open World

variable {p : Path} {j k : Journal} {F : FileTree → FileTree → Prop} {u v : World}

/-- What a turn that may fail leaves behind: the failure is noted, and that is all that comes of it. -/
def World.settle (x : World × Option Fault) (r : Remark) : World :=
  x.1.note (x.2.map fun _ => r)

def AlikeWith {α : Type} (p : Path) (j k : Journal) (F : FileTree → FileTree → Prop) (x y : α × World) : Prop :=
  y.1 = x.1 ∧ Alike p j k F x.2 y.2

variable (o : Overlooked p j k F) (alike : Alike p j k F u v)

namespace StopPolicy

include o alike

theorem latch_alike (session event : String) :
    Alike p j k F (latch u session event) (latch v session event) := by
  unfold latch
  split
  · exact alike
  · exact Alike.remark o (alike.map (g := (·.stop session)) (fun _ _ _ => rfl) rfl rfl rfl rfl) _

theorem release_alike (session event : String) :
    Alike p j k F (release u session event) (release v session event) := by
  unfold release
  rw [alike.isStopped]
  split
  · exact Alike.remark o (alike.map (g := (·.clearStop session)) (fun _ _ _ => rfl) rfl rfl rfl rfl) _
  · exact alike

theorem handle_alike (words : StopWords) (e : Event) (out : e.Output) :
    Alike p j k F (handle words e out u).state (handle words e out v).state := by
  cases e with
  | toolBefore call =>
    simp only [handle, Handled.pass]
    split
    · exact latch_alike o alike _ _
    · exact alike
  | commandBefore command =>
    simp only [handle, Handled.pass]
    split
    · exact latch_alike o alike _ _
    · exact alike
  | chatMessage turn =>
    simp only [handle, Handled.pass]
    split
    · exact alike
    · exact release_alike o alike _ _
  | lifecycle e =>
    simp only [handle, Handled.pass]
    split
    · split
      · exact release_alike o alike _ _
      · exact alike
    · exact alike
  | toolAfter call => exact alike
  | messagesTransform request => exact alike

end StopPolicy

namespace ContextPolicy

include o alike

theorem onToolAfter_alike (s : ContextSettings) (session : String) (out : ToolResult) :
    AlikeWith p j k F (onToolAfter s session out u) (onToolAfter s session out v) := by
  unfold onToolAfter
  rw [alike.context]
  split
  · exact ⟨rfl, alike⟩
  · dsimp only
    have counted := fun context => alike.map (g := fun w => { w with context }) (fun _ _ _ => rfl) rfl rfl rfl rfl
    split
    · exact ⟨rfl, Alike.remark o (counted _) _⟩
    · exact ⟨rfl, counted _⟩

theorem handle_alike (s : ContextSettings) (e : Event) (out : e.Output) :
    (handle s e out v).output = (handle s e out u).output ∧
      Alike p j k F (handle s e out u).state (handle s e out v).state := by
  cases e with
  | toolAfter call => exact onToolAfter_alike o alike s call.session out
  | lifecycle e =>
    refine ⟨rfl, ?_⟩
    simp only [handle, Handled.pass, alike.context]
    exact alike.map (g := fun w => { w with context := onLifecycle u.context e }) (fun _ _ _ => rfl) rfl rfl rfl rfl
  | toolBefore call => exact ⟨rfl, alike⟩
  | commandBefore command => exact ⟨rfl, alike⟩
  | chatMessage turn => exact ⟨rfl, alike⟩
  | messagesTransform request => exact ⟨rfl, alike⟩

end ContextPolicy

namespace CompactionPolicy

include o alike

theorem compact_alike (session event : String) :
    Alike p j k F (compact u session event) (compact v session event) := by
  obtain ⟨same, requested⟩ := alike.request .summarize (.summarize session)
  unfold compact
  generalize u.request .summarize (.summarize session) = left at same requested ⊢
  generalize v.request .summarize (.summarize session) = right at same requested ⊢
  obtain ⟨u', fault⟩ := left
  obtain ⟨v', fault'⟩ := right
  cases same
  cases fault with
  | none => exact requested.remark o _
  | some fault =>
    exact Alike.remark o (requested.map
      (g := fun w => { w with compaction := w.compaction.modify session CompactionMemory.release })
      (fun _ _ _ => rfl) rfl rfl rfl rfl) _

theorem observe_alike (s : CompactionSettings) (session event : String) (f : Usage → Usage) :
    Alike p j k F (observe s u session event f) (observe s v session event f) := by
  unfold observe
  rw [alike.compaction]
  dsimp only
  have counted := fun compaction =>
    alike.map (g := fun w => { w with compaction }) (fun _ _ _ => rfl) rfl rfl rfl rfl
  split
  · exact compact_alike o (counted _) _ _
  · exact counted _

theorem onLifecycle_alike (s : CompactionSettings) (e : LifecycleEvent) :
    Alike p j k F (onLifecycle s u e) (onLifecycle s v e) := by
  have changed := fun f : Roster CompactionMemory → Roster CompactionMemory =>
    alike.map (g := fun w => { w with compaction := f w.compaction }) (fun _ _ _ => rfl) rfl rfl rfl rfl
  unfold onLifecycle
  split
  · exact observe_alike o alike s _ _ _
  · split
    · exact alike
    next session _ =>
      split
      · exact changed (·.modify session CompactionMemory.compacted)
      · split
        · exact changed (·.remove session)
        · exact alike

theorem handle_alike (s : CompactionSettings) (e : Event) (out : e.Output) :
    Alike p j k F (handle s e out u).state (handle s e out v).state := by
  cases e with
  | toolAfter call =>
    simp only [handle, Handled.pass]
    split
    · exact alike
    · exact observe_alike o alike s _ _ _
  | lifecycle e => exact onLifecycle_alike o alike s e
  | toolBefore call => exact alike
  | commandBefore command => exact alike
  | chatMessage turn => exact alike
  | messagesTransform request => exact alike

end CompactionPolicy

namespace PressurePolicy

theorem ownsLoop_of_unread {w : World} {e : FileError} (unread : w.files.fetch w.cell.path = .error e)
    (session : String) :
    ownsLoop w session = (w.note (some (.on id .skip
      (if e = .notFound then "no_active_loop" else "state_unavailable") "tool.execute.after" session)), false) := by
  unfold ownsLoop
  rw [LoopCell.load_of_unread unread]
  by_cases missing : e = .notFound
  · simp only [if_pos missing]
    rfl
  · simp only [if_neg missing]
    rfl

include o

theorem ownsLoop_alike (alike : Alike p j k F u v) (session : String) :
    (ownsLoop v session).2 = (ownsLoop u session).2 ∧
      Alike p j k F (ownsLoop u session).1 (ownsLoop v session).1 := by
  rcases alike.reading o with ⟨content, found, found'⟩ | ⟨e, e', unread, unread'⟩
  · unfold ownsLoop
    rw [alike.cell, LoopCell.load_of_fetch found, LoopCell.load_of_fetch found']
    cases u.cell.loopIn? content with
    | none => exact ⟨rfl, alike.remark o _⟩
    | some l =>
      dsimp only
      split
      · exact ⟨rfl, alike⟩
      · exact ⟨rfl, alike.remark o _⟩
  · have unread'' : v.files.fetch v.cell.path = .error e' := by rw [alike.cell, unread']
    rw [ownsLoop_of_unread unread, ownsLoop_of_unread unread'']
    exact ⟨rfl, alike.note_of_unread o unread unread' fun e => some (.on id .skip
      (if e = .notFound then "no_active_loop" else "state_unavailable") "tool.execute.after" session)⟩

variable {x y : Scene} (s : PressureSettings) (session : String) (sample : Sample)

theorem remind_alike (level : PressureLevel) (due : Bool) (same : AlikeWith p j k F x y) :
    AlikeWith p j k F (remind s session sample level due x) (remind s session sample level due y) := by
  obtain ⟨_, u⟩ := x
  obtain ⟨out, v⟩ := y
  obtain ⟨rfl, alike⟩ := same
  unfold remind
  dsimp only
  split
  · exact ⟨rfl, alike⟩
  · cases level with
    | normal => exact ⟨rfl, alike⟩
    | warning => exact ⟨rfl, Alike.remark o alike _⟩
    | critical => exact ⟨rfl, Alike.remark o alike _⟩

theorem pause_alike (same : AlikeWith p j k F x y) :
    AlikeWith p j k F (pause session sample x) (pause session sample y) := by
  obtain ⟨_, u⟩ := x
  obtain ⟨out, v⟩ := y
  obtain ⟨rfl, alike⟩ := same
  obtain ⟨owned, looked⟩ := ownsLoop_alike o alike session
  unfold pause
  dsimp only at looked owned ⊢
  generalize ownsLoop u session = left at owned looked ⊢
  generalize ownsLoop v session = right at owned looked ⊢
  obtain ⟨u', owns⟩ := left
  obtain ⟨v', owns'⟩ := right
  cases owned
  cases owns with
  | false => exact ⟨rfl, looked⟩
  | true =>
    dsimp only
    rw [looked.isStopped]
    split
    · exact ⟨rfl, looked⟩
    · refine ⟨rfl, Alike.notify (Alike.remark o ?_ _) _ _ _ _⟩
      exact looked.map (g := (·.stop session)) (fun _ _ _ => rfl) rfl rfl rfl rfl

theorem escalate_alike (events : Nat) (same : AlikeWith p j k F x y) :
    AlikeWith p j k F (escalate s session events x) (escalate s session events y) := by
  obtain ⟨_, u⟩ := x
  obtain ⟨out, v⟩ := y
  obtain ⟨rfl, alike⟩ := same
  exact ⟨rfl, Alike.notify (Alike.remark o alike _) _ _ _ _⟩

theorem respond_alike (same : AlikeWith p j k F x y) :
    AlikeWith p j k F (respond s session sample x) (respond s session sample y) := by
  obtain ⟨_, u⟩ := x
  obtain ⟨out, v⟩ := y
  obtain ⟨rfl, alike⟩ := same
  unfold respond
  dsimp only at alike ⊢
  rw [alike.pressure]
  have counted := fun pressure =>
    alike.map (g := fun w => { w with pressure }) (fun _ _ _ => rfl) rfl rfl rfl rfl
  have reminded := fun pressure level due => remind_alike o s session sample level due
    (x := (out, { u with pressure })) (y := (out, { v with pressure })) ⟨rfl, counted pressure⟩
  split
  · apply escalate_alike o
    split
    · exact pause_alike o session sample (reminded _ _ _)
    · exact reminded _ _ _
  · split
    · exact pause_alike o session sample (reminded _ _ _)
    · exact reminded _ _ _

theorem onToolAfter_alike (alike : Alike p j k F u v) (out : ToolResult) :
    AlikeWith p j k F (onToolAfter s session out u) (onToolAfter s session out v) := by
  unfold onToolAfter
  rw [alike.pressure]
  split
  · exact ⟨rfl, alike⟩
  · dsimp only
    have counted := fun pressure =>
      alike.map (g := fun w => { w with pressure }) (fun _ _ _ => rfl) rfl rfl rfl rfl
    split
    · exact ⟨rfl, counted _⟩
    · generalize Roster.modify _ session _ = pressure
      obtain ⟨same, sampled⟩ := (counted pressure).sample
      generalize World.sample { u with pressure } = left at same sampled ⊢
      generalize World.sample { v with pressure } = right at same sampled ⊢
      obtain ⟨u', result⟩ := left
      obtain ⟨v', result'⟩ := right
      cases same
      cases result with
      | error fault => exact ⟨rfl, Alike.remark o sampled _⟩
      | ok sample => exact respond_alike o s session sample (x := (out, u')) (y := (out, v')) ⟨rfl, sampled⟩

theorem handle_alike (alike : Alike p j k F u v) (e : Event) (out : e.Output) :
    (handle s e out v).output = (handle s e out u).output ∧
      Alike p j k F (handle s e out u).state (handle s e out v).state := by
  cases e with
  | toolAfter call => exact onToolAfter_alike o s call.session alike out
  | lifecycle e =>
    refine ⟨rfl, ?_⟩
    simp only [handle, Handled.pass]
    split
    · split
      next session _ =>
        exact alike.map (g := fun w => { w with pressure := w.pressure.remove session }) (fun _ _ _ => rfl)
          rfl rfl rfl rfl
      · exact alike
    · exact alike
  | toolBefore call => exact ⟨rfl, alike⟩
  | commandBefore command => exact ⟨rfl, alike⟩
  | chatMessage turn => exact ⟨rfl, alike⟩
  | messagesTransform request => exact ⟨rfl, alike⟩

end PressurePolicy

namespace ContinuationPolicy

/-! A file that cannot be read, to the loop's own hook. -/

section Unread

variable {w : World} {e : FileError} (unread : w.files.fetch w.cell.path = .error e) (session : String)

include unread

theorem ownedLoop_of_unread (event : String) :
    ownedLoop w session event =
      (w.note (if e = .notFound then none else some (.on id .skip "state_unavailable" event session)), none) := by
  unfold ownedLoop
  rw [LoopCell.load_of_unread unread]
  by_cases missing : e = .notFound
  · simp only [if_pos missing]
    rfl
  · simp only [if_neg missing]
    rfl

theorem clearFor_of_unread (event reason : String) (r : Remark) :
    settle (clearFor w session event reason) r = w.note (if e = .notFound then none else some r) := by
  unfold clearFor
  rw [LoopCell.clearSession_of_unread unread]
  by_cases missing : e = .notFound
  · simp only [if_pos missing]
    rfl
  · simp only [if_neg missing]
    rfl

theorem turn_of_unread (s : AutopilotSettings) (signal : Signal) (r : Remark) :
    settle (turn s w session signal) r = w.note (if e = .notFound then none else some r) := by
  unfold turn
  dsimp only
  rw [LoopCell.update_of_unread _ unread]
  by_cases missing : e = .notFound
  · simp only [if_pos missing]
    rfl
  · simp only [if_neg missing]
    rfl

end Unread

theorem notify_alike (alike : Alike p j k F u v) (s : AutopilotSettings) (session title message : String)
    (level : NoticeLevel) :
    Alike p j k F (notify s u session title message level) (notify s v session title message level) := by
  unfold notify
  split
  · exact alike.notify _ _ _ _
  · exact alike

theorem hasOpenWork_alike (alike : Alike p j k F u v) (session : String) :
    (hasOpenWork v session).2 = (hasOpenWork u session).2 ∧
      Alike p j k F (hasOpenWork u session).1 (hasOpenWork v session).1 := by
  obtain ⟨same, asked⟩ := alike.ask .todos session (·.todos)
  unfold hasOpenWork
  generalize u.ask .todos session (·.todos) = left at same asked ⊢
  generalize v.ask .todos session (·.todos) = right at same asked ⊢
  obtain ⟨u', answer⟩ := left
  obtain ⟨v', answer'⟩ := right
  cases same
  cases answer <;> exact ⟨rfl, asked⟩

theorem signal_alike (alike : Alike p j k F u v) (session : String) (l : Loop) (messages : List Message) :
    (signal v session l messages).2 = (signal u session l messages).2 ∧
      Alike p j k F (signal u session l messages).1 (signal v session l messages).1 := by
  obtain ⟨same, asked⟩ := hasOpenWork_alike alike session
  unfold signal
  dsimp only
  split
  · exact ⟨congrArg Signal.complete same, asked⟩
  · exact ⟨rfl, alike⟩

include o

theorem clearFor_alike (alike : Alike p j k F u v) (session event reason : String) (r : Remark) :
    Alike p j k F (settle (clearFor u session event reason) r) (settle (clearFor v session event reason) r) := by
  rcases alike.reading o with ⟨content, found, found'⟩ | ⟨e, e', unread, unread'⟩
  · unfold clearFor
    rw [alike.cell]
    rcases LoopCell.clearSession_of_fetch session found with ⟨clears, cleared⟩ | ⟨keeps, kept⟩
    · rcases LoopCell.clearSession_of_fetch session found' with ⟨-, cleared'⟩ | ⟨keeps, -⟩
      · rw [cleared, cleared']
        exact Alike.remark o (alike.erase o found found') _
      · exact absurd clears keeps
    · rcases LoopCell.clearSession_of_fetch session found' with ⟨clears, -⟩ | ⟨-, kept'⟩
      · exact absurd clears keeps
      · rw [kept, kept']
        exact alike
  · have unread'' : v.files.fetch v.cell.path = .error e' := by rw [alike.cell, unread']
    rw [clearFor_of_unread unread, clearFor_of_unread unread'']
    exact alike.note_of_unread o unread unread' fun e => if e = .notFound then none else some r

theorem ownedLoop_alike (alike : Alike p j k F u v) (session event : String) :
    (ownedLoop v session event).2 = (ownedLoop u session event).2 ∧
      Alike p j k F (ownedLoop u session event).1 (ownedLoop v session event).1 := by
  rcases alike.reading o with ⟨content, found, found'⟩ | ⟨e, e', unread, unread'⟩
  · unfold ownedLoop
    rw [alike.cell, LoopCell.load_of_fetch found, LoopCell.load_of_fetch found']
    cases u.cell.loopIn? content with
    | none => exact ⟨rfl, alike.remark o _⟩
    | some l => exact ⟨rfl, alike⟩
  · have unread'' : v.files.fetch v.cell.path = .error e' := by rw [alike.cell, unread']
    rw [ownedLoop_of_unread unread, ownedLoop_of_unread unread'']
    exact ⟨rfl, alike.note_of_unread o unread unread' fun e =>
      if e = .notFound then none else some (.on id .skip "state_unavailable" event session)⟩

theorem inject_alike (alike : Alike p j k F u v) (session : String) (l : Loop) :
    Alike p j k F (inject u session l) (inject v session l) := by
  obtain ⟨same, requested⟩ := alike.request .prompt (.sendPrompt session l.continuationPrompt)
  unfold inject
  rw [alike.isStopped]
  split
  · exact alike.remark o _
  · generalize u.request .prompt (.sendPrompt session l.continuationPrompt) = left at same requested ⊢
    generalize v.request .prompt (.sendPrompt session l.continuationPrompt) = right at same requested ⊢
    obtain ⟨u', fault⟩ := left
    obtain ⟨v', fault'⟩ := right
    cases same
    cases fault <;> exact requested.remark o _

theorem conclude_alike (alike : Alike p j k F u v) (s : AutopilotSettings) (session : String) (t : Turn) :
    Alike p j k F (conclude s u session t) (conclude s v session t) := by
  cases t with
  | notOwned => exact alike
  | stopped => exact alike.remark o _
  | completed iteration => exact notify_alike (alike.remark o _) _ _ _ _ _
  | capReached iteration maxIterations => exact notify_alike (alike.remark o _) _ _ _ _ _
  | continued l ignored =>
    apply inject_alike o
    split
    · exact alike.remark o _
    · exact alike

theorem turn_alike (alike : Alike p j k F u v) (s : AutopilotSettings) (session : String) (signal : Signal)
    (r : Remark) :
    Alike p j k F (settle (turn s u session signal) r) (settle (turn s v session signal) r) := by
  rcases alike.reading o with ⟨content, found, found'⟩ | ⟨e, e', unread, unread'⟩
  · unfold turn
    dsimp only
    rw [alike.cell, alike.isStopped]
    generalize same : (fun l : Loop =>
      l.advance session signal s.maxIgnoredCompletionCycles (u.isStopped session)) = step
    cases held : u.cell.loopIn? content with
    | none =>
      rw [LoopCell.update_of_unheld step found held, LoopCell.update_of_unheld step found' held]
      exact alike.remark o r
    | some l =>
      cases taken : step l with
      | mk next t =>
        cases next with
        | none =>
          rw [LoopCell.update_of_ended step found held taken, LoopCell.update_of_ended step found' held taken]
          exact conclude_alike o (alike.erase o found found') s session t
        | some next =>
          rcases LoopCell.update_of_next step found held taken with ⟨admits, put⟩ | ⟨closed, fault, failed⟩
          · rcases LoopCell.update_of_next step found' held taken with ⟨-, put'⟩ | ⟨closed, -⟩
            · rw [put, put']
              exact conclude_alike o (alike.set o found found' _) s session t
            · cases admits.symm.trans closed
          · rcases LoopCell.update_of_next step found' held taken with ⟨admits, -⟩ | ⟨-, fault', failed'⟩
            · cases admits.symm.trans closed
            · rw [failed, failed']
              exact alike.remark o r
  · have unread'' : v.files.fetch v.cell.path = .error e' := by rw [alike.cell, unread']
    rw [turn_of_unread unread, turn_of_unread unread'']
    exact alike.note_of_unread o unread unread' fun e => if e = .notFound then none else some r

theorem onIdle_alike (alike : Alike p j k F u v) (s : AutopilotSettings) (session : String) (r : Remark) :
    Alike p j k F (settle (onIdle s u session) r) (settle (onIdle s v session) r) := by
  obtain ⟨owned, looked⟩ := ownedLoop_alike o alike session idle
  unfold onIdle
  generalize ownedLoop u session idle = left at owned looked ⊢
  generalize ownedLoop v session idle = right at owned looked ⊢
  obtain ⟨u, l⟩ := left
  obtain ⟨v, l'⟩ := right
  cases owned
  cases l with
  | none => exact looked
  | some l =>
    dsimp only at looked ⊢
    rw [looked.isStopped]
    split
    · exact looked.remark o _
    · obtain ⟨same, asked⟩ := looked.ask .messages session (·.messages)
      generalize u.ask .messages session (·.messages) = left at same asked ⊢
      generalize v.ask .messages session (·.messages) = right at same asked ⊢
      obtain ⟨u, answer⟩ := left
      obtain ⟨v, answer'⟩ := right
      cases same
      cases answer with
      | error fault => exact asked.remark o _
      | ok messages =>
        obtain ⟨heard, onwards⟩ := signal_alike asked session l messages
        dsimp only at onwards heard ⊢
        rw [heard]
        exact turn_alike o onwards s session _ r

theorem handle_alike (alike : Alike p j k F u v) (s : AutopilotSettings) (words : StopWords) (e : Event)
    (out : e.Output) (r : Remark) :
    let turn w := handle s words e out w
    Alike p j k F (settle ((turn u).state, (turn u).fault) r) (settle ((turn v).state, (turn v).fault) r) := by
  have cleared := fun isStop session event =>
    show Alike p j k F (settle (onStop u isStop session event) r) (settle (onStop v isStop session event) r) by
      unfold onStop
      split
      · exact clearFor_alike o alike _ _ _ r
      · exact alike
  cases e with
  | lifecycle e =>
    change Alike p j k F (settle (onLifecycle s u e) r) (settle (onLifecycle s v e) r)
    unfold onLifecycle
    split
    · exact alike
    · split
      · exact onIdle_alike o alike s _ r
      · split
        · exact clearFor_alike o alike _ _ _ r
        · exact alike
  | toolBefore call => exact cleared _ _ _
  | commandBefore command => exact cleared _ _ _
  | toolAfter call => exact alike
  | chatMessage turn => exact alike
  | messagesTransform request => exact alike

end ContinuationPolicy

end AgentHooks
