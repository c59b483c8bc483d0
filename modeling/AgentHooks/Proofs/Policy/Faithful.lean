import AgentHooks.Policy.Compaction
import AgentHooks.Policy.Context
import AgentHooks.Proofs.Loop.Access
import AgentHooks.Proofs.Policy.Tally

/-! No hook acts without its line, and none writes a line without acting: one lemma for each function, along the
paths that it can take. -/

namespace AgentHooks

open World

namespace StopPolicy

theorem latch_faithful (w : World) (session event : String) : Faithful [] w (latch w session event) := by
  unfold latch
  split
  · exact .refl w
  · exact (Faithful.hidden w _ _ _ _ _).trans (.line _ _ _ _ _ (by decide))

theorem release_faithful (w : World) (session event : String) : Faithful [] w (release w session event) := by
  unfold release
  split
  · exact (Faithful.hidden w _ _ _ _ _).trans (.line _ _ _ _ _ (by decide))
  · exact .refl w

theorem handle_faithful (words : StopWords) (e : Event) (out : e.Output) (w : World) :
    Faithful [] w (handle words e out w).state := by
  cases e with
  | toolBefore call =>
    simp only [handle, Handled.pass]
    split
    · exact latch_faithful _ _ _
    · exact .refl w
  | commandBefore command =>
    simp only [handle, Handled.pass]
    split
    · exact latch_faithful _ _ _
    · exact .refl w
  | chatMessage turn =>
    simp only [handle, Handled.pass]
    split
    · exact .refl w
    · exact release_faithful _ _ _
  | lifecycle e =>
    simp only [handle, Handled.pass]
    split
    · split
      · exact release_faithful _ _ _
      · exact .refl w
    · exact .refl w
  | toolAfter call => exact .refl w
  | messagesTransform request => exact .refl w

end StopPolicy

namespace ContinuationPolicy

variable {s : AutopilotSettings} {w : World} {session event reason : String}

theorem notify_faithful (s : AutopilotSettings) (w : World) (session title message : String) (level : NoticeLevel) :
    Faithful [] w (notify s w session title message level) := by
  unfold notify
  split
  · exact .notify w session title message level
  · exact .refl w

theorem ownedLoop_faithful (w : World) (session event : String) : Faithful [] w (ownedLoop w session event).1 := by
  unfold ownedLoop
  split
  · exact .refl w
  · exact .refl w
  · exact .line _ _ _ _ _ (by decide)

/-- The session is prompted, and a line says so, or neither. -/
theorem inject_faithful (w : World) (session : String) (l : Loop) : Faithful [] w (inject w session l) := by
  refine .of_audited fun audited => ?_
  unfold inject
  split
  · exact .line _ _ _ _ _ (by decide)
  · rw [request_eq audited.handsOff audited.undisturbed]
    cases (w.disturbance .prompt).refuses with
    | true => exact .line _ _ _ _ _ (by decide)
    | false => exact .prompted w id .inject idle session _

theorem conclude_faithful (s : AutopilotSettings) (w : World) (session : String) {t : Turn} (alive : t.ends = false) :
    Faithful [] w (conclude s w session t) := by
  cases t with
  | notOwned => exact .refl w
  | stopped => exact .line _ _ _ _ _ (by decide)
  | completed iteration => cases alive
  | capReached iteration maxIterations => cases alive
  | continued l ignored =>
    have noted : Faithful [] w (if ignored then remark w .state "completion_ignored" idle session else w) := by
      split
      · exact .line _ _ _ _ _ (by decide)
      · exact .refl w
    exact noted.trans (inject_faithful _ session l)

theorem conclude_faithful_of_ends (s : AutopilotSettings) {content : Content} (stands : w.loopContent? = some content)
    (session : String) {t : Turn} (ends : t.ends = true) : Faithful [] w (conclude s (w.put none) session t) := by
  have told {reason : String} (known : reason ∈ Remark.endings) :
      Faithful [] w (remark (w.put none) .state reason idle session) :=
    .ended w .state idle session stands known
  cases t with
  | completed iteration => exact (told (by decide)).trans (notify_faithful s _ session _ _ _)
  | capReached iteration maxIterations => exact (told (by decide)).trans (notify_faithful s _ session _ _ _)
  | notOwned => cases ends
  | stopped => cases ends
  | continued l ignored => cases ends

/-- A turn replaces the loop's file or takes it away, unless there is none, or no loop in it. -/
theorem turn_faithful (s : AutopilotSettings) (w : World) (session : String) (sig : Signal) :
    Faithful [] w (turn s w session sig).1 := by
  simp only [turn]
  generalize stepped : (fun l : Loop =>
    l.advance session sig s.maxIgnoredCompletionCycles (w.isStopped session)) = step
  cases found : w.files.fetch w.cell.path with
  | error e =>
    rw [LoopCell.update_of_unread step found]
    by_cases missing : e = .notFound
    · rw [if_pos missing]
      exact .refl w
    · rw [if_neg missing]
      exact .refl w
  | ok content =>
    have stands : w.loopContent? = some content := FileTree.content_of_fetch found
    cases held : w.cell.loopIn? content with
    | none =>
      rw [LoopCell.update_of_unheld step found held]
      exact .refl w
    | some l =>
      cases advanced : step l with
      | mk next t =>
        have ends : t.ends = next.isNone := by
          rw [← stepped] at advanced
          exact Loop.ends_of_advance advanced
        cases next with
        | none =>
          rw [LoopCell.update_of_ended step found held advanced]
          exact conclude_faithful_of_ends s stands session ends
        | some next =>
          rcases LoopCell.update_of_next step found held advanced with ⟨-, saved⟩ | ⟨-, fault, failed⟩
          · rw [saved]
            exact (Faithful.put_some w stands next).trans (conclude_faithful s _ session ends)
          · rw [failed]
            exact .refl w

theorem ask_of_audited {α : Type} (audited : w.Audited) (c : HostCall) (session : String) (field : Snapshot → α) :
    ∃ answer, w.ask c session field = (w, answer) :=
  ⟨_, ask_eq audited.handsOff audited.undisturbed c session field⟩

theorem signal_of_audited (audited : w.Audited) (session : String) (l : Loop) (messages : List Message) :
    ∃ sig, signal w session l messages = (w, sig) := by
  obtain ⟨answer, asked⟩ := ask_of_audited audited .todos session (·.todos)
  unfold signal hasOpenWork
  rw [asked]
  dsimp only
  split
  · cases answer with
    | ok todos => exact ⟨_, rfl⟩
    | error fault => exact ⟨_, rfl⟩
  · exact ⟨_, rfl⟩

theorem onIdle_faithful (s : AutopilotSettings) (w : World) (session : String) :
    Faithful [] w (onIdle s w session).1 := by
  have looked := ownedLoop_faithful w session idle
  unfold onIdle
  generalize ownedLoop w session idle = owned at looked ⊢
  obtain ⟨w', found⟩ := owned
  cases found with
  | none => exact looked
  | some l =>
    refine Faithful.trans looked (.of_audited fun audited => ?_)
    dsimp only
    split
    · exact .line _ _ _ _ _ (by decide)
    · obtain ⟨answer, asked⟩ := ask_of_audited audited .messages session (·.messages)
      rw [asked]
      cases answer with
      | error fault => exact .line _ _ _ _ _ (by decide)
      | ok messages =>
        obtain ⟨sig, heard⟩ := signal_of_audited audited session l messages
        simp only [heard]
        exact turn_faithful s w' session sig

theorem clearFor_faithful (w : World) (session event : String) {reason : String} (known : reason ∈ Remark.endings) :
    Faithful [] w (clearFor w session event reason).1 := by
  unfold clearFor
  cases found : w.files.fetch w.cell.path with
  | error e =>
    rw [LoopCell.clearSession_of_unread found]
    by_cases missing : e = .notFound
    · rw [if_pos missing]
      exact .refl w
    · rw [if_neg missing]
      exact .refl w
  | ok content =>
    have stands : w.loopContent? = some content := FileTree.content_of_fetch found
    rcases LoopCell.clearSession_of_fetch session found with ⟨-, cleared⟩ | ⟨-, kept⟩
    · rw [cleared]
      exact .ended w .state event session stands known
    · rw [kept]
      exact .refl w

theorem onStop_faithful (w : World) (isStop : Bool) (session event : String) :
    Faithful [] w (onStop w isStop session event).1 := by
  unfold onStop
  split
  · exact clearFor_faithful w session event (by decide)
  · exact .refl w

theorem handle_faithful (s : AutopilotSettings) (words : StopWords) (e : Event) (out : e.Output) (w : World) :
    Faithful [] w (handle s words e out w).state := by
  cases e with
  | lifecycle e =>
    simp only [handle, handled, onLifecycle]
    split
    · exact .refl w
    · split
      · exact onIdle_faithful s w _
      · split
        · exact clearFor_faithful w _ _ (by decide)
        · exact .refl w
  | toolBefore call => exact onStop_faithful w _ _ _
  | commandBefore command => exact onStop_faithful w _ _ _
  | toolAfter call => exact .refl w
  | chatMessage turn => exact .refl w
  | messagesTransform request => exact .refl w

end ContinuationPolicy

namespace PressurePolicy

variable (s : PressureSettings) (session : String) (sample : Sample)

theorem warningText_headed : ∃ rest, warningText s sample = "[PROCESS PRESSURE WARNING]\n" ++ rest := by
  unfold warningText
  simp only [String.append_assoc]
  exact ⟨_, rfl⟩

theorem criticalText_headed : ∃ rest, criticalText s sample = "[PROCESS PRESSURE CRITICAL]\n" ++ rest := by
  unfold criticalText
  simp only [String.append_assoc]
  exact ⟨_, rfl⟩

theorem escalationText_headed (events : Nat) :
    ∃ rest, escalationText s events = "[PROCESS PRESSURE ESCALATION]\n" ++ rest := by
  unfold escalationText
  simp only [String.append_assoc]
  exact ⟨_, rfl⟩

theorem pausedText_headed : ∃ rest, pausedText = "[AUTOPILOT PAUSED]\n" ++ rest := by
  have lead : "[AUTOPILOT PAUSED]\nContinuation is paused for this session because memory pressure stayed " =
      "[AUTOPILOT PAUSED]\n" ++ "Continuation is paused for this session because memory pressure stayed " := by
    decide
  unfold pausedText
  rw [lead, String.append_assoc]
  exact ⟨_, rfl⟩

theorem remind_faithful (level : PressureLevel) (due : Bool) (scene : Scene) :
    Reminds scene (remind s session sample level due scene) := by
  obtain ⟨out, w⟩ := scene
  unfold remind
  dsimp only
  split
  · exact .refl _
  · cases level with
    | normal => exact .refl _
    | warning =>
      have told := Faithful.reminded w id .inject "tool.execute.after" session "pressure_warning" (by decide)
        (by decide) (warningText_headed s sample)
      exact ⟨[warningText s sample], rfl, told⟩
    | critical =>
      have told := Faithful.reminded w id .inject "tool.execute.after" session "pressure_critical" (by decide)
        (by decide) (criticalText_headed s sample)
      exact ⟨[criticalText s sample], rfl, told⟩

theorem ownsLoop_faithful (w : World) : Faithful [] w (ownsLoop w session).1 := by
  unfold ownsLoop
  split
  · split
    · exact .refl w
    · exact .line _ _ _ _ _ (by decide)
  · exact .line _ _ _ _ _ (by decide)
  · exact .line _ _ _ _ _ (by decide)

theorem pause_faithful (scene : Scene) : Reminds scene (pause session sample scene) := by
  obtain ⟨out, w⟩ := scene
  have looked := ownsLoop_faithful session w
  unfold pause
  dsimp only
  generalize ownsLoop w session = owned at looked ⊢
  obtain ⟨w', mine⟩ := owned
  cases mine with
  | false => exact .of_faithful rfl looked
  | true =>
    dsimp only
    split
    · exact .of_faithful rfl looked
    · have latched : Faithful [] w (w'.stop session) := Faithful.trans looked (.hidden w' _ _ _ _ _)
      have told := latched.trans (.reminded _ id .state "tool.execute.after" session "auto_paused" (by decide)
        (by decide) pausedText_headed)
      exact ⟨[pausedText], rfl, told.trans (.notify _ session _ _ _)⟩

theorem escalate_faithful (events : Nat) (scene : Scene) : Reminds scene (escalate s session events scene) := by
  obtain ⟨out, w⟩ := scene
  have told := Faithful.reminded w id .state "tool.execute.after" session "pressure_escalated" (by decide)
    (by decide) (escalationText_headed s events)
  exact ⟨[escalationText s events], rfl, told.trans (.notify _ session _ _ _)⟩

theorem respond_faithful (scene : Scene) : Reminds scene (respond s session sample scene) := by
  obtain ⟨out, w⟩ := scene
  unfold respond
  dsimp only
  generalize reminded : remind s session sample _ _ _ = scene
  -- The counters change unseen, and then the reminder, the pause and the escalation follow in this order.
  have start : Reminds (out, w) scene := by
    rw [← reminded]
    refine Reminds.trans ?_ (remind_faithful s session sample _ _ _)
    exact .of_faithful rfl (.hidden w _ _ _ _ _)
  have paused : ∀ due : Bool, Reminds (out, w) (if due = true then pause session sample scene else scene) := by
    intro due
    split
    · exact start.trans (pause_faithful session sample scene)
    · exact start
  split
  · exact (paused _).trans (escalate_faithful s session _ _)
  · exact paused _

theorem onToolAfter_faithful (out : ToolResult) (w : World) : Reminds (out, w) (onToolAfter s session out w) := by
  unfold onToolAfter
  split
  · exact .refl _
  · dsimp only
    generalize noted : { w with pressure := _ } = counted
    have start : Faithful [] w counted := by
      rw [← noted]
      exact .hidden w _ _ _ _ _
    split
    · exact .of_faithful rfl start
    · have sampled : Faithful [] w counted.sample.1 := start.trans (.hidden counted _ _ _ _ _)
      split
      next failed =>
        rw [failed] at sampled
        exact .of_faithful rfl (sampled.trans (.line _ _ _ _ _ (by decide)))
      next sample taken =>
        rw [taken] at sampled
        refine Reminds.trans ?_ (respond_faithful s session sample (out, _))
        exact .of_faithful rfl sampled

theorem handle_faithful (e : Event) (out : e.Output) (w : World) (elsewhere : ∀ call, e ≠ .toolAfter call) :
    Faithful [] w (handle s e out w).state := by
  cases e with
  | toolAfter call => exact absurd rfl (elsewhere call)
  | lifecycle e =>
    simp only [handle, Handled.pass]
    split
    · split
      · exact .hidden w _ _ _ _ _
      · exact .refl w
    · exact .refl w
  | toolBefore call => exact .refl w
  | commandBefore command => exact .refl w
  | chatMessage turn => exact .refl w
  | messagesTransform request => exact .refl w

end PressurePolicy

namespace ContextPolicy

theorem reminderText_headed (m : ContextMemory) (s : ContextSettings) :
    ∃ rest, m.reminderText s = "[CONTEXT WINDOW]\n" ++ rest := by
  have lead : "[CONTEXT WINDOW]\nContext usage is at " = "[CONTEXT WINDOW]\n" ++ "Context usage is at " := by decide
  unfold ContextMemory.reminderText
  rw [lead]
  simp only [String.append_assoc]
  exact ⟨_, rfl⟩

theorem onToolAfter_faithful (s : ContextSettings) (session : String) (out : ToolResult) (w : World) :
    Reminds (out, w) (onToolAfter s session out w) := by
  unfold onToolAfter
  split
  · exact .refl _
  · dsimp only
    generalize ContextMemory.addOutput _ s out.output = observed
    generalize noted : { w with context := _ } = counted
    have start : Faithful [] w counted := by
      rw [← noted]
      exact .hidden w _ _ _ _ _
    split
    · have told := start.trans (.reminded counted id .inject "tool.execute.after" session "context_reminder"
        (by decide) (by decide) (reminderText_headed observed.1 s))
      exact ⟨[observed.1.reminderText s], rfl, told⟩
    · exact .of_faithful rfl start

theorem handle_faithful (s : ContextSettings) (e : Event) (out : e.Output) (w : World)
    (elsewhere : ∀ call, e ≠ .toolAfter call) : Faithful [] w (handle s e out w).state := by
  cases e with
  | toolAfter call => exact absurd rfl (elsewhere call)
  | lifecycle e => exact .hidden w _ _ _ _ _
  | toolBefore call => exact .refl w
  | commandBefore command => exact .refl w
  | chatMessage turn => exact .refl w
  | messagesTransform request => exact .refl w

end ContextPolicy

namespace CompactionPolicy

theorem compact_faithful (w : World) (session event : String) : Faithful [] w (compact w session event) := by
  refine .of_audited fun audited => ?_
  unfold compact
  rw [ContinuationPolicy.request_eq audited.handsOff audited.undisturbed]
  cases (w.disturbance .summarize).refuses with
  | true => exact (Faithful.hidden w _ _ _ _ _).trans (.line _ _ _ _ _ (by decide))
  | false => exact .summarized w id .inject event session

theorem observe_faithful (s : CompactionSettings) (w : World) (session event : String) (f : Usage → Usage) :
    Faithful [] w (observe s w session event f) := by
  unfold observe
  dsimp only
  generalize noted : { w with compaction := _ } = counted
  have start : Faithful [] w counted := by
    rw [← noted]
    exact .hidden w _ _ _ _ _
  split
  · exact start.trans (compact_faithful counted session event)
  · exact start

theorem onLifecycle_faithful (s : CompactionSettings) (w : World) (e : LifecycleEvent) :
    Faithful [] w (onLifecycle s w e) := by
  unfold onLifecycle
  split
  · exact observe_faithful s w _ _ _
  · split
    · exact .refl w
    · split
      · exact .hidden w _ _ _ _ _
      · split
        · exact .hidden w _ _ _ _ _
        · exact .refl w

theorem handle_faithful (s : CompactionSettings) (e : Event) (out : e.Output) (w : World) :
    Faithful [] w (handle s e out w).state := by
  cases e with
  | toolAfter call =>
    simp only [handle, Handled.pass]
    split
    · exact .refl w
    · exact observe_faithful s w _ _ _
  | lifecycle e => exact onLifecycle_faithful s w e
  | toolBefore call => exact .refl w
  | commandBefore command => exact .refl w
  | chatMessage turn => exact .refl w
  | messagesTransform request => exact .refl w

end CompactionPolicy

end AgentHooks
