import AgentHooks.Policy.Compaction
import AgentHooks.Policy.Context
import AgentHooks.Policy.Continuation
import AgentHooks.Policy.Pressure
import AgentHooks.Policy.Stop

/-! What waits to be handed over to the host is nothing that a hook looks at: whatever waited before, a hook does the
same and puts what it asks for behind it. -/

namespace AgentHooks

namespace World

variable {asked : List Action}

/-- The world in which some actions have been waiting for longer than all others. -/
def behind (asked : List Action) (w : World) : World :=
  { w with host := { w.host with effects := asked ++ w.host.effects } }

section

variable (w : World)

theorem behind_remark (r : Remark) : (w.behind asked).remark r = (w.remark r).behind asked := by
  simp only [remark, behind]

theorem behind_stop (session : String) : (w.behind asked).stop session = (w.stop session).behind asked :=
  rfl

theorem behind_clearStop (session : String) :
    (w.behind asked).clearStop session = (w.clearStop session).behind asked :=
  rfl

theorem behind_isStopped (session : String) : (w.behind asked).isStopped session = w.isStopped session :=
  rfl

theorem behind_cell : (w.behind asked).cell = w.cell :=
  rfl

theorem behind_files : (w.behind asked).files = w.files :=
  rfl

theorem behind_with_files (files : FileTree) : { w.behind asked with files } = { w with files }.behind asked :=
  rfl

theorem behind_with_pressure (pressure : Roster PressureCounters) :
    { w.behind asked with pressure } = { w with pressure }.behind asked :=
  rfl

theorem behind_with_context (context : Roster ContextMemory) :
    { w.behind asked with context } = { w with context }.behind asked :=
  rfl

theorem behind_with_compaction (compaction : Roster CompactionMemory) :
    { w.behind asked with compaction } = { w with compaction }.behind asked :=
  rfl

theorem behind_push (a : Action) :
    { w.behind asked with host := (w.behind asked).host.push a } = { w with host := w.host.push a }.behind asked := by
  simp only [behind, Host.push, List.append_assoc]

theorem behind_sample : (w.behind asked).sample = (w.sample.1.behind asked, w.sample.2) :=
  rfl

theorem behind_replaceLoop (node : Option Node) :
    (w.behind asked).replaceLoop node = (w.replaceLoop node).behind asked := by
  simp only [replaceLoop, behind]

theorem behind_call (c : HostCall) : (w.behind asked).call c = ((w.call c).1.behind asked, (w.call c).2) := by
  have same : (w.behind asked).disturbance = w.disturbance := rfl
  simp only [call, disturb, same]
  cases (w.disturbance c).stops with
  | none =>
    cases (w.disturbance c).replaces with
    | none => rfl
    | some node => simp only [behind_replaceLoop]
  | some session =>
    cases (w.disturbance c).replaces with
    | none => simp only [behind_stop]
    | some node => simp only [behind_stop, behind_replaceLoop]

theorem behind_ask {α : Type} (c : HostCall) (session : String) (field : Snapshot → α) :
    (w.behind asked).ask c session field =
      ((w.ask c session field).1.behind asked, (w.ask c session field).2) := by
  rw [ask, ask, behind_call]
  obtain ⟨w', refused⟩ := w.call c
  cases refused <;> rfl

theorem behind_request (c : HostCall) (a : Action) :
    (w.behind asked).request c a = ((w.request c a).1.behind asked, (w.request c a).2) := by
  rw [request, request, behind_call]
  obtain ⟨w', refused⟩ := w.call c
  cases refused with
  | none => exact congrArg (·, none) (behind_push w' a)
  | some fault => rfl

theorem behind_notify (session title message : String) (level : NoticeLevel) :
    (w.behind asked).notify session title message level = (w.notify session title message level).behind asked := by
  rw [notify, notify, behind_request]

end

end World

def Handled.behind {e : Event} (asked : List Action) (handled : Handled World e) : Handled World e :=
  { handled with state := handled.state.behind asked }

open World

variable {asked : List Action}

namespace StopPolicy

theorem latch_behind (w : World) (session event : String) :
    latch (w.behind asked) session event = (latch w session event).behind asked := by
  unfold latch
  split
  · rfl
  · rw [behind_stop, behind_remark]

theorem release_behind (w : World) (session event : String) :
    release (w.behind asked) session event = (release w session event).behind asked := by
  unfold release
  rw [behind_isStopped]
  split
  · rw [behind_clearStop, behind_remark]
  · rfl

theorem handle_behind (words : StopWords) (e : Event) (out : e.Output) (w : World) :
    handle words e out (w.behind asked) = (handle words e out w).behind asked := by
  cases e with
  | toolBefore call =>
    simp only [handle, Handled.pass, Handled.behind, latch_behind]
    split <;> rfl
  | commandBefore command =>
    simp only [handle, Handled.pass, Handled.behind, latch_behind]
    split <;> rfl
  | chatMessage turn =>
    simp only [handle, Handled.pass, Handled.behind, release_behind]
    split <;> rfl
  | lifecycle e =>
    simp only [handle, Handled.pass, Handled.behind, release_behind]
    split
    · split <;> rfl
    · rfl
  | toolAfter call => rfl
  | messagesTransform request => rfl

end StopPolicy

namespace ContextPolicy

theorem onToolAfter_behind (s : ContextSettings) (session : String) (out : ToolResult) (w : World) :
    onToolAfter s session out (w.behind asked) =
      ((onToolAfter s session out w).1, (onToolAfter s session out w).2.behind asked) := by
  have same : (w.behind asked).context = w.context := rfl
  simp only [onToolAfter, same, behind_with_context, behind_remark]
  split
  · rfl
  · split <;> rfl

theorem handle_behind (s : ContextSettings) (e : Event) (out : e.Output) (w : World) :
    handle s e out (w.behind asked) = (handle s e out w).behind asked := by
  cases e with
  | toolAfter call =>
    simp only [handle, Handled.pass, Handled.behind, onToolAfter_behind]
  | lifecycle e => rfl
  | toolBefore call => rfl
  | commandBefore command => rfl
  | chatMessage turn => rfl
  | messagesTransform request => rfl

end ContextPolicy

namespace CompactionPolicy

theorem compact_behind (w : World) (session event : String) :
    compact (w.behind asked) session event = (compact w session event).behind asked := by
  rw [compact, compact, behind_request]
  obtain ⟨w', refused⟩ := w.request .summarize (.summarize session)
  have same : (w'.behind asked).compaction = w'.compaction := rfl
  cases refused with
  | none => simp only [behind_remark]
  | some fault => simp only [same, behind_with_compaction, behind_remark]

theorem observe_behind (s : CompactionSettings) (w : World) (session event : String) (f : Usage → Usage) :
    observe s (w.behind asked) session event f = (observe s w session event f).behind asked := by
  have same : (w.behind asked).compaction = w.compaction := rfl
  simp only [observe, same, behind_with_compaction, compact_behind]
  split <;> rfl

theorem onLifecycle_behind (s : CompactionSettings) (w : World) (e : LifecycleEvent) :
    onLifecycle s (w.behind asked) e = (onLifecycle s w e).behind asked := by
  have same : (w.behind asked).compaction = w.compaction := rfl
  simp only [onLifecycle, observe_behind, same, behind_with_compaction]
  split
  · rfl
  · split
    · rfl
    · split
      · rfl
      · split <;> rfl

theorem handle_behind (s : CompactionSettings) (e : Event) (out : e.Output) (w : World) :
    handle s e out (w.behind asked) = (handle s e out w).behind asked := by
  cases e with
  | toolAfter call =>
    simp only [handle, Handled.pass, Handled.behind, observe_behind]
    split <;> rfl
  | lifecycle e => simp only [handle, Handled.pass, Handled.behind, onLifecycle_behind]
  | toolBefore call => rfl
  | commandBefore command => rfl
  | chatMessage turn => rfl
  | messagesTransform request => rfl

end CompactionPolicy

namespace PressurePolicy

theorem remark_behind (w : World) (stage : Stage) (reason session : String) :
    remark (w.behind asked) stage reason session = (remark w stage reason session).behind asked :=
  behind_remark w _

theorem ownsLoop_behind (w : World) (session : String) :
    ownsLoop (w.behind asked) session = ((ownsLoop w session).1.behind asked, (ownsLoop w session).2) := by
  simp only [ownsLoop, behind_cell, behind_files, remark_behind]
  split
  · split <;> rfl
  · rfl
  · rfl

def behindScene (asked : List Action) (scene : Scene) : Scene :=
  (scene.1, scene.2.behind asked)

theorem remind_behind (s : PressureSettings) (session : String) (sample : Sample) (level : PressureLevel) (due : Bool)
    (scene : Scene) :
    remind s session sample level due (behindScene asked scene) =
      behindScene asked (remind s session sample level due scene) := by
  simp only [remind, behindScene, remark_behind]
  cases due with
  | false => rfl
  | true => cases level <;> rfl

theorem pause_behind (session : String) (sample : Sample) (scene : Scene) :
    pause session sample (behindScene asked scene) = behindScene asked (pause session sample scene) := by
  simp only [pause, behindScene, ownsLoop_behind]
  obtain ⟨w', owns⟩ := ownsLoop scene.2 session
  cases owns with
  | false => rfl
  | true =>
    simp only [behind_isStopped, behind_stop, remark_behind, behind_notify]
    split <;> rfl

theorem escalate_behind (s : PressureSettings) (session : String) (events : Nat) (scene : Scene) :
    escalate s session events (behindScene asked scene) = behindScene asked (escalate s session events scene) := by
  simp only [escalate, behindScene, remark_behind, behind_notify]

theorem respond_behind (s : PressureSettings) (session : String) (sample : Sample) (scene : Scene) :
    respond s session sample (behindScene asked scene) = behindScene asked (respond s session sample scene) := by
  obtain ⟨out, w⟩ := scene
  have same : (w.behind asked).pressure = w.pressure := rfl
  have scene : ∀ pressure : Roster PressureCounters,
      (out, { w.behind asked with pressure }) = behindScene asked (out, { w with pressure }) := fun _ => rfl
  simp only [respond, behindScene, same]
  rw [scene, remind_behind]
  split
  · split
    · rw [pause_behind]
      exact escalate_behind s session _ _
    · exact escalate_behind s session _ _
  · split
    · exact pause_behind session sample _
    · rfl

theorem onToolAfter_behind (s : PressureSettings) (session : String) (out : ToolResult) (w : World) :
    onToolAfter s session out (w.behind asked) =
      ((onToolAfter s session out w).1, (onToolAfter s session out w).2.behind asked) := by
  have same : (w.behind asked).pressure = w.pressure := rfl
  simp only [onToolAfter, same, behind_with_pressure, behind_sample]
  split
  · rfl
  · split
    · rfl
    · generalize World.sample _ = sampled
      obtain ⟨w', result⟩ := sampled
      cases result with
      | error fault => simp only [remark_behind]
      | ok sample => exact respond_behind s session sample (out, w')

theorem handle_behind (s : PressureSettings) (e : Event) (out : e.Output) (w : World) :
    handle s e out (w.behind asked) = (handle s e out w).behind asked := by
  cases e with
  | toolAfter call => simp only [handle, Handled.pass, Handled.behind, onToolAfter_behind]
  | lifecycle e =>
    simp only [handle, Handled.pass, Handled.behind]
    split
    · split <;> rfl
    · rfl
  | toolBefore call => rfl
  | commandBefore command => rfl
  | chatMessage turn => rfl
  | messagesTransform request => rfl

end PressurePolicy

namespace ContinuationPolicy

theorem remark_behind (w : World) (stage : Stage) (reason event session : String) :
    remark (w.behind asked) stage reason event session = (remark w stage reason event session).behind asked :=
  behind_remark w _

theorem notify_behind (s : AutopilotSettings) (w : World) (session title message : String) (level : NoticeLevel) :
    notify s (w.behind asked) session title message level = (notify s w session title message level).behind asked := by
  unfold notify
  rw [behind_notify]
  split <;> rfl

theorem ownedLoop_behind (w : World) (session event : String) :
    ownedLoop (w.behind asked) session event =
      ((ownedLoop w session event).1.behind asked, (ownedLoop w session event).2) := by
  simp only [ownedLoop, behind_cell, behind_files, remark_behind]
  split <;> rfl

theorem clearFor_behind (w : World) (session event reason : String) :
    clearFor (w.behind asked) session event reason =
      ((clearFor w session event reason).1.behind asked, (clearFor w session event reason).2) := by
  simp only [clearFor, behind_cell, behind_files, behind_with_files, remark_behind]
  obtain ⟨result, files⟩ := w.cell.clearSession session w.files
  cases result with
  | error fault => rfl
  | ok gone => cases gone <;> rfl

theorem hasOpenWork_behind (w : World) (session : String) :
    hasOpenWork (w.behind asked) session = ((hasOpenWork w session).1.behind asked, (hasOpenWork w session).2) := by
  simp only [hasOpenWork, behind_ask]
  obtain ⟨w', todos⟩ := w.ask .todos session (·.todos)
  cases todos <;> rfl

theorem signal_behind (w : World) (session : String) (l : Loop) (messages : List Message) :
    signal (w.behind asked) session l messages =
      ((signal w session l messages).1.behind asked, (signal w session l messages).2) := by
  simp only [signal, hasOpenWork_behind]
  split <;> rfl

theorem inject_behind (w : World) (session : String) (l : Loop) :
    inject (w.behind asked) session l = (inject w session l).behind asked := by
  simp only [inject, behind_isStopped, behind_request, remark_behind]
  split
  · rfl
  · obtain ⟨w', refused⟩ := w.request .prompt (.sendPrompt session l.continuationPrompt)
    cases refused with
    | none => exact remark_behind w' .inject "continuation_sent" idle session
    | some fault => exact remark_behind w' .skip "prompt_failed" idle session

theorem conclude_behind (s : AutopilotSettings) (w : World) (session : String) (t : Turn) :
    conclude s (w.behind asked) session t = (conclude s w session t).behind asked := by
  cases t with
  | notOwned => rfl
  | stopped => simp only [conclude, remark_behind]
  | completed iteration => simp only [conclude, remark_behind, notify_behind]
  | capReached iteration maxIterations => simp only [conclude, remark_behind, notify_behind]
  | continued l ignored =>
    simp only [conclude, remark_behind]
    split <;> exact inject_behind _ session l

theorem turn_behind (s : AutopilotSettings) (w : World) (session : String) (signal : Signal) :
    turn s (w.behind asked) session signal =
      ((turn s w session signal).1.behind asked, (turn s w session signal).2) := by
  simp only [turn, behind_cell, behind_files, behind_isStopped, behind_with_files, conclude_behind]
  split <;> rfl

theorem onIdle_behind (s : AutopilotSettings) (w : World) (session : String) :
    onIdle s (w.behind asked) session = ((onIdle s w session).1.behind asked, (onIdle s w session).2) := by
  simp only [onIdle, ownedLoop_behind]
  obtain ⟨w', owned⟩ := ownedLoop w session idle
  cases owned with
  | none => rfl
  | some l =>
    simp only [behind_isStopped, remark_behind, behind_ask]
    split
    · rfl
    · obtain ⟨w'', told⟩ := w'.ask .messages session (·.messages)
      cases told with
      | error fault => simp only [remark_behind]
      | ok messages => simp only [signal_behind, turn_behind]

theorem onStop_behind (w : World) (isStop : Bool) (session event : String) :
    onStop (w.behind asked) isStop session event =
      ((onStop w isStop session event).1.behind asked, (onStop w isStop session event).2) := by
  simp only [onStop, clearFor_behind]
  split <;> rfl

theorem onLifecycle_behind (s : AutopilotSettings) (w : World) (e : LifecycleEvent) :
    onLifecycle s (w.behind asked) e = ((onLifecycle s w e).1.behind asked, (onLifecycle s w e).2) := by
  simp only [onLifecycle, onIdle_behind, clearFor_behind]
  split
  · rfl
  · split
    · rfl
    · split <;> rfl

theorem handle_behind (s : AutopilotSettings) (words : StopWords) (e : Event) (out : e.Output) (w : World) :
    handle s words e out (w.behind asked) = (handle s words e out w).behind asked := by
  cases e with
  | toolBefore call => simp only [handle, handled, Handled.behind, onStop_behind]
  | commandBefore command => simp only [handle, handled, Handled.behind, onStop_behind]
  | lifecycle e => simp only [handle, handled, Handled.behind, onLifecycle_behind]
  | toolAfter call => rfl
  | chatMessage turn => rfl
  | messagesTransform request => rfl

end ContinuationPolicy

end AgentHooks
