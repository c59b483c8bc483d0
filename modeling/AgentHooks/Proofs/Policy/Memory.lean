import AgentHooks.Policy.Compaction
import AgentHooks.Policy.Context
import AgentHooks.Policy.Continuation
import AgentHooks.Policy.Pressure
import AgentHooks.Policy.Stop
import AgentHooks.Proofs.Session.Roster

/-! What is remembered about sessions. The stop hook and the loop's own hook remember nothing there, each monitor
keeps a roster of its own, and all of them keep the rosters in order, within their limits, and free of context windows
of no size. -/

namespace AgentHooks

/-! Windows that the host tells. -/

/-- A report is about the event's session, and a report of an empty window is a report of none. -/
theorem UsageReport.ofEvent?_eq_some {e : LifecycleEvent} {r : UsageReport} (heard : ofEvent? e = some r) :
    e.session? = some r.session ∧ ∀ l ∈ r.limit, 1 ≤ l := by
  unfold ofEvent? at heard
  obtain ⟨-, -, heard⟩ := Option.bind_eq_some_iff.1 heard
  obtain ⟨info, -, heard⟩ := Option.bind_eq_some_iff.1 heard
  obtain ⟨-, -, heard⟩ := Option.bind_eq_some_iff.1 heard
  obtain ⟨tokens, -, heard⟩ := Option.bind_eq_some_iff.1 heard
  obtain ⟨-, -, heard⟩ := Option.bind_eq_some_iff.1 heard
  obtain ⟨session, named, heard⟩ := Option.bind_eq_some_iff.1 heard
  obtain rfl := Option.some.inj heard
  exact ⟨named, fun l told => of_decide_eq_true (Option.filter_eq_some_iff.1 told).2⟩

namespace Usage

variable {u : Usage}

def Roomy (u : Usage) : Prop :=
  ∀ l ∈ u.limit, 1 ≤ l

theorem none_roomy : Usage.none.Roomy :=
  fun _ told => nomatch told

theorem Roomy.addOutput (roomy : u.Roomy) (text : String) : (u.addOutput text).Roomy :=
  roomy

theorem Roomy.addReport (roomy : u.Roomy) {e : LifecycleEvent} {r : UsageReport}
    (heard : UsageReport.ofEvent? e = some r) : (u.addReport r).Roomy := by
  intro l told
  rcases Option.or_eq_some_iff.1 told with new | ⟨-, known⟩
  · exact (UsageReport.ofEvent?_eq_some heard).2 l new
  · exact roomy l known

theorem Roomy.reset (roomy : u.Roomy) : u.reset.Roomy :=
  roomy

theorem Roomy.one_le_window (roomy : u.Roomy) {default : Nat} (positive : 1 ≤ default) : 1 ≤ u.window default := by
  unfold window
  cases known : u.limit with
  | none => exact positive
  | some l => exact roomy l known

theorem ratio_of_window {default : Nat} (positive : 1 ≤ u.window default) :
    u.ratio default = .ofNat u.used / .ofNat (u.window default) :=
  if_neg (Nat.one_le_iff_ne_zero.1 positive)

end Usage

namespace World

def rosters (w : World) : Roster PressureCounters × Roster ContextMemory × Roster CompactionMemory :=
  (w.pressure, w.context, w.compaction)

structure Tidy (w : World) : Prop where
  pressure : w.pressure.Tidy
  context : w.context.Tidy
  compaction : w.compaction.Tidy

structure Sound (settings : Settings) (w : World) : Prop where
  pressure : w.pressure.Sound settings.pressure.maxSessionStateEntries fun _ => True
  context : w.context.Sound settings.context.maxSessionStateEntries fun m => m.usage.Roomy
  compaction : w.compaction.Sound settings.compaction.maxSessionStateEntries fun m => m.usage.Roomy

variable {settings : Settings} {w w' : World}

theorem start_sound (settings : Settings) (project : Path) (files : FileTree) (now : Timestamp)
    (sampler : Sampler) : (start settings project files now sampler).Sound settings :=
  ⟨Roster.empty_sound _ _, Roster.empty_sound _ _, Roster.empty_sound _ _⟩

theorem Sound.tidy (sound : w.Sound settings) : w.Tidy :=
  ⟨sound.pressure.toTidy, sound.context.toTidy, sound.compaction.toTidy⟩

theorem Sound.of_rosters (sound : w.Sound settings) (same : w'.rosters = w.rosters) : w'.Sound settings := by
  simp only [rosters, Prod.mk.injEq] at same
  obtain ⟨pressure, context, compaction⟩ := same
  exact ⟨pressure ▸ sound.pressure, context ▸ sound.context, compaction ▸ sound.compaction⟩

theorem call_rosters (w : World) (c : HostCall) : (w.call c).1.rosters = w.rosters := by
  simp only [call, disturb]
  split <;> split <;> rfl

theorem ask_rosters {α : Type} (w : World) (c : HostCall) (session : String) (field : Snapshot → α) :
    (w.ask c session field).1.rosters = w.rosters := by
  have called := call_rosters w c
  unfold ask
  split
  next refused => rwa [refused] at called
  next answered => rwa [answered] at called

theorem request_rosters (w : World) (c : HostCall) (a : Action) : (w.request c a).1.rosters = w.rosters := by
  have called := call_rosters w c
  unfold request
  split
  next refused => rwa [refused] at called
  next taken =>
    rw [taken] at called
    exact called

theorem request_refused (w : World) (c : HostCall) (a : Action) :
    (w.request c a).2.isSome = (w.disturbance c).refuses := by
  have refused : (w.call c).2 = if (w.disturbance c).refuses then some (.host (c.name ++ " unavailable")) else none :=
    rfl
  unfold request
  generalize w.call c = answer at refused ⊢
  obtain ⟨v, refusal⟩ := answer
  dsimp only at refused
  rw [refused]
  cases (w.disturbance c).refuses <;> rfl

theorem notify_rosters (w : World) (session title message : String) (level : NoticeLevel) :
    (w.notify session title message level).rosters = w.rosters :=
  request_rosters w _ _

end World

open World

variable {settings : Settings} {w : World}

namespace StopPolicy

theorem latch_rosters (w : World) (session event : String) : (latch w session event).rosters = w.rosters := by
  unfold latch
  split <;> rfl

theorem release_rosters (w : World) (session event : String) : (release w session event).rosters = w.rosters := by
  unfold release
  split <;> rfl

theorem handle_rosters (words : StopWords) (e : Event) (out : e.Output) (w : World) :
    (handle words e out w).state.rosters = w.rosters := by
  cases e with
  | toolBefore call =>
    simp only [handle, Handled.pass]
    split
    · exact latch_rosters _ _ _
    · rfl
  | commandBefore command =>
    simp only [handle, Handled.pass]
    split
    · exact latch_rosters _ _ _
    · rfl
  | chatMessage turn =>
    simp only [handle, Handled.pass]
    split
    · rfl
    · exact release_rosters _ _ _
  | lifecycle e =>
    simp only [handle, Handled.pass]
    split
    · split
      · exact release_rosters _ _ _
      · rfl
    · rfl
  | toolAfter call => rfl
  | messagesTransform request => rfl

end StopPolicy

namespace ContinuationPolicy

theorem ownedLoop_rosters (w : World) (session event : String) :
    (ownedLoop w session event).1.rosters = w.rosters := by
  unfold ownedLoop
  split <;> rfl

theorem clearFor_rosters (w : World) (session event reason : String) :
    (clearFor w session event reason).1.rosters = w.rosters := by
  unfold clearFor
  split <;> rfl

theorem signal_rosters (w : World) (session : String) (l : Loop) (messages : List Message) :
    (signal w session l messages).1.rosters = w.rosters := by
  have asked := ask_rosters w .todos session (·.todos)
  unfold signal
  dsimp only
  split
  · unfold hasOpenWork
    generalize w.ask .todos session (·.todos) = answer at asked ⊢
    obtain ⟨w', result⟩ := answer
    cases result <;> exact asked
  · rfl

theorem inject_rosters (w : World) (session : String) (l : Loop) : (inject w session l).rosters = w.rosters := by
  have requested := request_rosters w .prompt (.sendPrompt session l.continuationPrompt)
  unfold inject
  split
  · rfl
  · generalize w.request .prompt (.sendPrompt session l.continuationPrompt) = answer at requested ⊢
    obtain ⟨w', result⟩ := answer
    cases result <;> exact requested

theorem notify_rosters (s : AutopilotSettings) (w : World) (session title message : String) (level : NoticeLevel) :
    (notify s w session title message level).rosters = w.rosters := by
  unfold notify
  split
  · exact World.notify_rosters _ _ _ _ _
  · rfl

theorem conclude_rosters (s : AutopilotSettings) (w : World) (session : String) (t : Turn) :
    (conclude s w session t).rosters = w.rosters := by
  cases t with
  | notOwned => rfl
  | stopped => rfl
  | completed iteration => exact notify_rosters _ _ _ _ _ _
  | capReached iteration maxIterations => exact notify_rosters _ _ _ _ _ _
  | continued l ignored =>
    simp only [conclude]
    split
    · exact inject_rosters _ _ _
    · exact inject_rosters _ _ _

theorem turn_rosters (s : AutopilotSettings) (w : World) (session : String) (signal : Signal) :
    (turn s w session signal).1.rosters = w.rosters := by
  unfold turn
  dsimp only
  split
  · rfl
  · rfl
  · exact conclude_rosters _ _ _ _

theorem onIdle_rosters (s : AutopilotSettings) (w : World) (session : String) :
    (onIdle s w session).1.rosters = w.rosters := by
  have owned := ownedLoop_rosters w session idle
  unfold onIdle
  split
  next found => rwa [found] at owned
  next v l found =>
    rw [found] at owned
    split
    · exact owned
    · have asked := ask_rosters v .messages session (·.messages)
      split
      next refused =>
        rw [refused] at asked
        exact asked.trans owned
      next answered =>
        rw [answered] at asked
        exact (turn_rosters _ _ _ _).trans ((signal_rosters _ _ _ _).trans (asked.trans owned))

theorem onLifecycle_rosters (s : AutopilotSettings) (w : World) (e : LifecycleEvent) :
    (onLifecycle s w e).1.rosters = w.rosters := by
  unfold onLifecycle
  split
  · rfl
  · split
    · exact onIdle_rosters _ _ _
    · split
      · exact clearFor_rosters _ _ _ _
      · rfl

theorem onStop_rosters (w : World) (isStop : Bool) (session event : String) :
    (onStop w isStop session event).1.rosters = w.rosters := by
  unfold onStop
  split
  · exact clearFor_rosters _ _ _ _
  · rfl

theorem handle_rosters (s : AutopilotSettings) (words : StopWords) (e : Event) (out : e.Output) (w : World) :
    (handle s words e out w).state.rosters = w.rosters := by
  cases e with
  | lifecycle e => exact onLifecycle_rosters s w e
  | toolBefore call => exact onStop_rosters _ _ _ _
  | commandBefore command => exact onStop_rosters _ _ _ _
  | toolAfter call => rfl
  | chatMessage turn => rfl
  | messagesTransform request => rfl

end ContinuationPolicy

namespace PressurePolicy

theorem remind_rosters (s : PressureSettings) (session : String) (sample : Sample) (level : PressureLevel)
    (due : Bool) (scene : Scene) : (remind s session sample level due scene).2.rosters = scene.2.rosters := by
  obtain ⟨out, w⟩ := scene
  unfold remind
  dsimp only
  split
  · rfl
  · cases level <;> rfl

theorem ownsLoop_rosters (w : World) (session : String) : (ownsLoop w session).1.rosters = w.rosters := by
  unfold ownsLoop
  split
  · split <;> rfl
  · rfl
  · rfl

theorem pause_rosters (session : String) (sample : Sample) (scene : Scene) :
    (pause session sample scene).2.rosters = scene.2.rosters := by
  obtain ⟨out, w⟩ := scene
  have owned := ownsLoop_rosters w session
  unfold pause
  dsimp only
  split
  next found => rwa [found] at owned
  next found =>
    rw [found] at owned
    split
    · exact owned
    · exact (World.notify_rosters _ _ _ _ _).trans owned

theorem escalate_rosters (s : PressureSettings) (session : String) (events : Nat) (scene : Scene) :
    (escalate s session events scene).2.rosters = scene.2.rosters :=
  World.notify_rosters _ _ _ _ _

theorem respond_rosters (s : PressureSettings) (session : String) (sample : Sample) (out : ToolResult) (w : World) :
    (respond s session sample (out, w)).2.rosters =
      (w.pressure.modify session fun _ =>
        (((w.pressure.get? session).getD .start).observe (.classify sample s) s).1, w.context, w.compaction) := by
  unfold respond
  dsimp only
  generalize PressureCounters.observe _ _ s = observed
  obtain ⟨counters, response⟩ := observed
  have reminded := remind_rosters s session sample (PressureLevel.classify sample s) response.remind
    (out, { w with pressure := w.pressure.modify session fun _ => counters })
  generalize remind s session sample _ _ _ = scene at reminded ⊢
  have paused := (pause_rosters session sample scene).trans reminded
  dsimp only
  split
  · split
    · exact (escalate_rosters _ _ _ _).trans paused
    · exact (escalate_rosters _ _ _ _).trans reminded
  · split
    · exact paused
    · exact reminded

/-- At a tool call the monitor has to do with its own roster, and there with the session of the call; another one may
have to make room for it. -/
theorem onToolAfter_leaves (s : PressureSettings) (session : String) (out : ToolResult) (w : World) :
    let after := (onToolAfter s session out w).2
    after.context = w.context ∧ after.compaction = w.compaction ∧
      ∀ other, other ≠ session →
        after.pressure.get? other = w.pressure.get? other ∨ after.pressure.get? other = none := by
  unfold onToolAfter
  split
  · exact ⟨rfl, rfl, fun _ _ => .inl rfl⟩
  · dsimp only
    generalize PressureCounters.tick _ _ = ticked
    obtain ⟨counters, due⟩ := ticked
    have counted : ∀ other, other ≠ session →
        let roster := (w.pressure.enroll session .start).modify session fun _ => counters
        roster.get? other = w.pressure.get? other ∨ roster.get? other = none :=
      fun other apart => Roster.get?_enter_other apart _ _ _
    generalize Roster.modify _ session _ = roster at counted ⊢
    dsimp only at counted ⊢
    split
    · exact ⟨rfl, rfl, counted⟩
    · split
      next v fault failed =>
        obtain rfl : { w with pressure := roster, sampler := w.sampler.sample.2 } = v := congrArg Prod.fst failed
        exact ⟨rfl, rfl, counted⟩
      next v sample taken =>
        obtain rfl : { w with pressure := roster, sampler := w.sampler.sample.2 } = v := congrArg Prod.fst taken
        have responded := respond_rosters s session sample out { w with pressure := roster, sampler := w.sampler.sample.2 }
        refine ⟨congrArg (·.2.1) responded, congrArg (·.2.2) responded, fun other apart => ?_⟩
        have answered := congrArg (fun rosters => rosters.1.get? other) responded
        rw [Roster.get?_modify_other apart] at answered
        exact (counted other apart).imp answered.trans answered.trans

theorem handle_leaves (s : PressureSettings) (e : Event) (out : e.Output) (w : World) :
    (handle s e out w).state.context = w.context ∧ (handle s e out w).state.compaction = w.compaction := by
  cases e with
  | toolAfter call =>
    obtain ⟨context, compaction, -⟩ := onToolAfter_leaves s call.session out w
    exact ⟨context, compaction⟩
  | lifecycle e =>
    simp only [handle, Handled.pass]
    split
    · split <;> exact ⟨rfl, rfl⟩
    · exact ⟨rfl, rfl⟩
  | toolBefore call => exact ⟨rfl, rfl⟩
  | commandBefore command => exact ⟨rfl, rfl⟩
  | chatMessage turn => exact ⟨rfl, rfl⟩
  | messagesTransform request => exact ⟨rfl, rfl⟩

theorem respond_sound (sound : w.Sound settings) (s : PressureSettings) (session : String) (sample : Sample)
    (out : ToolResult) : (respond s session sample (out, w)).2.Sound settings := by
  let counters := (((w.pressure.get? session).getD .start).observe (.classify sample s) s).1
  have observed : { w with pressure := w.pressure.modify session fun _ => counters }.Sound settings :=
    ⟨sound.pressure.modify session (fun _ => counters) fun _ _ => trivial, sound.context, sound.compaction⟩
  exact observed.of_rosters (respond_rosters s session sample out w)

theorem onToolAfter_sound (sound : w.Sound settings) (s : PressureSettings) (session : String) (out : ToolResult) :
    (onToolAfter s session out w).2.Sound settings := by
  unfold onToolAfter
  split
  · exact sound
  · dsimp only
    generalize PressureCounters.tick _ _ = ticked
    obtain ⟨counters, due⟩ := ticked
    have enrolled := sound.pressure.enroll session .start trivial
    have counted := enrolled.modify session (fun _ => counters) fun _ _ => trivial
    generalize Roster.modify _ session _ = roster at counted ⊢
    have sound' : { w with pressure := roster }.Sound settings := ⟨counted, sound.context, sound.compaction⟩
    dsimp only
    split
    · exact sound'
    · have sampled : ({ w with pressure := roster }.sample).1.Sound settings := sound'.of_rosters rfl
      split
      next failed =>
        rw [failed] at sampled
        exact sampled.of_rosters rfl
      next taken =>
        rw [taken] at sampled
        exact respond_sound sampled _ _ _ _

theorem handle_sound (sound : w.Sound settings) (s : PressureSettings) (e : Event) (out : e.Output) :
    (handle s e out w).state.Sound settings := by
  cases e with
  | toolAfter call => exact onToolAfter_sound sound s call.session out
  | lifecycle e =>
    simp only [handle, Handled.pass]
    split
    · split
      · exact ⟨sound.pressure.remove _, sound.context, sound.compaction⟩
      · exact sound
    · exact sound
  | toolBefore call => exact sound
  | commandBefore command => exact sound
  | chatMessage turn => exact sound
  | messagesTransform request => exact sound

end PressurePolicy

namespace ContextPolicy

theorem start_roomy : ContextMemory.start.usage.Roomy :=
  Usage.none_roomy

theorem handle_leaves (s : ContextSettings) (e : Event) (out : e.Output) (w : World) :
    (handle s e out w).state.pressure = w.pressure ∧ (handle s e out w).state.compaction = w.compaction := by
  cases e with
  | toolAfter call =>
    change (onToolAfter s call.session out w).2.pressure = _ ∧ (onToolAfter s call.session out w).2.compaction = _
    unfold onToolAfter
    split
    · exact ⟨rfl, rfl⟩
    · dsimp only
      split <;> exact ⟨rfl, rfl⟩
  | lifecycle e => exact ⟨rfl, rfl⟩
  | toolBefore call => exact ⟨rfl, rfl⟩
  | commandBefore command => exact ⟨rfl, rfl⟩
  | chatMessage turn => exact ⟨rfl, rfl⟩
  | messagesTransform request => exact ⟨rfl, rfl⟩

theorem onLifecycle_sound {limit : Nat} {r : Roster ContextMemory}
    (sound : r.Sound limit fun m => m.usage.Roomy) (e : LifecycleEvent) :
    (onLifecycle r e).Sound limit fun m => m.usage.Roomy := by
  unfold onLifecycle
  split
  next report heard =>
    have enrolled := sound.enroll report.session .start start_roomy
    exact enrolled.modify _ _ fun _ roomy => roomy.addReport heard
  · split
    · exact sound
    · split
      · exact sound.modify _ _ fun _ roomy => roomy.reset
      · split
        · exact sound.remove _
        · exact sound

theorem addOutput_roomy {m : ContextMemory} (roomy : m.usage.Roomy) (s : ContextSettings) (text : String) :
    (m.addOutput s text).1.usage.Roomy := by
  unfold ContextMemory.addOutput
  dsimp only
  split
  · exact roomy.addOutput text
  · exact roomy.addOutput text

theorem handle_sound (sound : w.Sound settings) (s : ContextSettings) (e : Event) (out : e.Output) :
    (handle s e out w).state.Sound settings := by
  cases e with
  | toolAfter call =>
    change (onToolAfter s call.session out w).2.Sound settings
    unfold onToolAfter
    split
    · exact sound
    · have enrolled := sound.context.enroll call.session .start start_roomy
      have recalled := enrolled.recalled call.session .start start_roomy
      have counted := enrolled.modify call.session _ fun _ _ => addOutput_roomy recalled s out.output
      dsimp only
      split
      · exact ⟨sound.pressure, counted, sound.compaction⟩
      · exact ⟨sound.pressure, counted, sound.compaction⟩
  | lifecycle e => exact ⟨sound.pressure, onLifecycle_sound sound.context e, sound.compaction⟩
  | toolBefore call => exact sound
  | commandBefore command => exact sound
  | chatMessage turn => exact sound
  | messagesTransform request => exact sound

end ContextPolicy

namespace CompactionPolicy

theorem compact_rosters (w : World) (session event : String) :
    (compact w session event).rosters = (w.pressure, w.context,
      if (w.disturbance .summarize).refuses then w.compaction.modify session CompactionMemory.release
      else w.compaction) := by
  have requested := request_rosters w .summarize (.summarize session)
  have refused := request_refused w .summarize (.summarize session)
  unfold compact
  generalize w.request .summarize (.summarize session) = answer at requested refused ⊢
  obtain ⟨v, refusal⟩ := answer
  simp only [rosters, Prod.mk.injEq] at requested
  obtain ⟨pressure, context, compaction⟩ := requested
  rw [← refused]
  cases refusal <;> simp [rosters, World.remark, pressure, context, compaction]

theorem handle_leaves (s : CompactionSettings) (e : Event) (out : e.Output) (w : World) :
    (handle s e out w).state.pressure = w.pressure ∧ (handle s e out w).state.context = w.context := by
  have observed : ∀ session event f,
      (observe s w session event f).pressure = w.pressure ∧ (observe s w session event f).context = w.context := by
    intro session event f
    unfold observe
    dsimp only
    split
    · generalize Roster.modify _ session _ = roster
      have asked := compact_rosters { w with compaction := roster } session event
      exact ⟨congrArg Prod.fst asked, congrArg (·.2.1) asked⟩
    · exact ⟨rfl, rfl⟩
  cases e with
  | toolAfter call =>
    simp only [handle, Handled.pass]
    split
    · exact ⟨rfl, rfl⟩
    · exact observed _ _ _
  | lifecycle e =>
    simp only [handle, Handled.pass, onLifecycle]
    split
    · exact observed _ _ _
    · split
      · exact ⟨rfl, rfl⟩
      · split
        · exact ⟨rfl, rfl⟩
        · split <;> exact ⟨rfl, rfl⟩
  | toolBefore call => exact ⟨rfl, rfl⟩
  | commandBefore command => exact ⟨rfl, rfl⟩
  | chatMessage turn => exact ⟨rfl, rfl⟩
  | messagesTransform request => exact ⟨rfl, rfl⟩

theorem compact_sound (sound : w.Sound settings) (session event : String) :
    (compact w session event).Sound settings := by
  have requested := sound.of_rosters (request_rosters w .summarize (.summarize session))
  unfold compact
  split
  next taken =>
    rw [taken] at requested
    exact requested.of_rosters rfl
  next refused =>
    rw [refused] at requested
    exact ⟨requested.pressure, requested.context, requested.compaction.modify _ _ fun _ roomy => roomy⟩

theorem observe_usage (m : CompactionMemory) (s : CompactionSettings) (usage : Usage) :
    (m.observe s usage).1.usage = usage := by
  unfold CompactionMemory.observe
  dsimp only
  split <;> rfl

theorem observe_sound (sound : w.Sound settings) (s : CompactionSettings) (session event : String)
    {f : Usage → Usage} (keeps : ∀ u, u.Roomy → (f u).Roomy) : (observe s w session event f).Sound settings := by
  have fresh : CompactionMemory.start.usage.Roomy := Usage.none_roomy
  have enrolled := sound.compaction.enroll session .start fresh
  have recalled := enrolled.recalled session .start fresh
  unfold observe
  dsimp only
  generalize ((w.compaction.enroll session .start).get? session).getD .start = memory at recalled ⊢
  have usage := observe_usage memory s (f memory.usage)
  generalize memory.observe s (f memory.usage) = observed at usage ⊢
  obtain ⟨memory', due⟩ := observed
  have roomy : memory'.usage.Roomy := usage ▸ keeps _ recalled
  have sound' : { w with compaction := (w.compaction.enroll session .start).modify session fun _ => memory' }.Sound
      settings :=
    ⟨sound.pressure, sound.context, enrolled.modify session _ fun _ _ => roomy⟩
  dsimp only
  split
  · exact compact_sound sound' _ _
  · exact sound'

theorem onLifecycle_sound (sound : w.Sound settings) (s : CompactionSettings) (e : LifecycleEvent) :
    (onLifecycle s w e).Sound settings := by
  unfold onLifecycle
  split
  next report heard => exact observe_sound sound _ _ _ fun _ roomy => roomy.addReport heard
  · split
    · exact sound
    · split
      · exact ⟨sound.pressure, sound.context, sound.compaction.modify _ _ fun _ roomy => roomy.reset⟩
      · split
        · exact ⟨sound.pressure, sound.context, sound.compaction.remove _⟩
        · exact sound

theorem handle_sound (sound : w.Sound settings) (s : CompactionSettings) (e : Event) (out : e.Output) :
    (handle s e out w).state.Sound settings := by
  cases e with
  | toolAfter call =>
    simp only [handle, Handled.pass]
    split
    · exact sound
    · exact observe_sound sound _ _ _ fun _ roomy => roomy.addOutput _
  | lifecycle e => exact onLifecycle_sound sound s e
  | toolBefore call => exact sound
  | commandBefore command => exact sound
  | chatMessage turn => exact sound
  | messagesTransform request => exact sound

end CompactionPolicy

end AgentHooks
