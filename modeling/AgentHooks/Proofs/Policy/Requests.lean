import AgentHooks.Policy.Compaction
import AgentHooks.Policy.Context
import AgentHooks.Policy.Continuation
import AgentHooks.Policy.Stop

/-! What the hooks ask for. The loop's own hook prompts and gives notice of a loop's end, preemptive compaction asks for
summaries, the stop hook and the context monitor ask for nothing, and none of these takes a sample. -/

namespace AgentHooks

namespace Action

def Announces (titles : List String) (a : Action) : Prop :=
  ∃ n : Notice, a = .notify n ∧ n.title ∈ titles

end Action

namespace World

def Adds (kind : Action → Prop) (before after : World) : Prop :=
  ∃ more, after.host.effects = before.host.effects ++ more ∧ ∀ a ∈ more, kind a

/-- Such a step that takes no sample either. -/
structure Asks (kind : Action → Prop) (before after : World) : Prop where
  sampler : after.sampler = before.sampler
  adds : Adds kind before after

abbrev AsksNothing : World → World → Prop :=
  Asks fun _ => False

theorem call_host (w : World) (c : HostCall) : (w.call c).1.host = w.host := by
  simp only [call, disturb]
  split <;> split <;> rfl

theorem request_effects (w : World) (c : HostCall) (a : Action) :
    (w.request c a).1.host.effects = w.host.effects ++ if (w.disturbance c).refuses then [] else [a] := by
  have host := w.call_host c
  have refused : (w.call c).2 = if (w.disturbance c).refuses then some (.host (c.name ++ " unavailable")) else none :=
    rfl
  unfold request
  generalize w.call c = answer at host refused ⊢
  obtain ⟨v, refusal⟩ := answer
  dsimp only at host refused
  subst refused
  cases refuses : (w.disturbance c).refuses with
  | true => simp [host]
  | false => simp [Host.push, host]

variable {kind other : Action → Prop} {w w' later : World}

namespace Adds

theorem of_effects (effects : w'.host.effects = w.host.effects) : Adds kind w w' :=
  ⟨[], effects.trans (List.append_nil _).symm, fun _ nobody => nomatch nobody⟩

theorem trans (first : Adds kind w w') (second : Adds kind w' later) : Adds kind w later := by
  obtain ⟨more, effects, kinds⟩ := first
  obtain ⟨more', effects', kinds'⟩ := second
  refine ⟨more ++ more', ?_, fun a asked => ?_⟩
  · rw [effects', effects, List.append_assoc]
  · exact (List.mem_append.1 asked).elim (kinds a) (kinds' a)

theorem mono (wider : ∀ a, kind a → other a) (adds : Adds kind w w') : Adds other w w' := by
  obtain ⟨more, effects, kinds⟩ := adds
  exact ⟨more, effects, fun a asked => wider a (kinds a asked)⟩

theorem countP {p : Action → Bool} (adds : Adds (fun a => p a = false) w w') :
    w'.host.effects.countP p = w.host.effects.countP p := by
  obtain ⟨more, effects, kinds⟩ := adds
  have none' : more.countP p = 0 := List.countP_eq_zero.2 fun a asked => by simp [kinds a asked]
  rw [effects, List.countP_append, none', Nat.add_zero]

end Adds

namespace Asks

theorem of_effects (sampler : w'.sampler = w.sampler) (effects : w'.host.effects = w.host.effects) :
    Asks kind w w' :=
  ⟨sampler, .of_effects effects⟩

theorem refl (w : World) : Asks kind w w :=
  .of_effects rfl rfl

theorem remark (w : World) (r : Remark) : Asks kind w (w.remark r) :=
  .of_effects rfl rfl

theorem trans (first : Asks kind w w') (second : Asks kind w' later) : Asks kind w later :=
  ⟨second.sampler.trans first.sampler, first.adds.trans second.adds⟩

theorem mono (wider : ∀ a, kind a → other a) (asks : Asks kind w w') : Asks other w w' :=
  ⟨asks.sampler, asks.adds.mono wider⟩

theorem of_nothing (asks : AsksNothing w w') : Asks kind w w' :=
  asks.mono fun _ never => never.elim

theorem call (w : World) (c : HostCall) : Asks kind w (w.call c).1 := by
  refine .of_effects ?_ (congrArg Host.effects (w.call_host c))
  simp only [World.call, World.disturb]
  split <;> split <;> rfl

theorem ask {α : Type} (w : World) (c : HostCall) (session : String) (field : Snapshot → α) :
    Asks kind w (w.ask c session field).1 := by
  have called : Asks kind w (w.call c).1 := .call w c
  unfold World.ask
  split
  next refused => rwa [refused] at called
  next answered => rwa [answered] at called

theorem request (w : World) (c : HostCall) {a : Action} (asked : kind a) : Asks kind w (w.request c a).1 := by
  have called : Asks kind w (w.call c).1 := .call w c
  unfold World.request
  split
  next refused => rwa [refused] at called
  next taken =>
    rw [taken] at called
    exact called.trans ⟨rfl, [a], rfl, fun b here => List.mem_singleton.1 here ▸ asked⟩

theorem notify (w : World) (session message : String) (level : NoticeLevel) {titles : List String} {title : String}
    (known : title ∈ titles) : Asks (Action.Announces titles) w (w.notify session title message level) :=
  .request w _ ⟨_, rfl, known⟩

end Asks

end World

open World

namespace StopPolicy

theorem latch_asks (w : World) (session event : String) : AsksNothing w (latch w session event) := by
  unfold latch
  split <;> exact .of_effects rfl rfl

theorem release_asks (w : World) (session event : String) : AsksNothing w (release w session event) := by
  unfold release
  split <;> exact .of_effects rfl rfl

theorem handle_asks (words : StopWords) (e : Event) (out : e.Output) (w : World) :
    AsksNothing w (handle words e out w).state := by
  cases e with
  | toolBefore call =>
    simp only [handle, Handled.pass]
    split
    · exact latch_asks _ _ _
    · exact .refl w
  | commandBefore command =>
    simp only [handle, Handled.pass]
    split
    · exact latch_asks _ _ _
    · exact .refl w
  | chatMessage turn =>
    simp only [handle, Handled.pass]
    split
    · exact .refl w
    · exact release_asks _ _ _
  | lifecycle e =>
    simp only [handle, Handled.pass]
    split
    · split
      · exact release_asks _ _ _
      · exact .refl w
    · exact .refl w
  | toolAfter call => exact .refl w
  | messagesTransform request => exact .refl w

end StopPolicy

namespace ContinuationPolicy

def Wants (a : Action) : Prop :=
  (∃ session text, a = .sendPrompt session text) ∨ a.Announces ["Autopilot complete", "Autopilot stopped"]

theorem ownedLoop_asks (w : World) (session event : String) : AsksNothing w (ownedLoop w session event).1 := by
  unfold ownedLoop
  split <;> exact .of_effects rfl rfl

theorem clearFor_asks (w : World) (session event reason : String) :
    AsksNothing w (clearFor w session event reason).1 := by
  unfold clearFor
  split <;> exact .of_effects rfl rfl

theorem signal_asks (w : World) (session : String) (l : Loop) (messages : List Message) :
    AsksNothing w (signal w session l messages).1 := by
  have asked : AsksNothing w (w.ask .todos session (·.todos)).1 := .ask w _ _ _
  unfold signal
  dsimp only
  split
  · unfold hasOpenWork
    generalize w.ask .todos session (·.todos) = answer at asked ⊢
    obtain ⟨w', result⟩ := answer
    cases result <;> exact asked
  · exact .refl w

theorem inject_asks (w : World) (session : String) (l : Loop) : Asks Wants w (inject w session l) := by
  have requested : Asks Wants w (w.request .prompt (.sendPrompt session l.continuationPrompt)).1 :=
    .request w _ (.inl ⟨_, _, rfl⟩)
  unfold inject
  split
  · exact .remark _ _
  · generalize w.request .prompt (.sendPrompt session l.continuationPrompt) = answer at requested ⊢
    obtain ⟨w', result⟩ := answer
    cases result <;> exact requested.trans (.remark _ _)

theorem notify_asks (s : AutopilotSettings) (w : World) (session message : String) (level : NoticeLevel)
    {title : String} (known : title ∈ ["Autopilot complete", "Autopilot stopped"]) :
    Asks Wants w (notify s w session title message level) := by
  unfold notify
  split
  · exact (Asks.notify _ _ _ _ known).mono fun _ => .inr
  · exact .refl w

theorem conclude_asks (s : AutopilotSettings) (w : World) (session : String) (t : Turn) :
    Asks Wants w (conclude s w session t) := by
  cases t with
  | notOwned => exact .refl w
  | stopped => exact .remark _ _
  | completed iteration => exact (Asks.remark _ _).trans (notify_asks _ _ _ _ _ (by decide))
  | capReached iteration maxIterations => exact (Asks.remark _ _).trans (notify_asks _ _ _ _ _ (by decide))
  | continued l ignored =>
    simp only [conclude]
    split
    · exact (Asks.remark _ _).trans (inject_asks _ _ _)
    · exact inject_asks _ _ _

theorem turn_asks (s : AutopilotSettings) (w : World) (session : String) (signal : Signal) :
    Asks Wants w (turn s w session signal).1 := by
  unfold turn
  dsimp only
  split
  · exact .of_effects rfl rfl
  · exact .of_effects rfl rfl
  next files _ =>
    have stored : Asks Wants w { w with files } := .of_effects rfl rfl
    exact stored.trans (conclude_asks _ _ _ _)

theorem onIdle_asks (s : AutopilotSettings) (w : World) (session : String) :
    Asks Wants w (onIdle s w session).1 := by
  have owned : Asks Wants w (ownedLoop w session idle).1 := .of_nothing (ownedLoop_asks w session idle)
  unfold onIdle
  split
  next found => rwa [found] at owned
  next v l found =>
    rw [found] at owned
    split
    · exact owned.trans (.remark _ _)
    · have asked : Asks Wants v (v.ask .messages session (·.messages)).1 := .ask v _ _ _
      split
      next refused =>
        rw [refused] at asked
        exact (owned.trans asked).trans (.remark _ _)
      next u messages answered =>
        rw [answered] at asked
        have signalled : Asks Wants u (signal u session l messages).1 := .of_nothing (signal_asks _ _ _ _)
        exact ((owned.trans asked).trans signalled).trans (turn_asks _ _ _ _)

theorem onLifecycle_asks (s : AutopilotSettings) (w : World) (e : LifecycleEvent) :
    Asks Wants w (onLifecycle s w e).1 := by
  unfold onLifecycle
  split
  · exact .refl w
  · split
    · exact onIdle_asks _ _ _
    · split
      · exact .of_nothing (clearFor_asks _ _ _ _)
      · exact .refl w

theorem onStop_asks (w : World) (isStop : Bool) (session event : String) :
    AsksNothing w (onStop w isStop session event).1 := by
  unfold onStop
  split
  · exact clearFor_asks _ _ _ _
  · exact .refl w

theorem handle_asks (s : AutopilotSettings) (words : StopWords) (e : Event) (out : e.Output) (w : World) :
    Asks Wants w (handle s words e out w).state := by
  cases e with
  | lifecycle e => exact onLifecycle_asks s w e
  | toolBefore call => exact .of_nothing (onStop_asks _ _ _ _)
  | commandBefore command => exact .of_nothing (onStop_asks _ _ _ _)
  | toolAfter call => exact .refl w
  | chatMessage turn => exact .refl w
  | messagesTransform request => exact .refl w

end ContinuationPolicy

namespace ContextPolicy

theorem handle_asks (s : ContextSettings) (e : Event) (out : e.Output) (w : World) :
    AsksNothing w (handle s e out w).state := by
  cases e with
  | toolAfter call =>
    change AsksNothing w (onToolAfter s call.session out w).2
    unfold onToolAfter
    split
    · exact .refl w
    · dsimp only
      split <;> exact .of_effects rfl rfl
  | lifecycle e => exact .of_effects rfl rfl
  | toolBefore call => exact .refl w
  | commandBefore command => exact .refl w
  | chatMessage turn => exact .refl w
  | messagesTransform request => exact .refl w

end ContextPolicy

namespace CompactionPolicy

def Wants (a : Action) : Prop :=
  ∃ session, a = .summarize session

theorem compact_asks (w : World) (session event : String) : Asks Wants w (compact w session event) := by
  have requested : Asks Wants w (w.request .summarize (.summarize session)).1 := .request w _ ⟨session, rfl⟩
  unfold compact
  split
  next taken =>
    rw [taken] at requested
    exact requested.trans (.remark _ _)
  next refused =>
    rw [refused] at requested
    exact requested.trans (.of_effects rfl rfl)

theorem observe_asks (s : CompactionSettings) (w : World) (session event : String) (f : Usage → Usage) :
    Asks Wants w (observe s w session event f) := by
  unfold observe
  dsimp only
  split
  next =>
    generalize Roster.modify _ session _ = roster
    have counted : Asks Wants w { w with compaction := roster } := .of_effects rfl rfl
    exact counted.trans (compact_asks _ _ _)
  · exact .of_effects rfl rfl

theorem onLifecycle_asks (s : CompactionSettings) (w : World) (e : LifecycleEvent) :
    Asks Wants w (onLifecycle s w e) := by
  unfold onLifecycle
  split
  · exact observe_asks _ _ _ _ _
  · split
    · exact .refl w
    · split
      · exact .of_effects rfl rfl
      · split
        · exact .of_effects rfl rfl
        · exact .refl w

theorem handle_asks (s : CompactionSettings) (e : Event) (out : e.Output) (w : World) :
    Asks Wants w (handle s e out w).state := by
  cases e with
  | toolAfter call =>
    simp only [handle, Handled.pass]
    split
    · exact .refl w
    · exact observe_asks _ _ _ _ _
  | lifecycle e => exact onLifecycle_asks s w e
  | toolBefore call => exact .refl w
  | commandBefore command => exact .refl w
  | chatMessage turn => exact .refl w
  | messagesTransform request => exact .refl w

end CompactionPolicy

end AgentHooks
