import AgentHooks.Policy.Compaction
import AgentHooks.Policy.Context
import AgentHooks.Policy.Pressure
import AgentHooks.Proofs.World.Quiet

/-! The monitors beside the loop. The context monitor and preemptive compaction are quiet whatever
happens. The pressure monitor is quiet too, except for the one step in which it latches the session
whose tool call it samples. -/

namespace AgentHooks

open World

namespace ContextPolicy

theorem onToolAfter_quiet (s : ContextSettings) (session : String) (out : ToolResult) (w : World) :
    Quiet w (onToolAfter s session out w).2 := by
  unfold onToolAfter
  split
  · exact .refl w
  · dsimp only
    split
    · exact (Quiet.of_hidden w w.sampler w.pressure _ w.compaction).trans (.remark _ _)
    · exact .of_hidden w w.sampler w.pressure _ w.compaction

theorem handle_quiet (s : ContextSettings) (e : Event) (out : e.Output) (w : World) :
    Quiet w (handle s e out w).state := by
  cases e with
  | toolAfter call => exact onToolAfter_quiet s call.session out w
  | lifecycle e => exact .of_hidden w w.sampler w.pressure _ w.compaction
  | toolBefore call => exact .refl w
  | commandBefore command => exact .refl w
  | chatMessage turn => exact .refl w
  | messagesTransform request => exact .refl w

theorem handle_fault (s : ContextSettings) (e : Event) (out : e.Output) (w : World) :
    (handle s e out w).fault = none := by
  cases e <;> rfl

end ContextPolicy

namespace CompactionPolicy

theorem compact_quiet (w : World) (session event : String) : Quiet w (compact w session event) := by
  have requested := Quiet.request w .summarize (.summarize session) fun _ => rfl
  unfold compact
  split
  next taken =>
    rw [taken] at requested
    exact requested.trans (.remark _ _)
  next refused =>
    rw [refused] at requested
    exact (requested.trans (.of_hidden _ _ _ _ _)).trans (.remark _ _)

theorem observe_quiet (s : CompactionSettings) (w : World) (session event : String)
    (f : Usage → Usage) : Quiet w (observe s w session event f) := by
  unfold observe
  dsimp only
  split
  · exact (Quiet.of_hidden w w.sampler w.pressure w.context _).trans (compact_quiet _ _ _)
  · exact .of_hidden w w.sampler w.pressure w.context _

theorem onLifecycle_quiet (s : CompactionSettings) (w : World) (e : LifecycleEvent) :
    Quiet w (onLifecycle s w e) := by
  unfold onLifecycle
  split
  · exact observe_quiet _ _ _ _ _
  · split
    · exact .refl w
    · split
      · exact .of_hidden w w.sampler w.pressure w.context _
      · split
        · exact .of_hidden w w.sampler w.pressure w.context _
        · exact .refl w

theorem handle_quiet (s : CompactionSettings) (e : Event) (out : e.Output) (w : World) :
    Quiet w (handle s e out w).state := by
  cases e with
  | toolAfter call =>
    simp only [handle, Handled.pass]
    split
    · exact .refl w
    · exact observe_quiet _ _ _ _ _
  | lifecycle e => exact onLifecycle_quiet s w e
  | toolBefore call => exact .refl w
  | commandBefore command => exact .refl w
  | chatMessage turn => exact .refl w
  | messagesTransform request => exact .refl w

theorem handle_fault (s : CompactionSettings) (e : Event) (out : e.Output) (w : World) :
    (handle s e out w).fault = none := by
  cases e <;> rfl

end CompactionPolicy

namespace PressurePolicy

theorem remind_quiet (s : PressureSettings) (session : String) (sample : Sample)
    (level : PressureLevel) (due : Bool) (scene : Scene) :
    Quiet scene.2 (remind s session sample level due scene).2 := by
  obtain ⟨out, w⟩ := scene
  unfold remind
  dsimp only
  split
  · exact .refl w
  · cases level with
    | normal => exact .refl w
    | warning => exact .remark _ _
    | critical => exact .remark _ _

theorem escalate_quiet (s : PressureSettings) (session : String) (events : Nat) (scene : Scene) :
    Quiet scene.2 (escalate s session events scene).2 :=
  (Quiet.remark _ _).trans (.notify _ _ _ _ _)

theorem ownsLoop_quiet (w : World) (session : String) : Quiet w (ownsLoop w session).1 := by
  unfold ownsLoop
  split
  · split
    · exact .refl w
    · exact .remark _ _
  · exact .remark _ _
  · exact .remark _ _

/-- A session owns a loop only if its file holds an active one, and then the look at it is all that
happens. -/
theorem ownsLoop_true {w w' : World} {session : String} (owned : ownsLoop w session = (w', true)) :
    w' = w ∧ ∃ l, w.cell.load w.files = .ok (some l) ∧ l.belongsTo session := by
  unfold ownsLoop at owned
  split at owned
  next l loaded =>
    split at owned
    next owner => exact ⟨(congrArg Prod.fst owned).symm, l, loaded, owner⟩
    · cases owned
  · cases owned
  · cases owned

/-- A pause: up to a moment at which the session runs and owns a loop nothing happens that is not quiet,
then the session is latched, and quiet follows. -/
def Pauses (session : String) (before after : World) : Prop :=
  ∃ v, Quiet before v ∧ v.isStopped session = false ∧
    (∃ l, v.cell.load v.files = .ok (some l) ∧ l.belongsTo session) ∧ Quiet (v.stop session) after

theorem Pauses.after {session : String} {w v v' : World} (first : Quiet w v)
    (pauses : Pauses session v v') : Pauses session w v' := by
  obtain ⟨u, upTo, runs, owned, rest⟩ := pauses
  exact ⟨u, first.trans upTo, runs, owned, rest⟩

theorem Pauses.before {session : String} {w v v' : World} (pauses : Pauses session w v)
    (last : Quiet v v') : Pauses session w v' := by
  obtain ⟨u, upTo, runs, owned, rest⟩ := pauses
  exact ⟨u, upTo, runs, owned, rest.trans last⟩

theorem Pauses.moves {session : String} {w w' : World} (pauses : Pauses session w w') : Moves w w' := by
  obtain ⟨v, upTo, -, -, rest⟩ := pauses
  exact (Moves.of_quiet upTo).trans ((Moves.stop v session).trans (.of_quiet rest))

theorem pause_quiet_or (session : String) (sample : Sample) (scene : Scene) :
    Quiet scene.2 (pause session sample scene).2 ∨
      Pauses session scene.2 (pause session sample scene).2 := by
  obtain ⟨out, w⟩ := scene
  have looked := ownsLoop_quiet w session
  unfold pause
  dsimp only
  split
  next none' =>
    rw [none'] at looked
    exact .inl looked
  next owned =>
    obtain ⟨same, holder⟩ := ownsLoop_true owned
    subst same
    split
    · exact .inl (.refl _)
    next running =>
      refine .inr ⟨_, .refl _, by simpa using running, holder, ?_⟩
      exact (Quiet.remark _ _).trans (.notify _ _ _ _ _)

theorem respond_quiet_or (s : PressureSettings) (session : String) (sample : Sample) (scene : Scene) :
    Quiet scene.2 (respond s session sample scene).2 ∨
      Pauses session scene.2 (respond s session sample scene).2 := by
  obtain ⟨out, w⟩ := scene
  unfold respond
  dsimp only
  -- The reminder comes first and the escalation last, both quiet; the pause stands between them.
  generalize reminded : remind s session sample _ _ _ = scene
  have start : Quiet w scene.2 := by
    rw [← reminded]
    have counted := Quiet.of_hidden w w.sampler
    exact (counted _ w.context w.compaction).trans (remind_quiet _ _ _ _ _ (out, _))
  have choice : ∀ due : Bool,
      Quiet w (if due = true then pause session sample scene else scene).2 ∨
        Pauses session w (if due = true then pause session sample scene else scene).2 := by
    intro due
    split
    · exact (pause_quiet_or session sample scene).imp start.trans (Pauses.after start)
    · exact .inl start
  split
  · exact (choice _).imp (·.trans (escalate_quiet _ _ _ _)) (·.before (escalate_quiet _ _ _ _))
  · exact choice _

theorem onToolAfter_quiet_or (s : PressureSettings) (session : String) (out : ToolResult) (w : World) :
    Quiet w (onToolAfter s session out w).2 ∨
      session ≠ "" ∧ Pauses session w (onToolAfter s session out w).2 := by
  unfold onToolAfter
  split
  · exact .inl (.refl w)
  next named =>
    dsimp only
    generalize noted : { w with pressure := _ } = counted
    have start : Quiet w counted := by
      rw [← noted]
      exact .of_hidden w w.sampler _ w.context w.compaction
    split
    · exact .inl start
    · have sampled := start.trans (.sample counted)
      split
      next failed =>
        rw [failed] at sampled
        exact .inl (sampled.trans (.remark _ _))
      next sample taken =>
        rw [taken] at sampled
        exact (respond_quiet_or s session sample (out, _)).imp sampled.trans
          fun pauses => ⟨named, pauses.after sampled⟩

theorem onToolAfter_moves (s : PressureSettings) (session : String) (out : ToolResult) (w : World) :
    Moves w (onToolAfter s session out w).2 := by
  rcases onToolAfter_quiet_or s session out w with quiet | ⟨-, pauses⟩
  · exact .of_quiet quiet
  · exact pauses.moves

theorem handle_quiet (s : PressureSettings) (e : Event) (out : e.Output) (w : World)
    (elsewhere : ∀ call, e ≠ .toolAfter call) : Quiet w (handle s e out w).state := by
  cases e with
  | toolAfter call => exact absurd rfl (elsewhere call)
  | lifecycle e =>
    simp only [handle, Handled.pass]
    split
    · split
      · exact .of_hidden w w.sampler _ w.context w.compaction
      · exact .refl w
    · exact .refl w
  | toolBefore call => exact .refl w
  | commandBefore command => exact .refl w
  | chatMessage turn => exact .refl w
  | messagesTransform request => exact .refl w

theorem handle_moves (s : PressureSettings) (e : Event) (out : e.Output) (w : World) :
    Moves w (handle s e out w).state := by
  by_cases finished : ∃ call, e = .toolAfter call
  · obtain ⟨call, rfl⟩ := finished
    exact onToolAfter_moves s call.session out w
  · exact .of_quiet (handle_quiet s e out w fun call same => finished ⟨call, same⟩)

theorem handle_fault (s : PressureSettings) (e : Event) (out : e.Output) (w : World) :
    (handle s e out w).fault = none := by
  cases e <;> rfl

end PressurePolicy

end AgentHooks
