import AgentHooks.Policy.Continuation
import AgentHooks.Proofs.Loop.Cell
import AgentHooks.Proofs.Policy.Stop

/-! What the loop's own hook never does: it leaves the latch alone, prompts no session but the one that
has gone idle, and does not prompt that one either while it is stopped. A failure of its files is never
a refusal. -/

namespace AgentHooks

open World

namespace World

/-- A step made on behalf of one session: nobody else is prompted, nor is the session while it is
stopped. -/
structure ActsFor (session : String) (before after : World) : Prop extends Steady before after where
  others : ∀ other, other ≠ session →
    promptsTo other after.host.effects = promptsTo other before.host.effects
  stopped : before.HandsOff → before.isStopped session = true →
    promptsTo session after.host.effects = promptsTo session before.host.effects

namespace ActsFor

variable {session : String} {w w' later : World}

theorem of_silent (session : String) (silent : Silent w w') : ActsFor session w w' :=
  ⟨silent.toSteady, fun other _ => silent.prompts other, fun _ _ => silent.prompts session⟩

theorem of_quiet (session : String) (quiet : Quiet w w') : ActsFor session w w' :=
  .of_silent session quiet.toSilent

theorem refl (session : String) (w : World) : ActsFor session w w :=
  .of_quiet session (.refl w)

theorem trans (first : ActsFor session w w') (second : ActsFor session w' later) :
    ActsFor session w later where
  toSteady := first.toSteady.trans second.toSteady
  others other different := (second.others other different).trans (first.others other different)
  stopped handsOff held := by
    have held' : w'.isStopped session = true := by rw [first.isStopped handsOff, held]
    exact (second.stopped (first.handsOff handsOff) held').trans (first.stopped handsOff held)

end ActsFor

end World

namespace LoopCell

variable {fault : Fault}

theorem load_unblocking {cell : LoopCell} {t : FileTree} (failed : cell.load t = .error fault) :
    fault.isBlocked = false := by
  unfold load at failed
  split at failed
  · cases failed
  · cases failed; rfl
  · split at failed
    · cases failed
    · cases failed; rfl

theorem clear_unblocking {cell : LoopCell} {t : FileTree} (failed : (cell.clear t).1 = .error fault) :
    fault.isBlocked = false := by
  unfold clear at failed
  split at failed <;> cases failed
  rfl

theorem save_unblocking {cell : LoopCell} {l : Loop} {t : FileTree}
    (failed : (cell.save l t).1 = .error fault) : fault.isBlocked = false := by
  unfold save at failed
  split at failed
  · cases failed; rfl
  · split at failed <;> cases failed
    rfl

theorem clearSession_unblocking {cell : LoopCell} {session : String} {t : FileTree}
    (failed : (cell.clearSession session t).1 = .error fault) : fault.isBlocked = false := by
  unfold clearSession at failed
  split at failed
  · cases failed
  · split at failed
    · exact clear_unblocking failed
    · cases failed
  · split at failed
    · split at failed
      · exact clear_unblocking failed
      · cases failed
    · exact clear_unblocking failed

theorem update_unblocking {α : Type} {cell : LoopCell} {f : Loop → Option Loop × α} {t : FileTree}
    (failed : (cell.update f t).1 = .error fault) : fault.isBlocked = false := by
  unfold update at failed
  split at failed
  next unread =>
    cases failed
    exact load_unblocking unread
  · cases failed
  · split at failed
    next next' a _ =>
      cases saved : (cell.save next' t).1 with
      | ok => simp [saved, Except.map] at failed
      | error other =>
        simp only [saved, Except.map] at failed
        cases failed
        exact save_unblocking saved
    next a _ =>
      cases cleared : (cell.clear t).1 with
      | ok => simp [cleared, Except.map] at failed
      | error other =>
        simp only [cleared, Except.map] at failed
        cases failed
        exact clear_unblocking cleared

end LoopCell

namespace ContinuationPolicy

theorem notify_quiet (s : AutopilotSettings) (w : World) (session title message : String)
    (level : NoticeLevel) : Quiet w (notify s w session title message level) := by
  unfold notify
  split
  · exact .notify _ _ _ _ _
  · exact .refl w

theorem ownedLoop_quiet (w : World) (session event : String) :
    Quiet w (ownedLoop w session event).1 := by
  unfold ownedLoop
  split
  · exact .refl w
  · exact .refl w
  · exact .remark _ _

theorem hasOpenWork_quiet (w : World) (session : String) : Quiet w (hasOpenWork w session).1 := by
  have asked := Quiet.ask w .todos session (·.todos)
  unfold hasOpenWork
  split
  next known => rw [known] at asked; exact asked
  next unknown => rw [unknown] at asked; exact asked

theorem signal_quiet (w : World) (session : String) (l : Loop) (messages : List Message) :
    Quiet w (signal w session l messages).1 := by
  unfold signal
  dsimp only
  split
  · exact hasOpenWork_quiet w session
  · exact .refl w

theorem clearFor_silent (w : World) (session event reason : String) :
    Silent w (clearFor w session event reason).1 := by
  have here := w.cell.clearSession_here session w.files
  unfold clearFor
  split
  next failed =>
    rw [failed] at here
    exact .of_files w here
  next spared =>
    rw [spared] at here
    exact .of_files w here
  next cleared =>
    rw [cleared] at here
    exact (Silent.of_files w here).trans (Quiet.remark _ _).toSilent

theorem request_prompt_actsFor (w : World) {session : String} (text : String)
    (running : ¬w.isStopped session = true) :
    ActsFor session w (w.request .prompt (.sendPrompt session text)).1 := by
  have called := Quiet.call w .prompt
  unfold World.request
  split
  next refused =>
    rw [refused] at called
    exact .of_quiet session called
  next taken =>
    rw [taken] at called
    refine ⟨called.toSteady.trans ⟨rfl, rfl, rfl, rfl, rfl, rfl, fun _ => rfl⟩, fun other different => ?_,
      fun _ held => absurd held running⟩
    rw [← called.prompts other]
    simp [Host.push, promptsTo, Action.promptTo?, different.symm]

theorem inject_actsFor (w : World) (session : String) (l : Loop) :
    ActsFor session w (inject w session l) := by
  unfold inject
  split
  · exact .of_quiet session (.remark _ _)
  next running =>
    have prompted := request_prompt_actsFor w l.continuationPrompt running
    split
    next taken =>
      rw [taken] at prompted
      exact prompted.trans (.of_quiet session (.remark _ _))
    next refused =>
      rw [refused] at prompted
      exact prompted.trans (.of_quiet session (.remark _ _))

theorem conclude_actsFor (s : AutopilotSettings) (w : World) (session : String) (t : Turn) :
    ActsFor session w (conclude s w session t) := by
  cases t with
  | notOwned => exact .refl session w
  | stopped => exact .of_quiet session (.remark _ _)
  | completed iteration => exact .of_quiet session ((Quiet.remark _ _).trans (notify_quiet _ _ _ _ _ _))
  | capReached iteration maxIterations =>
    exact .of_quiet session ((Quiet.remark _ _).trans (notify_quiet _ _ _ _ _ _))
  | continued l ignored =>
    refine ActsFor.trans (.of_quiet session ?_) (inject_actsFor _ session l)
    split
    · exact .remark _ _
    · exact .refl w

theorem turn_actsFor (s : AutopilotSettings) (w : World) (session : String) (signal : Signal) :
    ActsFor session w (turn s w session signal).1 := by
  unfold turn
  dsimp only
  generalize updated : w.cell.update _ w.files = outcome
  have here : outcome.2.here = w.files.here := by
    rw [← updated]
    exact w.cell.update_here _ w.files
  split
  · exact .of_silent session (.of_files w here)
  · exact .of_silent session (.of_files w here)
  · exact ActsFor.trans (.of_silent session (.of_files w here)) (conclude_actsFor _ _ _ _)

theorem onIdle_actsFor (s : AutopilotSettings) (w : World) (session : String) :
    ActsFor session w (onIdle s w session).1 := by
  have looked := ownedLoop_quiet w session idle
  unfold onIdle
  split
  next nobody =>
    rw [nobody] at looked
    exact .of_quiet session looked
  next w l owned =>
    rw [owned] at looked
    apply ActsFor.trans (.of_quiet session looked)
    split
    · exact .of_quiet session (.remark _ _)
    · have asked := Quiet.ask w .messages session (·.messages)
      split
      next unknown =>
        rw [unknown] at asked
        exact .of_quiet session (asked.trans (.remark _ _))
      next messages known =>
        rw [known] at asked
        have heard := asked.trans (signal_quiet _ session l messages)
        exact ActsFor.trans (.of_quiet session heard) (turn_actsFor _ _ _ _)

def IdleOf (session : String) (e : Event) : Prop :=
  ∃ l, e = .lifecycle l ∧ l.kind = idle ∧ l.session? = some session

theorem idle_unique {e : Event} {session other : String} (gone : IdleOf session e) (gone' : IdleOf other e) :
    session = other := by
  obtain ⟨l, rfl, -, about⟩ := gone
  obtain ⟨_, ⟨⟩, -, about'⟩ := gone'
  exact Option.some.inj (about.symm.trans about')

theorem kept_of_idle {words : StopWords} {session other : String} {e : Event} (gone : IdleOf session e)
    (out : e.Output) : words.discards other e out = false := by
  obtain ⟨l, rfl, kind, -⟩ := gone
  have alive : (l.kind == "session.deleted") = false := by
    rw [kind]
    decide
  simp only [StopWords.discards, alive, Bool.false_and]

section Handle

variable (s : AutopilotSettings) {words : StopWords} {e : Event} {out : e.Output} (w : World)
  {session : String}

theorem handle_of_idle (gone : IdleOf session e) :
    handle s words e out w = handled out (onIdle s w session) := by
  obtain ⟨l, rfl, kind, about⟩ := gone
  simp only [handle, onLifecycle, about, if_pos kind]

theorem handle_of_discards (discarded : words.discards session e out = true) :
    ∃ event reason, ∀ w, handle s words e out w = handled out (clearFor w session event reason) := by
  have stopping : ∀ owner isStop event, (owner == session && isStop) = true →
      ∀ w, onStop w isStop owner event = clearFor w session event "stop_command" := by
    intro owner isStop event both w
    obtain ⟨same, stops⟩ := (Bool.and_eq_true _ _ ▸ both :)
    rw [onStop, if_pos stops, eq_of_beq same]
  cases e with
  | toolBefore call => exact ⟨_, _, fun w => congrArg (handled _) (stopping _ _ _ discarded w)⟩
  | commandBefore command => exact ⟨_, _, fun w => congrArg (handled _) (stopping _ _ _ discarded w)⟩
  | lifecycle l =>
    obtain ⟨ended, about⟩ := (Bool.and_eq_true _ _ ▸ discarded :)
    have other : l.kind ≠ idle := by
      rw [eq_of_beq ended]
      decide
    refine ⟨"session.deleted", "session_deleted", fun w => ?_⟩
    simp only [handle, onLifecycle, eq_of_beq about, if_neg other, if_pos (eq_of_beq ended)]
  | toolAfter call => cases discarded
  | chatMessage turn => cases discarded
  | messagesTransform request => cases discarded

theorem handle_of_neither (busy : ∀ session, ¬IdleOf session e)
    (kept : ∀ session, words.discards session e out = false) : handle s words e out w = .pass out w := by
  have unstopped : ∀ owner isStop event, (owner == owner && isStop) = false →
      onStop w isStop owner event = (w, none) := by
    intro owner isStop event both
    have goesOn : isStop = false := by simpa using both
    rw [onStop, goesOn, if_neg Bool.false_ne_true]
  cases e with
  | toolBefore call => exact congrArg (handled _) (unstopped _ _ _ (kept call.session))
  | commandBefore command => exact congrArg (handled _) (unstopped _ _ _ (kept command.session))
  | lifecycle l =>
    simp only [handle, onLifecycle]
    split
    · rfl
    next session about =>
      have alive : l.kind ≠ "session.deleted" := by
        intro ended
        simpa [StopWords.discards, ended, about] using kept session
      rw [if_neg fun gone => busy session ⟨l, rfl, gone, about⟩, if_neg alive]
      rfl
  | toolAfter call => rfl
  | chatMessage turn => rfl
  | messagesTransform request => rfl

end Handle

/-- Unless a session goes idle, the hook takes a loop away or does nothing. -/
theorem handle_forms (s : AutopilotSettings) (words : StopWords) {e : Event} (out : e.Output)
    (busy : ∀ session, ¬IdleOf session e) :
    (∃ session event reason, words.discards session e out = true ∧
      ∀ w, handle s words e out w = handled out (clearFor w session event reason)) ∨
    ∀ w, handle s words e out w = .pass out w := by
  by_cases ends : ∃ session, words.discards session e out = true
  · obtain ⟨session, discarded⟩ := ends
    obtain ⟨event, reason, cleared⟩ := handle_of_discards s discarded
    exact .inl ⟨session, event, reason, discarded, cleared⟩
  · refine .inr fun w => handle_of_neither s w busy fun session => ?_
    exact eq_false_of_ne_true fun discarded => ends ⟨session, discarded⟩

/-- All that the hook can come to: a session goes idle, or its loop is taken away, or nothing happens. -/
theorem handle_cases (s : AutopilotSettings) (words : StopWords) (e : Event) (out : e.Output) (w : World) :
    (∃ session, IdleOf session e ∧ handle s words e out w = handled out (onIdle s w session)) ∨
    (∃ session event reason, words.discards session e out = true ∧
      handle s words e out w = handled out (clearFor w session event reason)) ∨
    handle s words e out w = .pass out w := by
  by_cases idles : ∃ session, IdleOf session e
  · obtain ⟨session, gone⟩ := idles
    exact .inl ⟨session, gone, handle_of_idle s w gone⟩
  · have busy : ∀ session, ¬IdleOf session e := fun session gone => idles ⟨session, gone⟩
    rcases handle_forms s words out busy with ⟨session, event, reason, discarded, cleared⟩ | still
    · exact .inr (.inl ⟨session, event, reason, discarded, cleared w⟩)
    · exact .inr (.inr (still w))

/-- The hook prompts nobody unless a session goes idle, and then only that session. -/
theorem handle_silent_or (s : AutopilotSettings) (words : StopWords) (e : Event) (out : e.Output)
    (w : World) :
    Silent w (handle s words e out w).state ∨
      ∃ session, IdleOf session e ∧ ActsFor session w (handle s words e out w).state := by
  rcases handle_cases s words e out w with ⟨session, gone, same⟩ | ⟨session, event, reason, -, same⟩ | same
  · rw [same]
    exact .inr ⟨session, gone, onIdle_actsFor s w session⟩
  · rw [same]
    exact .inl (clearFor_silent w session event reason)
  · rw [same]
    exact .inl (Quiet.refl w).toSilent

theorem handle_steady (s : AutopilotSettings) (words : StopWords) (e : Event) (out : e.Output)
    (w : World) : Steady w (handle s words e out w).state := by
  rcases handle_silent_or s words e out w with silent | ⟨session, -, acts⟩
  · exact silent.toSteady
  · exact acts.toSteady

theorem handle_stopped (s : AutopilotSettings) (words : StopWords) (e : Event) (out : e.Output)
    (w : World) {session : String} (handsOff : w.HandsOff) (held : w.isStopped session = true) :
    promptsTo session (handle s words e out w).state.host.effects =
      promptsTo session w.host.effects := by
  rcases handle_silent_or s words e out w with silent | ⟨other, -, acts⟩
  · exact silent.prompts session
  · by_cases same : session = other
    · subst same
      exact acts.stopped handsOff held
    · exact acts.others session same

theorem handle_busy (s : AutopilotSettings) (words : StopWords) (e : Event) (out : e.Output)
    (w : World) {session : String} (busy : ¬IdleOf session e) :
    promptsTo session (handle s words e out w).state.host.effects =
      promptsTo session w.host.effects := by
  rcases handle_silent_or s words e out w with silent | ⟨other, gone, acts⟩
  · exact silent.prompts session
  · exact acts.others session fun same => busy (same ▸ gone)

theorem clearFor_unblocking {w : World} {session event reason : String} {fault : Fault}
    (failed : (clearFor w session event reason).2 = some fault) : fault.isBlocked = false := by
  unfold clearFor at failed
  split at failed
  next raised =>
    cases failed
    exact LoopCell.clearSession_unblocking (congrArg Prod.fst raised)
  · cases failed
  · cases failed

theorem turn_unblocking {s : AutopilotSettings} {w : World} {session : String} {signal : Signal}
    {fault : Fault} (failed : (turn s w session signal).2 = some fault) : fault.isBlocked = false := by
  unfold turn at failed
  dsimp only at failed
  split at failed
  next raised =>
    cases failed
    exact LoopCell.update_unblocking (congrArg Prod.fst raised)
  · cases failed
  · cases failed

theorem onIdle_unblocking {s : AutopilotSettings} {w : World} {session : String} {fault : Fault}
    (failed : (onIdle s w session).2 = some fault) : fault.isBlocked = false := by
  unfold onIdle at failed
  split at failed
  · cases failed
  · split at failed
    · cases failed
    · split at failed
      · cases failed
      · exact turn_unblocking failed

theorem handle_unblocking {s : AutopilotSettings} {words : StopWords} {e : Event} {out : e.Output}
    {w : World} {fault : Fault} (failed : (handle s words e out w).fault = some fault) :
    fault.isBlocked = false := by
  rcases handle_cases s words e out w with ⟨session, -, same⟩ | ⟨session, event, reason, -, same⟩ | same
  · rw [same] at failed
    exact onIdle_unblocking failed
  · rw [same] at failed
    exact clearFor_unblocking failed
  · rw [same] at failed
    cases failed

end ContinuationPolicy

end AgentHooks
