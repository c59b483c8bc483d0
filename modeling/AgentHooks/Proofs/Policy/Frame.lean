import AgentHooks.Proofs.Policy.Cycle

/-! What the loop's own hook can do to the loop's file, whatever stands in it. At the end of a session it may
take the file away; when a session goes idle, a loop of that session may take a turn. Everything else
passes the file by. -/

namespace AgentHooks

namespace World

variable {w w' later : World}

def loopContent? (w : World) : Option Content :=
  w.files.content? w.loopPlace

def stored? (w : World) : Option Loop :=
  w.loopContent?.bind w.cell.loopIn?

/-- A step that passes the loop by: its file stays as it is, and nobody is prompted. -/
structure Passes (before after : World) : Prop where
  now : after.now = before.now
  loopFile : after.loopFile = before.loopFile
  files : FileTree.Spares before.loopPlace before.files after.files
  prompts : ∀ session, promptsTo session after.host.effects = promptsTo session before.host.effects

namespace Passes

theorem cell (passes : Passes w w') : w'.cell = w.cell := by
  simp only [World.cell, passes.now, passes.loopFile]

theorem loopPlace (passes : Passes w w') : w'.loopPlace = w.loopPlace := by
  simp only [World.loopPlace, passes.loopFile, FileTree.placeOf_eq passes.files.here]

theorem loopContent? (passes : Passes w w') : w'.loopContent? = w.loopContent? := by
  rw [World.loopContent?, passes.loopPlace, passes.files.content, World.loopContent?]

theorem trans (first : Passes w w') (second : Passes w' later) : Passes w later := by
  refine ⟨second.now.trans first.now, second.loopFile.trans first.loopFile, first.files.trans ?_,
    fun session => (second.prompts session).trans (first.prompts session)⟩
  rw [← first.loopPlace]
  exact second.files

theorem of_quiet (undisturbed : w.Undisturbed) (apart : w.Apart) (quiet : Quiet w w') : Passes w w' :=
  ⟨quiet.now, quiet.loopFile, quiet.files undisturbed apart, quiet.prompts⟩

theorem of_moves (undisturbed : w.Undisturbed) (apart : w.Apart) (moves : Moves w w') : Passes w w' := by
  obtain ⟨_, quiet⟩ := moves
  exact ⟨quiet.now, quiet.loopFile, quiet.files undisturbed apart, quiet.prompts⟩

theorem stored? (passes : Passes w w') : w'.stored? = w.stored? := by
  rw [World.stored?, passes.loopContent?, passes.cell, World.stored?]

theorem load {l : Loop} (passes : Passes w w') (loaded : w.cell.load w.files = .ok (some l)) :
    w'.cell.load w'.files = .ok (some l) := by
  rw [passes.cell]
  exact LoopCell.load_of_spares loaded passes.files

end Passes

theorem stored_of_load {l : Loop} (loaded : w.cell.load w.files = .ok (some l)) : w.stored? = some l := by
  obtain ⟨content, found, held⟩ := LoopCell.content_of_load loaded
  have stands : w.loopContent? = some content := FileTree.content_of_fetch found
  rw [stored?, stands, Option.bind_some, held]

/-- What a turn may come to that leaves `next` of a session's loop: the file is gone; or it holds the loop,
whose session is prompted if the host takes the prompt; or the loop could not be written down, and nothing
happened at all. -/
inductive Took (session : String) (before after : World) : Option Loop → Prop where
  | ended (gone : after.Vacant)
    (silent : ∀ other, promptsTo other after.host.effects = promptsTo other before.host.effects) :
    Took session before after none
  | wentOn {next : Loop} (ready : after.cell.Ready after.files)
    (content : after.loopContent? = some (.text (before.cell.render next)))
    (prompted : promptsTo session after.host.effects = promptsTo session before.host.effects ++
      if (before.disturbance .prompt).refuses then [] else [next.continuationPrompt])
    (others : ∀ other, other ≠ session →
      promptsTo other after.host.effects = promptsTo other before.host.effects) :
    Took session before after (some next)
  | unsaved {next : Loop} (failed : (before.cell.save next before.files).1.isOk = false)
    (passes : Passes before after) : Took session before after (some next)

theorem Took.trans {session : String} {next : Option Loop} (took : Took session w w' next)
    (passes : Passes w' later) : Took session w later next := by
  cases took with
  | ended gone silent =>
    exact .ended (gone.of_spares passes.loopFile passes.files)
      fun other => (passes.prompts other).trans (silent other)
  | wentOn ready content prompted others =>
    refine .wentOn ?_ (passes.loopContent?.trans content) ((passes.prompts session).trans prompted)
      fun other different => (passes.prompts other).trans (others other different)
    rw [passes.cell]
    exact ready.of_grows passes.files.toGrows
  | unsaved failed still => exact .unsaved failed (still.trans passes)

/-- What a turn leaves in the file of a loop that goes on, if anything: nothing, or the next loop, or what was
there because the next loop could not be written down. -/
theorem Took.loopContent? {l : Loop} {sig : Signal} {maxIgnored : Nat} {next : Option Loop} {t : Turn}
    (took : Took l.session w w' next) (active : l.active = true)
    (advanced : l.advance l.session sig maxIgnored false = (next, t)) :
    w'.loopContent? = none ∨ w'.loopContent? = some (.text (w.cell.render (l.next sig))) ∨
      w'.loopContent? = w.loopContent? ∧ (w.cell.save (l.next sig) w.files).1.isOk = false := by
  cases took with
  | ended gone silent => exact .inl gone
  | wentOn ready content prompted others =>
    obtain ⟨rfl, -⟩ := Loop.advance_some active advanced
    exact .inr (.inl content)
  | unsaved failed passes =>
    obtain ⟨rfl, -⟩ := Loop.advance_some active advanced
    exact .inr (.inr ⟨passes.loopContent?, failed⟩)

end World

namespace ContinuationPolicy

open World

variable {s : AutopilotSettings} {w : World} {l : Loop} {e : Event}

/-- Where no session goes idle, the file is passed by, or it is taken away at the end of a session that it is
said to belong to, or is not said to belong to another. -/
theorem handle_busy_cases (s : AutopilotSettings) (words : StopWords) (busy : ∀ session, ¬IdleOf session e)
    (out : e.Output) (w : World) :
    Quiet w (handle s words e out w).state ∨
      ∃ session content reason event, words.discards session e out = true ∧ w.loopContent? = some content ∧
        w.cell.Clears session content ∧
        (handle s words e out w).state = remark (w.put none) .state reason event session := by
  rcases handle_cases s words e out w with ⟨session, gone, -⟩ | ⟨session, event, reason, ends, same⟩ | same
  · exact absurd gone (busy session)
  · rw [same]
    refine (clearFor_cases w session event reason).imp_right ?_
    rintro ⟨content, stands, clears, cleared⟩
    exact ⟨session, content, reason, event, ends, stands, clears, congrArg Prod.fst cleared⟩
  · rw [same]
    exact .inl (.refl w)

theorem turn_took (handsOff : w.HandsOff) (undisturbed : w.Undisturbed) (apart : w.Apart)
    (loaded : w.cell.load w.files = .ok (some l)) (active : l.active = true)
    (running : w.isStopped l.session = false) {sig : Signal} {next : Option Loop} {t : Turn}
    (advanced : l.advance l.session sig s.maxIgnoredCompletionCycles false = (next, t)) :
    Took l.session w (turn s w l.session sig).1 next := by
  rw [turn_of_load loaded running, advanced]
  cases next with
  | none =>
    have put := put_silent w none
    have acts := conclude_actsFor s (w.put none) l.session t
    obtain ⟨spared, prompted⟩ := conclude_outcome (s := s) (put.handsOff handsOff)
      (put.undisturbed undisturbed) (apart.put none) running t
    obtain ⟨content, found, -⟩ := LoopCell.content_of_load loaded
    have gone : (w.put none).Vacant := put_vacant (FileTree.content_of_fetch found)
    rw [Loop.advance_none active advanced, Option.toList_none, ite_self, List.append_nil] at prompted
    refine .ended (gone.of_spares acts.loopFile spared) fun other => ?_
    by_cases same : other = l.session
    · rw [same]
      exact prompted
    · exact acts.others other same
  | some next =>
    dsimp only
    have here := w.cell.save_here next w.files
    cases saved : w.cell.save next w.files with
    | mk result files =>
      rw [saved] at here
      cases result with
      | error fault =>
        refine .unsaved ?_ ⟨rfl, rfl, LoopCell.save_failed_spares saved _, fun _ => rfl⟩
        rw [saved]
        rfl
      | ok done =>
        let filled := { w with files }
        have silent : Silent w filled := .of_files w here
        have acts := conclude_actsFor s filled l.session t
        obtain ⟨spared, prompted⟩ := conclude_outcome (s := s) (silent.handsOff handsOff)
          (silent.undisturbed undisturbed) (silent.apart apart) running t
        obtain ⟨ready, content⟩ := LoopCell.ready_of_save saved
        obtain ⟨-, prompt, -⟩ := Loop.advance_some active advanced
        have cell : (conclude s filled l.session t).cell = w.cell := by
          simp only [World.cell, acts.now, acts.loopFile, filled]
        rw [prompt, Option.toList_some] at prompted
        refine .wentOn ?_ ?_ prompted acts.others
        · rw [cell]
          exact ready.of_grows spared.toGrows
        · rw [World.loopContent?, acts.loopPlace, spared.content]
          exact content

/-- When a session goes idle that is not stopped and whose history is told, its loop takes a turn, if there is
one that can be read. Otherwise the file is passed by. -/
theorem onIdle_cases (handsOff : w.HandsOff) (undisturbed : w.Undisturbed) (apart : w.Apart)
    (session : String) :
    (Quiet w (onIdle s w session).1 ∧ ∀ l account, w.cell.load w.files = .ok (some l) →
      l.belongsTo session = true → told? w session ≠ some account) ∨
    ∃ l account next t, w.cell.load w.files = .ok (some l) ∧ l.belongsTo session = true ∧
      told? w session = some account ∧
      l.advance session (heard l account) s.maxIgnoredCompletionCycles false = (next, t) ∧
      Took session w (onIdle s w session).1 next := by
  by_cases owned : ∃ l, w.cell.load w.files = .ok (some l) ∧ l.belongsTo session = true
  · obtain ⟨l, loaded, mine⟩ := owned
    cases told : told? w session with
    | none => exact .inl ⟨onIdle_of_untold handsOff undisturbed loaded mine told, by simp⟩
    | some account =>
      cases advanced : l.advance session (heard l account) s.maxIgnoredCompletionCycles false with
      | mk next t =>
        refine .inr ⟨l, account, next, t, loaded, mine, rfl, advanced, ?_⟩
        rw [onIdle_of_told handsOff undisturbed loaded mine told]
        obtain ⟨active, rfl⟩ := Loop.belongsTo_iff.1 mine
        exact turn_took handsOff undisturbed apart loaded active (running_of_told told) advanced
  · refine .inl ⟨onIdle_of_other fun l loaded => ?_, fun l account loaded mine _ => owned ⟨l, loaded, mine⟩⟩
    cases mine : l.belongsTo session with
    | false => rfl
    | true => exact absurd ⟨l, loaded, mine⟩ owned

end ContinuationPolicy

end AgentHooks
