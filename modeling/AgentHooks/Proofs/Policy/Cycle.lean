import AgentHooks.Proofs.Loop.Cell
import AgentHooks.Proofs.Loop.Turns
import AgentHooks.Proofs.Policy.Continuation
import AgentHooks.Proofs.Policy.Stop

/-! The loop's own hook on a file that holds a loop, as `save` leaves it, and on no file at all. While
nobody else has a hand in it, the first stays readable until the hook takes it away, and then there is
nothing that the hook would act upon. -/

namespace AgentHooks

namespace World

variable {w w' : World} {l : Loop}

/-- The loop's file can be read as a loop, and another loop can be put in its place. -/
structure Offers (w : World) (l : Loop) : Prop where
  ready : w.cell.Ready w.files
  loaded : w.cell.load w.files = .ok (some l)

structure Stores (w : World) (l : Loop) : Prop where
  ready : w.cell.Ready w.files
  content : w.files.content? w.loopPlace = some (.text (w.cell.render l))
  valid : l.Valid

def Vacant (w : World) : Prop :=
  w.files.content? w.loopPlace = none

/-- The loop's file after a loop is put into it or, if there is none, it is taken away. -/
def put (w : World) : Option Loop → World
  | some l => { w with files := w.files.set w.loopPlace (.file (w.cell.render l)) }
  | none => { w with files := w.files.erase w.loopPlace }

theorem put_silent (w : World) (next : Option Loop) : Silent w (w.put next) := by
  cases next with
  | some l => exact .of_files w rfl
  | none => exact .of_files w rfl

theorem put_vacant {content : Content} (stands : w.files.content? w.loopPlace = some content) :
    (w.put none).Vacant := by
  have inside : w.loopPlace ≠ [] := by
    apply FileTree.inside_of_node?_ne
    rw [FileTree.content?_eq_some.1 stands]
    simp
  change FileTree.content? _ w.loopPlace = none
  simp only [World.put, FileTree.content?, FileTree.node?_erase_self inside]

namespace Offers

theorem content (offers : w.Offers l) :
    ∃ content, w.files.content? w.loopPlace = some content ∧ w.cell.loopIn? content = some l := by
  obtain ⟨content, found, held⟩ := LoopCell.content_of_load offers.loaded
  exact ⟨content, FileTree.content_of_fetch found, held⟩

theorem free (offers : w.Offers l) : w.files.node? w.loopPlace ≠ some .directory := by
  obtain ⟨content, stands, -⟩ := offers.content
  rw [FileTree.content?_eq_some.1 stands]
  simp

theorem of_spares (offers : w.Offers l) (cell : w'.cell = w.cell)
    (spared : FileTree.Spares w.loopPlace w.files w'.files) : w'.Offers l := by
  constructor
  · rw [cell]
    exact offers.ready.of_grows spared.toGrows
  · rw [cell]
    exact LoopCell.load_of_spares offers.loaded spared

theorem put_some (offers : w.Offers l) {next : Loop} (valid : next.Valid) :
    (w.put (some next)).Stores next := by
  have grows := FileTree.grows_set (.file (w.cell.render next)) offers.free
  have ready := offers.ready.of_grows grows
  exact ⟨⟨ready.parents, ready.draft, ready.destination⟩, FileTree.content?_set_self offers.free, valid⟩

theorem put_none (offers : w.Offers l) : (w.put none).Vacant := by
  obtain ⟨content, stands, -⟩ := offers.content
  exact put_vacant stands

end Offers

namespace Stores

theorem offers (stores : w.Stores l) : w.Offers l :=
  ⟨stores.ready, stores.ready.load stores.valid stores.content⟩

theorem of_save {files : FileTree} (saved : w.cell.save l w.files = (.ok (), files)) (valid : l.Valid) :
    { w with files }.Stores l := by
  obtain ⟨ready, content⟩ := LoopCell.ready_of_save saved
  exact ⟨ready, content, valid⟩

theorem of_spares (stores : w.Stores l) (loopFile : w'.loopFile = w.loopFile)
    (spared : FileTree.Spares w.loopPlace w.files w'.files) : w'.Stores l := by
  have ready := stores.ready.of_grows spared.toGrows
  have place : w'.loopPlace = w.loopPlace := by
    simp only [World.loopPlace, loopFile, FileTree.placeOf_eq spared.here]
  refine ⟨⟨?_, ?_, ?_⟩, ?_, stores.valid⟩
  · rw [cell, loopFile]
    exact ready.parents
  · rw [cell, loopFile]
    exact ready.draft
  · rw [cell, loopFile]
    exact ready.destination
  · rw [place, spared.content, stores.content, LoopCell.render_eq w.cell w'.cell]

end Stores

theorem Vacant.of_spares (vacant : w.Vacant) (loopFile : w'.loopFile = w.loopFile)
    (spared : FileTree.Spares w.loopPlace w.files w'.files) : w'.Vacant := by
  have place : w'.loopPlace = w.loopPlace := by
    simp only [World.loopPlace, loopFile, FileTree.placeOf_eq spared.here]
  rw [Vacant, place, spared.content]
  exact vacant

def Holds (w : World) : Option Loop → Prop
  | some l => w.Stores l
  | none => w.Vacant

theorem Holds.of_spares {kept : Option Loop} (holds : w.Holds kept) (loopFile : w'.loopFile = w.loopFile)
    (spared : FileTree.Spares w.loopPlace w.files w'.files) : w'.Holds kept := by
  cases kept with
  | some l => exact Stores.of_spares holds loopFile spared
  | none => exact Vacant.of_spares holds loopFile spared

theorem Holds.of_moves {kept : Option Loop} (holds : w.Holds kept) (undisturbed : w.Undisturbed)
    (apart : w.Apart) (moves : Moves w w') : w'.Holds kept := by
  obtain ⟨_, quiet⟩ := moves
  exact holds.of_spares quiet.loopFile (quiet.files undisturbed apart)

theorem Offers.put (offers : w.Offers l) {next : Option Loop} (valid : ∀ l' ∈ next, l'.Valid) :
    (w.put next).Holds next := by
  cases next with
  | some l' => exact offers.put_some (valid l' rfl)
  | none => exact offers.put_none

theorem Apart.put (apart : w.Apart) (next : Option Loop) : (w.put next).Apart := by
  cases next with
  | some l => exact apart
  | none => exact apart

theorem Vacant.load (vacant : w.Vacant) (l : Loop) : w.cell.load w.files ≠ .ok (some l) := by
  have absent : w.files.content? (w.files.placeOf w.cell.path) = none := vacant
  exact LoopCell.load_of_absent absent l

theorem call_of_undisturbed (handsOff : w.HandsOff) (undisturbed : w.Undisturbed) (c : HostCall) :
    w.call c =
      (w, if (w.disturbance c).refuses then some (.host (c.name ++ " unavailable")) else none) := by
  simp only [call, disturb, handsOff c, undisturbed c]

end World

namespace ContinuationPolicy

open World

variable {s : AutopilotSettings} {words : StopWords} {w : World} {l : Loop} {e : Event} {session : String}

structure Account where
  history : Snapshot
  todosKnown : Bool

/-- What the history of a session says about completion; todos that are not known leave no work open. -/
def heard (l : Loop) (account : Account) : Signal :=
  let text := (Message.latestAssistantText account.history.messages).getD ""
  if (Marker.ofMode l.mode l.promise).isIn text then
    .complete (account.todosKnown && account.history.todos.any Todo.isOpen)
  else .pending

/-- What a turn of the loop goes by, if it comes to a turn when a session goes idle: the session is not
stopped, and the host tells its history. -/
def told? (w : World) (session : String) : Option Account :=
  if w.isStopped session || (w.disturbance .messages).refuses then none
  else (w.host.context.snapshot? session).map fun history => ⟨history, !(w.disturbance .todos).refuses⟩

theorem running_of_told {account : Account} (told : told? w session = some account) :
    w.isStopped session = false := by
  cases held : w.isStopped session with
  | false => rfl
  | true =>
    rw [told?, held, Bool.true_or, if_pos rfl] at told
    cases told

theorem ask_eq {α : Type} (handsOff : w.HandsOff) (undisturbed : w.Undisturbed) (c : HostCall)
    (session : String) (field : Snapshot → α) :
    w.ask c session field = (w, if (w.disturbance c).refuses then .error (.host (c.name ++ " unavailable"))
      else (w.host.snapshot session).map field) := by
  simp only [ask, call_of_undisturbed handsOff undisturbed]
  cases (w.disturbance c).refuses <;> rfl

theorem signal_eq (handsOff : w.HandsOff) (undisturbed : w.Undisturbed) {history : Snapshot}
    (known : w.host.context.snapshot? session = some history) (l : Loop) :
    signal w session l history.messages =
      (w, heard l ⟨history, !(w.disturbance .todos).refuses⟩) := by
  have open' : hasOpenWork w session =
      (w, !(w.disturbance .todos).refuses && history.todos.any Todo.isOpen) := by
    simp only [hasOpenWork, ask_eq handsOff undisturbed, Host.snapshot, known]
    cases (w.disturbance .todos).refuses <;> rfl
  simp only [signal, open', heard]
  split <;> rfl

theorem ownedLoop_of_load (loaded : w.cell.load w.files = .ok (some l)) (mine : l.belongsTo session = true)
    (event : String) : ownedLoop w session event = (w, some l) := by
  simp only [ownedLoop, loaded, mine, if_true]

/-- A turn of a loop that can be read: the file is removed, or replaced if it can be, and the rest follows. -/
theorem turn_of_load (loaded : w.cell.load w.files = .ok (some l)) (running : w.isStopped session = false)
    (sig : Signal) :
    turn s w session sig =
      match l.advance session sig s.maxIgnoredCompletionCycles false with
      | (none, t) => (conclude s (w.put none) session t, none)
      | (some next, t) =>
        match w.cell.save next w.files with
        | (.ok (), files) => (conclude s { w with files } session t, none)
        | (.error fault, files) => ({ w with files }, some fault) := by
  simp only [turn, LoopCell.update, loaded, running]
  cases l.advance session sig s.maxIgnoredCompletionCycles false with
  | mk next t =>
    cases next with
    | none =>
      simp only [LoopCell.clear_of_load loaded]
      rfl
    | some next =>
      dsimp only
      cases w.cell.save next w.files with
      | mk result files =>
        cases result with
        | ok done => rfl
        | error fault => rfl

theorem turn_of_offers (offers : w.Offers l) (running : w.isStopped session = false) (sig : Signal) :
    turn s w session sig =
      let (next, t) := l.advance session sig s.maxIgnoredCompletionCycles false
      (conclude s (w.put next) session t, none) := by
  rw [turn_of_load offers.loaded running]
  cases l.advance session sig s.maxIgnoredCompletionCycles false with
  | mk next t =>
    cases next with
    | none => rfl
    | some next =>
      simp only [offers.ready.save offers.free next]
      rfl

/-- A session whose loop can be read, and whose history is told, takes a turn. -/
theorem onIdle_of_told (handsOff : w.HandsOff) (undisturbed : w.Undisturbed)
    (loaded : w.cell.load w.files = .ok (some l)) (mine : l.belongsTo session = true) {account : Account}
    (told : told? w session = some account) : onIdle s w session = turn s w session (heard l account) := by
  unfold told? at told
  split at told
  · cases told
  next answered =>
    simp only [Bool.or_eq_true, not_or, Bool.not_eq_true] at answered
    obtain ⟨running, taken⟩ := answered
    obtain ⟨history, known, rfl⟩ := Option.map_eq_some_iff.1 told
    have asked : w.ask .messages session (·.messages) = (w, .ok history.messages) := by
      simp only [ask_eq handsOff undisturbed, taken, Host.snapshot, known]
      rfl
    simp only [onIdle, ownedLoop_of_load loaded mine, running, asked,
      signal_eq handsOff undisturbed known, Bool.false_eq_true, if_false]

theorem onIdle_of_untold (handsOff : w.HandsOff) (undisturbed : w.Undisturbed)
    (loaded : w.cell.load w.files = .ok (some l)) (mine : l.belongsTo session = true)
    (untold : told? w session = none) : Quiet w (onIdle s w session).1 := by
  simp only [onIdle, ownedLoop_of_load loaded mine]
  split
  · exact .remark _ _
  next running =>
    unfold told? at untold
    split at untold
    next silent =>
      have refused : (w.disturbance .messages).refuses = true := by simpa [running] using silent
      simp only [ask_eq handsOff undisturbed, refused, if_true]
      exact .remark _ _
    next answered =>
      have taken : (w.disturbance .messages).refuses = false := by simpa [running] using answered
      have unknown := Option.map_eq_none_iff.1 untold
      simp only [ask_eq handsOff undisturbed, taken, Host.snapshot, unknown]
      exact .remark _ _

theorem request_eq (handsOff : w.HandsOff) (undisturbed : w.Undisturbed) (c : HostCall) (a : Action) :
    w.request c a = if (w.disturbance c).refuses then (w, some (.host (c.name ++ " unavailable")))
      else ({ w with host := w.host.push a }, none) := by
  simp only [request, call_of_undisturbed handsOff undisturbed]
  cases (w.disturbance c).refuses <;> rfl

theorem inject_outcome (handsOff : w.HandsOff) (undisturbed : w.Undisturbed) (apart : w.Apart)
    (running : w.isStopped session = false) (l : Loop) :
    FileTree.Spares w.loopPlace w.files (inject w session l).files ∧
    promptsTo session (inject w session l).host.effects =
      promptsTo session w.host.effects ++
        if (w.disturbance .prompt).refuses then [] else [l.continuationPrompt] := by
  simp only [inject, running, Bool.false_eq_true, if_false, request_eq handsOff undisturbed]
  cases (w.disturbance .prompt).refuses with
  | true =>
    have still : Quiet w (remark w .skip "prompt_failed" idle session) := .remark _ _
    refine ⟨still.files undisturbed apart, (still.prompts session).trans ?_⟩
    exact (List.append_nil _).symm
  | false =>
    let sent := { w with host := w.host.push (.sendPrompt session l.continuationPrompt) }
    have still : Quiet sent (remark sent .inject "continuation_sent" idle session) := .remark _ _
    refine ⟨still.files undisturbed apart, (still.prompts session).trans ?_⟩
    simp [sent, Host.push, promptsTo, Action.promptTo?]

/-- What follows from a turn spares the loop's file, and the session is prompted if the loop goes on and
the host takes the prompt. -/
theorem conclude_outcome (handsOff : w.HandsOff) (undisturbed : w.Undisturbed) (apart : w.Apart)
    (running : w.isStopped session = false) (t : Turn) :
    FileTree.Spares w.loopPlace w.files (conclude s w session t).files ∧
    promptsTo session (conclude s w session t).host.effects =
      promptsTo session w.host.effects ++
        if (w.disturbance .prompt).refuses then [] else t.prompt?.toList := by
  have quiet : t.prompt? = none → Quiet w (conclude s w session t) := by
    intro silent
    cases t with
    | notOwned => exact .refl w
    | stopped => exact .remark _ _
    | completed iteration => exact (Quiet.remark _ _).trans (notify_quiet _ _ _ _ _ _)
    | capReached iteration maxIterations => exact (Quiet.remark _ _).trans (notify_quiet _ _ _ _ _ _)
    | continued l ignored => cases silent
  cases t with
  | continued l ignored =>
    let noted := if ignored then remark w .state "completion_ignored" idle session else w
    have first : Quiet w noted := by
      unfold noted
      split
      · exact .remark _ _
      · exact .refl w
    have spared := first.files undisturbed apart
    have place : noted.loopPlace = w.loopPlace := first.toSteady.loopPlace
    obtain ⟨files, sent⟩ := inject_outcome (first.handsOff handsOff) (first.undisturbed undisturbed)
      (first.toSteady.apart apart) ((first.isStopped handsOff session).trans running) l
    rw [place] at files
    rw [first.prompts, first.disturbance] at sent
    exact ⟨spared.trans files, sent⟩
  | _ =>
    have still := quiet rfl
    refine ⟨still.files undisturbed apart, ?_⟩
    rw [still.prompts]
    split <;> simp [Turn.prompt?]

theorem ownedLoop_of_other (owner : ∀ l, w.cell.load w.files = .ok (some l) → l.belongsTo session = false)
    (event : String) : Quiet w (ownedLoop w session event).1 ∧ (ownedLoop w session event).2 = none := by
  refine ⟨ownedLoop_quiet w session event, ?_⟩
  unfold ownedLoop
  split
  next l loaded => simp only [owner l loaded, Bool.false_eq_true, if_false]
  · rfl
  · rfl

theorem onIdle_of_other
    (owner : ∀ l, w.cell.load w.files = .ok (some l) → l.belongsTo session = false) :
    Quiet w (onIdle s w session).1 := by
  obtain ⟨quiet, nobody⟩ := ownedLoop_of_other owner idle
  unfold onIdle
  split
  next same =>
    rw [same] at quiet
    exact quiet
  next same =>
    rw [same] at nobody
    cases nobody

/-- The file is taken away if it belongs to the session or to nobody; otherwise it is left alone. -/
theorem clearFor_cases (w : World) (session event reason : String) :
    Quiet w (clearFor w session event reason).1 ∨
      ∃ text, w.files.content? w.loopPlace = some text ∧ w.cell.Clears session text ∧
        clearFor w session event reason = (remark (w.put none) .state reason event session, none) := by
  rcases w.cell.clearSession_cases session w.files with untouched | ⟨text, stands, clears, cleared⟩
  · left
    unfold clearFor
    split
    all_goals
      next same =>
        rw [same] at untouched
        cases untouched
        first | exact .refl w | exact .remark _ _
  · refine .inr ⟨text, stands, clears, ?_⟩
    simp only [clearFor, cleared]
    rfl

theorem clearFor_of_vacant (vacant : w.Vacant) (session event reason : String) :
    Quiet w (clearFor w session event reason).1 := by
  rcases clearFor_cases w session event reason with quiet | ⟨text, stands, -, -⟩
  · exact quiet
  · cases vacant.symm.trans stands

theorem clearFor_of_stores (stores : w.Stores l) (session event reason : String) :
    clearFor w session event reason =
      if l.session = session then (remark (w.put none) .state reason event session, none)
      else (w, none) := by
  have cleared := LoopCell.clear_of_load stores.offers.loaded
  simp only [clearFor, LoopCell.clearSession, stores.offers.loaded]
  by_cases mine : l.session = session
  · simp only [if_pos mine, cleared]
    rfl
  · simp only [if_neg mine]

theorem handle_of_vacant (vacant : w.Vacant) (out : e.Output) :
    Quiet w (handle s words e out w).state := by
  rcases handle_cases s words e out w with ⟨session, -, same⟩ | ⟨session, event, reason, -, same⟩ | same
  · rw [same]
    exact onIdle_of_other fun l loaded => absurd loaded (vacant.load l)
  · rw [same]
    exact clearFor_of_vacant vacant session event reason
  · rw [same]
    exact .refl w

/-- Events of other sessions, and those of the loop's own that are no turn and no end, leave it alone. -/
theorem handle_elsewhere (stores : w.Stores l) {out : e.Output} (busy : ¬IdleOf l.session e)
    (kept : words.discards l.session e out = false) : Quiet w (handle s words e out w).state := by
  rcases handle_cases s words e out w with
    ⟨session, gone, same⟩ | ⟨session, event, reason, discarded, same⟩ | same
  · have other : l.session ≠ session := fun here => busy (here ▸ gone)
    rw [same]
    refine onIdle_of_other fun l' loaded => ?_
    cases stores.offers.loaded.symm.trans loaded
    simp [Loop.belongsTo, other]
  · have other : l.session ≠ session := by
      rintro rfl
      cases kept.symm.trans discarded
    simp only [same, handled, clearFor_of_stores stores, if_neg other]
    exact .refl w
  · rw [same]
    exact .refl w

/-- A stop command of the loop's session, or the end of the session, takes the file away. -/
theorem handle_discards (stores : w.Stores l) {out : e.Output}
    (discarded : words.discards l.session e out = true) :
    ∃ event reason, (handle s words e out w).state = remark (w.put none) .state reason event l.session := by
  obtain ⟨event, reason, same⟩ := handle_of_discards s discarded
  refine ⟨event, reason, ?_⟩
  simp only [same, handled, clearFor_of_stores stores, if_true]

end ContinuationPolicy

end AgentHooks
