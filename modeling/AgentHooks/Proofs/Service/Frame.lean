import AgentHooks.Proofs.Policy.Frame
import AgentHooks.Proofs.Service.Progress

/-! What one dispatch can do to the loop's file and which prompts it can send, whatever the file holds. Either
the loop is passed by, or its file is taken away at the end of a session, or a session's loop takes a turn. -/

namespace AgentHooks.Service

open World ContinuationPolicy

/-- What a dispatch comes to for the loop. -/
inductive Outcome (settings : Settings) (a : Announcement) (conduct : Conduct) (before after : World) :
    Prop where
  | passed (passes : Passes before after)
    (idle : ContinuationPolicy.id ∈ (dispatcher settings).ids → ∀ session l account,
      (opening a conduct before).cell.load (opening a conduct before).files = .ok (some l) →
      l.belongsTo session = true → told? session before (.dispatch a conduct) ≠ some account)
  | cleared {session : String} {content : Content} (ends : discards settings session (.dispatch a conduct) = true)
    (stands : before.loopContent? = some content) (clears : before.cell.Clears session content) (gone : after.Vacant)
    (silent : ∀ other, promptsTo other after.host.effects = promptsTo other before.host.effects)
  | turned {session : String} {l : Loop} {account : Account} {next : Option Loop} {t : Turn}
    (loaded : (opening a conduct before).cell.load (opening a conduct before).files = .ok (some l))
    (mine : l.belongsTo session = true) (told : told? session before (.dispatch a conduct) = some account)
    (advanced : l.advance session (heard l account) settings.autopilot.maxIgnoredCompletionCycles false =
      (next, t))
    (took : Took session (opening a conduct before) after next)

variable {settings : Settings} {w : World} {a : Announcement} {conduct : Conduct}

theorem opening_passes (a : Announcement) (undisturbed : ∀ c, conduct.rewrites c = none) (apart : w.Apart) :
    Passes w (opening a conduct w) :=
  have opened := opening_quiet a conduct w
  ⟨opened.now, opened.loopFile, opening_spares a undisturbed apart, opened.prompts⟩

theorem dispatch_idle_outcome (looping : ContinuationPolicy.id ∈ (dispatcher settings).ids)
    (undisturbed : ∀ c, conduct.rewrites c = none) (apart : w.Apart) {session : String}
    (gone : IdleOf session a.event) :
    Outcome settings a conduct w (dispatch settings a conduct w).state := by
  have alone := opening_undisturbed (a := a) undisturbed w
  have free := opening_apart a conduct apart
  have last := dispatch_onIdle looping gone conduct w
  rcases onIdle_cases (s := settings.autopilot) (opening_handsOff a conduct w) alone free session with
    ⟨quiet, nobody⟩ | ⟨l, account, next, t, loaded, mine, told, advanced, took⟩
  · have passes := Passes.of_quiet alone free (quiet.trans last)
    refine .passed ((opening_passes a undisturbed apart).trans passes) ?_
    intro _ other l account loaded mine told
    have same := idle_unique gone (idle_of_told told)
    subst same
    rw [told?_of_idle gone] at told
    exact nobody l account loaded mine told
  · rw [← told?_of_idle gone] at told
    refine .turned loaded mine told advanced (took.trans ?_)
    have acts := onIdle_actsFor settings.autopilot (opening a conduct w) session
    exact .of_quiet (acts.undisturbed alone) (acts.apart free) last

theorem dispatch_busy_outcome (looping : ContinuationPolicy.id ∈ (dispatcher settings).ids)
    (undisturbed : ∀ c, conduct.rewrites c = none) (apart : w.Apart)
    (busy : ∀ session, ¬IdleOf session a.event) :
    Outcome settings a conduct w (dispatch settings a conduct w).state := by
  obtain ⟨x, upTo, unread, onwards⟩ := dispatch_split looping a conduct w
  have alone := opening_undisturbed (a := a) undisturbed w
  have free := opening_apart a conduct apart
  have reached := (opening_passes a undisturbed apart).trans (.of_moves alone free upTo)
  have alone' := upTo.undisturbed alone
  have free' := upTo.apart free
  rcases handle_busy_cases settings.autopilot (.ofSettings settings.stopGuard) busy x.1 x.2 with
    quiet | ⟨session, content, reason, event, ends, stands, clears, gone⟩
  · refine .passed (reached.trans (.of_moves alone' free' ((Moves.of_quiet quiet).trans onwards))) ?_
    intro _ session l account _ _ told
    exact busy session (idle_of_told told)
  · have own : ((ContinuationPolicy.hook settings).handle a.event x.1 x.2).state = _ := gone
    have cut : Moves (x.2.put none) (dispatch settings a conduct w).state := by
      rw [own] at onwards
      exact (Moves.of_quiet (.remark _ _)).trans onwards
    have still := Passes.of_moves (put_silent x.2 none |>.undisturbed alone') (free'.put none) cut
    rw [unread (StopWords.elsewhere_of_discards ends)] at ends
    refine .cleared ends (reached.loopContent? ▸ stands) (reached.cell ▸ clears) ?_ ?_
    · exact (put_vacant stands).of_spares still.loopFile still.files
    · intro other
      exact (still.prompts other).trans (reached.prompts other)

theorem dispatch_outcome (settings : Settings) (a : Announcement)
    (undisturbed : ∀ c, conduct.rewrites c = none) (apart : w.Apart) :
    Outcome settings a conduct w (dispatch settings a conduct w).state := by
  by_cases looping : ContinuationPolicy.id ∈ (dispatcher settings).ids
  · by_cases gone : ∃ session, IdleOf session a.event
    · obtain ⟨session, gone⟩ := gone
      exact dispatch_idle_outcome looping undisturbed apart gone
    · exact dispatch_busy_outcome looping undisturbed apart fun session here => gone ⟨session, here⟩
  · have passes := Passes.of_moves (opening_undisturbed undisturbed w) (opening_apart a conduct apart)
      (dispatch_unlooped looping a conduct w)
    exact .passed ((opening_passes a undisturbed apart).trans passes) fun here => absurd here looping

theorem dispatch_loopPlace (settings : Settings) (a : Announcement) (conduct : Conduct) (w : World) :
    (dispatch settings a conduct w).state.loopPlace = w.loopPlace := by
  rw [dispatch_state]
  let Kept (x : a.event.Output × World) : Prop := x.2.loopPlace = w.loopPlace
  have opens : Kept (a.output, opening a conduct w) := (opening_quiet a conduct w).toSteady.loopPlace
  refine Dispatcher.visits_keep (P := Kept) _ ?_ opens
  intro h active x same
  exact (visit_loopPlace (mem_of_active active) a.event x).trans same

/-- What the loop's file holds, text or not, stays as it is at every event but two kinds. When a session goes idle that
is not stopped and whose history is told, its active loop goes or is written down one iteration on, which is counted in
64 bits, with no other change than the count of ignored completions; it is one of these unless it cannot be written. And
at the end of a session, or a stop command of it, a file may go that holds its loop, or holds no loop and names the
session or nobody. -/
theorem dispatch_frame (settings : Settings) (a : Announcement)
    (undisturbed : ∀ c, conduct.rewrites c = none) (apart : w.Apart) :
    let u := opening a conduct w
    let v := (occur settings w (.dispatch a conduct)).1
    let next (l : Loop) (history : Snapshot) : Loop := { l with
      iteration := (l.iteration + 1) % Loop.word
      ignoredCompletions :=
        (heard l ⟨history, !conduct.refuses .todos⟩).streak l.ignoredCompletions }
    v.loopPlace = w.loopPlace ∧
    (v.loopContent? = w.loopContent? ∨
      (∃ session l history, IdleOf session a.event ∧ w.stored? = some l ∧ l.belongsTo session = true ∧
        w.isStopped session = false ∧ w.host.context.snapshot? session = some history ∧
        (v.loopContent? = none ∨ v.loopContent? = some (.text (w.cell.render (next l history))))) ∨
      ∃ session content, discards settings session (.dispatch a conduct) = true ∧ w.loopContent? = some content ∧
        w.cell.Clears session content ∧ v.loopContent? = none) ∧
    ∀ session l history, ContinuationPolicy.id ∈ (dispatcher settings).ids → IdleOf session a.event →
      w.cell.load w.files = .ok (some l) → l.belongsTo session = true → w.isStopped session = false →
      conduct.refuses .messages = false → w.host.context.snapshot? session = some history →
      v.loopContent? = none ∨ v.loopContent? = some (.text (w.cell.render (next l history))) ∨
        v.loopContent? = w.loopContent? ∧ (u.cell.save (next l history) u.files).1.isOk = false := by
  intro u v next
  have opened : Passes w u := opening_passes a undisturbed apart
  refine ⟨dispatch_loopPlace settings a conduct w, ?_, ?_⟩
  · cases dispatch_outcome settings a undisturbed apart with
    | passed passes idle => exact .inl passes.loopContent?
    | @cleared session content ends stands clears gone silent =>
      exact .inr (.inr ⟨session, content, ends, stands, clears, gone⟩)
    | @turned session l account following t loaded mine told advanced took =>
      have stored : w.stored? = some l := opened.stored? ▸ stored_of_load loaded
      have gone := idle_of_told told
      obtain ⟨running, -, history, known, rfl⟩ := (told?_eq_some gone).1 told
      obtain ⟨active, rfl⟩ := Loop.belongsTo_iff.1 mine
      rcases took.loopContent? active advanced with ended | wentOn | ⟨same, -⟩
      · exact .inr (.inl ⟨l.session, l, history, gone, stored, mine, running, known, .inl ended⟩)
      · exact .inr (.inl ⟨l.session, l, history, gone, stored, mine, running, known, .inr wentOn⟩)
      · exact .inl (same.trans opened.loopContent?)
  · intro session l history looping gone loaded mine running answers known
    have found := opened.load loaded
    have told := (told?_eq_some gone).2 ⟨running, answers, history, known, rfl⟩
    cases dispatch_outcome settings a undisturbed apart with
    | passed passes idle => exact absurd told (idle looping session l _ found mine)
    | @cleared other content ends stands clears gone' silent =>
      cases (kept_of_idle gone a.output).symm.trans ends
    | @turned other l' account' following t loaded' mine' told' advanced took =>
      cases idle_unique gone (idle_of_told told')
      cases found.symm.trans loaded'
      cases told.symm.trans told'
      obtain ⟨active, rfl⟩ := Loop.belongsTo_iff.1 mine
      rw [← opened.loopContent?]
      exact took.loopContent? active advanced

/-- A session is over, and the loop's file holds a byte that no text holds. -/
theorem dispatch_frame_unreadable :
    let held := Content.ofBytes ⟨#[255]⟩
    let w := (World.start {} ⟨"/project"⟩ .empty ⟨2024, 5, 1, 12, 0, 0, 0⟩ ⟨[], 0⟩).replaceLoop (some (.file held))
    let ended : Announcement := ⟨.lifecycle ⟨"session.deleted", .object [("sessionID", .string "s")]⟩, ()⟩
    let v := (occur {} w (.dispatch ended .calm)).1
    held.text? = none ∧ w.Apart ∧ w.loopContent? = some held ∧ w.stored? = none ∧ v.loopPlace = w.loopPlace ∧
      v.loopContent? = none ∧ ∃ session, w.cell.Clears session held := by
  intro held w ended v
  have garbled : held.text? = none := by decide +kernel
  have apart : w.Apart := by
    intro p kept
    simp [w, World.start, World.replaceLoop] at kept
  have stood : w.loopContent? = some held := by decide +kernel
  have unread : w.stored? = none := by decide +kernel
  have left : v.loopContent? = none := by
    change (dispatch {} ended .calm w).state.loopContent? = none
    rw [dispatch_state, hooks_of_unordered rfl rfl]
    decide +kernel
  have calm : ∀ c, Conduct.calm.rewrites c = none := fun _ => rfl
  obtain ⟨place, frame, -⟩ := dispatch_frame {} ended calm apart
  refine ⟨garbled, apart, stood, unread, place, left, ?_⟩
  rcases frame with same | ⟨session, l, history, -, stored, -⟩ | ⟨session, content, -, stands, clears, -⟩
  · cases left.symm.trans (same.trans stood)
  · cases unread.symm.trans stored
  · cases stood.symm.trans stands
    exact ⟨session, clears⟩

end AgentHooks.Service
