import AgentHooks.Proofs.Service.Latch
import AgentHooks.Proofs.Service.Progress

/-! What follows a pause. The monitor latches a session and leaves its loop alone, and no hook but the one
for stop commands opens a latch. So a message lifts a pause if that hook runs, and nothing does otherwise. -/

namespace AgentHooks.Service

open World ContinuationPolicy

variable {settings : Settings} {w : World} {session : String} {h : Hook World}

def Unlatched (settings : Settings) (session : String) (w : World) (run : List Occurrence) : Prop :=
  ∀ before o later, run = before ++ o :: later → latches settings session (after settings w before) o = false

theorem after_running (named : session ≠ "") (guarded : StopPolicy.id ∈ (dispatcher settings).ids)
    {run : List Occurrence} (running : w.isStopped session = false)
    (unlatched : Unlatched settings session w run) :
    (after settings w run).isStopped session = false := by
  rw [Bool.eq_false_iff]
  intro held
  rcases (after_isStopped named guarded w run).1 held with
    ⟨before, o, later, split, latched, -⟩ | ⟨held', -⟩
  · cases (unlatched before o later split).symm.trans latched
  · cases running.symm.trans held'

/-- A message lets its session go on, unless it repeats a stop command. -/
theorem occur_of_message (guarded : StopPolicy.id ∈ (dispatcher settings).ids) {turn : ChatTurn}
    (named : turn.session ≠ "") {parts : Composition}
    (plain : (StopWords.ofSettings settings.stopGuard).matchesChat parts = false) (conduct : Conduct)
    (w : World) :
    (occur settings w (.dispatch ⟨.chatMessage turn, parts⟩ conduct)).1.isStopped turn.session =
      false := by
  have released : releases settings turn.session (.dispatch ⟨.chatMessage turn, parts⟩ conduct) = true := by
    simp [releases, StopWords.resumes, plain]
  rw [occur_isStopped named guarded, released]
  rfl

/-- A pause is set by the monitor after a tool call, and all that it touches of the loop is the latch. -/
theorem occur_of_autoPauses {a : Announcement} {conduct : Conduct}
    (undisturbed : ∀ c, conduct.rewrites c = none) (apart : w.Apart)
    (paused : autoPauses settings session conduct w a = true) :
    let v := (occur settings w (.dispatch a conduct)).1
    v.isStopped session = true ∧ FileTree.Spares w.loopPlace w.files v.files := by
  rcases a with ⟨e, out⟩
  cases e with
  | toolAfter call =>
    have moves : Moves (opening ⟨.toolAfter call, out⟩ conduct w)
        (dispatch settings ⟨.toolAfter call, out⟩ conduct w).state :=
      dispatch_moves settings _ conduct w fun x _ _ => .refl x.2
    have opens := opening_spares ⟨.toolAfter call, out⟩ undisturbed apart
    refine ⟨?_, opens.trans ?_⟩
    · change (dispatch settings ⟨.toolAfter call, out⟩ conduct w).state.isStopped session = true
      rw [dispatch_toolAfter_isStopped, paused, Bool.true_or]
    · have spared := moves.files (opening_undisturbed undisturbed w)
        (opening_apart ⟨.toolAfter call, out⟩ conduct apart)
      rw [(opening_quiet ⟨.toolAfter call, out⟩ conduct w).toSteady.loopPlace] at spared
      exact spared
  | _ => cases paused

theorem visit_unguarded (member : h ∈ allHooks settings) (other : h.id ≠ StopPolicy.id) {e : Event}
    (x : e.Output × World) (handsOff : x.2.HandsOff) (held : x.2.isStopped session = true) :
    ((dispatcher settings).visit e x h).2.HandsOff ∧
      ((dispatcher settings).visit e x h).2.isStopped session = true := by
  by_cases mover : h.id = latchHook e
  · cases e with
    | toolAfter call =>
      have same : h = PressurePolicy.hook settings := eq_of_id member (by simp [allHooks]) mover
      subst same
      have moves := PressurePolicy.onToolAfter_moves settings.pressure call.session x.1 x.2
      have moved := moves.handsOff handsOff
      have quiet := visit_quiet settings (.toolAfter call) x (PressurePolicy.hook settings)
      refine ⟨quiet.handsOff moved, (quiet.isStopped moved session).trans ?_⟩
      rcases PressurePolicy.onToolAfter_isStopped settings.pressure call.session x.1 handsOff session with
        still | ⟨-, set⟩
      · exact still.trans held
      · exact set
    | _ => exact absurd mover other
  · have steady := visit_steady member mover x
    exact ⟨steady.handsOff handsOff, (steady.isStopped handsOff session).trans held⟩

theorem occur_unguarded (unguarded : StopPolicy.id ∉ (dispatcher settings).ids)
    (held : w.isStopped session = true) (o : Occurrence) :
    (occur settings w o).1.isStopped session = true := by
  cases o with
  | dispatch a conduct =>
    let Held (x : a.event.Output × World) : Prop := x.2.HandsOff ∧ x.2.isStopped session = true
    have keeps : ∀ h ∈ (dispatcher settings).hooks, ∀ x, Held x →
        Held ((dispatcher settings).visit a.event x h) := by
      intro h turn x ⟨handsOff, held⟩
      have other : h.id ≠ StopPolicy.id := fun same => unguarded (List.mem_map.2 ⟨h, turn, same⟩)
      exact visit_unguarded (mem_of_active turn) other x handsOff held
    have opened := opening_quiet a conduct w
    have opens : Held (a.output, opening a conduct w) :=
      ⟨opened.handsOff fun _ => rfl, (opened.isStopped (fun _ => rfl) session).trans held⟩
    change (dispatch settings a conduct w).state.isStopped session = true
    rw [dispatch_state]
    exact (Dispatcher.visits_keep _ keeps opens).2
  | tell context => exact held
  | rewrite node => exact held
  | clock now => exact held

theorem occur_stopped_prompts (settled : Settled w) (held : w.isStopped session = true) (o : Occurrence) :
    promptsTo session (occur settings w o).2 = [] := by
  cases o with
  | dispatch a conduct =>
    change promptsTo session (dispatch settings a conduct w).state.host.effects = []
    rw [dispatch_stopped_prompts settings a conduct held, settled]
    rfl
  | tell context => rfl
  | rewrite node => rfl
  | clock now => rfl

/-- Without the hook for stop commands a latch lasts, whatever happens. -/
theorem after_unguarded (unguarded : StopPolicy.id ∉ (dispatcher settings).ids) (settled : Settled w)
    (held : w.isStopped session = true) (run : List Occurrence) :
    (after settings w run).isStopped session = true ∧ prompts settings w session run = [] := by
  induction run generalizing w with
  | nil => exact ⟨held, rfl⟩
  | cons o rest ih =>
    obtain ⟨held', silent⟩ := ih (occur_settled settings settled o) (occur_unguarded unguarded held o)
    refine ⟨held', ?_⟩
    rw [prompts_cons, occur_stopped_prompts settled held, silent]
    rfl

theorem named_of_autoPauses {a : Announcement} {conduct : Conduct}
    (paused : autoPauses settings session conduct w a = true) : session ≠ "" := by
  rcases a with ⟨e, out⟩
  cases e with
  | toolAfter call =>
    simp only [autoPauses, Bool.and_eq_true, beq_iff_eq, Bool.not_eq_true'] at paused
    obtain ⟨⟨⟨owner, -⟩, running⟩, held⟩ := paused
    intro blank
    have still : (PressurePolicy.onToolAfter settings.pressure call.session
        (ahead settings PressurePolicy.id ⟨.toolAfter call, out⟩ conduct w).output
        (ahead settings PressurePolicy.id ⟨.toolAfter call, out⟩ conduct w).state).2 =
        (ahead settings PressurePolicy.id ⟨.toolAfter call, out⟩ conduct w).state := by
      unfold PressurePolicy.onToolAfter
      rw [if_pos (owner.trans blank)]
    rw [still, running] at held
    cases held
  | _ => cases paused

/-- A session goes idle with a loop that has reason and room to go on: the host tells the history, the
latest text signals no completion, and the cap is not reached. -/
structure Unfinished (w : World) (session : String) (e : LifecycleEvent) (conduct : Conduct) (l : Loop) :
    Prop where
  kind : e.kind = idle
  about : e.session? = some session
  undisturbed : ∀ c, conduct.rewrites c = none
  answered : conduct.refuses .messages = false
  offers : w.Offers l
  valid : l.Valid
  mine : l.belongsTo session = true
  pending : ∃ history, w.host.context.snapshot? session = some history ∧
    heard l ⟨history, !conduct.refuses .todos⟩ = .pending
  room : l.canContinue = true
  word : l.maxIterations ≠ 0 ∨ l.iteration + 1 < Loop.word

theorem turns_of_unfinished (looping : ContinuationPolicy.id ∈ (dispatcher settings).ids)
    (small : settings.autopilot.maxIgnoredCompletionCycles < Loop.word) (settled : Settled w)
    (apart : w.Apart) (running : w.isStopped session = false) {e : LifecycleEvent} {conduct : Conduct}
    {l : Loop} (unfinished : Unfinished w session e conduct l) :
    Turns settings w session ⟨.lifecycle e, ()⟩ conduct (some (l.next .pending))
      (.continued (l.next .pending) false) := by
  obtain ⟨kind, about, undisturbed, answered, offers, valid, mine, ⟨history, known, pending⟩, room, -⟩ :=
    unfinished
  obtain ⟨active, rfl⟩ := Loop.belongsTo_iff.1 mine
  have gone : IdleOf l.session (.lifecycle e) := ⟨e, rfl, kind, about⟩
  have told : told? l.session w (.dispatch ⟨.lifecycle e, ()⟩ conduct) =
      some ⟨history, !conduct.refuses .todos⟩ :=
    (told?_eq_some gone).2 ⟨running, answered, history, known, rfl⟩
  apply occur_of_told looping small undisturbed settled apart offers valid active told
  rw [pending, Loop.advance_goesOn active (.inl rfl) room]
  rfl

/-- A pause and what becomes of it. It leaves the loop's file as it was. If the hook for stop commands runs,
the next message of the session that repeats no stop command lifts the pause, and unless something latches
the session again, its loop goes on when it next goes idle unfinished. If that hook does not run, the
session stays stopped and is not prompted any more, whatever happens. -/
theorem pause_lifted_iff_guarded (looping : ContinuationPolicy.id ∈ (dispatcher settings).ids)
    (small : settings.autopilot.maxIgnoredCompletionCycles < Loop.word) (settled : Settled w)
    (apart : w.Apart) {a : Announcement} {conduct : Conduct} (undisturbed : ∀ c, conduct.rewrites c = none)
    (paused : autoPauses settings session conduct w a = true) :
    let v := (occur settings w (.dispatch a conduct)).1
    v.isStopped session = true ∧ FileTree.Spares w.loopPlace w.files v.files ∧
    (StopPolicy.id ∈ (dispatcher settings).ids → ∀ between turn parts reply, turn.session = session →
      (StopWords.ofSettings settings.stopGuard).matchesChat parts = false →
      let u := after settings v (between ++ [.dispatch ⟨.chatMessage turn, parts⟩ reply])
      u.isStopped session = false ∧
      ∀ later, Unlatched settings session u later → ∀ e idling l,
        Unfinished (after settings u later) session e idling l →
        Turns settings (after settings u later) session ⟨.lifecycle e, ()⟩ idling
          (some (l.next .pending)) (.continued (l.next .pending) false)) ∧
    (StopPolicy.id ∉ (dispatcher settings).ids → ∀ run,
      (after settings v run).isStopped session = true ∧ prompts settings v session run = []) := by
  intro v
  obtain ⟨held, spared⟩ := occur_of_autoPauses undisturbed apart paused
  have named := named_of_autoPauses paused
  have settled' : Settled v := occur_settled settings settled (.dispatch a conduct)
  have apart' : v.Apart := occur_apart settings apart (.dispatch a conduct)
  refine ⟨held, spared, fun guarded between turn parts reply owner plain => ?_,
    fun unguarded run => after_unguarded unguarded settled' held run⟩
  subst owner
  intro u
  have running : u.isStopped turn.session = false := by
    change (after settings v _).isStopped turn.session = false
    rw [after_concat]
    exact occur_of_message guarded named plain reply _
  refine ⟨running, fun later unlatched e idling l unfinished => ?_⟩
  have settled'' : Settled (after settings u later) :=
    after_settled settings (after_settled settings settled' _) later
  have apart'' : (after settings u later).Apart :=
    after_apart settings (after_apart settings apart' _) later
  exact turns_of_unfinished looping small settled'' apart'' (after_running named guarded running unlatched)
    unfinished

/-- A session is paused on its first critical sample while the hook for stop commands is disabled. -/
theorem pause_lifted_iff_guarded_disabled :
    let settings : Settings :=
      { disabled := ⟨[StopPolicy.id]⟩
        pressure := { sampleCooldownToolCalls := 1, criticalPauseAfterEvents := 1 } }
    let now : Timestamp := ⟨2024, 5, 1, 12, 0, 0, 0⟩
    let file := "\x7b\"active\": true, \"sessionId\": \"s\"\x7d"
    let w := (World.start settings ⟨"/project"⟩ .empty now ⟨[.ok ⟨20000, 3⟩], 0⟩).replaceLoop
      (some (.file file))
    let call := ⟨.toolAfter ⟨"bash", "s", "c"⟩, .blank⟩
    let v := (occur settings w (.dispatch call .calm)).1
    StopPolicy.id ∉ (dispatcher settings).ids ∧ ContinuationPolicy.id ∈ (dispatcher settings).ids ∧
      autoPauses settings "s" .calm w call = true ∧
      ∀ run, (after settings v run).isStopped "s" = true ∧ prompts settings v "s" run = [] := by
  intro settings now file w call v
  have hooks : (dispatcher settings).hooks = [ContinuationPolicy.hook settings, PressurePolicy.hook settings,
      ContextPolicy.hook settings, CompactionPolicy.hook settings] := by
    rw [hooks_of_unordered rfl rfl]
    rfl
  have names : (dispatcher settings).ids =
      [ContinuationPolicy.id, PressurePolicy.id, ContextPolicy.id, CompactionPolicy.id] := by
    rw [Dispatcher.ids, hooks]
    rfl
  have unguarded : StopPolicy.id ∉ (dispatcher settings).ids := by
    rw [names]
    decide
  have looping : ContinuationPolicy.id ∈ (dispatcher settings).ids := by
    rw [names]
    decide
  have paused : autoPauses settings "s" .calm w call = true := by
    have first : ahead settings PressurePolicy.id call .calm w = .pass .blank (opening call .calm w) := by
      rw [ahead, hooks]
      rfl
    simp only [call, autoPauses] at first ⊢
    rw [first, names]
    decide +kernel
  have settled : Settled w := rfl
  have unaudited : settings.audit.enabled = false := rfl
  have apart : w.Apart :=
    occur_apart settings (start_apart unaudited ⟨"/project"⟩ .empty now ⟨[.ok ⟨20000, 3⟩], 0⟩)
      (.rewrite (some (.file file)))
  have lasts := pause_lifted_iff_guarded looping (by decide) settled apart (fun _ => rfl) paused
  exact ⟨unguarded, looping, paused, lasts.2.2.2 unguarded⟩

end AgentHooks.Service
