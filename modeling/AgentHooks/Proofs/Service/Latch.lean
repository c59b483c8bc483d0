import AgentHooks.Proofs.Service.Run

/-! The latch over runs. Two hooks set it, one of them also opens it, and a third one obeys it; at any
one event at most one of them can move it, whichever order they run in. So the latest event that sets or
opens it decides, and a latched session is not prompted. -/

namespace AgentHooks

open World

namespace PressurePolicy

theorem onToolAfter_isStopped (s : PressureSettings) (session : String) (out : ToolResult) {w : World}
    (handsOff : w.HandsOff) (other : String) :
    (onToolAfter s session out w).2.isStopped other = w.isStopped other ∨
      session = other ∧ (onToolAfter s session out w).2.isStopped other = true := by
  rcases onToolAfter_quiet_or s session out w with quiet | ⟨-, v, upTo, -, -, rest⟩
  · exact .inl (quiet.isStopped handsOff other)
  · have handsOff' : (v.stop session).HandsOff := upTo.handsOff handsOff
    rw [rest.isStopped handsOff', isStopped_stop]
    by_cases same : session = other
    · exact .inr ⟨same, by simp [same]⟩
    · apply Or.inl
      rw [beq_false_of_ne same, Bool.false_or]
      exact upTo.isStopped handsOff other

end PressurePolicy

namespace Service

variable {settings : Settings} {session : String} {w : World} {h : Hook World}

def latchHook : Event → String
  | .toolAfter _ => PressurePolicy.id
  | _ => StopPolicy.id

def ahead (settings : Settings) (id : String) (a : Announcement) (conduct : Conduct) (w : World) :
    Handled World a.event :=
  (dispatcher settings).runHooks a.event ((dispatcher settings).hooks.takeWhile (·.id != id)) a.output
    (opening a conduct w)

/-- Whether the pressure monitor, in its turn, pauses a running session after a tool call of it. -/
def autoPauses (settings : Settings) (session : String) (conduct : Conduct) (w : World) :
    Announcement → Bool
  | ⟨.toolAfter call, out⟩ =>
    let turn := ahead settings PressurePolicy.id ⟨.toolAfter call, out⟩ conduct w
    call.session == session && (dispatcher settings).ids.contains PressurePolicy.id &&
      !turn.state.isStopped session &&
      (PressurePolicy.onToolAfter settings.pressure call.session turn.output turn.state).2.isStopped
        session
  | _ => false

def latches (settings : Settings) (session : String) (w : World) : Occurrence → Bool
  | .dispatch a conduct =>
    (StopWords.ofSettings settings.stopGuard).stops session a.event a.output ||
      autoPauses settings session conduct w a
  | _ => false

/-- Whether an occurrence lets a session go on: a chat message of it that repeats no stop command, or its
end. -/
def releases (settings : Settings) (session : String) : Occurrence → Bool
  | .dispatch a _ => (StopWords.ofSettings settings.stopGuard).resumes session a.event a.output
  | _ => false

theorem visit_steady (member : h ∈ allHooks settings) {e : Event} (other : h.id ≠ latchHook e)
    (x : e.Output × World) : Steady x.2 ((dispatcher settings).visit e x h).2 := by
  refine Steady.trans ?_ (visit_quiet settings e x h).toSteady
  rcases mem_allHooks.1 member with rfl | rfl | rfl | rfl | rfl
  · cases e with
    | toolAfter call => exact .refl x.2
    | lifecycle e => exact absurd rfl other
    | toolBefore call => exact absurd rfl other
    | commandBefore command => exact absurd rfl other
    | chatMessage turn => exact absurd rfl other
    | messagesTransform request => exact absurd rfl other
  · exact ContinuationPolicy.handle_steady _ _ e x.1 x.2
  · refine (PressurePolicy.handle_quiet _ e x.1 x.2 fun call same => ?_).toSteady
    subst same
    exact other rfl
  · exact (ContextPolicy.handle_quiet _ e x.1 x.2).toSteady
  · exact (CompactionPolicy.handle_quiet _ e x.1 x.2).toSteady

theorem visits_steady {e : Event} {hooks : List (Hook World)}
    (others : ∀ h ∈ hooks, h ∈ allHooks settings ∧ h.id ≠ latchHook e) (x : e.Output × World) :
    Steady x.2 ((dispatcher settings).visits e hooks x).2 :=
  Dispatcher.visits_keep (P := fun y => Steady x.2 y.2) _
    (fun h turn y steady => steady.trans (visit_steady (others h turn).1 (others h turn).2 y))
    (.refl x.2)

theorem ahead_eq_visits {first rest : List (Hook World)}
    (arranged : (dispatcher settings).hooks = first ++ h :: rest)
    (others : ∀ k ∈ first, k ∈ allHooks settings ∧ k.id ≠ h.id) (a : Announcement) (conduct : Conduct)
    (w : World) :
    ahead settings h.id a conduct w =
      let before := (dispatcher settings).visits a.event first (a.output, opening a conduct w)
      .pass before.1 before.2 := by
  have front : (dispatcher settings).hooks.takeWhile (·.id != h.id) = first := by
    rw [arranged, List.takeWhile_append_of_pos fun k turn => by simpa using (others k turn).2]
    simp
  rw [ahead, front]
  exact Dispatcher.runHooks_eq_visits _ _ _ (fun k turn => tolerant_of_mem (others k turn).1) _ _

/-- After a finished tool call the latch is set if the monitor pauses the session, and left alone
otherwise. -/
theorem dispatch_toolAfter_isStopped (session : String) (call : ToolCall) (out : ToolResult)
    (conduct : Conduct) (w : World) :
    (dispatch settings ⟨.toolAfter call, out⟩ conduct w).state.isStopped session =
      (autoPauses settings session conduct w ⟨.toolAfter call, out⟩ || w.isStopped session) := by
  have opened := opening_quiet ⟨.toolAfter call, out⟩ conduct w
  have handsOff : (opening ⟨.toolAfter call, out⟩ conduct w).HandsOff := opened.handsOff fun _ => rfl
  have same : (opening ⟨.toolAfter call, out⟩ conduct w).isStopped session = w.isStopped session :=
    opened.isStopped (fun _ => rfl) session
  rw [dispatch_state]
  by_cases active : PressurePolicy.id ∈ (dispatcher settings).ids
  · have member : PressurePolicy.hook settings ∈ allHooks settings := by simp [allHooks]
    obtain ⟨first, rest, arranged, early, late⟩ := hooks_split (active_of_id member active)
    -- The monitor's turn is the only one that moves the latch: it stays as it is up to that turn and from there on.
    let before := (dispatcher settings).visits (.toolAfter call) first
      (out, opening ⟨.toolAfter call, out⟩ conduct w)
    let turn := PressurePolicy.onToolAfter settings.pressure call.session before.1 before.2
    have waiting : ahead settings PressurePolicy.id ⟨.toolAfter call, out⟩ conduct w =
        .pass before.1 before.2 := ahead_eq_visits arranged early ⟨.toolAfter call, out⟩ conduct w
    have first_steady : Steady _ before.2 := visits_steady early _
    have rest_steady : Steady turn.2 _ := visits_steady late (e := .toolAfter call) turn
    have held : before.2.isStopped session = w.isStopped session := by
      rw [first_steady.isStopped handsOff, same]
    have moved := PressurePolicy.onToolAfter_isStopped settings.pressure call.session before.1
      (first_steady.handsOff handsOff) session
    have handsOff' : turn.2.HandsOff :=
      (PressurePolicy.onToolAfter_moves _ _ _ _).handsOff (first_steady.handsOff handsOff)
    calc
      _ = turn.2.isStopped session := by
        rw [arranged, Dispatcher.visits_append]
        exact rest_steady.isStopped handsOff' session
      _ = _ := by
        have on : (dispatcher settings).ids.contains PressurePolicy.id = true := by simpa using active
        simp only [autoPauses, waiting, Handled.pass, on]
        rcases moved with still | ⟨owner, set⟩
        · simp [turn, still, held]
        · subst owner
          simp [turn, set, held]
  · have others : ∀ k ∈ (dispatcher settings).hooks, k ∈ allHooks settings ∧ k.id ≠ PressurePolicy.id :=
      fun k turn => ⟨mem_of_active turn, fun named => active (List.mem_map.2 ⟨k, turn, named⟩)⟩
    have rested : Steady (opening ⟨.toolAfter call, out⟩ conduct w) _ :=
      visits_steady others (e := .toolAfter call) (out, opening ⟨.toolAfter call, out⟩ conduct w)
    rw [rested.isStopped handsOff, same]
    simp [autoPauses, active]

/-- At any other event the stop commands decide, and the words that let a session go on. -/
theorem dispatch_elsewhere_isStopped (named : session ≠ "")
    (guarded : StopPolicy.id ∈ (dispatcher settings).ids) {a : Announcement}
    (elsewhere : ∀ call, a.event ≠ .toolAfter call) (conduct : Conduct) (w : World) :
    (dispatch settings a conduct w).state.isStopped session =
      ((StopWords.ofSettings settings.stopGuard).stops session a.event a.output ||
        !(StopWords.ofSettings settings.stopGuard).resumes session a.event a.output &&
          w.isStopped session) := by
  have opened := opening_quiet a conduct w
  have handsOff : (opening a conduct w).HandsOff := opened.handsOff fun _ => rfl
  have same : (opening a conduct w).isStopped session = w.isStopped session :=
    opened.isStopped (fun _ => rfl) session
  have mover : latchHook a.event = StopPolicy.id := by
    cases event : a.event with
    | toolAfter call => exact absurd event (elsewhere call)
    | _ => rfl
  have member : StopPolicy.hook settings ∈ allHooks settings := by simp [allHooks]
  obtain ⟨first, rest, arranged, early, late⟩ := hooks_split (active_of_id member guarded)
  change ∀ k ∈ first, k ∈ allHooks settings ∧ k.id ≠ StopPolicy.id at early
  change ∀ k ∈ rest, k ∈ allHooks settings ∧ k.id ≠ StopPolicy.id at late
  rw [← mover] at early late
  let before := (dispatcher settings).visits a.event first (a.output, opening a conduct w)
  let turn := (dispatcher settings).visit a.event before (StopPolicy.hook settings)
  have first_steady : Steady _ before.2 := visits_steady early _
  have unread : before.1 = a.output := visits_output (fun k turn => (early k turn).1) elsewhere _
  have rest_steady : Steady turn.2 _ := visits_steady late turn
  have handsOff' : before.2.HandsOff := first_steady.handsOff handsOff
  have own := visit_quiet settings a.event before (StopPolicy.hook settings)
  have moved : ((StopPolicy.hook settings).handle a.event before.1 before.2).state.HandsOff :=
    (StopPolicy.handle_moves _ a.event before.1 before.2).handsOff handsOff'
  calc
    _ = turn.2.isStopped session := by
      rw [dispatch_state, arranged, Dispatcher.visits_append]
      exact rest_steady.isStopped (own.handsOff moved) session
    _ = ((StopPolicy.hook settings).handle a.event before.1 before.2).state.isStopped session :=
      own.isStopped moved session
    _ = _ := by
      rw [← same, ← first_steady.isStopped handsOff, ← unread]
      exact StopPolicy.handle_isStopped _ a.event before.1 before.2 named

theorem occur_isStopped (named : session ≠ "") (guarded : StopPolicy.id ∈ (dispatcher settings).ids)
    (w : World) (o : Occurrence) :
    (occur settings w o).1.isStopped session =
      (latches settings session w o || !releases settings session o && w.isStopped session) := by
  cases o with
  | dispatch a conduct =>
    rcases a with ⟨e, out⟩
    by_cases finished : ∃ call, e = .toolAfter call
    · obtain ⟨call, rfl⟩ := finished
      exact dispatch_toolAfter_isStopped session call out conduct w
    · have elsewhere : ∀ call, e ≠ .toolAfter call := fun call same => finished ⟨call, same⟩
      have unpaused : autoPauses settings session conduct w ⟨e, out⟩ = false := by
        unfold autoPauses
        split
        next call out' same => exact absurd (congrArg Announcement.event same) (elsewhere call)
        next => rfl
      simp only [latches, releases, unpaused, Bool.or_false]
      exact dispatch_elsewhere_isStopped named guarded elsewhere conduct w
  | tell context => rfl
  | rewrite node => rfl
  | clock now => rfl

/-- A session is stopped after a run if something latched it and nothing let it go on since, or if it was
stopped already and nothing let it go on at all. -/
theorem after_isStopped (named : session ≠ "") (guarded : StopPolicy.id ∈ (dispatcher settings).ids)
    (w : World) (run : List Occurrence) :
    (after settings w run).isStopped session = true ↔
      (∃ before o later, run = before ++ o :: later ∧
        latches settings session (after settings w before) o = true ∧
        ∀ p ∈ later, releases settings session p = false) ∨
      w.isStopped session = true ∧ ∀ p ∈ run, releases settings session p = false := by
  induction run generalizing w with
  | nil => simp [after]
  | cons o rest ih =>
    have first := occur_isStopped named guarded w o
    have next := ih (occur settings w o).1
    change (after settings (occur settings w o).1 rest).isStopped session = true ↔ _
    rw [next, first]
    constructor
    · rintro (⟨before, p, later, rfl, latched, kept⟩ | ⟨held, kept⟩)
      · exact .inl ⟨o :: before, p, later, rfl, latched, kept⟩
      · rw [Bool.or_eq_true, Bool.and_eq_true, Bool.not_eq_true'] at held
        rcases held with latched | ⟨unopened, before⟩
        · exact .inl ⟨[], o, rest, rfl, latched, kept⟩
        · exact .inr ⟨before, List.forall_mem_cons.2 ⟨unopened, kept⟩⟩
    · rintro (⟨before, p, later, split, latched, kept⟩ | ⟨held, kept⟩)
      · cases before with
        | nil =>
          obtain ⟨rfl, rfl⟩ := List.cons.inj split
          exact .inr ⟨by simp [show latches settings session w o = true from latched], kept⟩
        | cons o' before =>
          obtain ⟨rfl, rfl⟩ := List.cons.inj split
          exact .inl ⟨before, p, later, rfl, latched, kept⟩
      · have unopened := kept o (by simp)
        exact .inr ⟨by simp [held, unopened], fun p later => kept p (by simp [later])⟩

/-- A session that is stopped gets no prompt from any hook's turn, nor does one that has not gone idle. -/
theorem visit_prompts (member : h ∈ allHooks settings) {e : Event} (x : e.Output × World)
    (spared : ¬ContinuationPolicy.IdleOf session e ∨ x.2.HandsOff ∧ x.2.isStopped session = true) :
    promptsTo session ((dispatcher settings).visit e x h).2.host.effects =
      promptsTo session x.2.host.effects := by
  rw [(visit_quiet settings e x h).prompts]
  rcases mem_allHooks.1 member with rfl | rfl | rfl | rfl | rfl
  · exact (StopPolicy.handle_moves _ e x.1 x.2).prompts session
  · rcases spared with busy | ⟨handsOff, held⟩
    · exact ContinuationPolicy.handle_busy _ _ e x.1 x.2 busy
    · exact ContinuationPolicy.handle_stopped _ _ e x.1 x.2 handsOff held
  · exact (PressurePolicy.handle_moves _ e x.1 x.2).prompts session
  · exact (ContextPolicy.handle_quiet _ e x.1 x.2).prompts session
  · exact (CompactionPolicy.handle_quiet _ e x.1 x.2).prompts session

theorem visit_idle_steady (member : h ∈ allHooks settings) {e : Event}
    (gone : ContinuationPolicy.IdleOf session e) (x : e.Output × World) :
    Steady x.2 ((dispatcher settings).visit e x h).2 := by
  obtain ⟨l, rfl, kind, -⟩ := gone
  by_cases guard : h.id = StopPolicy.id
  · have same : h = StopPolicy.hook settings := eq_of_id member (by simp [allHooks]) guard
    subst same
    have other : l.kind ≠ "session.deleted" := by
      rw [kind]
      decide
    refine Steady.trans ?_ (visit_quiet settings _ x _).toSteady
    simp only [StopPolicy.hook, StopPolicy.handle, Handled.pass, if_neg other]
    exact .refl x.2
  · exact visit_steady (e := .lifecycle l) member guard x

theorem dispatch_stopped_prompts (settings : Settings) (a : Announcement) (conduct : Conduct)
    (held : w.isStopped session = true) :
    promptsTo session (dispatch settings a conduct w).state.host.effects =
      promptsTo session w.host.effects := by
  have opened := opening_quiet a conduct w
  rw [dispatch_state]
  by_cases gone : ContinuationPolicy.IdleOf session a.event
  · let Spared (x : a.event.Output × World) : Prop :=
      x.2.HandsOff ∧ x.2.isStopped session = true ∧
        promptsTo session x.2.host.effects = promptsTo session w.host.effects
    have keeps : ∀ h ∈ (dispatcher settings).hooks, ∀ x, Spared x →
        Spared ((dispatcher settings).visit a.event x h) := by
      intro h turn x ⟨handsOff, held, same⟩
      have steady := visit_idle_steady (mem_of_active turn) gone x
      exact ⟨steady.handsOff handsOff, (steady.isStopped handsOff session).trans held,
        (visit_prompts (mem_of_active turn) x (.inr ⟨handsOff, held⟩)).trans same⟩
    have opens : Spared (a.output, opening a conduct w) :=
      ⟨opened.handsOff fun _ => rfl, (opened.isStopped (fun _ => rfl) session).trans held,
        opened.prompts session⟩
    exact (Dispatcher.visits_keep _ keeps opens).2.2
  · exact Dispatcher.visits_keep
      (P := fun x => promptsTo session x.2.host.effects = promptsTo session w.host.effects)
      (dispatcher settings)
      (fun h turn x same => (visit_prompts (mem_of_active turn) x (.inl gone)).trans same)
      (opened.prompts session)

/-- Stop wins: whatever happened before, a session is stopped if and only if the latest event that latched
it came after the latest one that let it go on, and while it is stopped nothing that is announced leads
to a prompt for it. -/
theorem stop_wins (settings : Settings) (project : Path) (files : FileTree) (now : Timestamp)
    (sampler : Sampler) (named : session ≠ "") (guarded : StopPolicy.id ∈ (dispatcher settings).ids)
    (run : List Occurrence) :
    let w := World.start settings project files now sampler
    ((after settings w run).isStopped session = true ↔
      ∃ before o later, run = before ++ o :: later ∧
        latches settings session (after settings w before) o = true ∧
        ∀ p ∈ later, releases settings session p = false) ∧
    ∀ before a conduct later, run = before ++ .dispatch a conduct :: later →
      (after settings w before).isStopped session = true →
      promptsTo session (occur settings (after settings w before) (.dispatch a conduct)).2 = [] := by
  intro w
  constructor
  · have running : w.isStopped session = false := rfl
    rw [after_isStopped named guarded w run, running]
    simp
  · intro before a conduct later _ held
    have settled := after_settled settings (start_settled settings project files now sampler) before
    change promptsTo session (dispatch settings a conduct (after settings w before)).state.host.effects = []
    rw [dispatch_stopped_prompts settings a conduct held, settled]
    rfl

/-- A stop command under the settings that hold by default, and then the session goes idle. -/
theorem stop_wins_after_command :
    let w := World.start {} ⟨"/project"⟩ .empty default ⟨[], 0⟩
    let command := .dispatch ⟨.commandBefore ⟨"/autopilot-stop", "s", ""⟩, .blank⟩ .calm
    let idle := ⟨.lifecycle ⟨"session.idle", .object [("sessionID", .string "s")]⟩, ()⟩
    "s" ≠ "" ∧ StopPolicy.id ∈ (dispatcher {}).ids ∧
      (after {} w [command, .dispatch idle .calm]).isStopped "s" = true ∧
      promptsTo "s" (occur {} (after {} w [command]) (.dispatch idle .calm)).2 = [] := by
  intro w command idle
  have guarded : StopPolicy.id ∈ (dispatcher {}).ids := mem_ids.2 (by decide)
  have latched : latches {} "s" w command = true := by decide +kernel
  have kept : releases {} "s" (.dispatch idle .calm) = false := by decide
  have named : "s" ≠ "" := by decide
  have wins := stop_wins {} ⟨"/project"⟩ .empty default ⟨[], 0⟩ named guarded
  have held : (after {} w [command]).isStopped "s" = true :=
    (wins [command]).1.2 ⟨[], command, [], rfl, latched, by simp⟩
  exact ⟨named, guarded, (wins _).1.2 ⟨[], command, [_], rfl, latched, by simp [kept]⟩,
    (wins [command, .dispatch idle .calm]).2 [command] idle .calm [] rfl held⟩

end Service

end AgentHooks
