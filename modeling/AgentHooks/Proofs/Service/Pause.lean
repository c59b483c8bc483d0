import AgentHooks.Proofs.Service.Cooldowns
import AgentHooks.Proofs.Service.Deletion
import AgentHooks.Proofs.Service.Resume

/-! When a session is paused, what comes of it, and what does not: the agent is told once, the operator is told once,
and the loop's file stays as it is. -/

namespace AgentHooks

open World

namespace World.Jots

variable {w w' : World}

theorem load (jots : Jots w w') (inked : ∀ q ∈ w.journal.path, FileTree.Inked q w.files) (apart : w.Apart) :
    w'.cell.load w'.files = w.cell.load w.files := by
  have same : w'.files.fetch w.cell.path = w.files.fetch w.cell.path := jots.fetch inked apart
  rw [jots.cell, LoopCell.load, FileTree.read, same]
  rfl

theorem request (alone : w.Undisturbed) (c : HostCall) (a : Action) : Jots w (w.request c a).1 := by
  unfold World.request
  rw [call_of_alone alone]
  cases w.refusal c <;> exact .of_files rfl rfl rfl rfl

end World.Jots

theorem World.remark_inked (w : World) (r : Remark) :
    ∀ q ∈ (w.remark r).journal.path, FileTree.Inked q (w.remark r).files :=
  fun _ kept => FileTree.inked_record kept ⟨w.now, r⟩ w.files

namespace PressurePolicy

variable {s : PressureSettings} {session : String} {w : World}

/-- A session is paused at a tool call that shows critical pressure when there was enough of it lately, if the settings
say so, the session has an active loop and it is not stopped already. -/
theorem pauses_iff : pauses s session w = true ↔
    ∃ o, observed s session w = some o ∧ o.level = .critical ∧ s.criticalPauseAfterEvents ≤ o.kept.length ∧
      s.autoPause = true ∧ w.isStopped session = false ∧
      ∃ l, (noted session o w).cell.load (noted session o w).files = .ok (some l) ∧ l.belongsTo session = true := by
  have owns : ∀ found : Except Fault (Option Loop),
      owned session found = true ↔ ∃ l, found = .ok (some l) ∧ l.belongsTo session = true := by
    intro found
    rcases found with fault | (_ | l)
    · simp [owned]
    · simp [owned]
    · simp [owned]
  cases seen : observed s session w with
  | none => simp [pauses, seen]
  | some o =>
    obtain ⟨-, sample, -, known⟩ := observed_eq_some seen
    have due : o.response.pause = (o.level == .critical && s.criticalPauseAfterEvents ≤ o.kept.length) := by
      rw [known]
      rfl
    simp only [pauses, seen, due, Bool.and_eq_true, beq_iff_eq, decide_eq_true_eq, Bool.not_eq_true', owns,
      Option.some.injEq, exists_eq_left']
    constructor
    · rintro ⟨⟨⟨⟨critical, enough⟩, on⟩, loop⟩, running⟩
      exact ⟨critical, enough, on, running, loop⟩
    · rintro ⟨critical, enough, on, running, loop⟩
      exact ⟨⟨⟨⟨critical, enough⟩, on⟩, loop⟩, running⟩

theorem noted_jots (session : String) (o : Observation) (w : World) :
    Jots w (noted session o w) := by
  unfold noted
  split
  · cases o.level with
    | normal => exact .refl w
    | warning => exact .remark w _
    | critical => exact .remark w _
  · exact .refl w

end PressurePolicy

theorem ContextPolicy.onToolAfter_jots (s : ContextSettings) (session : String) (out : ToolResult) (w : World) :
    Jots w (onToolAfter s session out w).2 := by
  have counted : ∀ context, Jots w { w with context } := fun _ => .of_files rfl rfl rfl rfl
  unfold onToolAfter
  split
  · exact .refl w
  · dsimp only
    split
    · exact (counted _).trans (.remark _ _)
    · exact counted _

theorem CompactionPolicy.observe_jots (s : CompactionSettings) (session event : String) (f : Usage → Usage)
    {w : World} (alone : w.Undisturbed) : Jots w (observe s w session event f) := by
  have counted : ∀ v compaction, Jots v { v with compaction } := fun _ _ => .of_files rfl rfl rfl rfl
  have asked : ∀ v : World, v.Undisturbed → Jots v (compact v session event) := by
    intro v alone
    have requested : Jots v (v.request .summarize (.summarize session)).1 := .request alone _ _
    unfold compact
    split
    next taken =>
      rw [taken] at requested
      exact requested.trans (.remark _ _)
    next refused =>
      rw [refused] at requested
      exact requested.trans ((counted _ _).trans (.remark _ _))
  unfold observe
  dsimp only
  split
  · exact (counted w _).trans (asked _ alone)
  · exact counted w _

namespace Service

variable {settings : Settings} {session : String} {w : World} {run : List Occurrence} {h : Hook World}

/-- The other hooks neither set nor open a latch after a tool call, and they leave the host's conduct as it is. -/
theorem ahead_steady (call : ToolCall) (out : ToolResult) (conduct : Conduct) (w : World) :
    Steady (opening ⟨.toolAfter call, out⟩ conduct w)
      (ahead settings PressurePolicy.id ⟨.toolAfter call, out⟩ conduct w).state :=
  ahead_keeps (a := ⟨.toolAfter call, out⟩) (P := fun x => Steady (opening ⟨.toolAfter call, out⟩ conduct w) x.2)
    (fun _ member other x steady => steady.trans (visit_steady (e := .toolAfter call) member other x)) (.refl _)

theorem ahead_isStopped (call : ToolCall) (out : ToolResult) (conduct : Conduct) (w : World) (other : String) :
    (ahead settings PressurePolicy.id ⟨.toolAfter call, out⟩ conduct w).state.isStopped other = w.isStopped other := by
  rw [(ahead_steady call out conduct w).isStopped (opening_handsOff _ conduct w)]
  exact (opening_quiet ⟨.toolAfter call, out⟩ conduct w).isStopped (fun _ => rfl) other

theorem ahead_handsOff (settings : Settings) (call : ToolCall) (out : ToolResult) (conduct : Conduct) (w : World) :
    (ahead settings PressurePolicy.id ⟨.toolAfter call, out⟩ conduct w).state.HandsOff :=
  (ahead_steady call out conduct w).handsOff (opening_handsOff _ conduct w)

theorem autoPauses_eq (session : String) (call : ToolCall) (out : ToolResult) (conduct : Conduct) (w : World) :
    autoPauses settings session conduct w ⟨.toolAfter call, out⟩ =
      (call.session == session && (dispatcher settings).ids.contains PressurePolicy.id &&
        PressurePolicy.pauses settings.pressure call.session
          (ahead settings PressurePolicy.id ⟨.toolAfter call, out⟩ conduct w).state) := by
  by_cases same : call.session = session
  · subst same
    have handsOff := ahead_handsOff settings call out conduct w
    simp only [autoPauses]
    generalize ahead settings PressurePolicy.id ⟨.toolAfter call, out⟩ conduct w = before at handsOff ⊢
    have does := (PressurePolicy.onToolAfter_does settings.pressure call.session before.output before.state).2
    have latch : (PressurePolicy.onToolAfter settings.pressure call.session before.output before.state).2.isStopped
        call.session =
        (PressurePolicy.pauses settings.pressure call.session before.state ||
          before.state.isStopped call.session) := by
      rw [does.latch handsOff, beq_self_eq_true, Bool.and_true]
      rfl
    -- Only a running session is paused, so a latch that is set afterwards and was not before is the monitor's.
    rw [latch]
    cases pauses : PressurePolicy.pauses settings.pressure call.session before.state with
    | true =>
      obtain ⟨_, _, _, _, _, running, _⟩ := PressurePolicy.pauses_iff.1 pauses
      simp [running]
    | false => simp
  · simp only [autoPauses, beq_false_of_ne same, Bool.false_and]

theorem autoPauses_other (call : ToolCall) (out : ToolResult) (conduct : Conduct) (w : World) (other : String) :
    autoPauses settings other conduct w ⟨.toolAfter call, out⟩ =
      (autoPauses settings call.session conduct w ⟨.toolAfter call, out⟩ && call.session == other) := by
  rw [autoPauses_eq, autoPauses_eq, beq_self_eq_true, Bool.true_and, Bool.and_comm _ (call.session == other),
    Bool.and_assoc]

theorem autoPauses_elsewhere {a : Announcement} (elsewhere : ∀ call, a.event ≠ .toolAfter call) (session : String)
    (conduct : Conduct) (w : World) : autoPauses settings session conduct w a = false := by
  unfold autoPauses
  split
  next call _ => exact absurd rfl (elsewhere call)
  next => rfl

theorem autoPauses_of_inactive (inactive : PressurePolicy.id ∉ (dispatcher settings).ids) (session : String)
    (a : Announcement) (conduct : Conduct) (w : World) : autoPauses settings session conduct w a = false := by
  have absent : (dispatcher settings).ids.contains PressurePolicy.id = false := by simpa using inactive
  unfold autoPauses
  split
  next => simp only [absent, Bool.and_false, Bool.false_and]
  next => rfl

theorem ahead_jots (call : ToolCall) (out : ToolResult) {conduct : Conduct}
    (undisturbed : ∀ c, conduct.rewrites c = none) (w : World) :
    Jots (opening ⟨.toolAfter call, out⟩ conduct w)
      (ahead settings PressurePolicy.id ⟨.toolAfter call, out⟩ conduct w).state := by
  let start := opening ⟨.toolAfter call, out⟩ conduct w
  have turn : ∀ k ∈ allHooks settings, k.id ≠ PressurePolicy.id → ∀ x : ToolResult × World, x.2.Undisturbed →
      Jots x.2 ((dispatcher settings).visit (.toolAfter call) x k).2 := by
    intro k member other x alone
    -- The stop hook and the loop's own hook have nothing to do with finished calls.
    rcases mem_allHooks.1 member with rfl | rfl | rfl | rfl | rfl
    · exact .refl x.2
    · exact .refl x.2
    · exact absurd rfl other
    · exact ContextPolicy.onToolAfter_jots settings.context call.session x.1 x.2
    · change Jots x.2 (if call.session = "" then x.2 else _)
      split
      · exact .refl x.2
      · exact CompactionPolicy.observe_jots settings.compaction call.session _ _ alone
  refine (ahead_keeps (a := ⟨.toolAfter call, out⟩) (P := fun x => x.2.Undisturbed ∧ Jots start x.2)
    (fun k member other x kept => ⟨?_, kept.2.trans (turn k member other x kept.1)⟩)
    ⟨opening_undisturbed undisturbed w, .refl start⟩).2
  exact (visit_steady (e := .toolAfter call) member other x).undisturbed kept.1

/-- What the monitor finds in the loop's file is what was there when the call came to the hooks, if no other process
interferes. -/
theorem ahead_load (call : ToolCall) (out : ToolResult) {conduct : Conduct}
    (undisturbed : ∀ c, conduct.rewrites c = none) (apart : w.Apart) (session : String)
    (o : Observation) :
    let opened := opening ⟨.toolAfter call, out⟩ conduct w
    let v := PressurePolicy.noted session o
      (ahead settings PressurePolicy.id ⟨.toolAfter call, out⟩ conduct w).state
    v.cell.load v.files = opened.cell.load opened.files := by
  intro opened v
  have jots : Jots opened v := (ahead_jots call out undisturbed w).trans (PressurePolicy.noted_jots _ _ _)
  exact jots.load (remark_inked _ _) (opening_apart _ conduct apart)

/-- A call pauses its session if it shows enough critical pressure while the session runs with a loop of its own. -/
theorem autoPauses_iff (call : ToolCall) (out : ToolResult) (conduct : Conduct) (w : World) :
    let before := (ahead settings PressurePolicy.id ⟨.toolAfter call, out⟩ conduct w).state
    autoPauses settings call.session conduct w ⟨.toolAfter call, out⟩ = true ↔
      PressurePolicy.id ∈ (dispatcher settings).ids ∧ settings.pressure.autoPause = true ∧
        w.isStopped call.session = false ∧
        ∃ o, PressurePolicy.observed settings.pressure call.session w = some o ∧ o.level = .critical ∧
          settings.pressure.criticalPauseAfterEvents ≤ o.kept.length ∧
          let v := PressurePolicy.noted call.session o before
          ∃ l, v.cell.load v.files = .ok (some l) ∧ l.belongsTo call.session = true := by
  intro before
  have roster : before.pressure = w.pressure := (pressure_owned settings).ahead _ conduct w
  have counters : before.pressure.get? call.session = w.pressure.get? call.session := by rw [roster]
  have observed := PressurePolicy.observed_congr ((sampler_owned settings).ahead _ conduct w) counters
    settings.pressure
  have running : before.isStopped call.session = w.isStopped call.session :=
    ahead_isStopped call out conduct w call.session
  rw [autoPauses_eq, beq_self_eq_true, Bool.true_and, Bool.and_eq_true, List.contains_iff_mem,
    PressurePolicy.pauses_iff, observed, running]
  constructor
  · rintro ⟨active, o, seen, critical, enough, on, still, loop⟩
    exact ⟨active, on, still, o, seen, critical, enough, loop⟩
  · rintro ⟨active, on, still, o, seen, critical, enough, loop⟩
    exact ⟨active, o, seen, critical, enough, on, still, loop⟩

/-! What the agent and the operator are told. -/

theorem reminderText_ne_pausedText (m : ContextMemory) (s : ContextSettings) :
    m.reminderText s ≠ PressurePolicy.pausedText :=
  Remark.ne_of_headings (by decide) (by decide) (by decide) (ContextPolicy.reminderText_headed m s)
    PressurePolicy.pausedText_headed

/-- Of all that is put behind a tool's output, one reminder tells of a pause if there is one, and none otherwise. -/
theorem count_blocks (call : ToolCall) (out : ToolResult) (conduct : Conduct) (w : World) {front back : List String}
    (known : ∀ b ∈ front ++ back, ∃ m : ContextMemory, b = m.reminderText settings.context) :
    (front ++ ownBlocks settings call out conduct w ++ back).count PressurePolicy.pausedText =
      (autoPauses settings call.session conduct w ⟨.toolAfter call, out⟩).toNat := by
  have silent : ∀ bs : List String, (∀ b ∈ bs, ∃ m : ContextMemory, b = m.reminderText settings.context) →
      bs.count PressurePolicy.pausedText = 0 := by
    intro bs known
    refine List.count_eq_zero.2 fun told => ?_
    obtain ⟨m, same⟩ := known _ told
    exact reminderText_ne_pausedText m _ same.symm
  rw [List.count_append, List.count_append, silent front fun b told => known b (List.mem_append_left _ told),
    silent back fun b told => known b (List.mem_append_right _ told), Nat.zero_add, Nat.add_zero, autoPauses_eq,
    beq_self_eq_true, Bool.true_and, ownBlocks]
  split
  next active =>
    rw [PressurePolicy.count_pausedText, List.contains_iff_mem.2 active, Bool.true_and]
  next inactive =>
    have absent : (dispatcher settings).ids.contains PressurePolicy.id = false := by simpa using inactive
    rw [absent]
    rfl

/-- A dispatch hands over one notice of a pause if the monitor has paused the session and the host takes notices, and
none otherwise. -/
theorem dispatch_tellsOfPause (settings : Settings) (session : String) (a : Announcement) (conduct : Conduct)
    (w : World) :
    (dispatch settings a conduct w).state.host.effects.countP (·.tellsOfPause session) =
      w.host.effects.countP (·.tellsOfPause session) +
        (autoPauses settings session conduct w a && !conduct.refuses .notify).toNat := by
  have others : ∀ k ∈ allHooks settings, k.id ≠ PressurePolicy.id → ∀ (e : Event) (x : e.Output × World),
      Adds (·.tellsOfPause session = false) x.2 ((dispatcher settings).visit e x k).2 :=
    fun _ member other e x => visit_tellsOfPause member other session e x
  by_cases monitored : PressurePolicy.id ∈ (dispatcher settings).ids
  · have active : PressurePolicy.hook settings ∈ (dispatcher settings).hooks :=
      active_of_id (by simp [allHooks]) monitored
    obtain ⟨before, after⟩ := dispatch_countP active others a conduct w
    rw [after, ← before]
    rcases a with ⟨e, out⟩
    by_cases finished : ∃ call, e = .toolAfter call
    · obtain ⟨call, rfl⟩ := finished
      have told := PressurePolicy.onToolAfter_tellsOfPause settings.pressure call.session session
        (ahead settings PressurePolicy.id ⟨.toolAfter call, out⟩ conduct w).output
        (ahead settings PressurePolicy.id ⟨.toolAfter call, out⟩ conduct w).state
      have paused : autoPauses settings session conduct w ⟨.toolAfter call, out⟩ = _ :=
        autoPauses_eq session call out conduct w
      rw [ahead_disturbance] at told
      rw [paused, List.contains_iff_mem.2 monitored, Bool.and_true, Bool.and_comm (call.session == session)]
      exact told
    · have elsewhere : ∀ call, e ≠ .toolAfter call := fun call same => finished ⟨call, same⟩
      have asks := PressurePolicy.handle_asks settings.pressure elsewhere
        (ahead settings PressurePolicy.id ⟨e, out⟩ conduct w).output
        (ahead settings PressurePolicy.id ⟨e, out⟩ conduct w).state
      rw [autoPauses_elsewhere elsewhere]
      exact (asks.adds.mono fun _ never => never.elim).countP
  · rw [dispatch_countP_of_inactive monitored others, autoPauses_of_inactive monitored]
    rfl

/-! Over runs. -/

def times (settings : Settings) (happens : World → Occurrence → Bool) : World → List Occurrence → Nat
  | _, [] => 0
  | w, o :: rest => (happens w o).toNat + times settings happens (occur settings w o).1 rest

/-- Whether the monitor turns a session from running to stopped at an occurrence. -/
def pausesAt (settings : Settings) (session : String) (w : World) : Occurrence → Bool
  | .dispatch a conduct => autoPauses settings session conduct w a
  | _ => false

theorem emitted_tellsOfPause (settled : Settled w) (session : String) (run : List Occurrence) :
    (emitted settings w run).countP (·.tellsOfPause session) =
      times settings (fun w o => pausesAt settings session w o && !o.refuses .notify) w run := by
  induction run generalizing w with
  | nil => rfl
  | cons o rest ih =>
    rw [emitted, List.countP_append, ih (occur_settled settings settled o), times]
    refine congrArg (· + _) ?_
    cases o with
    | dispatch a conduct =>
      have told := dispatch_tellsOfPause settings session a conduct w
      rw [settled, List.countP_nil, Nat.zero_add] at told
      exact told
    | _ => rfl

theorem times_congr {happens happens' : World → Occurrence → Bool} (same : ∀ o ∈ run, ∀ w, happens w o = happens' w o) :
    times settings happens w run = times settings happens' w run := by
  induction run generalizing w with
  | nil => rfl
  | cons o rest ih =>
    rw [times, times, same o (by simp), ih fun o' later => same o' (List.mem_cons_of_mem o later)]

/-- When the monitor pauses a session and what comes of it. After a tool call it latches the session of the call and no
other one, and it does so if the settings say so, the session is not stopped yet, the call shows critical pressure for
at least the given number of times within the window, and an active loop of the session is found in the loop's file;
unless another process interferes, this is what was there when the call came to the hooks. Exactly then there is one
reminder of a pause behind the tool's output, and exactly then the host is told of a pause of the session, unless it
refuses notices. So over a run there are as many notices of pauses as there are pauses. At no event does the monitor
touch the loop's file. The journal is in another file than the loop. -/
theorem auto_pause_discipline (settings : Settings) (settled : Settled w) (apart : w.Apart) :
    (∀ call out conduct,
      let a : Announcement := ⟨.toolAfter call, out⟩
      let s := settings.pressure
      let before := (ahead settings PressurePolicy.id a conduct w).state
      let paused := autoPauses settings call.session conduct w a
      (∀ other, (dispatch settings a conduct w).state.isStopped other =
        ((paused && call.session == other) || w.isStopped other)) ∧
      (paused = true ↔
        PressurePolicy.id ∈ (dispatcher settings).ids ∧ s.autoPause = true ∧ w.isStopped call.session = false ∧
          ∃ o, PressurePolicy.observed s call.session w = some o ∧ o.level = .critical ∧
            s.criticalPauseAfterEvents ≤ o.kept.length ∧
            let v := PressurePolicy.noted call.session o before
            ∃ l, v.cell.load v.files = .ok (some l) ∧ l.belongsTo call.session = true) ∧
      ((∀ c, conduct.rewrites c = none) → ∀ o,
        let v := PressurePolicy.noted call.session o before
        let opened := opening a conduct w
        v.cell.load v.files = opened.cell.load opened.files) ∧
      (∃ front back : List String, (∀ b ∈ front ++ back, ∃ m : ContextMemory, b = m.reminderText settings.context) ∧
        let blocks := front ++ ownBlocks settings call out conduct w ++ back
        (dispatch settings a conduct w).output = blocks.foldl ToolResult.appendReminder out ∧
          blocks.count PressurePolicy.pausedText = paused.toNat) ∧
      ∀ other, (occur settings w (.dispatch a conduct)).2.countP (·.tellsOfPause other) =
        (paused && call.session == other && !conduct.refuses .notify).toNat) ∧
    (∀ a conduct, (∀ c, conduct.rewrites c = none) →
      let before := (ahead settings PressurePolicy.id a conduct w).state
      FileTree.Spares before.loopPlace before.files
        (turn settings (PressurePolicy.hook settings) a conduct w).state.files) ∧
    ∀ session run,
      (emitted settings w run).countP (·.tellsOfPause session) =
        times settings (fun w o => pausesAt settings session w o && !o.refuses .notify) w run ∧
      ((∀ o ∈ run, o.refuses .notify = false) →
        (emitted settings w run).countP (·.tellsOfPause session) = times settings (pausesAt settings session) w run) := by
  refine ⟨fun call out conduct => ⟨fun other => ?_, autoPauses_iff call out conduct w,
    fun undisturbed o => ahead_load call out undisturbed apart call.session o, ?_, fun other => ?_⟩,
    fun a conduct undisturbed => ?_, fun session run => ⟨emitted_tellsOfPause settled session run, fun taken => ?_⟩⟩
  · rw [dispatch_toolAfter_isStopped, autoPauses_other]
  · obtain ⟨front, back, known, output⟩ := dispatch_ownBlocks settings call out conduct w
    exact ⟨front, back, known, output, count_blocks call out conduct w known⟩
  · have told := dispatch_tellsOfPause settings other ⟨.toolAfter call, out⟩ conduct w
    rw [settled, List.countP_nil, Nat.zero_add, autoPauses_other] at told
    exact told
  · have alone : (ahead settings PressurePolicy.id a conduct w).state.Undisturbed := by
      rw [Undisturbed, ahead_disturbance]
      exact undisturbed
    exact (PressurePolicy.handle_moves settings.pressure a.event _ _).files alone
      (ahead_apart apart PressurePolicy.id a conduct)
  · rw [emitted_tellsOfPause settled]
    exact times_congr fun o here w => by rw [taken o here, Bool.not_false, Bool.and_true]

/-- A session with a loop is paused at its first call under critical pressure. Its second call finds it stopped, so the
operator is told once. -/
theorem auto_pause_discipline_once :
    let settings : Settings :=
      { disabled := ⟨[ContextPolicy.id, CompactionPolicy.id]⟩
        pressure := { sampleCooldownToolCalls := 1, criticalPauseAfterEvents := 1 } }
    let now : Timestamp := ⟨2024, 5, 1, 12, 0, 0, 0⟩
    let file := "\x7b\"active\": true, \"sessionId\": \"s\"\x7d"
    let w := (World.start settings ⟨"/project"⟩ .empty now ⟨[.ok ⟨20000, 3⟩], 0⟩).replaceLoop (some (.file file))
    let call : Announcement := ⟨.toolAfter ⟨"bash", "s", "c"⟩, .blank⟩
    let run : List Occurrence := [.dispatch call .calm, .dispatch call .calm]
    (Settled w ∧ w.Apart) ∧
      (dispatch settings call .calm w).state.isStopped "s" = true ∧
      (emitted settings w run).countP (·.tellsOfPause "s") = 1 := by
  intro settings now file w call run
  have hooks : dispatcher settings =
      ⟨(enabledHooks settings).filter fun h => !settings.disabled.contains h.id, World.remark⟩ :=
    dispatcher_of_unordered rfl rfl
  have settled : Settled w := rfl
  have unaudited : settings.audit.enabled = false := rfl
  have apart : w.Apart :=
    occur_apart settings (start_apart unaudited ⟨"/project"⟩ .empty now ⟨[.ok ⟨20000, 3⟩], 0⟩)
      (.rewrite (some (.file file)))
  obtain ⟨calls, -, runs⟩ := auto_pause_discipline settings settled apart
  obtain ⟨latch, -⟩ := calls ⟨"bash", "s", "c"⟩ .blank .calm
  have taken : ∀ o ∈ run, o.refuses .notify = false := by decide
  have paused : pausesAt settings "s" w (.dispatch call .calm) = true := by
    simp only [pausesAt, call, autoPauses, ahead, hooks]
    decide +kernel
  have often : times settings (pausesAt settings "s") w run = 1 := by
    simp only [run, call, times, pausesAt, occur, dispatch, autoPauses, ahead, hooks]
    decide +kernel
  refine ⟨⟨settled, apart⟩, ?_, ((runs "s" run).2 taken).trans often⟩
  exact (latch "s").trans (Bool.or_eq_true_iff.2 (.inl (Bool.and_eq_true_iff.2 ⟨paused, rfl⟩)))

end Service

end AgentHooks
