import AgentHooks.Proofs.Policy.Agreement
import AgentHooks.Proofs.Service.Limits
import AgentHooks.Proofs.Service.Reminders

/-! The context monitor and preemptive compaction over runs. Both follow the same sessions as long as they have room for
as many, and they agree on what is known of a session's usage, save that the output of a call may have got longer before
the second of them has its turn. -/

namespace AgentHooks

def Event.reports (session : String) : Event → Bool
  | .lifecycle e => (UsageReport.ofEvent? e).any (·.session == session)
  | _ => false

theorem Event.tidings_of_reports {session : String} {e : Event} (told : e.reports session = true) (out : e.Output) :
    ∃ r, e.tidings out = .report r ∧ r.session = session := by
  cases e with
  | lifecycle e =>
    obtain ⟨r, heard, same⟩ := (Option.any_eq_true _ _).1 told
    refine ⟨r, ?_, beq_iff_eq.1 same⟩
    simp only [tidings, LifecycleEvent.tidings, heard]
  | toolBefore call => cases told
  | toolAfter call => cases told
  | commandBefore command => cases told
  | chatMessage turn => cases told
  | messagesTransform request => cases told

def Occurrence.reports (session : String) : Occurrence → Bool
  | .dispatch a _ => a.event.reports session
  | _ => false

namespace Service

open World

variable {settings : Settings} {session : String} {w : World} {run later : List Occurrence} {o : Occurrence}
  {exact : String → Prop}

/-- At an occurrence that is a call of the session both monitors find the same output: no reminder has been put behind
it between the one's turn and the other's. -/
def SameOutput (settings : Settings) (session : String) (w : World) : Occurrence → Prop
  | .dispatch a conduct => a.event.isCallOf session = true →
      (ahead settings ContextPolicy.id a conduct w).output = (ahead settings CompactionPolicy.id a conduct w).output
  | _ => True

def SameOutputs (settings : Settings) (session : String) (w : World) (run : List Occurrence) : Prop :=
  ∀ first o later, run = first ++ o :: later → SameOutput settings session (after settings w first) o

section Active

variable (contextActive : ContextPolicy.hook settings ∈ (dispatcher settings).hooks)
  (compactionActive : CompactionPolicy.hook settings ∈ (dispatcher settings).hooks)

include contextActive in
theorem occur_context (tidy : w.context.Tidy) (a : Announcement) (conduct : Conduct) :
    (occur settings w (.dispatch a conduct)).1.context =
      (ContextPolicy.follower settings.context).follow w.context
        (a.event.tidings (ahead settings ContextPolicy.id a conduct w).output) := by
  have before := (context_owned settings).ahead a conduct w
  have turned := (context_owned settings).occur contextActive w (.dispatch a conduct)
  rw [turned, ← before]
  exact ContextPolicy.handle_follows (before ▸ tidy) settings.context a.event _

include compactionActive in
theorem occur_compaction (w : World) (a : Announcement) (conduct : Conduct) :
    (occur settings w (.dispatch a conduct)).1.compaction =
      (CompactionPolicy.follower settings.compaction (conduct.refuses .summarize)).follow w.compaction
        (a.event.tidings (ahead settings CompactionPolicy.id a conduct w).output) := by
  have before := (compaction_owned settings).ahead a conduct w
  have turned := (compaction_owned settings).occur compactionActive w (.dispatch a conduct)
  have expected : (ahead settings CompactionPolicy.id a conduct w).state.disturbance = conduct.disturbance :=
    ahead_disturbance CompactionPolicy.id a conduct w
  have followed := CompactionPolicy.handle_follows settings.compaction a.event
    (ahead settings CompactionPolicy.id a conduct w).output (ahead settings CompactionPolicy.id a conduct w).state
  rw [before, expected] at followed
  exact turned.trans followed

include contextActive compactionActive

theorem occur_agree (sound : w.Sound settings) (agree : UsageAgree exact w.context w.compaction)
    (same : ∀ session, exact session → SameOutput settings session w o) :
    UsageAgree exact (occur settings w o).1.context (occur settings w o).1.compaction := by
  cases o with
  | dispatch a conduct =>
    rw [occur_context contextActive sound.context.toTidy, occur_compaction compactionActive]
    exact agree.follow _ _ _ same
  | tell context => exact agree
  | rewrite node => exact agree
  | clock now => exact agree

theorem after_agree (sound : w.Sound settings) (agree : UsageAgree exact w.context w.compaction)
    (same : ∀ session, exact session → SameOutputs settings session w run) :
    UsageAgree exact (after settings w run).context (after settings w run).compaction := by
  induction run generalizing w with
  | nil => exact agree
  | cons o rest ih =>
    have here : ∀ session, exact session → SameOutput settings session w o :=
      fun session exactly => same session exactly [] o rest rfl
    have agree' := occur_agree contextActive compactionActive sound agree here
    refine ih (occur_sound sound o) agree' fun session exactly first o' later split => ?_
    exact same session exactly (o :: first) o' later (congrArg (o :: ·) split)

omit compactionActive

theorem reported_of_reports (told : o.reports session = true) :
    (ContextPolicy.memory session (occur settings w o).1).usage.reported ≠ none := by
  cases o with
  | dispatch a conduct =>
    obtain ⟨r, heard, same⟩ :=
      Event.tidings_of_reports told (ahead settings ContextPolicy.id a conduct w).output
    have change : usage? settings ContextPolicy.id session w (.dispatch a conduct) = some (·.addReport r) := by
      rw [usage?, heard, Tidings.usage?, if_pos same]
    rw [occur_usage contextActive change]
    exact Option.some_ne_none r.tokens
  | _ => cases told

/-- What the host has reported lasts until the session is compacted, as long as its entry stays. -/
theorem reported_lasts (stays : Stays settings World.context session w later)
    (uncompacted : ∀ o ∈ later, o.compacts session = false)
    (told : (ContextPolicy.memory session w).usage.reported ≠ none) :
    (ContextPolicy.memory session (after settings w later)).usage.reported ≠ none := by
  induction later generalizing w with
  | nil => exact told
  | cons o rest ih =>
    refine ih stays.2 (fun p member => uncompacted p (List.mem_cons_of_mem o member)) ?_
    cases heard : usage? settings ContextPolicy.id session w o with
    | none =>
      have left := (context_listens settings).occur_of_unheard contextActive heard ⟨stays.1, trivial⟩
      rw [uncompacted o List.mem_cons_self] at left
      change ContextPolicy.memory session (occur settings w o).1 = ContextPolicy.memory session w at left
      rwa [left]
    | some f =>
      rw [occur_usage contextActive heard]
      cases o with
      | dispatch a conduct =>
        rcases Event.tidings_of_usage? heard with ⟨text, -, rfl, -⟩ | ⟨r, -, -, rfl, -⟩
        · exact told
        · exact Option.some_ne_none r.tokens
      | _ => cases heard

end Active

/-- As long as the two monitors have room for as many sessions, they follow the same ones, in the order in which these
will have to go, with the same reports, windows and calls counted. So they agree on the tokens used by a session if a
report of it is known: that is so if a report came after its last compaction and its entry has stayed since. If
nothing was put behind the output of a session's calls between their turns, they agree on all that they know of its
usage. -/
theorem usage_monitors_agree (settings : Settings) (project : Path) (files : FileTree) (now : Timestamp)
    (sampler : Sampler) (run : List Occurrence) (contextActive : ContextPolicy.id ∈ (dispatcher settings).ids)
    (compactionActive : CompactionPolicy.id ∈ (dispatcher settings).ids)
    (limits : settings.context.maxSessionStateEntries = settings.compaction.maxSessionStateEntries) :
    let w := World.start settings project files now sampler
    let v := after settings w run
    v.context.arrivals = v.compaction.arrivals ∧
      (∀ session,
        (v.context.get? session).map (fun m => (m.usage.reported, m.usage.limit, m.usage.toolCalls)) =
          (v.compaction.get? session).map fun m => (m.usage.reported, m.usage.limit, m.usage.toolCalls)) ∧
      (∀ session, ∀ m ∈ v.context.get? session, ∀ n ∈ v.compaction.get? session,
        m.usage.reported ≠ none → m.usage.used = n.usage.used) ∧
      (∀ session first o later, run = first ++ o :: later → o.reports session = true →
        (∀ p ∈ later, p.compacts session = false) →
        Stays settings World.context session (after settings w (first ++ [o])) later →
        ∃ m ∈ v.context.get? session, ∃ n ∈ v.compaction.get? session, m.usage.used = n.usage.used) ∧
      ∀ session, SameOutputs settings session w run →
        (v.context.get? session).map (·.usage) = (v.compaction.get? session).map (·.usage) := by
  intro w v
  have monitor : ContextPolicy.hook settings ∈ (dispatcher settings).hooks :=
    active_of_id (by simp [allHooks]) contextActive
  have compactor : CompactionPolicy.hook settings ∈ (dispatcher settings).hooks :=
    active_of_id (by simp [allHooks]) compactionActive
  have begin' : UsageAgree (SameOutputs settings · w run) w.context w.compaction := by
    change Roster.Agree _ (Roster.empty settings.context.maxSessionStateEntries) _
    rw [limits]
    exact Roster.empty_agree _ _
  have agree : Roster.Agree _ v.context v.compaction :=
    after_agree monitor compactor (start_sound settings project files now sampler) begin' fun _ same => same
  refine ⟨agree.arrivals, fun session => agree.map_get? fun m n known => ?_, fun session m found n found' told => ?_,
    fun session first o later split told uncompacted stays => ?_,
    fun session same => agree.map_get? fun m n known => known.eq same⟩
  · rw [known.reported, known.limit, known.toolCalls]
  · obtain ⟨n', there, known⟩ := agree.exists_get? found
    obtain rfl := Option.some.inj (there.symm.trans found')
    exact known.used_of_reported told
  · have reported : (ContextPolicy.memory session v).usage.reported ≠ none := by
      have whole : v = after settings (after settings w (first ++ [o])) later := by
        rw [← after_append, List.append_assoc, List.singleton_append, ← split]
      rw [whole]
      refine reported_lasts monitor stays uncompacted ?_
      rw [after_concat]
      exact reported_of_reports monitor told
    cases found : v.context.get? session with
    | none =>
      rw [ContextPolicy.memory, found] at reported
      exact absurd rfl reported
    | some m =>
      rw [ContextPolicy.memory, found] at reported
      obtain ⟨n, there, known⟩ := agree.exists_get? found
      exact ⟨m, rfl, n, there, known.used_of_reported reported⟩

/-! Runs with room for one session, in which the first call already earns a reminder. -/

def narrow : Settings where
  disabled := ⟨[StopPolicy.id, ContinuationPolicy.id, PressurePolicy.id]⟩
  context := { defaultContextLimitTokens := 1, maxSessionStateEntries := 1 }
  compaction := { defaultContextLimitTokens := 40, maxSessionStateEntries := 1 }

theorem narrow_dispatcher : dispatcher narrow =
    ⟨(enabledHooks narrow).filter fun h => !narrow.disabled.contains h.id, World.remark⟩ :=
  dispatcher_of_unordered rfl rfl

theorem narrow_active : ContextPolicy.id ∈ (dispatcher narrow).ids ∧ CompactionPolicy.id ∈ (dispatcher narrow).ids := by
  rw [narrow_dispatcher]
  decide +kernel

def reportOf (session : String) : Occurrence :=
  .dispatch ⟨.lifecycle ⟨"message.updated",
    .object [("info", .object [("role", .string "assistant"), ("sessionID", .string session),
      ("tokens", .object [("input", .int 1)])])]⟩, ()⟩ .calm

def callOf (session : String) : Occurrence :=
  .dispatch ⟨.toolAfter ⟨"bash", session, "c"⟩, { ToolResult.blank with output := "ok" }⟩ .calm

/-- A reminder is put behind a call's output before preemptive compaction reads it. What the host has reported counts
for both monitors all the same. -/
theorem usage_monitors_agree_reminded :
    let w := World.start narrow ⟨"/project"⟩ .empty default ⟨[], 0⟩
    let v := after narrow w [reportOf "ses_1", callOf "ses_1"]
    (CompactionPolicy.memory "ses_1" v).usage.estimated = 44 ∧
      ∃ m ∈ v.context.get? "ses_1", ∃ n ∈ v.compaction.get? "ses_1", m.usage.used = n.usage.used := by
  intro w v
  obtain ⟨-, -, -, agree, -⟩ := usage_monitors_agree narrow ⟨"/project"⟩ .empty default ⟨[], 0⟩
    [reportOf "ses_1", callOf "ses_1"] narrow_active.1 narrow_active.2 rfl
  have stays : Stays narrow World.context "ses_1" (after narrow w [reportOf "ses_1"]) [callOf "ses_1"] := by
    refine ⟨fun _ => ?_, trivial⟩
    simp only [w, after, List.foldl, occur, dispatch, narrow_dispatcher, reportOf, callOf]
    decide +kernel
  refine ⟨?_, agree "ses_1" [] (reportOf "ses_1") [callOf "ses_1"] rfl (by decide) (by decide) stays⟩
  simp only [v, after, List.foldl, occur, dispatch, narrow_dispatcher, reportOf, callOf]
  decide +kernel

/-- A second session pushes the first one off, report and all. From its next call on the two monitors go by their
estimates, and one of them has read a reminder that the other has put there. -/
theorem usage_monitors_differ_evicted :
    let w := World.start narrow ⟨"/project"⟩ .empty default ⟨[], 0⟩
    let run := [reportOf "ses_1", reportOf "ses_2", callOf "ses_1"]
    let v := after narrow w run
    ContextPolicy.id ∈ (dispatcher narrow).ids ∧ CompactionPolicy.id ∈ (dispatcher narrow).ids ∧
      narrow.context.maxSessionStateEntries = narrow.compaction.maxSessionStateEntries ∧
      (reportOf "ses_1").reports "ses_1" = true ∧ (∀ o ∈ run, o.compacts "ses_1" = false) ∧
      (v.context.get? "ses_1").map (·.usage.used) = some 1 ∧
      (v.compaction.get? "ses_1").map (·.usage.used) = some 44 := by
  intro w run v
  refine ⟨narrow_active.1, narrow_active.2, rfl, by decide, by decide, ?_⟩
  simp only [v, run, after, List.foldl, occur, dispatch, narrow_dispatcher, reportOf, callOf]
  decide +kernel

end Service

end AgentHooks
