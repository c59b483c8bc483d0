import AgentHooks.Proofs.Policy.Asked
import AgentHooks.Proofs.Policy.Frame
import AgentHooks.Proofs.Policy.Requests
import AgentHooks.Proofs.Service.Conversation
import AgentHooks.Proofs.Service.Cycle

/-! What one request asks of the host and what it is told. Handing over after every request loses nothing and
repeats nothing of what the hooks ask for, and no hook is told anything but what came with the request. -/

namespace AgentHooks

open World

namespace World

variable {w w' later : World}

/-- A quiet step that asks nothing of the host. -/
structure Mute (before after : World) : Prop extends Quiet before after where
  effects : after.host.effects = before.host.effects

namespace Mute

theorem refl (w : World) : Mute w w :=
  ⟨.refl w, rfl⟩

theorem trans (first : Mute w w') (second : Mute w' later) : Mute w later :=
  ⟨first.toQuiet.trans second.toQuiet, second.effects.trans first.effects⟩

theorem remark (w : World) (r : Remark) : Mute w (w.remark r) :=
  ⟨.remark w r, rfl⟩

end Mute

theorem ask_of_untold {α : Type} {session : String} (untold : w.host.context.snapshot? session = none) (c : HostCall)
    (field : Snapshot → α) : Mute w (w.ask c session field).1 ∧ ∃ fault, (w.ask c session field).2 = .error fault := by
  have host := call_host w c
  refine ⟨⟨.ask w c session field, ?_⟩, ?_⟩
  · unfold ask
    split
    next refused =>
      rw [refused] at host
      rw [host]
    next answered =>
      rw [answered] at host
      rw [host]
  · unfold ask
    split
    · exact ⟨_, rfl⟩
    next w' answered =>
      rw [answered] at host
      refine ⟨.host ("no history supplied for session " ++ session), ?_⟩
      rw [Host.snapshot, host, untold]
      rfl

end World

/-- When a session goes idle about which the host has told nothing, nothing is asked for and the loop is left to
itself. -/
theorem ContinuationPolicy.onIdle_of_unknown {w : World} {session : String} (s : AutopilotSettings)
    (unknown : w.host.context.snapshot? session = none) : Mute w (onIdle s w session).1 := by
  have looked : Mute w (ownedLoop w session idle).1 := by
    refine ⟨ownedLoop_quiet w session idle, ?_⟩
    unfold ownedLoop
    split <;> rfl
  unfold onIdle
  split
  next w' nobody =>
    rw [nobody] at looked
    exact looked
  next w' l owned =>
    rw [owned] at looked
    split
    · exact looked.trans (.remark _ _)
    · have unknown' : w'.host.context.snapshot? session = none := by rw [looked.context, unknown]
      obtain ⟨asked, fault, unanswered⟩ := ask_of_untold unknown' .messages (·.messages)
      generalize w'.ask .messages session (·.messages) = answer at asked unanswered
      obtain ⟨w'', told⟩ := answer
      cases unanswered
      exact (looked.trans asked).trans (.remark _ _)

namespace Service

variable {settings : Settings} {w : World} {h : Hook World} {asked : List Action}

theorem visit_of_unknown (member : h ∈ allHooks settings) {e : Event} {session : String}
    (gone : ContinuationPolicy.IdleOf session e) (x : e.Output × World)
    (unknown : x.2.host.context.snapshot? session = none) :
    Mute x.2 ((dispatcher settings).visit e x h).2 := by
  by_cases own : h.id = ContinuationPolicy.id
  · have same : h = ContinuationPolicy.hook settings := eq_of_id member (by simp [allHooks]) own
    subst same
    have turn : (ContinuationPolicy.hook settings).handle e x.1 x.2 = _ :=
      ContinuationPolicy.handle_of_idle settings.autopilot x.2 gone
    have idled := ContinuationPolicy.onIdle_of_unknown settings.autopilot unknown
    simp only [Dispatcher.visit, turn, ContinuationPolicy.handled]
    split
    · exact idled
    · exact idled.trans (.remark _ _)
  · rw [visit_idle_other member own gone]
    exact .refl x.2

theorem dispatch_of_unknown {e : Event} {session : String} (gone : ContinuationPolicy.IdleOf session e)
    (out : e.Output) (unknown : w.host.context.snapshot? session = none) :
    Mute w ((dispatcher settings).dispatch e out w).state := by
  let opened := w.remark (.on Dispatcher.journalId .dispatch "dispatched" e.kind e.session)
  rw [dispatch_eq_visits]
  refine Dispatcher.visits_keep (P := fun x => Mute w x.2) (x := (out, opened)) _
    (fun h active x mute => mute.trans (visit_of_unknown (mem_of_active active) gone x ?_)) (.remark w _)
  rw [mute.context, unknown]

/-! Handing over. -/

theorem hook_behind (member : h ∈ allHooks settings) (e : Event) (out : e.Output) (w : World) :
    h.handle e out (w.behind asked) = (h.handle e out w).behind asked := by
  rcases mem_allHooks.1 member with rfl | rfl | rfl | rfl | rfl
  · exact StopPolicy.handle_behind _ e out w
  · exact ContinuationPolicy.handle_behind _ _ e out w
  · exact PressurePolicy.handle_behind _ e out w
  · exact ContextPolicy.handle_behind _ e out w
  · exact CompactionPolicy.handle_behind _ e out w

theorem visit_behind (member : h ∈ allHooks settings) (e : Event) (out : e.Output) (w : World) :
    (dispatcher settings).visit e (out, w.behind asked) h =
      (((dispatcher settings).visit e (out, w) h).1, ((dispatcher settings).visit e (out, w) h).2.behind asked) := by
  simp only [Dispatcher.visit, hook_behind member, Handled.behind]
  split
  · rfl
  · exact congrArg (_, ·) (behind_remark _ _)

theorem visits_behind {hooks : List (Hook World)} (members : ∀ h ∈ hooks, h ∈ allHooks settings) (e : Event)
    (out : e.Output) (w : World) :
    (dispatcher settings).visits e hooks (out, w.behind asked) =
      (((dispatcher settings).visits e hooks (out, w)).1,
        ((dispatcher settings).visits e hooks (out, w)).2.behind asked) := by
  induction hooks generalizing out w with
  | nil => rfl
  | cons h rest ih =>
    obtain ⟨own, others⟩ := List.forall_mem_cons.1 members
    simp only [Dispatcher.visits, List.foldl_cons]
    rw [visit_behind own]
    exact ih others _ _

theorem dispatch_behind (settings : Settings) (e : Event) (out : e.Output) (w : World) :
    (dispatcher settings).dispatch e out (w.behind asked) = ((dispatcher settings).dispatch e out w).behind asked := by
  simp only [dispatch_eq_visits, behind_remark]
  rw [visits_behind fun _ active => mem_of_active active]
  rfl

/-- An incident without the handing over: what a request asks for goes on waiting. -/
def hold (d : Dispatcher World) (w : World) : Incident → World
  | .request r =>
    if r.version ≠ protocolVersion then w
    else
      match announcement r with
      | .error _ => w.loadContext r.context
      | .ok a => (d.dispatch a.event a.output (w.loadContext r.context)).state
  | i => (meet d w i).1

def handedOver (heard : List (Request × Response)) : List Action :=
  heard.flatMap (·.2.effects)

theorem behind_takeEffects (w : World) (asked : List Action) :
    w.behind asked = w.takeEffects.1.behind (asked ++ w.host.effects) := by
  simp only [behind, takeEffects, List.append_nil]

theorem handle_of_announced {r : Request} {a : Announcement} (current : r.version = protocolVersion)
    (announced : announcement r = .ok a) (d : Dispatcher World) (w : World) :
    let handled := d.dispatch a.event a.output (w.loadContext r.context)
    (handle d r w).2 = handled.state.takeEffects.1 ∧ (handle d r w).1.effects = handled.state.host.effects := by
  simp only [handle, if_neg (not_not_intro current), announced]
  split
  · exact ⟨rfl, rfl⟩
  · exact ⟨rfl, rfl⟩

/-- What the hooks ask for is what the response hands over, behind all that has been waiting. -/
theorem hold_behind (settled : Settled w) (settings : Settings) (asked : List Action) (i : Incident) :
    hold (dispatcher settings) (w.behind asked) i =
      (meet (dispatcher settings) w i).1.behind (asked ++ handedOver (meet (dispatcher settings) w i).2) := by
  cases i with
  | request r =>
    by_cases current : r.version = protocolVersion
    · cases announced : announcement r with
      | error e =>
        have settled' : (w.loadContext r.context).host.effects = [] := settled
        simp only [hold, if_neg (not_not_intro current), announced, meet, handle_of_payload current announced, answer,
          takeEffects_of_nil settled', handedOver, failure, List.flatMap_cons, List.flatMap_nil, List.append_nil]
        rfl
      | ok a =>
        obtain ⟨left, effects⟩ := handle_of_announced current announced (dispatcher settings) w
        have told : (w.behind asked).loadContext r.context = (w.loadContext r.context).behind asked := rfl
        simp only [hold, if_neg (not_not_intro current), announced, told, dispatch_behind, Handled.behind, meet, left,
          handedOver, effects, List.flatMap_cons, List.flatMap_nil, List.append_nil]
        exact behind_takeEffects _ asked
    · simp only [hold, if_pos current, meet, handle_of_version current, handedOver, failure, List.flatMap_cons,
        List.flatMap_nil, List.append_nil]
  | clock now => simp only [meet, handedOver, List.flatMap_nil, List.append_nil, hold, behind]
  | rewrite node => simp only [meet, handedOver, List.flatMap_nil, List.append_nil, hold, behind_replaceLoop]
  | stop session => simp only [meet, handedOver, List.flatMap_nil, List.append_nil, hold, behind_stop]
  | resume session => simp only [meet, handedOver, List.flatMap_nil, List.append_nil, hold, behind_clearStop]

theorem holds_behind (settled : Settled w) (settings : Settings) (asked : List Action) (run : List Incident) :
    run.foldl (hold (dispatcher settings)) (w.behind asked) =
      (converse (dispatcher settings) w run).1.behind
        (asked ++ handedOver (converse (dispatcher settings) w run).2) := by
  induction run generalizing w asked with
  | nil => simp only [List.foldl_nil, converse, handedOver, List.flatMap_nil, List.append_nil]
  | cons i rest ih =>
    rw [List.foldl_cons, hold_behind settled, ih (meet_settled settled (dispatcher settings) i)]
    simp only [converse, handedOver, List.flatMap_append, List.append_assoc]

/-! What stays as it is in every conversation. -/

end Service

structure World.SameGround (before after : World) : Prop where
  journal : after.journal = before.journal
  loopFile : after.loopFile = before.loopFile
  disturbance : after.disturbance = before.disturbance
  here : after.files.here = before.files.here

namespace World.SameGround

variable {w w' later : World}

theorem refl (w : World) : SameGround w w :=
  ⟨rfl, rfl, rfl, rfl⟩

theorem trans (first : SameGround w w') (second : SameGround w' later) : SameGround w later :=
  ⟨second.journal.trans first.journal, second.loopFile.trans first.loopFile,
    second.disturbance.trans first.disturbance, second.here.trans first.here⟩

theorem of_steady (steady : Steady w w') : SameGround w w' :=
  ⟨steady.journal, steady.loopFile, steady.disturbance, steady.here⟩

theorem undisturbed (same : SameGround w w') (undisturbed : w.Undisturbed) : w'.Undisturbed := by
  intro c
  rw [same.disturbance]
  exact undisturbed c

theorem apart (same : SameGround w w') (apart : w.Apart) : w'.Apart := by
  intro p kept
  rw [loopPlace, FileTree.placeOf_eq same.here, FileTree.placeOf_eq same.here, same.loopFile]
  exact apart p (same.journal ▸ kept)

end World.SameGround

namespace Service

variable {settings : Settings} {w : World} {h : Hook World}

theorem visit_sameGround (member : h ∈ allHooks settings) (e : Event) (x : e.Output × World) :
    SameGround x.2 ((dispatcher settings).visit e x h).2 := by
  obtain ⟨stopped, steady⟩ := visit_fixtures member e x
  exact ⟨steady.journal, steady.loopFile, steady.disturbance, steady.here⟩

theorem dispatch_sameGround (settings : Settings) (e : Event) (out : e.Output) (w : World) :
    SameGround w ((dispatcher settings).dispatch e out w).state := by
  let opened := w.remark (.on Dispatcher.journalId .dispatch "dispatched" e.kind e.session)
  have opens : SameGround w opened := .of_steady (Quiet.remark w _).toSteady
  rw [dispatch_eq_visits]
  exact Dispatcher.visits_keep (P := fun x => SameGround w x.2) (x := (out, opened)) _
    (fun h active x same => same.trans (visit_sameGround (mem_of_active active) e x)) opens

theorem meet_sameGround (settings : Settings) (w : World) (i : Incident) :
    SameGround w (meet (dispatcher settings) w i).1 := by
  cases i with
  | request r =>
    by_cases current : r.version = protocolVersion
    · cases announced : announcement r with
      | error e =>
        simp only [meet, handle_of_payload current announced]
        exact ⟨rfl, rfl, rfl, rfl⟩
      | ok a =>
        obtain ⟨left, -⟩ := handle_of_announced current announced (dispatcher settings) w
        have dispatched := dispatch_sameGround settings a.event a.output (w.loadContext r.context)
        simp only [meet, left]
        exact ⟨dispatched.journal, dispatched.loopFile, dispatched.disturbance, dispatched.here⟩
    · simp only [meet, handle_of_version current]
      exact .refl w
  | clock now => exact ⟨rfl, rfl, rfl, rfl⟩
  | rewrite node => exact ⟨rfl, rfl, rfl, FileTree.overwrite_here w.files w.loopFile node⟩
  | stop session => exact ⟨rfl, rfl, rfl, rfl⟩
  | resume session => exact ⟨rfl, rfl, rfl, rfl⟩

theorem converse_sameGround (settings : Settings) (w : World) (run : List Incident) :
    SameGround w (converse (dispatcher settings) w run).1 := by
  induction run generalizing w with
  | nil => exact .refl w
  | cons i rest ih => exact (meet_sameGround settings w i).trans (ih (meet (dispatcher settings) w i).1)

theorem visits_hostContext {hooks : List (Hook World)} (members : ∀ h ∈ hooks, h ∈ allHooks settings) (e : Event)
    (x : e.Output × World) :
    ((dispatcher settings).visits e hooks x).2.host.context = x.2.host.context := by
  let Told (y : e.Output × World) : Prop := y.2.host.context = x.2.host.context
  have keeps : ∀ h ∈ hooks, ∀ y, Told y → Told ((dispatcher settings).visit e y h) := by
    intro h turn y same
    obtain ⟨stopped, steady⟩ := visit_fixtures (members h turn) e y
    exact steady.context.trans same
  exact Dispatcher.visits_keep (P := Told) _ keeps rfl

/-- A request has its own effects and its own context. However the service came to be in its state:

- Each response hands over what the hooks ask for while the request is handled, in the order in which they ask. If
nothing were ever handed over, the same would be waiting in the end as all responses hand over, one after another,
and nothing else would be different.
- Every hook that has its turn sees the context that came with the request, and it makes no difference what an earlier
request told.
- When a session goes idle about which the request tells nothing, nothing is asked of the host, and the loop's file
stays as it was.

The journal and the loop's file are at different places. -/
theorem effects_per_request (settings : Settings) (project : Path) (files : FileTree) (now : Timestamp)
    (sampler : Sampler) (before : List Incident)
    (apart : files.placeOf (project.join settings.audit.path) ≠
      files.placeOf (project.join settings.autopilot.stateFile)) :
    let d := dispatcher settings
    let start := World.start settings project files now sampler
    let w := (converse d start before).1
    before.foldl (hold d) start = w.behind (handedOver (converse d start before).2) ∧
    ∀ r, (hold d w (.request r)).host.effects = (handle d r w).1.effects ∧
      (∀ context, (handle d r (w.loadContext context)).1 = (handle d r w).1 ∧
        ∃ context', (handle d r (w.loadContext context)).2 = (handle d r w).2.loadContext context') ∧
      ∀ a, r.version = protocolVersion → announcement r = .ok a →
        (∀ first rest, d.hooks = first ++ rest →
          (d.visits a.event first (a.output, (w.loadContext r.context).remark
            (.on Dispatcher.journalId .dispatch "dispatched" a.event.kind a.event.session))).2.host.context =
              r.context) ∧
        ∀ session, ContinuationPolicy.IdleOf session a.event → r.context.snapshot? session = none →
          (handle d r w).1.effects = [] ∧ (handle d r w).2.loopContent? = w.loopContent? := by
  intro d start w
  have settled : Settled w := converse_settled (start_settled settings project files now sampler) d before
  have ground : SameGround start w := converse_sameGround settings start before
  have apart' : w.Apart := by
    refine ground.apart fun p kept => ?_
    have audited : p = project.join settings.audit.path := by
      simp only [start, World.start] at kept
      split at kept
      · exact (Option.mem_some.1 kept).symm
      · cases kept
    rw [audited]
    exact apart
  have undisturbed : w.Undisturbed := ground.undisturbed fun _ => rfl
  have waiting : before.foldl (hold d) start = w.behind (handedOver (converse d start before).2) :=
    holds_behind (start_settled settings project files now sampler) settings [] before
  refine ⟨waiting, fun r => ⟨?_, handle_loadContext d r w, fun a current announced => ⟨?_, ?_⟩⟩⟩
  · have emptied : (handle d r w).2.host.effects = [] := handle_settled settled d r
    have alone : (hold d w (.request r)).host.effects =
        handedOver [(r, (handle d r w).1)] ++ (handle d r w).2.host.effects :=
      congrArg (·.host.effects) (hold_behind settled settings [] (.request r))
    rw [alone, emptied, handedOver, List.flatMap_singleton, List.append_nil]
  · intro first rest arranged
    have members : ∀ h ∈ first, h ∈ allHooks settings := by
      intro h early
      have active : h ∈ d.hooks := by
        rw [arranged]
        exact List.mem_append_left rest early
      exact mem_of_active active
    exact visits_hostContext members a.event (a.output, _)
  · intro session gone unknown
    have mute : Mute (w.loadContext r.context) (d.dispatch a.event a.output (w.loadContext r.context)).state :=
      dispatch_of_unknown gone a.output unknown
    obtain ⟨left, effects⟩ := handle_of_announced current announced d w
    have passes := Passes.of_quiet (w := w.loadContext r.context) undisturbed apart' mute.toQuiet
    refine ⟨effects.trans (mute.effects.trans settled), ?_⟩
    rw [left]
    exact passes.loopContent?

/-- A session goes idle twice, and only the first time the host tells about it. -/
theorem effects_per_request_untold :
    let settings : Settings := { audit := { enabled := true } }
    let files : FileTree := ⟨["project"], [(["project"], .directory), (["project", ".hookgate"], .directory),
      (["project", ".hookgate", "autopilot-state.json"], .file "\x7b\"active\": true, \"sessionId\": \"s\"\x7d")]⟩
    let input : Json := .object [("type", .string "session.idle"), ("properties", .object [("sessionID", .string "s")])]
    let told : Request := ⟨protocolVersion, .event, input, .null, ⟨[("s", .blank)]⟩⟩
    let untold : Request := { told with context := .blank }
    let d := dispatcher settings
    let first := converse d (.start settings ⟨"/project"⟩ files ⟨2024, 5, 1, 12, 0, 0, 0⟩ ⟨[], 0⟩) [.request told]
    (handedOver first.2).map (fun a => (a.promptTo? "s").isSome) = [true] ∧
      (handle d untold first.1).1.effects = [] ∧ (handle d untold first.1).2.loopContent? = first.1.loopContent? := by
  intro settings files input told untold d first
  have apart : files.placeOf ((⟨"/project"⟩ : Path).join settings.audit.path) ≠
      files.placeOf ((⟨"/project"⟩ : Path).join settings.autopilot.stateFile) := by
    decide +kernel
  have prompted : (handedOver first.2).map (fun a => (a.promptTo? "s").isSome) = [true] := by
    have hooks : d = ⟨(enabledHooks settings).filter fun h => !settings.disabled.contains h.id, World.remark⟩ :=
      dispatcher_of_unordered rfl rfl
    simp only [first, hooks]
    decide +kernel
  obtain ⟨-, requests⟩ := effects_per_request settings ⟨"/project"⟩ files ⟨2024, 5, 1, 12, 0, 0, 0⟩ ⟨[], 0⟩
    [.request told] apart
  obtain ⟨-, -, announced⟩ := requests untold
  have gone : ContinuationPolicy.IdleOf "s" (.lifecycle ⟨"session.idle", .object [("sessionID", .string "s")]⟩) :=
    ⟨_, rfl, rfl, rfl⟩
  exact ⟨prompted, (announced ⟨.lifecycle _, ()⟩ rfl rfl).2 "s" gone rfl⟩

end Service

end AgentHooks
