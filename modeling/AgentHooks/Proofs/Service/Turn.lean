import AgentHooks.Proofs.Policy.Usage
import AgentHooks.Proofs.Pressure.Turn
import AgentHooks.Proofs.Service.Latch

/-! One hook's turn in a dispatch. What is a hook's own the other hooks leave alone, so before its turn it is what it was
before the dispatch, and after its turn it is what it will be afterwards. -/

namespace AgentHooks.Service

open World

variable {settings : Settings} {h : Hook World} {a : Announcement} {conduct : Conduct} {w : World}

/-- What a hook makes of what the hooks before it leave to it. -/
def turn (settings : Settings) (h : Hook World) (a : Announcement) (conduct : Conduct) (w : World) :
    Handled World a.event :=
  let before := ahead settings h.id a conduct w
  h.handle a.event before.output before.state

section Around

variable {P : a.event.Output × World → Prop} {id : String}
  (keeps : ∀ k ∈ allHooks settings, k.id ≠ id → ∀ x, P x → P ((dispatcher settings).visit a.event x k))

include keeps

theorem ahead_keeps (holds : P (a.output, opening a conduct w)) :
    P ((ahead settings id a conduct w).output, (ahead settings id a conduct w).state) := by
  -- The hooks that precede it are those in front of the first one of its name.
  let first := (dispatcher settings).hooks.takeWhile (·.id != id)
  have others : ∀ k ∈ first, k ∈ allHooks settings ∧ k.id ≠ id := by
    intro k early
    have active : k ∈ (dispatcher settings).hooks := (List.takeWhile_prefix _).subset early
    exact ⟨mem_of_active active, by simpa using List.mem_takeWhile_imp early⟩
  have visited : ahead settings id a conduct w = _ :=
    Dispatcher.runHooks_eq_visits _ _ first (fun k early => tolerant_of_mem (others k early).1) _ _
  rw [visited]
  exact Dispatcher.visits_keep (dispatcher settings) (fun k early => keeps k (others k early).1 (others k early).2) holds

theorem dispatch_keeps_of_inactive (inactive : id ∉ (dispatcher settings).ids)
    (holds : P (a.output, opening a conduct w)) :
    P ((dispatch settings a conduct w).output, (dispatch settings a conduct w).state) := by
  have other : ∀ k ∈ (dispatcher settings).hooks, k.id ≠ id :=
    fun k active same => inactive (List.mem_map.2 ⟨k, active, same⟩)
  rw [dispatch, dispatch_eq_visits]
  exact Dispatcher.visits_keep (dispatcher settings) (fun k active => keeps k (mem_of_active active) (other k active)) holds

end Around

theorem ahead_disturbance (id : String) (a : Announcement) (conduct : Conduct) (w : World) :
    (ahead settings id a conduct w).state.disturbance = conduct.disturbance := by
  refine ahead_keeps (P := fun x => x.2.disturbance = conduct.disturbance) (fun k member _ x same => ?_) rfl
  obtain ⟨_, steady⟩ := visit_fixtures member a.event x
  exact steady.disturbance.trans same

theorem ahead_apart (apart : w.Apart) (id : String) (a : Announcement) (conduct : Conduct) :
    (ahead settings id a conduct w).state.Apart :=
  ahead_keeps (P := fun x => x.2.Apart) (fun _ member _ x => visit_apart member a.event x)
    ((opening_quiet a conduct w).apart apart)

/-- What all other hooks keep holds after a dispatch if it holds after a hook's turn. -/
theorem dispatch_keeps {P : a.event.Output × World → Prop} (active : h ∈ (dispatcher settings).hooks)
    (keeps : ∀ k ∈ allHooks settings, k.id ≠ h.id → ∀ x, P x → P ((dispatcher settings).visit a.event x k))
    (holds : P ((dispatcher settings).visit a.event
      ((ahead settings h.id a conduct w).output, (ahead settings h.id a conduct w).state) h)) :
    P ((dispatch settings a conduct w).output, (dispatch settings a conduct w).state) := by
  obtain ⟨first, rest, arranged, early, late⟩ := hooks_split active
  rw [ahead_eq_visits arranged early a conduct w] at holds
  rw [dispatch, dispatch_eq_visits, arranged, Dispatcher.visits_append]
  exact Dispatcher.visits_keep (dispatcher settings) (fun k turn => keeps k (late k turn).1 (late k turn).2) holds

/-- A part of the world that only one of the hooks changes, and nothing outside the hooks does. -/
structure Owned {α : Type} (settings : Settings) (id : String) (part : World → α) : Prop where
  blind : ∀ w files now host disturbance, part { w with files, now, host, disturbance } = part w
  others : ∀ k ∈ allHooks settings, k.id ≠ id → ∀ (e : Event) (out : e.Output) w,
    part (k.handle e out w).state = part w

namespace Owned

variable {α : Type} {id : String} {part : World → α}

theorem remark (owned : Owned settings id part) (w : World) (r : Remark) : part (w.remark r) = part w :=
  owned.blind w _ _ _ _

theorem visit (owned : Owned settings id part) (e : Event) (x : e.Output × World) (h : Hook World) :
    part ((dispatcher settings).visit e x h).2 = part (h.handle e x.1 x.2).state := by
  simp only [Dispatcher.visit]
  split
  · rfl
  · exact owned.remark _ _

theorem visit_other (owned : Owned settings id part) (member : h ∈ allHooks settings) (other : h.id ≠ id) (e : Event)
    (x : e.Output × World) : part ((dispatcher settings).visit e x h).2 = part x.2 :=
  (owned.visit e x h).trans (owned.others h member other e x.1 x.2)

theorem ahead (owned : Owned settings id part) (a : Announcement) (conduct : Conduct) (w : World) :
    part (Service.ahead settings id a conduct w).state = part w :=
  ahead_keeps (P := fun x => part x.2 = part w)
    (fun _ member other x same => (owned.visit_other member other a.event x).trans same) (owned.blind w _ _ _ _)

theorem dispatch (owned : Owned settings h.id part) (active : h ∈ (dispatcher settings).hooks) (a : Announcement)
    (conduct : Conduct) (w : World) :
    part (Service.dispatch settings a conduct w).state = part (turn settings h a conduct w).state :=
  dispatch_keeps (P := fun x => part x.2 = part (turn settings h a conduct w).state) active
    (fun _ member other x same => (owned.visit_other member other a.event x).trans same) (owned.visit _ _ _)

theorem occur (owned : Owned settings h.id part) (active : h ∈ (dispatcher settings).hooks) (w : World)
    (o : Occurrence) :
    part (Service.occur settings w o).1 =
      match o with
      | .dispatch a conduct => part (turn settings h a conduct w).state
      | _ => part w := by
  cases o with
  | dispatch a conduct => exact (owned.blind _ _ _ _ _).trans (owned.dispatch active a conduct w)
  | tell context => exact owned.blind w _ _ _ _
  | rewrite node => exact owned.blind w _ _ _ _
  | clock now => exact owned.blind w _ _ _ _

theorem occur_of_inactive (owned : Owned settings id part) (inactive : id ∉ (dispatcher settings).ids) (w : World)
    (o : Occurrence) : part (Service.occur settings w o).1 = part w := by
  cases o with
  | dispatch a conduct =>
    refine (owned.blind _ _ _ _ _).trans ?_
    exact dispatch_keeps_of_inactive (P := fun x => part x.2 = part w)
      (fun _ member other x same => (owned.visit_other member other a.event x).trans same) inactive
      (owned.blind w _ _ _ _)
  | tell context => exact owned.blind w _ _ _ _
  | rewrite node => exact owned.blind w _ _ _ _
  | clock now => exact owned.blind w _ _ _ _

end Owned

/-! What the hooks own. -/

theorem pressure_owned (settings : Settings) : Owned settings PressurePolicy.id World.pressure := by
  refine ⟨fun _ _ _ _ _ => rfl, fun k member other e out w => ?_⟩
  rcases mem_allHooks.1 member with rfl | rfl | rfl | rfl | rfl
  · exact congrArg Prod.fst (StopPolicy.handle_rosters _ e out w)
  · exact congrArg Prod.fst (ContinuationPolicy.handle_rosters _ _ e out w)
  · exact absurd rfl other
  · exact (ContextPolicy.handle_leaves _ e out w).1
  · exact (CompactionPolicy.handle_leaves _ e out w).1

theorem context_owned (settings : Settings) : Owned settings ContextPolicy.id World.context := by
  refine ⟨fun _ _ _ _ _ => rfl, fun k member other e out w => ?_⟩
  rcases mem_allHooks.1 member with rfl | rfl | rfl | rfl | rfl
  · exact congrArg (·.2.1) (StopPolicy.handle_rosters _ e out w)
  · exact congrArg (·.2.1) (ContinuationPolicy.handle_rosters _ _ e out w)
  · exact (PressurePolicy.handle_leaves _ e out w).1
  · exact absurd rfl other
  · exact (CompactionPolicy.handle_leaves _ e out w).2

theorem compaction_owned (settings : Settings) : Owned settings CompactionPolicy.id World.compaction := by
  refine ⟨fun _ _ _ _ _ => rfl, fun k member other e out w => ?_⟩
  rcases mem_allHooks.1 member with rfl | rfl | rfl | rfl | rfl
  · exact congrArg (·.2.2) (StopPolicy.handle_rosters _ e out w)
  · exact congrArg (·.2.2) (ContinuationPolicy.handle_rosters _ _ e out w)
  · exact (PressurePolicy.handle_leaves _ e out w).2
  · exact (ContextPolicy.handle_leaves _ e out w).2
  · exact absurd rfl other

theorem sampler_owned (settings : Settings) : Owned settings PressurePolicy.id World.sampler := by
  refine ⟨fun _ _ _ _ _ => rfl, fun k member other e out w => ?_⟩
  rcases mem_allHooks.1 member with rfl | rfl | rfl | rfl | rfl
  · exact (StopPolicy.handle_asks _ e out w).sampler
  · exact (ContinuationPolicy.handle_asks _ _ e out w).sampler
  · exact absurd rfl other
  · exact (ContextPolicy.handle_asks _ e out w).sampler
  · exact (CompactionPolicy.handle_asks _ e out w).sampler

/-! What the hooks ask for. -/

theorem visit_adds {kind : Action → Prop} (settings : Settings) (e : Event) (x : e.Output × World) (h : Hook World)
    (adds : Adds kind x.2 (h.handle e x.1 x.2).state) : Adds kind x.2 ((dispatcher settings).visit e x h).2 := by
  simp only [Dispatcher.visit]
  split
  · exact adds
  · exact adds.trans (.of_effects rfl)

theorem visit_tellsOfPause (member : h ∈ allHooks settings) (other : h.id ≠ PressurePolicy.id) (session : String)
    (e : Event) (x : e.Output × World) :
    Adds (·.tellsOfPause session = false) x.2 ((dispatcher settings).visit e x h).2 := by
  refine visit_adds settings e x h ?_
  rcases mem_allHooks.1 member with rfl | rfl | rfl | rfl | rfl
  · exact (StopPolicy.handle_asks _ e x.1 x.2).adds.mono fun _ never => never.elim
  · refine (ContinuationPolicy.handle_asks _ _ e x.1 x.2).adds.mono fun a wanted => ?_
    rcases wanted with ⟨_, _, rfl⟩ | ⟨n, rfl, ended⟩
    · rfl
    · have apart : ∀ title ∈ ["Autopilot complete", "Autopilot stopped"], (title == "Autopilot paused") = false := by
        decide
      simp only [Action.tellsOfPause, apart _ ended, Bool.and_false]
  · exact absurd rfl other
  · exact (ContextPolicy.handle_asks _ e x.1 x.2).adds.mono fun _ never => never.elim
  · refine (CompactionPolicy.handle_asks _ e x.1 x.2).adds.mono fun a wanted => ?_
    obtain ⟨_, rfl⟩ := wanted
    rfl

theorem visit_summarizes (member : h ∈ allHooks settings) (other : h.id ≠ CompactionPolicy.id) (session : String)
    (e : Event) (x : e.Output × World) :
    Adds (·.summarizes session = false) x.2 ((dispatcher settings).visit e x h).2 := by
  refine visit_adds settings e x h ?_
  rcases mem_allHooks.1 member with rfl | rfl | rfl | rfl | rfl
  · exact (StopPolicy.handle_asks _ e x.1 x.2).adds.mono fun _ never => never.elim
  · refine (ContinuationPolicy.handle_asks _ _ e x.1 x.2).adds.mono fun a wanted => ?_
    rcases wanted with ⟨_, _, rfl⟩ | ⟨_, rfl, _⟩ <;> rfl
  · refine (PressurePolicy.handle_adds _ e x.1 x.2).mono fun a wanted => ?_
    obtain ⟨_, rfl⟩ := wanted
    rfl
  · exact (ContextPolicy.handle_asks _ e x.1 x.2).adds.mono fun _ never => never.elim
  · exact absurd rfl other

/-- Of a kind of action that only one hook asks for, a dispatch adds what that hook adds in its turn. -/
theorem dispatch_countP {p : Action → Bool} (active : h ∈ (dispatcher settings).hooks)
    (others : ∀ k ∈ allHooks settings, k.id ≠ h.id → ∀ (e : Event) (x : e.Output × World),
      Adds (p · = false) x.2 ((dispatcher settings).visit e x k).2) (a : Announcement) (conduct : Conduct) (w : World) :
    (ahead settings h.id a conduct w).state.host.effects.countP p = w.host.effects.countP p ∧
      (dispatch settings a conduct w).state.host.effects.countP p =
        (turn settings h a conduct w).state.host.effects.countP p := by
  constructor
  · exact ahead_keeps (P := fun x => x.2.host.effects.countP p = w.host.effects.countP p)
      (fun k member other x same => (others k member other a.event x).countP.trans same) rfl
  · refine dispatch_keeps
      (P := fun x => x.2.host.effects.countP p = (turn settings h a conduct w).state.host.effects.countP p) active
      (fun k member other x same => (others k member other a.event x).countP.trans same) ?_
    simp only [Dispatcher.visit]
    split <;> rfl

theorem dispatch_countP_of_inactive {p : Action → Bool} {id : String} (inactive : id ∉ (dispatcher settings).ids)
    (others : ∀ k ∈ allHooks settings, k.id ≠ id → ∀ (e : Event) (x : e.Output × World),
      Adds (p · = false) x.2 ((dispatcher settings).visit e x k).2) (a : Announcement) (conduct : Conduct) (w : World) :
    (dispatch settings a conduct w).state.host.effects.countP p = w.host.effects.countP p :=
  dispatch_keeps_of_inactive (P := fun x => x.2.host.effects.countP p = w.host.effects.countP p)
    (fun k member other x same => (others k member other a.event x).countP.trans same) inactive rfl

/-! What the agent reads. -/

def Advises (kind : String → Prop) (before after : ToolResult) : Prop :=
  ∃ blocks : List String, (∀ b ∈ blocks, kind b) ∧ after = blocks.foldl ToolResult.appendReminder before

section Advises

variable {kind : String → Prop} {out out' later : ToolResult}

theorem Advises.refl (kind : String → Prop) (out : ToolResult) : Advises kind out out :=
  ⟨[], fun _ nobody => (nomatch nobody), rfl⟩

theorem Advises.trans (first : Advises kind out out') (second : Advises kind out' later) : Advises kind out later := by
  obtain ⟨blocks, known, rfl⟩ := first
  obtain ⟨more, known', rfl⟩ := second
  refine ⟨blocks ++ more, fun b told => ?_, List.foldl_append.symm⟩
  exact (List.mem_append.1 told).elim (known b) (known' b)

theorem visit_advises_of_context (member : h ∈ allHooks settings) (other : h.id ≠ PressurePolicy.id)
    (call : ToolCall) (x : ToolResult × World) :
    Advises (fun b => ∃ m : ContextMemory, b = m.reminderText settings.context) x.1
      ((dispatcher settings).visit (.toolAfter call) x h).1 := by
  rcases mem_allHooks.1 member with rfl | rfl | rfl | rfl | rfl
  · exact .refl _ x.1
  · exact .refl _ x.1
  · exact absurd rfl other
  · change Advises _ x.1 (ContextPolicy.onToolAfter settings.context call.session x.1 x.2).1
    rw [ContextPolicy.onToolAfter_output]
    split
    · exact ⟨[_], fun b told => ⟨_, List.mem_singleton.1 told⟩, rfl⟩
    · exact .refl _ x.1
  · exact .refl _ x.1

theorem visit_advises_of_pressure (member : h ∈ allHooks settings) (other : h.id ≠ ContextPolicy.id)
    (call : ToolCall) (x : ToolResult × World) :
    Advises (fun b => ∃ v, b ∈ PressurePolicy.blocks settings.pressure call.session v) x.1
      ((dispatcher settings).visit (.toolAfter call) x h).1 := by
  rcases mem_allHooks.1 member with rfl | rfl | rfl | rfl | rfl
  · exact .refl _ x.1
  · exact .refl _ x.1
  · exact ⟨PressurePolicy.blocks settings.pressure call.session x.2, fun b told => ⟨x.2, told⟩,
      (PressurePolicy.onToolAfter_does settings.pressure call.session x.1 x.2).2.output⟩
  · exact absurd rfl other
  · exact .refl _ x.1

/-- One hook's reminders stand together, and what is before and behind them is of the kind that the others have. -/
theorem dispatch_advises {call : ToolCall} (active : h ∈ (dispatcher settings).hooks)
    (others : ∀ k ∈ allHooks settings, k.id ≠ h.id → ∀ x : ToolResult × World,
      Advises kind x.1 ((dispatcher settings).visit (.toolAfter call) x k).1)
    (out : ToolResult) (conduct : Conduct) (w : World) {own : List String}
    (turned : (turn settings h ⟨.toolAfter call, out⟩ conduct w).output =
      own.foldl ToolResult.appendReminder (ahead settings h.id ⟨.toolAfter call, out⟩ conduct w).output) :
    ∃ front back : List String, (∀ b ∈ front ++ back, kind b) ∧
      (dispatch settings ⟨.toolAfter call, out⟩ conduct w).output =
        (front ++ own ++ back).foldl ToolResult.appendReminder out := by
  have early : Advises kind out (ahead settings h.id ⟨.toolAfter call, out⟩ conduct w).output :=
    ahead_keeps (a := ⟨.toolAfter call, out⟩) (P := fun x => Advises kind out x.1)
      (fun k member other x advised => advised.trans (others k member other x)) (.refl kind out)
  have late : Advises kind (turn settings h ⟨.toolAfter call, out⟩ conduct w).output
      (dispatch settings ⟨.toolAfter call, out⟩ conduct w).output :=
    dispatch_keeps (a := ⟨.toolAfter call, out⟩)
      (P := fun x => Advises kind (turn settings h ⟨.toolAfter call, out⟩ conduct w).output x.1) active
      (fun k member other x advised => advised.trans (others k member other x)) (.refl kind _)
  obtain ⟨front, known, opened⟩ := early
  obtain ⟨back, known', closed⟩ := late
  refine ⟨front, back, fun b told => (List.mem_append.1 told).elim (known b) (known' b), ?_⟩
  rw [closed, turned, opened, List.foldl_append, List.foldl_append]

theorem dispatch_advises_of_inactive {call : ToolCall} {id : String} (inactive : id ∉ (dispatcher settings).ids)
    (others : ∀ k ∈ allHooks settings, k.id ≠ id → ∀ x : ToolResult × World,
      Advises kind x.1 ((dispatcher settings).visit (.toolAfter call) x k).1)
    (out : ToolResult) (conduct : Conduct) (w : World) :
    Advises kind out (dispatch settings ⟨.toolAfter call, out⟩ conduct w).output :=
  dispatch_keeps_of_inactive (a := ⟨.toolAfter call, out⟩) (P := fun x => Advises kind out x.1)
    (fun k member other x advised => advised.trans (others k member other x)) inactive (.refl kind out)

end Advises

def ownBlocks (settings : Settings) (call : ToolCall) (out : ToolResult) (conduct : Conduct) (w : World) :
    List String :=
  if PressurePolicy.id ∈ (dispatcher settings).ids then
    PressurePolicy.blocks settings.pressure call.session
      (ahead settings PressurePolicy.id ⟨.toolAfter call, out⟩ conduct w).state
  else []

theorem dispatch_ownBlocks (settings : Settings) (call : ToolCall) (out : ToolResult) (conduct : Conduct) (w : World) :
    ∃ front back : List String, (∀ b ∈ front ++ back, ∃ m : ContextMemory, b = m.reminderText settings.context) ∧
      (dispatch settings ⟨.toolAfter call, out⟩ conduct w).output =
        (front ++ ownBlocks settings call out conduct w ++ back).foldl ToolResult.appendReminder out := by
  have others := fun (k : Hook World) (member : k ∈ allHooks settings) (other : k.id ≠ PressurePolicy.id) x =>
    visit_advises_of_context member other call x
  unfold ownBlocks
  split
  next monitored =>
    have active : PressurePolicy.hook settings ∈ (dispatcher settings).hooks :=
      active_of_id (by simp [allHooks]) monitored
    exact dispatch_advises active others out conduct w
      (PressurePolicy.onToolAfter_does settings.pressure call.session _ _).2.output
  next unmonitored =>
    obtain ⟨front, known, advised⟩ := dispatch_advises_of_inactive unmonitored others out conduct w
    refine ⟨front, [], ?_, ?_⟩
    · rwa [List.append_nil]
    · rw [advised, List.append_nil, List.append_nil]

end AgentHooks.Service
