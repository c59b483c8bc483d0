import AgentHooks.Proofs.Pressure.Cooldown
import AgentHooks.Proofs.Service.Episode
import AgentHooks.Proofs.Service.Faithful

/-! The pressure monitor's cooldowns over runs. Whatever the sampler does and whoever else calls tools in between, a
session is sampled at evenly spaced calls of its own, and reminders of a level keep their distance in its own calls. -/

namespace AgentHooks

open World PressureCounters

namespace PressurePolicy

theorem shown_congr {w w' : World} (same : w'.sampler = w.sampler) (s : PressureSettings) :
    shown s w' = shown s w := by
  have taken : w'.sample.2 = w.sample.2 := congrArg (·.sample.1) same
  rw [shown, shown, taken]

theorem observed_congr {w w' : World} {session : String} (sampler : w'.sampler = w.sampler)
    (counters : w'.pressure.get? session = w.pressure.get? session) (s : PressureSettings) :
    observed s session w' = observed s session w := by
  rw [observed, observed, counters, shown_congr sampler]

/-- What is remembered of a session changes at its own calls only, unless it is forgotten. -/
theorem handle_other {session : String} {e : Event} (other : e.isCallOf session = false) (s : PressureSettings)
    (out : e.Output) (w : World) :
    (handle s e out w).state.pressure.get? session = w.pressure.get? session ∨
      (handle s e out w).state.pressure.get? session = none := by
  cases e with
  | toolAfter call =>
    change (onToolAfter s call.session out w).2.pressure.get? session = _ ∨ _
    by_cases same : session = call.session
    · have blank : call.session = "" := by
        by_contra named
        simp [Event.isCallOf, same, named] at other
      rw [onToolAfter, if_pos blank]
      exact .inl rfl
    · exact (onToolAfter_leaves s call.session out w).2.2 session same
  | lifecycle e =>
    simp only [handle, Handled.pass]
    split
    · split
      next deleted _ => exact Roster.get?_remove w.pressure deleted session
      · exact .inl rfl
    · exact .inl rfl
  | toolBefore call => exact .inl rfl
  | commandBefore command => exact .inl rfl
  | chatMessage turn => exact .inl rfl
  | messagesTransform request => exact .inl rfl

end PressurePolicy

theorem Announcement.toolAfter_of_isCallOf {session : String} {a : Announcement}
    (own : a.event.isCallOf session = true) :
    session ≠ "" ∧ ∃ call out, a = ⟨.toolAfter call, out⟩ ∧ call.session = session := by
  rcases a with ⟨e, out⟩
  cases e with
  | toolAfter call =>
    simp only [Event.isCallOf, Bool.and_eq_true, beq_iff_eq, bne_iff_ne] at own
    exact ⟨own.2, call, out, rfl, own.1⟩
  | _ => cases own

namespace Service

variable {settings : Settings} {session : String} {w : World} {run : List Occurrence} {o : Occurrence}

def counters (session : String) (w : World) : PressureCounters :=
  (w.pressure.get? session).getD .start

/-- Whether an occurrence is a tool call of a session after which the monitor, in its turn, reminds the agent of a level
of pressure. -/
def Reminded (settings : Settings) (level : PressureLevel) (session : String) (w : World) : Occurrence → Prop
  | .dispatch ⟨.toolAfter tool, out⟩ conduct =>
    tool.session = session ∧ PressurePolicy.Reminds settings.pressure level (ownBlocks settings tool out conduct w)
  | _ => False

theorem Reminded.isCallOf {level : PressureLevel} (reminded : Reminded settings level session w o) :
    PressurePolicy.id ∈ (dispatcher settings).ids ∧ o.isCallOf session = true := by
  rcases o with ⟨⟨e, out⟩, conduct⟩ | _ | _ | _
  · cases e with
    | toolAfter call =>
      obtain ⟨rfl, sample, block, known, here⟩ := reminded
      unfold ownBlocks at here
      split at here
      next active =>
        obtain ⟨-, _, seen, -⟩ := PressurePolicy.reminds_blocks.1 ⟨sample, block, known, here⟩
        obtain ⟨due, -⟩ := PressurePolicy.observed_eq_some seen
        exact ⟨active, Bool.and_eq_true_iff.2 ⟨beq_self_eq_true _, (Bool.and_eq_true_iff.1 due).1⟩⟩
      · cases here
    | _ => exact reminded.elim
  all_goals exact reminded.elim

section Monitored

variable (monitored : PressurePolicy.hook settings ∈ (dispatcher settings).hooks)

include monitored

/-- A tool call of a session: one more for its counters, and for the sampler if a sample is due. -/
theorem occur_of_isCallOf {a : Announcement} (own : a.event.isCallOf session = true) (conduct : Conduct) (w : World) :
    let c := counters session w
    let called := c.call settings.pressure (PressurePolicy.shown settings.pressure w)
    let after := (occur settings w (.dispatch a conduct)).1
    after.pressure.get? session = some called.1 ∧
      after.sampler =
        (if (c.tick settings.pressure.sampleCooldownToolCalls).2 then w.sampler.sample.2 else w.sampler) ∧
      PressurePolicy.observed settings.pressure session (ahead settings PressurePolicy.id a conduct w).state =
        called.2 := by
  intro c called after
  obtain ⟨named, call, out, rfl, rfl⟩ := Announcement.toolAfter_of_isCallOf own
  let before := ahead settings PressurePolicy.id ⟨.toolAfter call, out⟩ conduct w
  have roster : before.state.pressure = w.pressure := (pressure_owned settings).ahead _ conduct w
  have sampler : before.state.sampler = w.sampler := (sampler_owned settings).ahead _ conduct w
  have shown := PressurePolicy.shown_congr sampler settings.pressure
  have counted := PressurePolicy.onToolAfter_counters settings.pressure named before.output before.state
  have sampled := (PressurePolicy.onToolAfter_does settings.pressure call.session before.output before.state).1
  rw [roster, shown] at counted
  refine ⟨?_, ?_, ?_⟩
  · have turned := (pressure_owned settings).occur (h := PressurePolicy.hook settings) monitored w
      (.dispatch ⟨.toolAfter call, out⟩ conduct)
    exact (congrArg (·.get? call.session) turned).trans counted
  · have turned := (sampler_owned settings).occur (h := PressurePolicy.hook settings) monitored w
      (.dispatch ⟨.toolAfter call, out⟩ conduct)
    have due : PressurePolicy.samples settings.pressure call.session before.state =
        (c.tick settings.pressure.sampleCooldownToolCalls).2 := by
      rw [PressurePolicy.samples, roster, bne_iff_ne.2 named, Bool.true_and]
      rfl
    rw [due] at sampled
    refine (turned.trans sampled).trans ?_
    have next : before.state.sample.1.sampler = w.sampler.sample.2 := congrArg (·.sample.2) sampler
    rw [next, sampler]
  · have same : before.state.pressure.get? call.session = w.pressure.get? call.session := by rw [roster]
    rw [PressurePolicy.observed_congr sampler same, PressurePolicy.observed, if_neg named]
    rfl

theorem occur_of_not_isCallOf (other : o.isCallOf session = false)
    (stays : Stays settings World.pressure session w [o]) :
    (occur settings w o).1.pressure.get? session = w.pressure.get? session := by
  refine stays.get? ?_
  have turned := (pressure_owned settings).occur (h := PressurePolicy.hook settings) monitored w o
  cases o with
  | dispatch a conduct =>
    have roster := (pressure_owned settings).ahead a conduct w
    have handled := PressurePolicy.handle_other other settings.pressure
      (ahead settings PressurePolicy.id a conduct w).output (ahead settings PressurePolicy.id a conduct w).state
    rw [roster] at handled
    exact handled.imp (congrArg (·.get? session) turned).trans (congrArg (·.get? session) turned).trans
  | tell context => exact .inl (congrArg (·.get? session) turned)
  | rewrite node => exact .inl (congrArg (·.get? session) turned)
  | clock now => exact .inl (congrArg (·.get? session) turned)

/-- Whether the agent is reminded can be told from the counters and the next sample. -/
theorem reminded_iff {a : Announcement} (own : a.event.isCallOf session = true) (conduct : Conduct) (w : World)
    (level : PressureLevel) :
    Reminded settings level session w (.dispatch a conduct) ↔
      RemindsOf (counters session w) settings.pressure (PressurePolicy.shown settings.pressure w) level := by
  have active : PressurePolicy.id ∈ (dispatcher settings).ids := List.mem_map.2 ⟨_, monitored, rfl⟩
  obtain ⟨-, -, observed⟩ := occur_of_isCallOf monitored own conduct w
  obtain ⟨-, call, out, rfl, rfl⟩ := Announcement.toolAfter_of_isCallOf own
  simp only [Reminded, true_and, ownBlocks, if_pos active, PressurePolicy.reminds_blocks, observed]
  exact and_iff_right_of_imp fun reminds => (remindsOf_iff.1 reminds).1

theorem occur_sampler_of_no_call (nobody : ∀ other, o.isCallOf other = false) (w : World) :
    (occur settings w o).1.sampler = w.sampler := by
  have turned := (sampler_owned settings).occur (h := PressurePolicy.hook settings) monitored w o
  cases o with
  | dispatch a conduct =>
    have before := (sampler_owned settings).ahead a conduct w
    refine turned.trans (Eq.trans ?_ before)
    rcases a with ⟨e, out⟩
    by_cases finished : ∃ call, e = .toolAfter call
    · obtain ⟨call, rfl⟩ := finished
      have blank : call.session = "" := by
        by_contra named
        have own := nobody call.session
        simp [Occurrence.isCallOf, Event.isCallOf, named] at own
      change (PressurePolicy.onToolAfter settings.pressure call.session _ _).2.sampler = _
      rw [PressurePolicy.onToolAfter, if_pos blank]
      rfl
    · exact (PressurePolicy.handle_asks settings.pressure (fun call same => finished ⟨call, same⟩) _ _).sampler
  | tell context => exact turned
  | rewrite node => exact turned
  | clock now => exact turned

end Monitored

theorem occur_counters (monitored : PressurePolicy.hook settings ∈ (dispatcher settings).hooks)
    (stays : Stays settings World.pressure session w [o]) :
    let c := counters session w
    let c' := counters session (occur settings w o).1
    c'.toolCalls = c.toolCalls + (o.isCallOf session).toNat ∧
      (Paced settings.pressure c → Paced settings.pressure c') ∧
      ∀ level, (Reminded settings level session w o → c'.lastOf level = some c'.toolCalls) ∧
        (¬Reminded settings level session w o → c'.lastOf level = c.lastOf level) := by
  intro c c'
  cases own : o.isCallOf session with
  | false =>
    have same : c' = c := congrArg (·.getD .start) (occur_of_not_isCallOf monitored own stays)
    rw [same]
    have silent : ∀ level, ¬Reminded settings level session w o := fun level reminded =>
      absurd (own.symm.trans reminded.isCallOf.2) Bool.false_ne_true
    exact ⟨rfl, id, fun level => ⟨fun reminded => absurd reminded (silent level), fun _ => rfl⟩⟩
  | true =>
    cases o with
    | dispatch a conduct =>
      have called : c' = (c.call settings.pressure (PressurePolicy.shown settings.pressure w)).1 :=
        congrArg (·.getD .start) (occur_of_isCallOf monitored own conduct w).1
      rw [called, call_toolCalls]
      refine ⟨rfl, fun paced => paced.call _, fun level => ?_⟩
      rw [reminded_iff monitored own conduct w level]
      exact ⟨call_lastOf_of_reminded, call_lastOf_of_silent⟩
    | _ => cases own

/-- The counters know how many calls of a session there were, when samples were due at them, and when the agent was last
reminded of either level. -/
structure Counted (settings : Settings) (session : String) (w : World) (run : List Occurrence) : Prop where
  toolCalls : (counters session (after settings w run)).toolCalls = calls session run
  paced : Paced settings.pressure (counters session (after settings w run))
  reminders : ∀ level, Remembers settings session (Reminded settings level session) 0 none w run
    ((counters session (after settings w run)).lastOf level)

theorem counted (monitored : PressurePolicy.hook settings ∈ (dispatcher settings).hooks)
    (new : w.pressure.get? session = none) (stays : Stays settings World.pressure session w run) :
    Counted settings session w run := by
  have fresh : counters session w = .start := by rw [counters, new, Option.getD_none]
  have unreminded : ∀ level, PressureCounters.start.lastOf level = none := fun level => by cases level <;> rfl
  have remembered : ∀ level, (counters session (after settings w run)).toolCalls = 0 + calls session run ∧
      Remembers settings session (Reminded settings level session) 0 none w run
        ((counters session (after settings w run)).lastOf level) := by
    intro level
    have steps := Remembers.of_steps (Reminded settings level session) (fun v => (counters session v).toolCalls)
      (fun v => (counters session v).lastOf level)
      (fun v o stays => ⟨(occur_counters monitored stays).1, (occur_counters monitored stays).2.2 level⟩)
      (by rw [fresh, unreminded]; exact fun m nothing => absurd nothing (Option.not_mem_none m)) stays
    rw [fresh, unreminded] at steps
    exact steps
  refine ⟨(remembered .normal).1.trans (Nat.zero_add _), ?_, fun level => (remembered level).2⟩
  clear remembered
  induction run using List.reverseRecOn with
  | nil =>
    change Paced settings.pressure (counters session w)
    rw [fresh]
    exact .inl ⟨rfl, rfl⟩
  | append_singleton run o ih =>
    obtain ⟨stayed, last⟩ := stays_append.1 stays
    rw [after_concat]
    exact (occur_counters monitored last).2.1 (ih stayed)

/-- A sample is due at a session's next call if the number of calls before it is a multiple of the spacing. -/
theorem Counted.due_iff (counted : Counted settings session w run) :
    ((counters session (after settings w run)).tick settings.pressure.sampleCooldownToolCalls).2 = true ↔
      max 1 settings.pressure.sampleCooldownToolCalls ∣ calls session run := by
  rw [← counted.toolCalls]
  exact counted.paced.due_iff

section Spaced

variable (monitored : PressurePolicy.hook settings ∈ (dispatcher settings).hooks)
  (counted : Counted settings session w run)

include monitored counted

theorem occur_sampler (own : o.isCallOf session = true) :
    let v := after settings w run
    (occur settings v o).1.sampler =
      if max 1 settings.pressure.sampleCooldownToolCalls ∣ calls session run then v.sampler.sample.2
      else v.sampler := by
  intro v
  cases o with
  | dispatch a conduct =>
    obtain ⟨-, sampler, -⟩ := occur_of_isCallOf monitored own conduct v
    exact sampler.trans (if_congr counted.due_iff rfl rfl)
  | _ => cases own

theorem reminded_spaced (own : o.isCallOf session = true) (level : PressureLevel) :
    let s := settings.pressure
    let v := after settings w run
    Reminded settings level session v o ↔
      level ≠ .normal ∧ max 1 s.sampleCooldownToolCalls ∣ calls session run ∧
        PressurePolicy.shown s v = some level ∧
        ∀ first p rest, run = first ++ p :: rest → Reminded settings level session (after settings w first) p →
          cooldownOf s level ≤ calls session (run ++ [o]) - calls session (first ++ [p]) := by
  intro s v
  cases o with
  | dispatch a conduct =>
    have last : (counters session v).toolCalls + 1 = calls session (run ++ [.dispatch a conduct]) := by
      rw [counted.toolCalls, calls_concat, own]
      rfl
    have cooled := (counted.reminders level).cooled_iff (.dispatch a conduct) (cooldownOf s level)
    rw [reminded_iff monitored own conduct v level, remindsOf_iff, counted.due_iff, last, cooled]
  | _ => cases own

end Spaced

/-- The monitor's cooldowns are kept, however its sampler behaves and whoever else calls tools. In a run at whose
beginning a session is not on the monitor's roster and in the course of which it is neither deleted nor evicted, the
session's calls count from one, and unless the monitor is switched off there is a sample at those whose number is one
more than a multiple of the spacing. No sample is taken where nobody calls a tool. A call reminds the agent of a level
if a sample is taken at it that shows this level, and all calls that reminded of the same level before are at least its
own cooldown away; what reminders there were of the other level is no matter. The reminders stand behind the tool's
output. -/
theorem pressure_cooldowns (new : w.pressure.get? session = none)
    (stays : Stays settings World.pressure session w run) {before later : List Occurrence}
    (split : run = before ++ o :: later) :
    let s := settings.pressure
    let v := after settings w before
    let n := calls session (before ++ [o])
    let spacing := max 1 s.sampleCooldownToolCalls
    (o.isCallOf session = true → (occur settings v o).1.sampler =
      if PressurePolicy.id ∈ (dispatcher settings).ids ∧ spacing ∣ n - 1 then v.sampler.sample.2 else v.sampler) ∧
    ((∀ other, o.isCallOf other = false) → (occur settings v o).1.sampler = v.sampler) ∧
    (∀ level, Reminded settings level session v o ↔
      PressurePolicy.id ∈ (dispatcher settings).ids ∧ o.isCallOf session = true ∧ level ≠ .normal ∧
        spacing ∣ n - 1 ∧ PressurePolicy.shown s v = some level ∧
        ∀ first p rest, before = first ++ p :: rest → Reminded settings level session (after settings w first) p →
          cooldownOf s level ≤ n - calls session (first ++ [p])) ∧
    ∀ call out conduct,
      ∃ front back : List String, (∀ b ∈ front ++ back, ∃ m : ContextMemory, b = m.reminderText settings.context) ∧
        (dispatch settings ⟨.toolAfter call, out⟩ conduct v).output =
          (front ++ ownBlocks settings call out conduct v ++ back).foldl ToolResult.appendReminder out := by
  intro s v n spacing
  have earlier : o.isCallOf session = true → n - 1 = calls session before := by
    intro own
    rw [show n = _ from calls_concat session before o, own]
    rfl
  have told := fun call out conduct => dispatch_ownBlocks settings call out conduct v
  by_cases active : PressurePolicy.id ∈ (dispatcher settings).ids
  · have monitored : PressurePolicy.hook settings ∈ (dispatcher settings).hooks :=
      active_of_id (by simp [allHooks]) active
    rw [split] at stays
    have known := counted monitored new (stays_append.1 stays).1
    refine ⟨fun own => ?_, fun nobody => occur_sampler_of_no_call monitored nobody v, fun level => ⟨fun reminded => ?_, ?_⟩,
      told⟩
    · rw [earlier own]
      exact (occur_sampler monitored known own).trans (if_congr (and_iff_right active).symm rfl rfl)
    · have own := reminded.isCallOf.2
      rw [earlier own]
      exact ⟨active, own, (reminded_spaced monitored known own level).1 reminded⟩
    · rintro ⟨-, own, spaced⟩
      rw [earlier own] at spaced
      exact (reminded_spaced monitored known own level).2 spaced
  · have kept := (sampler_owned settings).occur_of_inactive active v o
    refine ⟨fun _ => ?_, fun _ => kept,
      fun level => ⟨fun reminded => absurd reminded.isCallOf.1 active, fun all => absurd all.1 active⟩, told⟩
    rw [kept, if_neg fun both => active both.1]

/-- Two sessions call tools in turn under a pressure that is worth a warning. The first session's second call comes too
soon after its first one for another reminder. -/
theorem pressure_cooldowns_interleaved :
    let settings : Settings :=
      { disabled := ⟨[ContextPolicy.id, CompactionPolicy.id]⟩
        pressure := { sampleCooldownToolCalls := 1, reminderCooldownToolCalls := 2, warningMaxRssMb := 4000 } }
    let w := World.start settings ⟨"/project"⟩ .empty default ⟨[.ok ⟨5000, 3⟩], 0⟩
    let call (session : String) : Occurrence := .dispatch ⟨.toolAfter ⟨"bash", session, "c"⟩, .blank⟩ .calm
    let run := [call "s", call "t", call "s"]
    (w.pressure.get? "s" = none ∧ Stays settings World.pressure "s" w run) ∧
    Reminded settings .warning "s" w (call "s") ∧
      ¬Reminded settings .warning "s" (after settings w [call "s", call "t"]) (call "s") := by
  intro settings w call run
  have hooks : dispatcher settings =
      ⟨(enabledHooks settings).filter fun h => !settings.disabled.contains h.id, World.remark⟩ :=
    dispatcher_of_unordered rfl rfl
  have monitored : PressurePolicy.id ∈ (dispatcher settings).ids := mem_ids.2 (by decide)
  have new : w.pressure.get? "s" = none := rfl
  have stays : Stays settings World.pressure "s" w run := by
    simp only [run, call, Stays, occur, dispatch, hooks]
    decide +kernel
  have first := (pressure_cooldowns new stays (List.nil_append run).symm).2.2.1 .warning
  have second := (pressure_cooldowns new stays (show run = [call "s", call "t"] ++ [call "s"] from rfl)).2.2.1
    .warning
  have warned : Reminded settings .warning "s" w (call "s") := by
    refine first.2 ⟨monitored, by decide, by decide, by decide +kernel, by decide +kernel, fun first p rest nothing => ?_⟩
    simp at nothing
  refine ⟨⟨new, stays⟩, warned, fun again => ?_⟩
  have apart := (second.1 again).2.2.2.2.2 [] (call "s") [call "t"] rfl warned
  exact absurd apart (by decide +kernel)

end Service

end AgentHooks
