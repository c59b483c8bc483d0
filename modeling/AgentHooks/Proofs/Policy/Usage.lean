import AgentHooks.Proofs.Policy.Memory
import AgentHooks.Proofs.Policy.Order
import AgentHooks.Proofs.Policy.Requests
import AgentHooks.Proofs.Policy.Tally

/-! What is heard of a session's usage. The context monitor and preemptive compaction hear the same of a session: what
its tool calls put out, what the host reports, and that it has been compacted. Each of them follows it in an entry of
its own, and acts on what it has just heard. -/

namespace AgentHooks

open World

/-- What an event means to those who follow the usage of sessions. -/
inductive Tidings where
  | output (session text : String)
  | report (r : UsageReport)
  | compacted (session : String)
  | deleted (session : String)
  | nothing

def LifecycleEvent.tidings (e : LifecycleEvent) : Tidings :=
  match UsageReport.ofEvent? e with
  | some report => .report report
  | none =>
    match e.session? with
    | none => .nothing
    | some session =>
      if e.kind = "session.compacted" then .compacted session
      else if e.kind = "session.deleted" then .deleted session
      else .nothing

namespace Event

def tidings : (e : Event) → e.Output → Tidings
  | .toolAfter call, out => if call.session = "" then .nothing else .output call.session out.output
  | .lifecycle e, _ => e.tidings
  | .toolBefore _, _ => .nothing
  | .commandBefore _, _ => .nothing
  | .chatMessage _, _ => .nothing
  | .messagesTransform _, _ => .nothing

/-- Whether an event is a finished tool call of a session. A call that names no session is nobody's. -/
def isCallOf (session : String) : Event → Bool
  | .toolAfter call => call.session == session && session != ""
  | _ => false

def compacts (session : String) : Event → Bool
  | .lifecycle e => e.kind == "session.compacted" && e.session? == some session
  | _ => false

theorem compacts_iff {session : String} {e : Event} (out : e.Output) :
    e.compacts session = true ↔ e.tidings out = .compacted session := by
  cases e with
  | lifecycle e =>
    simp only [compacts, tidings, LifecycleEvent.tidings, Bool.and_eq_true, beq_iff_eq]
    constructor
    · rintro ⟨whole, about⟩
      have unreported : UsageReport.ofEvent? e = none := UsageReport.ofEvent?_of_kind (by rw [whole]; decide)
      simp only [unreported, about, whole, if_true]
    · intro told
      split at told
      · cases told
      · split at told
        · cases told
        next about =>
          split at told
          next whole =>
            cases told
            exact ⟨whole, about⟩
          · split at told <;> cases told
  | toolAfter call =>
    simp only [compacts, tidings, Bool.false_eq_true, false_iff]
    split <;> exact fun told => nomatch told
  | toolBefore call => exact ⟨(nomatch ·), (nomatch ·)⟩
  | commandBefore command => exact ⟨(nomatch ·), (nomatch ·)⟩
  | chatMessage turn => exact ⟨(nomatch ·), (nomatch ·)⟩
  | messagesTransform request => exact ⟨(nomatch ·), (nomatch ·)⟩

end Event

def Tidings.usage? (session : String) : Tidings → Option (Usage → Usage)
  | .output owner text => if owner = session then some (·.addOutput text) else none
  | .report r => if r.session = session then some (·.addReport r) else none
  | _ => none

namespace Event

variable {session : String} {e : Event} {out : e.Output} {f : Usage → Usage}

theorem isCallOf_iff (out : e.Output) : e.isCallOf session = true ↔ ∃ text, e.tidings out = .output session text := by
  cases e with
  | toolAfter call =>
    simp only [isCallOf, tidings, Bool.and_eq_true, beq_iff_eq, bne_iff_ne]
    constructor
    · rintro ⟨rfl, named⟩
      exact ⟨out.output, if_neg named⟩
    · rintro ⟨text, told⟩
      split at told
      · cases told
      next named =>
        cases told
        exact ⟨rfl, named⟩
  | lifecycle e =>
    refine ⟨(nomatch ·), fun ⟨text, told⟩ => ?_⟩
    simp only [tidings, LifecycleEvent.tidings] at told
    split at told
    · cases told
    · split at told
      · cases told
      · split at told
        · cases told
        · split at told <;> cases told
  | toolBefore call => exact ⟨(nomatch ·), fun ⟨text, told⟩ => nomatch told⟩
  | commandBefore command => exact ⟨(nomatch ·), fun ⟨text, told⟩ => nomatch told⟩
  | chatMessage turn => exact ⟨(nomatch ·), fun ⟨text, told⟩ => nomatch told⟩
  | messagesTransform request => exact ⟨(nomatch ·), fun ⟨text, told⟩ => nomatch told⟩

theorem not_isCallOf_of_unheard (unheard : (e.tidings out).usage? session = none) : e.isCallOf session = false := by
  rw [Bool.eq_false_iff]
  intro own
  obtain ⟨text, told⟩ := (isCallOf_iff out).1 own
  simp [told, Tidings.usage?] at unheard

/-- What changes a session's usage is the output of a call of it, or a report. -/
theorem tidings_of_usage? (heard : (e.tidings out).usage? session = some f) :
    (∃ text, e.tidings out = .output session text ∧ f = (·.addOutput text) ∧ e.isCallOf session = true) ∨
      ∃ r, e.tidings out = .report r ∧ r.session = session ∧ f = (·.addReport r) ∧ e.isCallOf session = false := by
  have own : e.isCallOf session = true ↔ ∃ text, e.tidings out = .output session text := isCallOf_iff out
  cases told : e.tidings out with
  | output owner text =>
    simp only [told, Tidings.usage?, Option.ite_none_right_eq_some, Option.some.injEq] at heard
    obtain ⟨rfl, rfl⟩ := heard
    exact .inl ⟨text, rfl, rfl, own.2 ⟨text, told⟩⟩
  | report r =>
    simp only [told, Tidings.usage?, Option.ite_none_right_eq_some, Option.some.injEq] at heard
    obtain ⟨owner, rfl⟩ := heard
    refine .inr ⟨r, rfl, owner, rfl, Bool.eq_false_iff.2 fun call => ?_⟩
    obtain ⟨text, told'⟩ := own.1 call
    cases told.symm.trans told'
  | _ =>
    rw [told] at heard
    cases heard

theorem toolCalls_of_usage? (heard : (e.tidings out).usage? session = some f) (u : Usage) :
    (f u).toolCalls = u.toolCalls + (e.isCallOf session).toNat := by
  rcases tidings_of_usage? heard with ⟨text, -, rfl, own⟩ | ⟨r, -, -, rfl, other⟩
  · rw [own]
    rfl
  · rw [other]
    rfl

theorem unheard_of_compacts (whole : e.compacts session = true) (out : e.Output) :
    (e.tidings out).usage? session = none := by
  rw [(compacts_iff out).1 whole]
  rfl

end Event

namespace CompactionMemory

variable (m : CompactionMemory) (s : CompactionSettings) (refuses : Bool) (f : Usage → Usage)

def asks (m : CompactionMemory) (s : CompactionSettings) (f : Usage → Usage) : Bool :=
  { m with usage := f m.usage }.due s

/-- What is remembered of a session once its usage has changed and the host has taken or refused the request that may
follow. -/
def take (m : CompactionMemory) (s : CompactionSettings) (refuses : Bool) (f : Usage → Usage) : CompactionMemory :=
  let usage := f m.usage
  if m.asks s f then ⟨usage, some usage.toolCalls, !refuses⟩ else { m with usage }

theorem asks_iff : m.asks s f = true ↔ m.inFlight = false ∧
    ¬(f m.usage).ratio s.defaultContextLimitTokens < s.warningThreshold ∧
    cooledDown m.lastRequestAt (f m.usage).toolCalls s.compactionCooldownToolCalls = true := by
  simp only [asks, due, Bool.and_eq_true, Bool.not_eq_true', decide_eq_false_iff_not, and_assoc]

theorem take_fields :
    (m.take s refuses f).usage = f m.usage ∧
      (m.take s refuses f).lastRequestAt =
        (if m.asks s f then some (f m.usage).toolCalls else m.lastRequestAt) ∧
      (m.take s refuses f).inFlight = if m.asks s f then !refuses else m.inFlight := by
  unfold take
  split <;> exact ⟨rfl, rfl, rfl⟩

theorem observe_eq :
    let observed := m.observe s (f m.usage)
    observed.2 = m.asks s f ∧
      m.take s refuses f = if m.asks s f && refuses then observed.1.release else observed.1 := by
  simp only [observe, take, asks]
  split
  next due => cases refuses <;> simp [due, release]
  next idle => simp [idle]

end CompactionMemory

namespace CompactionPolicy

variable (s : CompactionSettings) (w : World) {session other : String}

def memory (session : String) (w : World) : CompactionMemory :=
  (w.compaction.get? session).getD .start

theorem compact_effects (w : World) (session event : String) :
    (compact w session event).host.effects =
      w.host.effects ++ if (w.disturbance .summarize).refuses then [] else [.summarize session] := by
  have requested := w.request_effects .summarize (.summarize session)
  unfold compact
  split
  next taken =>
    rw [taken] at requested
    exact requested
  next refused =>
    rw [refused] at requested
    exact requested

theorem compact_compaction (w : World) (session event : String) :
    (compact w session event).compaction =
      if (w.disturbance .summarize).refuses then w.compaction.modify session CompactionMemory.release
      else w.compaction :=
  congrArg (·.2.2) (compact_rosters w session event)

theorem observe_spec (session event : String) (f : Usage → Usage) :
    let refuses := (w.disturbance .summarize).refuses
    let after := observe s w session event f
    after.compaction.get? session = some ((memory session w).take s refuses f) ∧
      (∀ other, other ≠ session →
        after.compaction.get? other = w.compaction.get? other ∨ after.compaction.get? other = none) ∧
      after.host.effects =
        w.host.effects ++ if (memory session w).asks s f && !refuses then [.summarize session] else [] := by
  intro refuses after
  let observed := (memory session w).observe s (f (memory session w).usage)
  let entered := (w.compaction.enroll session .start).modify session fun _ => observed.1
  let v := { w with compaction := entered }
  obtain ⟨asked, taken⟩ := (memory session w).observe_eq s refuses f
  have recalled : ((w.compaction.enroll session .start).get? session).getD .start = memory session w := by
    rw [Roster.get?_enroll_self]
    rfl
  have done : after = if (memory session w).asks s f then compact v session event else v := by
    rw [← asked]
    simp only [after, observe, recalled]
    rfl
  have own : entered.get? session = some observed.1 := Roster.get?_enter_self _ _ _ _
  have others : ∀ other, other ≠ session →
      entered.get? other = w.compaction.get? other ∨ entered.get? other = none :=
    fun other apart => Roster.get?_enter_other apart _ _ _
  -- The session has its entry before the host is asked, and a refusal does no more than release its latch.
  rw [done, taken]
  cases due : (memory session w).asks s f with
  | false => exact ⟨own, others, (List.append_nil _).symm⟩
  | true =>
    have effects := compact_effects v session event
    simp only [if_true, Bool.true_and, compact_compaction]
    refine ⟨?_, fun other apart => ?_, ?_⟩
    · split
      · rw [Roster.get?_modify_self, own]
        rfl
      · exact own
    · split
      · rw [Roster.get?_modify_other apart]
        exact others other apart
      · exact others other apart
    · rw [effects]
      change w.host.effects ++ (if refuses then [] else [.summarize session]) = _
      cases host : refuses <;> simp

/-- What preemptive compaction makes of an event depends on what the event means to it. -/
theorem handle_eq (e : Event) (out : e.Output) :
    (handle s e out w).state =
      match e.tidings out with
      | .output session text => observe s w session "tool.execute.after" (·.addOutput text)
      | .report r => observe s w r.session "message.updated" (·.addReport r)
      | .compacted session => { w with compaction := w.compaction.modify session CompactionMemory.compacted }
      | .deleted session => { w with compaction := w.compaction.remove session }
      | .nothing => w := by
  cases e with
  | lifecycle e =>
    simp only [handle, Handled.pass, onLifecycle, Event.tidings, LifecycleEvent.tidings]
    cases UsageReport.ofEvent? e with
    | some report => rfl
    | none =>
      cases e.session? with
      | none => rfl
      | some session =>
        by_cases whole : e.kind = "session.compacted"
        · simp only [if_pos whole]
        · by_cases ended : e.kind = "session.deleted"
          · simp only [if_neg whole, if_pos ended]
          · simp only [if_neg whole, if_neg ended]
  | toolAfter call =>
    simp only [handle, Handled.pass, Event.tidings]
    by_cases blank : call.session = ""
    · simp only [if_pos blank]
    · simp only [if_neg blank]
  | toolBefore call => rfl
  | commandBefore command => rfl
  | chatMessage turn => rfl
  | messagesTransform request => rfl

section Handle

variable {s w} {e : Event} {out : e.Output} {f : Usage → Usage}

theorem handle_of_usage (heard : (e.tidings out).usage? session = some f) :
    (handle s e out w).state.compaction.get? session =
      some ((memory session w).take s (w.disturbance .summarize).refuses f) := by
  rw [handle_eq]
  rcases Event.tidings_of_usage? heard with ⟨text, told, rfl, -⟩ | ⟨r, told, rfl, rfl, -⟩
  · rw [told]
    exact (observe_spec s w session _ _).1
  · rw [told]
    exact (observe_spec s w r.session _ _).1

theorem handle_of_compacts (whole : e.compacts session = true) :
    (handle s e out w).state.compaction.get? session =
      (w.compaction.get? session).map CompactionMemory.compacted := by
  rw [handle_eq, (Event.compacts_iff out).1 whole]
  exact Roster.get?_modify_self _ _ _

/-- What is heard of others can only push a session off the roster. -/
theorem handle_of_others (unheard : (e.tidings out).usage? session = none) (other : e.compacts session = false) :
    (handle s e out w).state.compaction.get? session = w.compaction.get? session ∨
      (handle s e out w).state.compaction.get? session = none := by
  have observed : ∀ owner event f, owner ≠ session →
      (observe s w owner event f).compaction.get? session = w.compaction.get? session ∨
        (observe s w owner event f).compaction.get? session = none :=
    fun owner event f apart => (observe_spec s w owner event f).2.1 session (Ne.symm apart)
  rw [handle_eq]
  cases told : e.tidings out with
  | output owner text =>
    refine observed owner _ _ fun same => ?_
    simp [told, Tidings.usage?, same] at unheard
  | report r =>
    refine observed r.session _ _ fun same => ?_
    simp [told, Tidings.usage?, same] at unheard
  | compacted owner =>
    have apart : session ≠ owner := by
      rintro rfl
      simp [(Event.compacts_iff out).2 told] at other
    exact .inl (Roster.get?_modify_other apart _ _)
  | deleted owner => exact Roster.get?_remove _ _ _
  | nothing => exact .inl rfl

/-- The host is asked for a summary of a session if a change of its usage makes that due, and unless it refuses the
request is handed over. -/
theorem handle_summarizes (s : CompactionSettings) (session : String) (e : Event) (out : e.Output) (w : World) :
    (handle s e out w).state.host.effects.countP (·.summarizes session) =
      w.host.effects.countP (·.summarizes session) +
        (((e.tidings out).usage? session).any ((memory session w).asks s) &&
          !(w.disturbance .summarize).refuses).toNat := by
  have observed : ∀ owner event g,
      (observe s w owner event g).host.effects.countP (·.summarizes session) =
        w.host.effects.countP (·.summarizes session) +
          ((if owner = session then some g else none).any ((memory session w).asks s) &&
            !(w.disturbance .summarize).refuses).toNat := by
    intro owner event g
    rw [(observe_spec s w owner event g).2.2, List.countP_append]
    refine congrArg (w.host.effects.countP _ + ·) ?_
    by_cases same : owner = session
    · subst same
      rw [if_pos rfl, Option.any_some]
      cases ((memory owner w).asks s g && !(w.disturbance .summarize).refuses) <;> simp [Action.summarizes]
    · rw [if_neg same, Option.any_none, Bool.false_and]
      split <;> simp [Action.summarizes, same]
  rw [handle_eq]
  cases e.tidings out with
  | output owner text => exact observed owner _ _
  | report r => exact observed r.session _ _
  | _ => rfl

end Handle

end CompactionPolicy

namespace ContextMemory

variable (m : ContextMemory) (s : ContextSettings) (own : Bool) (f : Usage → Usage)

def reminds (m : ContextMemory) (s : ContextSettings) (f : Usage → Usage) : Bool :=
  { m with usage := f m.usage }.due s

/-- What is remembered of a session once its usage has changed, by a call of its own, after which it is reminded if that
is due, or by a report. -/
def take (m : ContextMemory) (s : ContextSettings) (own : Bool) (f : Usage → Usage) : ContextMemory :=
  let usage := f m.usage
  if own && m.reminds s f then ⟨usage, some usage.toolCalls, some usage.used⟩ else { m with usage }

theorem reminds_iff : m.reminds s f = true ↔
    ¬(f m.usage).ratio s.defaultContextLimitTokens < s.warningThreshold ∧
      cooledDown m.lastReminderAt (f m.usage).toolCalls s.reminderCooldownToolCalls = true ∧
      ∀ last ∈ m.lastReminderTokens, s.minTokenDeltaForReminder ≤ (f m.usage).used - last := by
  simp only [reminds, due, Bool.and_eq_true, Bool.not_eq_true', decide_eq_false_iff_not, and_assoc]
  refine and_congr_right fun _ => and_congr_right fun _ => ?_
  cases m.lastReminderTokens with
  | none => simp
  | some last => simp

theorem take_fields :
    (m.take s own f).usage = f m.usage ∧
      (m.take s own f).lastReminderAt =
        (if own && m.reminds s f then some (f m.usage).toolCalls else m.lastReminderAt) ∧
      (m.take s own f).lastReminderTokens =
        if own && m.reminds s f then some (f m.usage).used else m.lastReminderTokens := by
  unfold take
  dsimp only
  split <;> exact ⟨rfl, rfl, rfl⟩

theorem addOutput_eq (text : String) :
    m.addOutput s text = (m.take s true (·.addOutput text), m.reminds s (·.addOutput text)) := by
  simp only [addOutput, take, reminds, Bool.true_and]
  split
  next due => rw [due]; rfl
  next idle => rw [Bool.eq_false_iff.2 idle]

end ContextMemory

namespace ContextPolicy

variable {s : ContextSettings} {w : World} {session : String} {e : Event} {out : e.Output} {f : Usage → Usage}

def memory (session : String) (w : World) : ContextMemory :=
  (w.context.get? session).getD .start

theorem onToolAfter_output (s : ContextSettings) (session : String) (out : ToolResult) (w : World) :
    let m := memory session w
    (onToolAfter s session out w).1 =
      if session ≠ "" ∧ m.reminds s (·.addOutput out.output) = true then
        out.appendReminder ((m.take s true (·.addOutput out.output)).reminderText s)
      else out := by
  intro m
  have recalled : ((w.context.enroll session .start).get? session).getD .start = m := by
    rw [Roster.get?_enroll_self]
    rfl
  unfold onToolAfter
  by_cases blank : session = ""
  · simp [blank]
  · simp only [blank, if_false, recalled, ContextMemory.addOutput_eq, ne_eq, not_false_eq_true, true_and]
    split <;> rfl

/-- What the monitor makes of an event depends on what the event means to it. -/
theorem handle_context (s : ContextSettings) (e : Event) (out : e.Output) (w : World) :
    (handle s e out w).state.context =
      match e.tidings out with
      | .output session text =>
        (w.context.enroll session .start).modify session fun _ =>
          (memory session w).take s true (·.addOutput text)
      | .report r =>
        (w.context.enroll r.session .start).modify r.session fun m => { m with usage := m.usage.addReport r }
      | .compacted session => w.context.modify session ContextMemory.compacted
      | .deleted session => w.context.remove session
      | .nothing => w.context := by
  cases e with
  | lifecycle e =>
    simp only [handle, Handled.pass, onLifecycle, Event.tidings, LifecycleEvent.tidings]
    cases UsageReport.ofEvent? e with
    | some report => rfl
    | none =>
      cases e.session? with
      | none => rfl
      | some session =>
        by_cases whole : e.kind = "session.compacted"
        · simp only [if_pos whole]
        · by_cases ended : e.kind = "session.deleted"
          · simp only [if_neg whole, if_pos ended]
          · simp only [if_neg whole, if_neg ended]
  | toolAfter call =>
    have recalled : ((w.context.enroll call.session .start).get? call.session).getD .start =
        memory call.session w := by
      rw [Roster.get?_enroll_self]
      rfl
    change (onToolAfter s call.session out w).2.context = _
    unfold onToolAfter
    by_cases blank : call.session = ""
    · simp only [Event.tidings, if_pos blank]
    · simp only [Event.tidings, if_neg blank, recalled, ContextMemory.addOutput_eq]
      split <;> rfl
  | toolBefore call => rfl
  | commandBefore command => rfl
  | chatMessage turn => rfl
  | messagesTransform request => rfl

theorem handle_of_usage (heard : (e.tidings out).usage? session = some f) :
    (handle s e out w).state.context.get? session = some ((memory session w).take s (e.isCallOf session) f) := by
  rw [handle_context]
  rcases Event.tidings_of_usage? heard with ⟨text, told, rfl, own⟩ | ⟨r, told, rfl, rfl, other⟩
  · rw [told, own]
    exact Roster.get?_enter_self _ _ _ _
  · rw [told, other]
    exact Roster.get?_enter_self _ _ _ _

theorem handle_of_compacts (whole : e.compacts session = true) :
    (handle s e out w).state.context.get? session = (w.context.get? session).map ContextMemory.compacted := by
  rw [handle_context, (Event.compacts_iff out).1 whole]
  exact Roster.get?_modify_self _ _ _

/-- What is heard of others can only push a session off the roster. -/
theorem handle_of_others (unheard : (e.tidings out).usage? session = none) (other : e.compacts session = false) :
    (handle s e out w).state.context.get? session = w.context.get? session ∨
      (handle s e out w).state.context.get? session = none := by
  rw [handle_context]
  cases told : e.tidings out with
  | output owner text =>
    refine Roster.get?_enter_other (fun same => ?_) _ _ _
    simp [told, Tidings.usage?, same] at unheard
  | report r =>
    refine Roster.get?_enter_other (fun same => ?_) _ _ _
    simp [told, Tidings.usage?, same] at unheard
  | compacted owner =>
    have apart : session ≠ owner := by
      rintro rfl
      simp [(Event.compacts_iff out).2 told] at other
    exact .inl (Roster.get?_modify_other apart _ _)
  | deleted owner => exact Roster.get?_remove _ _ _
  | nothing => exact .inl rfl

end ContextPolicy

end AgentHooks
