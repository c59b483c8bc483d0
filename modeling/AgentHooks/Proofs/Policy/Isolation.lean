import AgentHooks.Hook.Announcement
import AgentHooks.Proofs.Policy.Follow
import AgentHooks.Proofs.Policy.Monitors

/-! Sessions that do not notice each other. A monitor that has room for all sessions answers every event from the entry
of the session that it concerns, and no other session's events matter to that entry. So what it makes of a session's
events is what it would make of them alone. -/

namespace AgentHooks

def concerning (session : String) (events : List Announcement) : List Announcement :=
  events.filter (·.event.session == session)

def sessionsOf (events : List Announcement) : List String :=
  ((events.map (·.event.session)).filter (· ≠ "")).eraseDups

theorem mem_sessionsOf {events : List Announcement} {a : Announcement} (member : a ∈ events)
    (named : a.event.session ≠ "") : a.event.session ∈ sessionsOf events :=
  List.mem_eraseDups.2 (List.mem_filter.2 ⟨List.mem_map_of_mem member, decide_eq_true named⟩)

namespace Hook

/-- What a hook makes of announcements, one after the other: the output as it leaves it, and what it asks of the
host. -/
def answers (h : Hook World) (w : World) : List Announcement → List (Announcement × List Action)
  | [] => []
  | a :: rest =>
    let handled := h.handle a.event a.output w
    (⟨a.event, handled.output⟩, handled.state.host.effects) :: h.answers handled.state.takeEffects.1 rest

/-- A hook that follows the usage of sessions on a roster, and answers an event from the entry of the session that it
concerns. -/
structure Follows {α : Type} (h : Hook World) (part : World → Roster α) (F : Follower α) (fine : World → Prop) :
    Prop where
  roster : ∀ {w : World} (e : Event) (out : e.Output), fine w → (part w).Tidy →
    part (h.handle e out w).state.takeEffects.1 = F.follow (part w) (e.tidings out)
  answer : ∀ {w v : World} (e : Event) (out : e.Output), fine w → fine v →
    (part w).get? e.session = (part v).get? e.session →
      (h.handle e out w).output = (h.handle e out v).output ∧
        (h.handle e out w).state.host.effects = (h.handle e out v).state.host.effects
  fine : ∀ {w : World} (e : Event) (out : e.Output), fine w → fine (h.handle e out w).state.takeEffects.1

/-- Where there is room for all sessions, the answers to a session's events are those that it would get alone. -/
theorem Follows.isolated {α : Type} {h : Hook World} {part : World → Roster α} {F : Follower α} {fine : World → Prop}
    (follows : h.Follows part F fine) {known : List String} {session : String} {events : List Announcement}
    (among : ∀ a ∈ events, a.event.session ≠ "" → a.event.session ∈ known) {w v : World} (fineW : fine w)
    (fineV : fine v) (fits : (part w).Fits known) (tidy : (part v).Tidy)
    (same : (part w).get? session = (part v).get? session) :
    (h.answers w events).filter (·.1.event.session == session) = h.answers v (concerning session events) := by
  -- The worlds differ in what they remember of other sessions; the entry of this one is the same in both.
  induction events generalizing w v with
  | nil => rfl
  | cons a rest ih =>
    have known' : ∀ s ∈ (a.event.tidings a.output).session?, s ∈ known := by
      intro s about
      obtain ⟨rfl, named⟩ := Event.session_of_tidings about
      exact among a List.mem_cons_self named
    have among' : ∀ b ∈ rest, b.event.session ≠ "" → b.event.session ∈ known :=
      fun b later => among b (List.mem_cons_of_mem a later)
    have roster := follows.roster a.event a.output fineW fits.toTidy
    have fineW' := follows.fine a.event a.output fineW
    have fits' : (part (h.handle a.event a.output w).state.takeEffects.1).Fits known := by
      rw [roster]
      exact Follower.follow_fits fits known'
    by_cases own : a.event.session = session
    · have roster' := follows.roster a.event a.output fineV tidy
      have tidy' : (part (h.handle a.event a.output v).state.takeEffects.1).Tidy := by
        rw [roster']
        exact Follower.follow_tidy tidy _
      have about : ∀ s ∈ (a.event.tidings a.output).session?, s = session :=
        fun s told => (Event.session_of_tidings told).1.symm.trans own
      have same' : (part (h.handle a.event a.output w).state.takeEffects.1).get? session =
          (part (h.handle a.event a.output v).state.takeEffects.1).get? session := by
        rw [roster, roster']
        exact Follower.get?_follow_congr same about
      obtain ⟨output, effects⟩ := follows.answer a.event a.output fineW fineV (by rw [own]; exact same)
      have selected : (a.event.session == session) = true := beq_iff_eq.2 own
      rw [concerning, List.filter_cons, if_pos selected, answers, List.filter_cons, if_pos selected, answers, output,
        effects]
      exact congrArg _ (ih among' fineW' (follows.fine a.event a.output fineV) fits' tidy' same')
    · have dropped : ¬(a.event.session == session) = true := fun selected => own (beq_iff_eq.1 selected)
      have same' : (part (h.handle a.event a.output w).state.takeEffects.1).get? session = (part v).get? session := by
        rw [roster, ← same]
        exact Follower.get?_follow_other fits known' fun told => own (Event.session_of_tidings told).1
      rw [concerning, List.filter_cons, if_neg dropped, answers, List.filter_cons, if_neg dropped]
      exact ih among' fineW' fineV fits' tidy same'

end Hook

namespace ContextPolicy

theorem handle_effects (s : ContextSettings) (e : Event) (out : e.Output) (w : World) :
    (handle s e out w).state.host.effects = w.host.effects := by
  obtain ⟨more, effects, nothing⟩ := (handle_asks s e out w).adds
  rw [effects, List.eq_nil_iff_forall_not_mem.2 nothing, List.append_nil]

theorem handle_output_congr (s : ContextSettings) (e : Event) (out : e.Output) {w v : World}
    (same : memory e.session w = memory e.session v) : (handle s e out w).output = (handle s e out v).output := by
  cases e with
  | toolAfter call =>
    change memory call.session w = memory call.session v at same
    change (onToolAfter s call.session out w).1 = (onToolAfter s call.session out v).1
    rw [onToolAfter_output, onToolAfter_output, same]
  | lifecycle e => rfl
  | toolBefore call => rfl
  | commandBefore command => rfl
  | chatMessage turn => rfl
  | messagesTransform request => rfl

theorem hook_follows (settings : Settings) :
    (hook settings).Follows World.context (follower settings.context) fun w => w.host.effects = [] where
  roster e out _ tidy := handle_follows tidy settings.context e out
  answer e out idle idle' same := by
    refine ⟨handle_output_congr settings.context e out (congrArg (·.getD .start) same), ?_⟩
    have asked := handle_effects settings.context e out
    exact ((asked _).trans idle).trans ((asked _).trans idle').symm
  fine _ _ _ := rfl

end ContextPolicy

namespace CompactionPolicy

/-- At an event the host is asked at most for a summary of the session that the event concerns. -/
theorem handle_effects (s : CompactionSettings) (e : Event) (out : e.Output) (w : World) :
    (handle s e out w).state.host.effects = w.host.effects ++
      if ((e.tidings out).usage? e.session).any ((memory e.session w).asks s) && !(w.disturbance .summarize).refuses
      then [.summarize e.session] else [] := by
  rw [handle_eq]
  cases told : e.tidings out with
  | output session text =>
    have about : (e.tidings out).session? = some session := congrArg Tidings.session? told
    rw [(Event.session_of_tidings about).1, Tidings.usage?, if_pos rfl]
    exact (observe_spec s w session _ _).2.2
  | report r =>
    have about : (e.tidings out).session? = some r.session := congrArg Tidings.session? told
    rw [(Event.session_of_tidings about).1, Tidings.usage?, if_pos rfl]
    exact (observe_spec s w r.session _ _).2.2
  | _ => exact (List.append_nil _).symm

theorem hook_follows (settings : Settings) :
    (hook settings).Follows World.compaction (follower settings.compaction false)
      fun w => w.host.effects = [] ∧ (w.disturbance .summarize).refuses = false where
  roster {w} e out fine _ := by
    have followed := handle_follows settings.compaction e out w
    rwa [fine.2] at followed
  answer {w v} e out fine fine' same := by
    have recalled : memory e.session w = memory e.session v := congrArg (·.getD .start) same
    have asked := handle_effects settings.compaction e out
    refine ⟨by cases e <;> rfl, (asked w).trans ((asked v).trans ?_).symm⟩
    rw [fine.1, fine'.1, fine.2, fine'.2, recalled]
  fine {w} e out fine := by
    have steady := (handle_quiet settings.compaction e out w).toSteady.disturbance
    exact ⟨rfl, (congrArg (fun d => (d HostCall.summarize).refuses) steady).trans fine.2⟩

def requests (session : String) (answers : List (Announcement × List Action)) : List Action :=
  (answers.flatMap (·.2)).filter (·.summarizes session)

theorem requests_eq (settings : Settings) (session : String) {w : World} (idle : w.host.effects = [])
    (events : List Announcement) :
    requests session ((hook settings).answers w events) =
      requests session (((hook settings).answers w events).filter (·.1.event.session == session)) := by
  induction events generalizing w with
  | nil => rfl
  | cons a rest ih =>
    have asked := handle_effects settings.compaction a.event a.output w
    have later := ih (w := (handle settings.compaction a.event a.output w).state.takeEffects.1) rfl
    unfold requests at later ⊢
    rw [Hook.answers, List.flatMap_cons, List.filter_append]
    by_cases own : a.event.session = session
    · rw [List.filter_cons, if_pos (beq_iff_eq.2 own), List.flatMap_cons, List.filter_append]
      exact congrArg (List.filter _ _ ++ ·) later
    · have others : (handle settings.compaction a.event a.output w).state.host.effects.filter (·.summarizes session) =
          [] := by
        rw [asked, idle, List.nil_append]
        split
        · simp [Action.summarizes, own]
        · rfl
      rw [List.filter_cons, if_neg fun selected => own (beq_iff_eq.1 selected)]
      change List.filter _ (handle settings.compaction a.event a.output w).state.host.effects ++ _ = _
      rw [others, List.nil_append]
      exact later

end CompactionPolicy

/-- As long as there is room for all sessions that are named, what the context monitor makes of a session's tool output,
and what preemptive compaction asks of a host that takes everything, is what they would make of the session's events
alone. -/
theorem usage_monitors_isolated (settings : Settings) (project : Path) (files : FileTree) (now : Timestamp)
    (sampler : Sampler) (disturbance : HostCall → Disturbance) (events : List Announcement) (session : String) :
    let w := { World.start settings project files now sampler with disturbance }
    ((sessionsOf events).length ≤ settings.context.maxSessionStateEntries →
      ((ContextPolicy.hook settings).answers w events).filter (·.1.event.session == session) =
        (ContextPolicy.hook settings).answers w (concerning session events)) ∧
    ((disturbance .summarize).refuses = false →
      (sessionsOf events).length ≤ settings.compaction.maxSessionStateEntries →
      let answers := (CompactionPolicy.hook settings).answers w
      (answers events).filter (·.1.event.session == session) = answers (concerning session events) ∧
        CompactionPolicy.requests session (answers events) =
          CompactionPolicy.requests session (answers (concerning session events))) := by
  intro w
  have among : ∀ a ∈ events, a.event.session ≠ "" → a.event.session ∈ sessionsOf events :=
    fun a member named => mem_sessionsOf member named
  refine ⟨fun few => ?_, fun accepts few => ?_⟩
  · have fits : w.context.Fits (sessionsOf events) := Roster.empty_fits few
    exact (ContextPolicy.hook_follows settings).isolated among rfl rfl fits fits.toTidy rfl
  · have fits : w.compaction.Fits (sessionsOf events) := Roster.empty_fits few
    have alone : ((CompactionPolicy.hook settings).answers w events).filter (·.1.event.session == session) =
        (CompactionPolicy.hook settings).answers w (concerning session events) :=
      (CompactionPolicy.hook_follows settings).isolated among ⟨rfl, accepts⟩ ⟨rfl, accepts⟩ fits fits.toTidy rfl
    refine ⟨alone, ?_⟩
    rw [← alone]
    exact CompactionPolicy.requests_eq settings session rfl events

/-- Two sessions share rosters for two, and each call fills a window. The other session's call in between does not
matter to the first one, of which a summary is asked for once. -/
theorem usage_monitors_isolated_pair :
    let settings : Settings :=
      { context := { maxSessionStateEntries := 2, defaultContextLimitTokens := 1 }
        compaction := { maxSessionStateEntries := 2, defaultContextLimitTokens := 1 } }
    let w := { World.start settings ⟨"/project"⟩ .empty default ⟨[], 0⟩ with disturbance := fun _ => .none }
    let call (session : String) : Announcement :=
      ⟨.toolAfter ⟨"bash", session, "c"⟩, { ToolResult.blank with output := "four" }⟩
    let events := [call "a", call "b", call "a"]
    (sessionsOf events).length ≤ 2 ∧
      ((ContextPolicy.hook settings).answers w events).filter (·.1.event.session == "a") =
        (ContextPolicy.hook settings).answers w [call "a", call "a"] ∧
      (CompactionPolicy.requests "a" ((CompactionPolicy.hook settings).answers w events)).length = 1 := by
  intro settings w call events
  have few : (sessionsOf events).length ≤ 2 := by decide +kernel
  have own : concerning "a" events = [call "a", call "a"] := rfl
  obtain ⟨reminders, requests⟩ := usage_monitors_isolated settings ⟨"/project"⟩ .empty default ⟨[], 0⟩ (fun _ => .none)
    events "a"
  refine ⟨few, own ▸ reminders few, ?_⟩
  rw [(requests rfl few).2, own]
  decide +kernel

end AgentHooks
