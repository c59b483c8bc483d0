import AgentHooks.Proofs.Service.Usage

/-! One request for a summary at a time. Once the host has taken a request, no other one is made for the session before
it has been compacted, and requests keep a distance in tool calls whether the host takes them or not. -/

namespace AgentHooks

open World CompactionPolicy

namespace Service

variable {settings : Settings} {session : String} {w : World} {run : List Occurrence} {o : Occurrence}
  {f : Usage → Usage}

/-- Whether preemptive compaction, in its turn, asks the host for a summary of a session. It is asked here as if it took
every request, so whether it does is left aside. -/
def asks (settings : Settings) (session : String) (w : World) : Occurrence → Bool
  | .dispatch a conduct =>
    let before := ahead settings CompactionPolicy.id a conduct w
    let heard := { before.state with disturbance := Conduct.calm.disturbance }
    let after := ((CompactionPolicy.hook settings).handle a.event before.output heard).state
    (dispatcher settings).ids.contains CompactionPolicy.id &&
      decide (heard.host.effects.countP (·.summarizes session) < after.host.effects.countP (·.summarizes session))
  | _ => false

theorem asks_eq (settings : Settings) (session : String) (w : World) (o : Occurrence) :
    asks settings session w o = ((dispatcher settings).ids.contains CompactionPolicy.id &&
      (usage? settings CompactionPolicy.id session w o).any ((memory session w).asks settings.compaction)) := by
  cases o with
  | dispatch a conduct =>
    have roster : (ahead settings CompactionPolicy.id a conduct w).state.compaction = w.compaction :=
      (compaction_owned settings).ahead a conduct w
    simp only [asks, usage?]
    refine congrArg (_ && ·) ?_
    generalize ahead settings CompactionPolicy.id a conduct w = before at roster ⊢
    let heard : World := { before.state with disturbance := Conduct.calm.disturbance }
    have same : memory session heard = memory session w := congrArg (fun r => (r.get? session).getD .start) roster
    have asked := handle_summarizes settings.compaction session a.event before.output heard
    rw [same] at asked
    change decide (heard.host.effects.countP _ <
      (CompactionPolicy.handle settings.compaction a.event before.output heard).state.host.effects.countP _) = _
    rw [asked]
    cases Option.any _ _ <;> simp [heard, Conduct.disturbance, Conduct.calm]
  | _ => simp [asks, usage?]

theorem asks_iff : asks settings session w o = true ↔ CompactionPolicy.id ∈ (dispatcher settings).ids ∧
    ∃ f, usage? settings CompactionPolicy.id session w o = some f ∧
      let s := settings.compaction
      let m := memory session w
      let usage := f m.usage
      m.inFlight = false ∧ ¬usage.ratio s.defaultContextLimitTokens < s.warningThreshold ∧
        cooledDown m.lastRequestAt usage.toolCalls s.compactionCooldownToolCalls = true := by
  simp only [asks_eq, Bool.and_eq_true, List.contains_iff_mem, Option.any_eq_true, CompactionMemory.asks_iff]

theorem occur_summarizes (settled : Settled w) (session : String) (o : Occurrence) :
    (occur settings w o).2.countP (·.summarizes session) =
      (asks settings session w o && !o.refuses .summarize).toNat := by
  have others : ∀ k ∈ allHooks settings, k.id ≠ CompactionPolicy.id → ∀ (e : Event) (x : e.Output × World),
      Adds (·.summarizes session = false) x.2 ((dispatcher settings).visit e x k).2 :=
    fun _ member other e x => visit_summarizes member other session e x
  rw [asks_eq]
  cases o with
  | dispatch a conduct =>
    change (dispatch settings a conduct w).state.host.effects.countP _ = _
    by_cases monitored : CompactionPolicy.id ∈ (dispatcher settings).ids
    · have active : CompactionPolicy.hook settings ∈ (dispatcher settings).hooks :=
        active_of_id (by simp [allHooks]) monitored
      obtain ⟨before, after⟩ := dispatch_countP active others a conduct w
      have quiet : (ahead settings CompactionPolicy.id a conduct w).state.host.effects.countP
          (·.summarizes session) = 0 := before.trans (by rw [settled, List.countP_nil])
      have asked := handle_summarizes settings.compaction session a.event
        (ahead settings CompactionPolicy.id a conduct w).output (ahead settings CompactionPolicy.id a conduct w).state
      have same : memory session (ahead settings CompactionPolicy.id a conduct w).state = memory session w :=
        congrArg (fun r => (r.get? session).getD .start) ((compaction_owned settings).ahead a conduct w)
      rw [same, ahead_disturbance, quiet, Nat.zero_add] at asked
      rw [after, List.contains_iff_mem.2 monitored, Bool.true_and]
      exact asked
    · have absent : (dispatcher settings).ids.contains CompactionPolicy.id = false := by simpa using monitored
      rw [dispatch_countP_of_inactive monitored others, settled, absent]
      rfl
  | _ => simp [occur, usage?]

theorem compaction_listens (settings : Settings) :
    Listens settings (CompactionPolicy.hook settings) World.compaction .start
      (fun _ _ disturbance f m => m.take settings.compaction (disturbance .summarize).refuses f)
      CompactionMemory.compacted where
  owned := compaction_owned settings
  usage _ := handle_of_usage
  compacts _ _ := handle_of_compacts
  others _ := handle_of_others
  fresh := rfl

section Active

variable (active : CompactionPolicy.hook settings ∈ (dispatcher settings).hooks)

include active

/-- An occurrence and what is remembered of a session that stays: a call of the session counts, a request is remembered
and in flight if the host takes it, and a compaction ends the flight. -/
theorem occur_memory (stays : Stays settings World.compaction session w [o]) :
    let m := memory session w
    let m' := memory session (occur settings w o).1
    m'.usage.toolCalls = m.usage.toolCalls + (o.isCallOf session).toNat ∧
      m'.lastRequestAt = (if asks settings session w o then some m'.usage.toolCalls else m.lastRequestAt) ∧
      m'.inFlight =
        if asks settings session w o then !o.refuses .summarize else m.inFlight && !o.compacts session := by
  intro m m'
  have enabled : (dispatcher settings).ids.contains CompactionPolicy.id = true :=
    List.contains_iff_mem.2 (List.mem_map.2 ⟨_, active, rfl⟩)
  have asked := asks_eq settings session w o
  rw [enabled, Bool.true_and] at asked
  cases heard : usage? settings CompactionPolicy.id session w o with
  | some f =>
    have uncompacted := not_compacts_of_usage? heard
    have counted := toolCalls_of_usage? heard m.usage
    rw [heard, Option.any_some] at asked
    obtain ⟨a, conduct, rfl, entered⟩ := (compaction_listens settings).occur_of_usage? active heard
    obtain ⟨usage, last, flight⟩ := m.take_fields settings.compaction (conduct.refuses .summarize) f
    have taken : m' = m.take settings.compaction (conduct.refuses .summarize) f := congrArg (·.getD .start) entered
    rw [taken, asked, last, flight, usage, uncompacted, Bool.not_false, Bool.and_true, counted]
    exact ⟨rfl, rfl, rfl⟩
  | none =>
    have left : m' = if o.compacts session then m.compacted else m :=
      (compaction_listens settings).occur_of_unheard active heard stays
    rw [heard, Option.any_none] at asked
    rw [asked, left, not_isCallOf_of_unheard heard]
    cases o.compacts session with
    | true => exact ⟨rfl, rfl, (Bool.and_false _).symm⟩
    | false => exact ⟨rfl, rfl, (Bool.and_true _).symm⟩

end Active

/-- A request is made only while none is in flight, and not at the announcement of a compaction. -/
theorem idle_of_asks (asked : asks settings session w o = true) :
    (memory session w).inFlight = false ∧ o.compacts session = false := by
  obtain ⟨-, f, heard, idle, -⟩ := asks_iff.1 asked
  exact ⟨idle, not_compacts_of_usage? heard⟩

theorem active_of_asks (asked : asks settings session w o = true) :
    CompactionPolicy.hook settings ∈ (dispatcher settings).hooks :=
  active_of_id (by simp [allHooks]) (asks_iff.1 asked).1

theorem occur_of_asks (asked : asks settings session w o = true) :
    let m := memory session (occur settings w o).1
    m.inFlight = !o.refuses .summarize ∧ m.lastRequestAt = some m.usage.toolCalls := by
  obtain ⟨-, f, heard, -⟩ := asks_iff.1 asked
  have stays := (compaction_listens settings).stays_of_usage? (active_of_asks asked) heard
  obtain ⟨-, last, flight⟩ := occur_memory (active_of_asks asked) stays
  rw [if_pos asked] at last flight
  exact ⟨flight, last⟩

/-! Over runs. -/

/-- Every request in a run that the host took was followed by a compaction. -/
def Answered (settings : Settings) (session : String) (w : World) (run : List Occurrence) : Prop :=
  ∀ first o rest, run = first ++ o :: rest → asks settings session (after settings w first) o = true →
    o.refuses .summarize = false → ∃ p ∈ rest, p.compacts session = true

theorem answered_concat : Answered settings session w (run ++ [o]) ↔
    ¬(asks settings session (after settings w run) o = true ∧ o.refuses .summarize = false) ∧
      (o.compacts session = true ∨ Answered settings session w run) := by
  rw [Answered, forall_cut_concat (P := fun first o rest => asks settings session (after settings w first) o = true →
    o.refuses .summarize = false → ∃ p ∈ rest, p.compacts session = true)]
  refine and_congr ⟨fun answered ⟨asked, taken⟩ => ?_, fun idle asked taken => absurd ⟨asked, taken⟩ idle⟩ ?_
  · obtain ⟨p, nobody, -⟩ := answered asked taken
    cases nobody
  · rw [or_iff_not_imp_left]
    constructor
    · intro answered other first p rest split asked taken
      obtain ⟨q, here, whole⟩ := answered first p rest split asked taken
      rcases List.mem_append.1 here with here | last
      · exact ⟨q, here, whole⟩
      · rw [List.mem_singleton.1 last] at whole
        exact absurd whole other
    · intro answered first p rest split asked taken
      by_cases whole : o.compacts session = true
      · exact ⟨o, by simp, whole⟩
      · obtain ⟨q, here, whole⟩ := answered whole first p rest split asked taken
        exact ⟨q, List.mem_append_left _ here, whole⟩

section Active

variable (active : CompactionPolicy.hook settings ∈ (dispatcher settings).hooks)
  (stays : Stays settings World.compaction session w run)

include active stays

theorem requests_spaced (past : ∀ m ∈ (memory session w).lastRequestAt, m ≤ (memory session w).usage.toolCalls) :
    (memory session (after settings w run)).usage.toolCalls =
        (memory session w).usage.toolCalls + calls session run ∧
      Remembers settings session (fun w o => asks settings session w o = true)
        (memory session w).usage.toolCalls (memory session w).lastRequestAt w run
        (memory session (after settings w run)).lastRequestAt := by
  refine Remembers.of_steps _ (fun v => (memory session v).usage.toolCalls) (fun v => (memory session v).lastRequestAt)
    (fun v o stays => ?_) past stays
  obtain ⟨counted, last, -⟩ := occur_memory active stays
  exact ⟨counted, fun asked => last.trans (if_pos asked), fun idle => last.trans (if_neg idle)⟩

/-- A request is in flight unless each one that was taken was followed by a compaction. -/
theorem inFlight_iff : (memory session (after settings w run)).inFlight = false ↔
    Answered settings session w run ∧
      ((memory session w).inFlight = true → ∃ p ∈ run, p.compacts session = true) := by
  induction run using List.reverseRecOn with
  | nil =>
    have answered : Answered settings session w [] := fun first o rest nothing => by simp at nothing
    simp only [answered, true_and, List.not_mem_nil, false_and, exists_false, imp_false, Bool.not_eq_true]
    rfl
  | append_singleton run o ih =>
    obtain ⟨stayed, last⟩ := stays_append.1 stays
    have flight := ih stayed
    let v := after settings w run
    obtain ⟨-, -, flight'⟩ := occur_memory active last
    have longer : (∃ p ∈ run ++ [o], p.compacts session = true) ↔
        (∃ p ∈ run, p.compacts session = true) ∨ o.compacts session = true := by
      simp only [List.mem_append, List.mem_singleton, or_and_right, exists_or, exists_eq_left]
    rw [after_concat, flight', answered_concat, longer]
    by_cases asked : asks settings session v o = true
    · -- A request is made while none is in flight, so the earlier ones are answered already.
      obtain ⟨idle, other⟩ := idle_of_asks asked
      obtain ⟨answered, compacted⟩ := flight.1 idle
      have earlier := fun busy => Or.inl (b := o.compacts session = true) (compacted busy)
      rw [if_pos asked]
      change _ ↔ (¬(asks settings session v o = true ∧ _) ∧ _) ∧ _
      cases taken : o.refuses .summarize with
      | true => exact ⟨fun _ => ⟨⟨fun both => (nomatch both.2), .inr answered⟩, earlier⟩, fun _ => rfl⟩
      | false => simp [asked]
    · rw [if_neg asked]
      change _ ↔ (¬(asks settings session v o = true ∧ _) ∧ _) ∧ _
      cases whole : o.compacts session with
      | true => simp [asked]
      | false => simpa [asked] using flight

end Active

/-- Between two requests there are enough calls of the session, and if the host took the first one a compaction. -/
theorem requests_apart {first second : Occurrence} {mid : List Occurrence}
    (asked : asks settings session w first = true)
    (stays : Stays settings World.compaction session (occur settings w first).1 mid)
    (again : asks settings session (after settings w (first :: mid)) second = true) :
    settings.compaction.compactionCooldownToolCalls ≤ calls session (mid ++ [second]) ∧
      (first.refuses .summarize = false → ∃ p ∈ mid, p.compacts session = true) := by
  have active := active_of_asks asked
  obtain ⟨flight, last⟩ := occur_of_asks asked
  have past : ∀ m ∈ (memory session (occur settings w first).1).lastRequestAt,
      m ≤ (memory session (occur settings w first).1).usage.toolCalls :=
    fun m marked => (Option.some.inj (last.symm.trans marked)).ge
  obtain ⟨number, requests⟩ := requests_spaced active stays past
  obtain ⟨-, f, heard, idle, -, cooled⟩ := asks_iff.1 again
  have now : (f (memory session (after settings w (first :: mid))).usage).toolCalls =
      (memory session (occur settings w first).1).usage.toolCalls + calls session (mid ++ [second]) := by
    rw [toolCalls_of_usage? heard, calls_concat, ← Nat.add_assoc]
    exact congrArg (· + (second.isCallOf session).toNat) number
  rw [now] at cooled
  rw [last] at requests
  refine ⟨requests.apart cooled, fun taken => ((inFlight_iff active stays).1 idle).2 ?_⟩
  rw [flight, taken]
  rfl

/-- When a request is made, told from the requests and compactions since the session's entry was created. -/
theorem asks_iff_of_new (new : w.compaction.get? session = none)
    (stays : Stays settings World.compaction session w run) :
    let s := settings.compaction
    let v := after settings w run
    asks settings session v o = true ↔ CompactionPolicy.id ∈ (dispatcher settings).ids ∧
      ∃ f, usage? settings CompactionPolicy.id session v o = some f ∧
        Answered settings session w run ∧
        ¬(f (memory session v).usage).ratio s.defaultContextLimitTokens < s.warningThreshold ∧
        ∀ first p rest, run = first ++ p :: rest → asks settings session (after settings w first) p = true →
          s.compactionCooldownToolCalls ≤ calls session (run ++ [o]) - calls session (first ++ [p]) := by
  intro s v
  have fresh : memory session w = .start := by rw [memory, new, Option.getD_none]
  rw [asks_iff]
  refine and_congr_right fun monitored => exists_congr fun f => and_congr_right fun heard => ?_
  have active : CompactionPolicy.hook settings ∈ (dispatcher settings).hooks :=
    active_of_id (by simp [allHooks]) monitored
  have past : ∀ m ∈ (memory session w).lastRequestAt, m ≤ (memory session w).usage.toolCalls := by
    rw [fresh]
    exact fun m nothing => absurd nothing (Option.not_mem_none m)
  obtain ⟨number, requests⟩ := requests_spaced active stays past
  have flight := inFlight_iff active stays
  rw [fresh] at number requests flight
  have landed : (memory session v).inFlight = false ↔ Answered settings session w run :=
    flight.trans (and_iff_left fun busy => absurd busy Bool.false_ne_true)
  have now : (f (memory session v).usage).toolCalls = calls session (run ++ [o]) := by
    rw [toolCalls_of_usage? heard, calls_concat]
    exact congrArg (· + (o.isCallOf session).toNat) (number.trans (Nat.zero_add _))
  dsimp only
  rw [landed, now]
  exact and_congr_right fun _ => and_congr_right fun _ => requests.cooled_iff o s.compactionCooldownToolCalls

/-- Preemptive compaction keeps one request in flight and keeps requests apart. The host is asked for a summary of a
session at a call or a report of it if, that being counted, no request is in flight, enough of the window is used, and
the last request is as many calls away as the cooldown demands. What it is asked for is handed over unless it refuses;
then the request is not in flight, but it counts as the last one all the same. So between two requests, while the
session is neither deleted nor evicted, there are as many calls of it as the cooldown demands, and if the first one was
taken it has been compacted. From the beginning of a session's entry on, no request is in flight if each one that was
taken was followed by a compaction, and the cooldown is over if every request is far enough away. -/
theorem one_compaction_in_flight (settings : Settings) (session : String) (settled : Settled w) :
    let s := settings.compaction
    (∀ o, (occur settings w o).2.countP (·.summarizes session) =
      (asks settings session w o && !o.refuses .summarize).toNat) ∧
    (∀ o, asks settings session w o = true ↔ CompactionPolicy.id ∈ (dispatcher settings).ids ∧
      ∃ f, usage? settings CompactionPolicy.id session w o = some f ∧
        let m := memory session w
        let usage := f m.usage
        m.inFlight = false ∧ ¬usage.ratio s.defaultContextLimitTokens < s.warningThreshold ∧
          cooledDown m.lastRequestAt usage.toolCalls s.compactionCooldownToolCalls = true) ∧
    (∀ o, asks settings session w o = true →
      let m := memory session (occur settings w o).1
      m.inFlight = !o.refuses .summarize ∧ m.lastRequestAt = some m.usage.toolCalls) ∧
    (∀ first mid second, asks settings session w first = true →
      Stays settings World.compaction session (occur settings w first).1 mid →
      asks settings session (after settings w (first :: mid)) second = true →
      s.compactionCooldownToolCalls ≤ calls session (mid ++ [second]) ∧
        (first.refuses .summarize = false → ∃ p ∈ mid, p.compacts session = true)) ∧
    ∀ before o, w.compaction.get? session = none → Stays settings World.compaction session w before →
      let v := after settings w before
      (asks settings session v o = true ↔ CompactionPolicy.id ∈ (dispatcher settings).ids ∧
        ∃ f, usage? settings CompactionPolicy.id session v o = some f ∧
          Answered settings session w before ∧
          ¬(f (memory session v).usage).ratio s.defaultContextLimitTokens < s.warningThreshold ∧
          ∀ first p rest, before = first ++ p :: rest → asks settings session (after settings w first) p = true →
            s.compactionCooldownToolCalls ≤ calls session (before ++ [o]) - calls session (first ++ [p])) :=
  ⟨occur_summarizes settled session, fun _ => asks_iff, fun _ => occur_of_asks, fun _ _ _ => requests_apart,
    fun _ _ => asks_iff_of_new⟩

/-- A session's first call fills its window, and the host is asked for a summary. The next call has to wait for it,
however much is used and although no cooldown holds it off. -/
theorem one_compaction_in_flight_waits :
    let settings : Settings :=
      { disabled := ⟨[PressurePolicy.id, ContextPolicy.id]⟩
        compaction := { defaultContextLimitTokens := 1, compactionCooldownToolCalls := 0 } }
    let w := World.start settings ⟨"/project"⟩ .empty default ⟨[], 0⟩
    let call : Occurrence := .dispatch ⟨.toolAfter ⟨"bash", "s", "c"⟩, { ToolResult.blank with output := "four" }⟩ .calm
    Settled w ∧ (occur settings w call).2.countP (·.summarizes "s") = 1 ∧
      asks settings "s" (after settings w [call]) call = false := by
  intro settings w call
  have hooks : dispatcher settings =
      ⟨(enabledHooks settings).filter fun h => !settings.disabled.contains h.id, World.remark⟩ :=
    dispatcher_of_unordered rfl rfl
  have settled : Settled w := rfl
  obtain ⟨handed, -, -, spaced, -⟩ := one_compaction_in_flight settings "s" settled
  have asked : asks settings "s" w call = true := by
    simp only [call, asks, ahead, hooks]
    decide +kernel
  refine ⟨settled, ?_, Bool.eq_false_iff.2 fun again => ?_⟩
  · rw [handed, asked]
    rfl
  · obtain ⟨p, nobody, -⟩ := (spaced call [] call asked trivial again).2 rfl
    cases nobody

end Service

end AgentHooks
