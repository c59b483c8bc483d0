import AgentHooks.Proofs.Service.Usage

/-! Reminders that the context window fills up. They keep their distance in a session's own tool calls, and as long as
the session is not compacted each of them is worth its while in tokens. -/

namespace AgentHooks

open World ContextPolicy

theorem ToolResult.appendReminder_ne (out : ToolResult) {text : String} (told : text ≠ "") :
    (out.appendReminder text).output ≠ out.output := by
  intro same
  have length := congrArg String.length same
  have some' : text.length ≠ 0 := fun zero => told (String.length_eq_zero_iff.1 zero)
  unfold appendReminder at length
  split at length
  next blank =>
    rw [blank] at length
    exact some' length
  next =>
    simp only [String.length_append] at length
    omega

theorem ContextMemory.reminderText_ne (m : ContextMemory) (s : ContextSettings) : m.reminderText s ≠ "" := by
  obtain ⟨rest, headed⟩ := reminderText_headed m s
  intro blank
  have length := congrArg String.length (headed.symm.trans blank)
  rw [String.length_append] at length
  have long : "[CONTEXT WINDOW]\n".length = 17 := rfl
  simp [long] at length

namespace Service

variable {settings : Settings} {session : String} {w : World} {run more : List Occurrence} {o : Occurrence}
  {f : Usage → Usage}

/-- Whether an occurrence is a tool call of a session to whose output the context monitor, in its turn, adds something. -/
def cautions (settings : Settings) (session : String) (w : World) : Occurrence → Bool
  | .dispatch ⟨.toolAfter call, out⟩ conduct =>
    let before := ahead settings ContextPolicy.id ⟨.toolAfter call, out⟩ conduct w
    call.session == session && (dispatcher settings).ids.contains ContextPolicy.id &&
      (onToolAfter settings.context call.session before.output before.state).1.output != before.output.output
  | _ => false

theorem cautions_eq (settings : Settings) (session : String) (w : World) (o : Occurrence) :
    cautions settings session w o = ((dispatcher settings).ids.contains ContextPolicy.id && o.isCallOf session &&
      (usage? settings ContextPolicy.id session w o).any ((memory session w).reminds settings.context)) := by
  cases o with
  | dispatch a conduct =>
    rcases a with ⟨e, out⟩
    cases e with
    | toolAfter call =>
      let before := ahead settings ContextPolicy.id ⟨.toolAfter call, out⟩ conduct w
      have same : memory call.session before.state = memory call.session w :=
        congrArg (fun r => (r.get? call.session).getD .start) ((context_owned settings).ahead _ conduct w)
      have turned := onToolAfter_output settings.context call.session before.output before.state
      rw [same] at turned
      change (_ && _ && (onToolAfter settings.context call.session before.output before.state).1.output !=
        before.output.output) = (_ && (call.session == session && session != "") &&
          (((Event.toolAfter call).tidings before.output).usage? session).any _)
      by_cases owner : call.session = session
      · subst owner
        by_cases named : call.session = ""
        · rw [turned, if_neg fun due => due.1 named, bne_self_eq_false, named, bne_self_eq_false]
          simp only [Bool.and_false, Bool.false_and]
        · have heard : ((Event.toolAfter call).tidings before.output).usage? call.session =
              some (·.addOutput before.output.output) := usage?_of_call named out conduct
          rw [turned, heard, Option.any_some, bne_iff_ne.2 named, beq_self_eq_true, Bool.true_and, Bool.and_true,
            Bool.and_true]
          refine congrArg (_ && ·) ?_
          cases due : (memory call.session w).reminds settings.context (·.addOutput before.output.output) with
          | true =>
            rw [if_pos ⟨named, rfl⟩]
            exact bne_iff_ne.2 (ToolResult.appendReminder_ne _ (ContextMemory.reminderText_ne _ _))
          | false =>
            rw [if_neg fun both => nomatch both.2]
            exact bne_self_eq_false _
      · simp only [beq_false_of_ne owner, Bool.false_and, Bool.and_false]
    | _ => simp [cautions, Occurrence.isCallOf, Event.isCallOf]
  | _ => simp [cautions, Occurrence.isCallOf]

theorem cautions_iff : cautions settings session w o = true ↔
    ContextPolicy.id ∈ (dispatcher settings).ids ∧ o.isCallOf session = true ∧
      ∃ f, usage? settings ContextPolicy.id session w o = some f ∧
        let s := settings.context
        let m := memory session w
        let usage := f m.usage
        ¬usage.ratio s.defaultContextLimitTokens < s.warningThreshold ∧
          cooledDown m.lastReminderAt usage.toolCalls s.reminderCooldownToolCalls = true ∧
          ∀ last ∈ m.lastReminderTokens, s.minTokenDeltaForReminder ≤ usage.used - last := by
  simp only [cautions_eq, Bool.and_eq_true, List.contains_iff_mem, Option.any_eq_true, and_assoc,
    ContextMemory.reminds_iff]

theorem context_listens (settings : Settings) :
    Listens settings (ContextPolicy.hook settings) World.context .start
      (fun session e _ f m => m.take settings.context (e.isCallOf session) f) ContextMemory.compacted where
  owned := context_owned settings
  usage _ := handle_of_usage
  compacts _ _ := handle_of_compacts
  others _ := handle_of_others
  fresh := rfl

theorem occur_usage (active : ContextPolicy.hook settings ∈ (dispatcher settings).hooks)
    (heard : usage? settings ContextPolicy.id session w o = some f) :
    (memory session (occur settings w o).1).usage = f (memory session w).usage := by
  obtain ⟨a, conduct, rfl, entered⟩ := (context_listens settings).occur_of_usage? active heard
  have taken := congrArg (fun entry => (entry.getD ContextMemory.start).usage) entered
  exact taken.trans ((memory session w).take_fields settings.context (a.event.isCallOf session) f).1

/-- An occurrence and what is remembered of a session that stays: a call of the session counts, a reminder is remembered
with the usage at which it was given, and a compaction makes that usage forgotten. -/
theorem occur_reminder (active : ContextPolicy.hook settings ∈ (dispatcher settings).hooks)
    (stays : Stays settings World.context session w [o]) :
    let m := memory session w
    let m' := memory session (occur settings w o).1
    m'.usage.toolCalls = m.usage.toolCalls + (o.isCallOf session).toNat ∧
      m'.lastReminderAt = (if cautions settings session w o then some m'.usage.toolCalls else m.lastReminderAt) ∧
      m'.lastReminderTokens =
        if cautions settings session w o then some m'.usage.used
        else if o.compacts session then none else m.lastReminderTokens := by
  intro m m'
  have enabled : (dispatcher settings).ids.contains ContextPolicy.id = true :=
    List.contains_iff_mem.2 (List.mem_map.2 ⟨_, active, rfl⟩)
  have given := cautions_eq settings session w o
  rw [enabled, Bool.true_and] at given
  cases heard : usage? settings ContextPolicy.id session w o with
  | some f =>
    have uncompacted := not_compacts_of_usage? heard
    have counted := toolCalls_of_usage? heard m.usage
    rw [heard, Option.any_some] at given
    obtain ⟨a, conduct, rfl, entered⟩ := (context_listens settings).occur_of_usage? active heard
    obtain ⟨usage, last, tokens⟩ := m.take_fields settings.context (a.event.isCallOf session) f
    have taken : m' = m.take settings.context (a.event.isCallOf session) f := congrArg (·.getD .start) entered
    rw [taken, given, last, tokens, usage, uncompacted, counted]
    exact ⟨rfl, rfl, rfl⟩
  | none =>
    have left : m' = if o.compacts session then m.compacted else m :=
      (context_listens settings).occur_of_unheard active heard stays
    rw [heard, Option.any_none, Bool.and_false] at given
    rw [given, left, not_isCallOf_of_unheard heard]
    cases o.compacts session with
    | true => exact ⟨rfl, rfl, rfl⟩
    | false => exact ⟨rfl, rfl, rfl⟩

/-! Over runs. -/

/-- Nothing in a run puts an earlier reminder out of date: the session is neither reminded again nor compacted. -/
def Lasting (settings : Settings) (session : String) : World → List Occurrence → Prop
  | _, [] => True
  | w, o :: rest =>
    cautions settings session w o = false ∧ o.compacts session = false ∧
      Lasting settings session (occur settings w o).1 rest

theorem lasting_append : Lasting settings session w (run ++ more) ↔
    Lasting settings session w run ∧ Lasting settings session (after settings w run) more := by
  induction run generalizing w with
  | nil => exact ⟨fun lasting => ⟨trivial, lasting⟩, And.right⟩
  | cons o rest ih =>
    simp only [List.cons_append, Lasting, ih, and_assoc]
    rfl

section Active

variable (active : ContextPolicy.hook settings ∈ (dispatcher settings).hooks)
  (stays : Stays settings World.context session w run)

include active stays

theorem spaced (past : ∀ m ∈ (memory session w).lastReminderAt, m ≤ (memory session w).usage.toolCalls) :
    (memory session (after settings w run)).usage.toolCalls =
        (memory session w).usage.toolCalls + calls session run ∧
      Remembers settings session (fun w o => cautions settings session w o = true)
        (memory session w).usage.toolCalls (memory session w).lastReminderAt w run
        (memory session (after settings w run)).lastReminderAt := by
  refine Remembers.of_steps _ (fun v => (memory session v).usage.toolCalls)
    (fun v => (memory session v).lastReminderAt) (fun v o stays => ?_) past stays
  obtain ⟨counted, last, -⟩ := occur_reminder active stays
  exact ⟨counted, fun given => last.trans (if_pos given), fun silent => last.trans (if_neg silent)⟩

/-- The usage that is remembered is that of the last reminder since the last compaction. -/
theorem lastReminderTokens_iff (new : (memory session w).lastReminderTokens = none) (grown : Nat → Prop) :
    (∀ last ∈ (memory session (after settings w run)).lastReminderTokens, grown last) ↔
      ∀ first p rest, run = first ++ p :: rest → cautions settings session (after settings w first) p = true →
        Lasting settings session (after settings w (first ++ [p])) rest →
          grown (memory session (after settings w (first ++ [p]))).usage.used := by
  induction run using List.reverseRecOn with
  | nil =>
    refine ⟨fun _ first p rest nothing => by simp at nothing, fun _ last remembered => ?_⟩
    cases new.symm.trans remembered
  | append_singleton run o ih =>
    obtain ⟨stayed, last⟩ := stays_append.1 stays
    let v := after settings w run
    have occurred : after settings w (run ++ [o]) = (occur settings v o).1 := after_concat settings w run o
    obtain ⟨-, -, tokens⟩ := occur_reminder active last
    have onwards : ∀ first p rest, run = first ++ p :: rest →
        (Lasting settings session (after settings w (first ++ [p])) (rest ++ [o]) ↔
          Lasting settings session (after settings w (first ++ [p])) rest ∧
            cautions settings session v o = false ∧ o.compacts session = false) := by
      intro first p rest split
      have here : after settings (after settings w (first ++ [p])) rest = v := by
        rw [← after_append, List.append_assoc, List.singleton_append, ← split]
      rw [lasting_append, here]
      simp only [Lasting, and_true]
    rw [forall_cut_concat (P := fun first p rest => cautions settings session (after settings w first) p = true →
      Lasting settings session (after settings w (first ++ [p])) rest →
        grown (memory session (after settings w (first ++ [p]))).usage.used), occurred, tokens]
    -- A reminder replaces what is remembered and a compaction clears it; either puts the earlier reminders out of date.
    by_cases given : cautions settings session v o = true
    · rw [if_pos given]
      constructor
      · refine fun all => ⟨fun _ _ => all _ rfl, fun first p rest split _ lasting => ?_⟩
        cases ((onwards first p rest split).1 lasting).2.1.symm.trans given
      · rintro ⟨now, -⟩ used remembered
        obtain rfl := Option.some.inj remembered
        exact now given trivial
    · rw [if_neg given]
      refine Iff.trans ?_ (and_iff_right fun due => absurd due given).symm
      cases whole : o.compacts session with
      | true =>
        refine ⟨fun _ first p rest split _ lasting => ?_, fun _ _ nothing => nomatch nothing⟩
        cases ((onwards first p rest split).1 lasting).2.2.symm.trans whole
      | false =>
        rw [if_neg (by decide), ih stayed]
        refine forall_congr' fun first => forall_congr' fun p => forall_congr' fun rest => forall_congr' fun split =>
          forall_congr' fun _ => ?_
        have still : cautions settings session v o = false ∧ o.compacts session = false :=
          ⟨Bool.eq_false_iff.2 given, whole⟩
        rw [onwards first p rest split, and_iff_left still]

/-- Without a compaction, the usage that is remembered does not fall. -/
theorem le_lastReminderTokens (whole : ∀ p ∈ run, p.compacts session = false)
    (worthwhile : 0 < settings.context.minTokenDeltaForReminder) {used : Nat}
    (given : (memory session w).lastReminderTokens = some used) :
    ∃ last, (memory session (after settings w run)).lastReminderTokens = some last ∧ used ≤ last := by
  induction run using List.reverseRecOn with
  | nil => exact ⟨used, given, le_rfl⟩
  | append_singleton run o ih =>
    obtain ⟨stayed, last⟩ := stays_append.1 stays
    obtain ⟨before, remembered, risen⟩ := ih stayed fun p here => whole p (List.mem_append_left _ here)
    obtain ⟨-, -, tokens⟩ := occur_reminder active last
    rw [after_concat, tokens]
    by_cases due : cautions settings session (after settings w run) o = true
    · -- A further reminder has waited for usage to grow.
      obtain ⟨-, -, f, heard, -, -, grown⟩ := cautions_iff.1 due
      have enough := grown before remembered
      rw [if_pos due, occur_usage active heard]
      exact ⟨_, rfl, by omega⟩
    · rw [if_neg due, whole o (by simp), if_neg (by decide)]
      exact ⟨before, remembered, risen⟩

end Active

theorem turn_output (active : ContextPolicy.hook settings ∈ (dispatcher settings).hooks) (call : ToolCall)
    (out : ToolResult) (conduct : Conduct) (w : World) :
    let before := ahead settings ContextPolicy.id ⟨.toolAfter call, out⟩ conduct w
    let o : Occurrence := .dispatch ⟨.toolAfter call, out⟩ conduct
    (turn settings (ContextPolicy.hook settings) ⟨.toolAfter call, out⟩ conduct w).output =
      if cautions settings call.session w o then
        before.output.appendReminder ((memory call.session (occur settings w o).1).reminderText settings.context)
      else before.output := by
  intro before o
  have enabled : (dispatcher settings).ids.contains ContextPolicy.id = true :=
    List.contains_iff_mem.2 (List.mem_map.2 ⟨_, active, rfl⟩)
  have same : memory call.session before.state = memory call.session w :=
    congrArg (fun r => (r.get? call.session).getD .start) ((context_owned settings).ahead _ conduct w)
  have given := cautions_eq settings call.session w o
  refine (onToolAfter_output settings.context call.session before.output before.state).trans ?_
  rw [same, given, enabled, Bool.true_and]
  by_cases named : call.session = ""
  · have nobody : o.isCallOf call.session = false := by simp [o, Occurrence.isCallOf, Event.isCallOf, named]
    rw [if_neg fun due => due.1 named, nobody, Bool.false_and, if_neg (by decide)]
  · have own : (Event.toolAfter call).isCallOf call.session = true := by simp [Event.isCallOf, named]
    have heard : usage? settings ContextPolicy.id call.session w (.dispatch ⟨.toolAfter call, out⟩ conduct) =
        some (·.addOutput before.output.output) := usage?_of_call named out conduct
    obtain ⟨a, conduct', here, entered⟩ := (context_listens settings).occur_of_usage? active heard
    cases here
    have taken : memory call.session (occur settings w o).1 =
        (memory call.session w).take settings.context true (·.addOutput before.output.output) := by
      rw [← own]
      exact congrArg (·.getD .start) entered
    rw [taken, heard, Option.any_some, show o.isCallOf call.session = true from own, Bool.true_and]
    simp only [ne_eq, named, not_false_eq_true, true_and]

/-- What the agent reads after a call: the context monitor's reminder, if there is one, in between reminders of memory
pressure. -/
theorem dispatch_cautions (call : ToolCall) (out : ToolResult) (conduct : Conduct) (w : World) :
    let o : Occurrence := .dispatch ⟨.toolAfter call, out⟩ conduct
    let own := if cautions settings call.session w o then
      [(memory call.session (occur settings w o).1).reminderText settings.context] else []
    ∃ front back : List String,
      (∀ b ∈ front ++ back, ∃ v, b ∈ PressurePolicy.blocks settings.pressure call.session v) ∧
        (dispatch settings ⟨.toolAfter call, out⟩ conduct w).output =
          (front ++ own ++ back).foldl ToolResult.appendReminder out := by
  intro o own
  have others := fun (k : Hook World) (member : k ∈ allHooks settings) (other : k.id ≠ ContextPolicy.id) x =>
    visit_advises_of_pressure member other call x
  by_cases monitored : ContextPolicy.id ∈ (dispatcher settings).ids
  · have active : ContextPolicy.hook settings ∈ (dispatcher settings).hooks :=
      active_of_id (by simp [allHooks]) monitored
    refine dispatch_advises active others out conduct w ((turn_output active call out conduct w).trans ?_)
    simp only [own]
    split <;> rfl
  · have silent : cautions settings call.session w o = false :=
      Bool.eq_false_iff.2 fun given => monitored (cautions_iff.1 given).1
    have nothing : own = [] := if_neg (by rw [silent]; decide)
    obtain ⟨front, known, advised⟩ := dispatch_advises_of_inactive monitored others out conduct w
    refine ⟨front, [], ?_, ?_⟩
    · rwa [List.append_nil]
    · rw [advised, nothing, List.append_nil, List.append_nil]

/-- Between two reminders there are enough calls of the session, and without a compaction enough usage is added. -/
theorem reminders_apart {first second : Occurrence} {mid : List Occurrence}
    (given : cautions settings session w first = true)
    (stays : Stays settings World.context session (occur settings w first).1 mid)
    (again : cautions settings session (after settings w (first :: mid)) second = true) :
    let s := settings.context
    s.reminderCooldownToolCalls ≤ calls session (mid ++ [second]) ∧
      ((∀ p ∈ mid, p.compacts session = false) → 0 < s.minTokenDeltaForReminder →
        (memory session (after settings w [first])).usage.used + s.minTokenDeltaForReminder ≤
          (memory session (after settings w (first :: mid ++ [second]))).usage.used) := by
  intro s
  obtain ⟨monitored, -, f, heard, -⟩ := cautions_iff.1 given
  have active : ContextPolicy.hook settings ∈ (dispatcher settings).hooks :=
    active_of_id (by simp [allHooks]) monitored
  obtain ⟨-, last, tokens⟩ := occur_reminder active ((context_listens settings).stays_of_usage? active heard)
  rw [if_pos given] at last tokens
  have past : ∀ m ∈ (memory session (occur settings w first).1).lastReminderAt,
      m ≤ (memory session (occur settings w first).1).usage.toolCalls :=
    fun m marked => (Option.some.inj (last.symm.trans marked)).ge
  obtain ⟨number, reminders⟩ := spaced active stays past
  obtain ⟨-, -, g, heard', -, cooled, grown⟩ := cautions_iff.1 again
  have now : (g (memory session (after settings w (first :: mid))).usage).toolCalls =
      (memory session (occur settings w first).1).usage.toolCalls + calls session (mid ++ [second]) := by
    rw [toolCalls_of_usage? heard', calls_concat, ← Nat.add_assoc]
    exact congrArg (· + (second.isCallOf session).toNat) number
  rw [now] at cooled
  rw [last] at reminders
  refine ⟨reminders.apart cooled, fun whole worthwhile => ?_⟩
  obtain ⟨used, remembered, risen⟩ := le_lastReminderTokens active stays whole worthwhile tokens
  have enough : s.minTokenDeltaForReminder ≤ _ := grown used remembered
  rw [after_concat, occur_usage active heard']
  change (memory session (occur settings w first).1).usage.used + _ ≤ _
  omega

/-- When a reminder is given, told from the reminders and compactions since the session's entry was created. -/
theorem cautions_iff_of_new (new : w.context.get? session = none)
    (stays : Stays settings World.context session w run) :
    let s := settings.context
    let v := after settings w run
    cautions settings session v o = true ↔
      ContextPolicy.id ∈ (dispatcher settings).ids ∧ o.isCallOf session = true ∧
        ∃ f, usage? settings ContextPolicy.id session v o = some f ∧
          let usage := f (memory session v).usage
          ¬usage.ratio s.defaultContextLimitTokens < s.warningThreshold ∧
            (∀ first p rest, run = first ++ p :: rest →
              cautions settings session (after settings w first) p = true →
              s.reminderCooldownToolCalls ≤ calls session (run ++ [o]) - calls session (first ++ [p])) ∧
            ∀ first p rest, run = first ++ p :: rest →
              cautions settings session (after settings w first) p = true →
              Lasting settings session (after settings w (first ++ [p])) rest →
              s.minTokenDeltaForReminder ≤
                usage.used - (memory session (after settings w (first ++ [p]))).usage.used := by
  intro s v
  have fresh : memory session w = .start := by rw [memory, new, Option.getD_none]
  rw [cautions_iff]
  refine and_congr_right fun monitored => and_congr_right fun _ => exists_congr fun f => and_congr_right fun heard => ?_
  have active : ContextPolicy.hook settings ∈ (dispatcher settings).hooks :=
    active_of_id (by simp [allHooks]) monitored
  have past : ∀ m ∈ (memory session w).lastReminderAt, m ≤ (memory session w).usage.toolCalls := by
    rw [fresh]
    exact fun m nothing => absurd nothing (Option.not_mem_none m)
  have untold : (memory session w).lastReminderTokens = none := by rw [fresh]; rfl
  obtain ⟨number, reminders⟩ := spaced active stays past
  rw [fresh] at number reminders
  have now : (f (memory session v).usage).toolCalls = calls session (run ++ [o]) := by
    rw [toolCalls_of_usage? heard, calls_concat]
    exact congrArg (· + (o.isCallOf session).toNat) (number.trans (Nat.zero_add _))
  have growth := lastReminderTokens_iff active stays untold
    fun last => s.minTokenDeltaForReminder ≤ (f (memory session v).usage).used - last
  dsimp only
  rw [now]
  exact and_congr_right fun _ => and_congr (reminders.cooled_iff o s.reminderCooldownToolCalls) growth

/-- Reminders of the context window are kept apart. A call of a session is followed by one if, the call being counted,
enough of the window is used, the last reminder is as many calls away as the cooldown demands, and usage has grown as
much as it should since the last reminder, if the session has not been compacted since. So between two reminders, while
the session is neither deleted nor evicted, there are as many calls of it as the cooldown demands, and if it has not
been compacted usage has grown by the least difference that is demanded, if there is one. From the beginning of a
session's entry on, the cooldown is over if every reminder is far enough away, and growth counts from the last reminder
that neither another reminder nor a compaction has followed. A reminder stands behind the tool's output. -/
theorem context_reminders_spaced (settings : Settings) (session : String) (w : World) :
    let s := settings.context
    (∀ call out conduct,
      let o : Occurrence := .dispatch ⟨.toolAfter call, out⟩ conduct
      let own := if cautions settings call.session w o then
        [(memory call.session (occur settings w o).1).reminderText s] else []
      ∃ front back : List String,
        (∀ b ∈ front ++ back, ∃ v, b ∈ PressurePolicy.blocks settings.pressure call.session v) ∧
          (dispatch settings ⟨.toolAfter call, out⟩ conduct w).output =
            (front ++ own ++ back).foldl ToolResult.appendReminder out) ∧
    (∀ o, cautions settings session w o = true ↔
      ContextPolicy.id ∈ (dispatcher settings).ids ∧ o.isCallOf session = true ∧
        ∃ f, usage? settings ContextPolicy.id session w o = some f ∧
          let m := memory session w
          let usage := f m.usage
          ¬usage.ratio s.defaultContextLimitTokens < s.warningThreshold ∧
            cooledDown m.lastReminderAt usage.toolCalls s.reminderCooldownToolCalls = true ∧
            ∀ last ∈ m.lastReminderTokens, s.minTokenDeltaForReminder ≤ usage.used - last) ∧
    (∀ first mid second, cautions settings session w first = true →
      Stays settings World.context session (occur settings w first).1 mid →
      cautions settings session (after settings w (first :: mid)) second = true →
      s.reminderCooldownToolCalls ≤ calls session (mid ++ [second]) ∧
        ((∀ p ∈ mid, p.compacts session = false) → 0 < s.minTokenDeltaForReminder →
          (memory session (after settings w [first])).usage.used + s.minTokenDeltaForReminder ≤
            (memory session (after settings w (first :: mid ++ [second]))).usage.used)) ∧
    ∀ before o, w.context.get? session = none → Stays settings World.context session w before →
      let v := after settings w before
      (cautions settings session v o = true ↔
        ContextPolicy.id ∈ (dispatcher settings).ids ∧ o.isCallOf session = true ∧
          ∃ f, usage? settings ContextPolicy.id session v o = some f ∧
            let usage := f (memory session v).usage
            ¬usage.ratio s.defaultContextLimitTokens < s.warningThreshold ∧
              (∀ first p rest, before = first ++ p :: rest →
                cautions settings session (after settings w first) p = true →
                s.reminderCooldownToolCalls ≤ calls session (before ++ [o]) - calls session (first ++ [p])) ∧
              ∀ first p rest, before = first ++ p :: rest →
                cautions settings session (after settings w first) p = true →
                Lasting settings session (after settings w (first ++ [p])) rest →
                s.minTokenDeltaForReminder ≤
                  usage.used - (memory session (after settings w (first ++ [p]))).usage.used) :=
  ⟨fun call out conduct => dispatch_cautions call out conduct w, fun _ => cautions_iff, fun _ _ _ => reminders_apart,
    fun _ _ => cautions_iff_of_new⟩

/-- A session's first call fills its window, and the agent is reminded. After the next call it is not, because little has
been added since, although no cooldown holds the reminder off. -/
theorem context_reminders_spaced_ungrown :
    let settings : Settings :=
      { disabled := ⟨[PressurePolicy.id, CompactionPolicy.id]⟩
        context :=
          { defaultContextLimitTokens := 1, reminderCooldownToolCalls := 0, minTokenDeltaForReminder := 5 } }
    let w := World.start settings ⟨"/project"⟩ .empty default ⟨[], 0⟩
    let call : Occurrence := .dispatch ⟨.toolAfter ⟨"bash", "s", "c"⟩, { ToolResult.blank with output := "four" }⟩ .calm
    cautions settings "s" w call = true ∧ cautions settings "s" (after settings w [call]) call = false := by
  intro settings w call
  have hooks : dispatcher settings =
      ⟨(enabledHooks settings).filter fun h => !settings.disabled.contains h.id, World.remark⟩ :=
    dispatcher_of_unordered rfl rfl
  obtain ⟨-, -, spaced, -⟩ := context_reminders_spaced settings "s" w
  have given : cautions settings "s" w call = true := by
    simp only [call, cautions, ahead, hooks]
    decide +kernel
  refine ⟨given, Bool.eq_false_iff.2 fun again => ?_⟩
  have grown := (spaced call [] call given trivial again).2 (fun p nobody => absurd nobody List.not_mem_nil) (by decide)
  have little : (memory "s" (after settings w [call, call])).usage.used = 2 := by
    simp only [call, after, List.foldl, occur, dispatch, hooks]
    decide +kernel
  change _ ≤ (memory "s" (after settings w [call, call])).usage.used at grown
  rw [little] at grown
  have least : settings.context.minTokenDeltaForReminder = 5 := rfl
  omega

end Service

end AgentHooks
