import AgentHooks.Proofs.Policy.Faithful
import AgentHooks.Proofs.Policy.Monitors
import AgentHooks.Proofs.Policy.Requests
import AgentHooks.Proofs.Policy.Stop
import AgentHooks.Proofs.Pressure.Monitor

/-! A tool call under the eyes of the monitor. Besides counting, all that it does then follows from what it observes:
which reminders the agent gets, which notices the operator gets, and whether the session is paused. -/

namespace AgentHooks

open World PressureCounters

def Action.tellsOfPause (session : String) : Action → Bool
  | .notify n => n.session == some session && n.title == "Autopilot paused"
  | _ => false

theorem Remark.heading_unique {heading heading' rest rest' : String} (known : heading ∈ headings.map Prod.snd)
    (known' : heading' ∈ headings.map Prod.snd) (same : heading ++ rest = heading' ++ rest') : heading = heading' := by
  -- There is a line break in every heading, so what stands behind it does not reach into its first line.
  let firstLine (text : String) := text.toList.takeWhile (· ≠ '\n')
  have whole : ∀ h ∈ headings.map Prod.snd, (firstLine h).length ≠ h.toList.length := by decide
  have line : ∀ h ∈ headings.map Prod.snd, ∀ rest, firstLine (h ++ rest) = firstLine h := by
    intro h known rest
    simp only [firstLine, String.toList_append, List.takeWhile_append]
    exact if_neg (whole h known)
  have distinct : ∀ h ∈ headings.map Prod.snd, ∀ h' ∈ headings.map Prod.snd, firstLine h = firstLine h' → h = h' := by
    decide
  refine distinct _ known _ known' ?_
  rw [← line _ known rest, same, line _ known' rest']

theorem Remark.ne_of_headings {heading heading' block block' : String} (apart : heading ≠ heading')
    (known : heading ∈ headings.map Prod.snd) (known' : heading' ∈ headings.map Prod.snd)
    (headed : ∃ rest, block = heading ++ rest) (headed' : ∃ rest, block' = heading' ++ rest) : block ≠ block' := by
  obtain ⟨rest, rfl⟩ := headed
  obtain ⟨rest', rfl⟩ := headed'
  exact fun same => apart (heading_unique known known' same)

namespace PressurePolicy

/-- What a tool call of a session shows of pressure, if a sample is due at it and does not fail. -/
def observed (s : PressureSettings) (session : String) (w : World) : Option Observation :=
  if session = "" then none else (((w.pressure.get? session).getD .start).call s (shown s w)).2

def reminder (s : PressureSettings) (sample : Sample) : PressureLevel → List String
  | .normal => []
  | .warning => [warningText s sample]
  | .critical => [criticalText s sample]

def noted (session : String) (o : Observation) (w : World) : World :=
  if o.response.remind then
    match o.level with
    | .normal => w
    | .warning => remark w .inject "pressure_warning" session
    | .critical => remark w .inject "pressure_critical" session
  else w

def owned (session : String) : Except Fault (Option Loop) → Bool
  | .ok (some l) => l.belongsTo session
  | _ => false

/-- Whether a tool call pauses its session. The monitor looks for the loop after it has reminded the agent. -/
def pauses (s : PressureSettings) (session : String) (w : World) : Bool :=
  match observed s session w with
  | none => false
  | some o =>
    let v := noted session o w
    o.response.pause && s.autoPause && owned session (v.cell.load v.files) && !w.isStopped session

def pausedNotice (session : String) (sample : Sample) : Notice :=
  ⟨some session, "Autopilot paused", "Sustained memory pressure: " ++ toString sample.totalRssMb ++ " MB RSS",
    .warning⟩

def escalationNotice (s : PressureSettings) (session : String) (events : Nat) : Notice :=
  ⟨some session, "Memory pressure critical",
    toString events ++ " critical samples within " ++ toString s.criticalEscalationWindowToolCalls ++
      " tool calls; close other agent sessions", .error⟩

def blocks (s : PressureSettings) (session : String) (w : World) : List String :=
  match observed s session w, w.sample.2 with
  | some o, .ok sample =>
    (if o.response.remind then reminder s sample o.level else []) ++
      (if pauses s session w then [pausedText] else []) ++
      if o.response.escalate then [escalationText s o.response.criticalEvents] else []
  | _, _ => []

def notices (s : PressureSettings) (session : String) (w : World) : List Notice :=
  match observed s session w, w.sample.2 with
  | some o, .ok sample =>
    (if pauses s session w then [pausedNotice session sample] else []) ++
      if o.response.escalate then [escalationNotice s session o.response.criticalEvents] else []
  | _, _ => []

/-- What happens between two scenes: the agent gets reminders, the operator gets notices if the host takes them, and a
session is paused or is not. -/
structure Does (session : String) (blocks : List String) (notices : List Notice) (paused : Bool)
    (before after : Scene) : Prop where
  output : after.1 = blocks.foldl ToolResult.appendReminder before.1
  effects : after.2.host.effects =
    before.2.host.effects ++ if (before.2.disturbance .notify).refuses then [] else notices.map Action.notify
  latch : before.2.HandsOff → ∀ other,
    after.2.isStopped other = ((paused && session == other) || before.2.isStopped other)
  disturbance : after.2.disturbance = before.2.disturbance
  sampler : after.2.sampler = before.2.sampler

namespace Does

variable {session : String} {blocks more : List String} {notices others : List Notice} {paused again : Bool}
  {x y z : Scene}

theorem nothing (output : y.1 = x.1) (effects : y.2.host.effects = x.2.host.effects)
    (latch : y.2.stopped = x.2.stopped) (disturbance : y.2.disturbance = x.2.disturbance)
    (sampler : y.2.sampler = x.2.sampler) : Does session [] [] false x y := by
  refine ⟨output, ?_, fun _ other => ?_, disturbance, sampler⟩
  · rw [effects]
    split <;> exact (List.append_nil _).symm
  · rw [World.isStopped, latch]
    rfl

theorem trans (first : Does session blocks notices paused x y) (second : Does session more others again y z) :
    Does session (blocks ++ more) (notices ++ others) (paused || again) x z where
  output := by rw [second.output, first.output, List.foldl_append]
  effects := by
    rw [second.effects, first.effects, first.disturbance, List.append_assoc, List.map_append]
    split <;> rfl
  latch := by
    intro handsOff other
    have handsOff' : y.2.HandsOff := fun c => first.disturbance ▸ handsOff c
    rw [second.latch handsOff', first.latch handsOff, ← Bool.or_assoc, Bool.or_comm paused, Bool.and_or_distrib_right]
  disturbance := second.disturbance.trans first.disturbance
  sampler := second.sampler.trans first.sampler

theorem ite (due : Bool) (step : Does session blocks notices paused x y) :
    Does session (if due then blocks else []) (if due then notices else []) (due && paused) x
      (if due then y else x) := by
  cases due with
  | true => simpa using step
  | false => exact nothing rfl rfl rfl rfl rfl

end Does

theorem notify_does (session : String) (out : ToolResult) (w : World) (n : Notice) :
    Does session [] [n] false (out, w) (out, (w.request .notify (.notify n)).1) := by
  have quiet : Quiet w (w.request .notify (.notify n)).1 := .request w _ _ fun _ => rfl
  have asks : Asks (fun _ => True) w (w.request .notify (.notify n)).1 := .request w _ trivial
  exact ⟨rfl, w.request_effects _ _, quiet.isStopped, quiet.disturbance, asks.sampler⟩

theorem ownsLoop_snd (w : World) (session : String) :
    (ownsLoop w session).2 = owned session (w.cell.load w.files) := by
  unfold ownsLoop
  rcases w.cell.load w.files with fault | (_ | l)
  · rfl
  · rfl
  · dsimp only [owned]
    cases l.belongsTo session <;> rfl

theorem ownsLoop_does (out : ToolResult) (w : World) (session : String) :
    Does session [] [] false (out, w) (out, (ownsLoop w session).1) := by
  unfold ownsLoop
  split
  · split <;> exact .nothing rfl rfl rfl rfl rfl
  · exact .nothing rfl rfl rfl rfl rfl
  · exact .nothing rfl rfl rfl rfl rfl

theorem remind_does (s : PressureSettings) (session : String) (sample : Sample) (level : PressureLevel) (due : Bool)
    (scene : Scene) : Does session (if due then reminder s sample level else []) [] false scene
      (remind s session sample level due scene) := by
  obtain ⟨out, w⟩ := scene
  cases due with
  | false => exact .nothing rfl rfl rfl rfl rfl
  | true =>
    cases level with
    | normal => exact .nothing rfl rfl rfl rfl rfl
    | warning => exact ⟨rfl, by simp [remind, remark, World.remark], fun _ _ => rfl, rfl, rfl⟩
    | critical => exact ⟨rfl, by simp [remind, remark, World.remark], fun _ _ => rfl, rfl, rfl⟩

theorem pause_does (session : String) (sample : Sample) (scene : Scene) :
    let paused := owned session (scene.2.cell.load scene.2.files) && !scene.2.isStopped session
    Does session (if paused then [pausedText] else []) (if paused then [pausedNotice session sample] else []) paused
      scene (pause session sample scene) := by
  obtain ⟨out, w⟩ := scene
  have looked := ownsLoop_does out w session
  have found := ownsLoop_snd w session
  unfold pause
  dsimp only at found ⊢
  rw [← found]
  generalize seen : ownsLoop w session = answer at looked
  obtain ⟨v, owns⟩ := answer
  cases owns with
  | false => exact looked
  | true =>
    obtain ⟨rfl, -⟩ := ownsLoop_true seen
    dsimp only
    cases running : v.isStopped session with
    | true => exact looked
    | false =>
      have latched : Does session [pausedText] [] true (out, v)
          (out.appendReminder pausedText, remark (v.stop session) .state "auto_paused" session) := by
        refine ⟨rfl, ?_, fun _ other => ?_, rfl, rfl⟩
        · split <;> exact (List.append_nil _).symm
        · rw [Bool.true_and, ← isStopped_stop]
          rfl
      exact latched.trans (notify_does session _ _ (pausedNotice session sample))

theorem escalate_does (s : PressureSettings) (session : String) (events : Nat) (scene : Scene) :
    Does session [escalationText s events] [escalationNotice s session events] false scene
      (escalate s session events scene) := by
  obtain ⟨out, w⟩ := scene
  have told : Does session [escalationText s events] [] false (out, w)
      (out.appendReminder (escalationText s events), remark w .state "pressure_escalated" session) := by
    refine ⟨rfl, ?_, fun _ _ => rfl, rfl, rfl⟩
    split <;> exact (List.append_nil _).symm
  exact told.trans (notify_does session _ _ (escalationNotice s session events))

/-- When the monitor looks for the loop, only the line about the reminder has been added. -/
theorem remind_found (s : PressureSettings) (session : String) (sample : Sample) (o : Observation) (out : ToolResult)
    (w : World) (pressure : Roster PressureCounters) :
    let v := (remind s session sample o.level o.response.remind (out, { w with pressure })).2
    v.cell.load v.files = (noted session o w).cell.load (noted session o w).files ∧
      v.isStopped session = w.isStopped session := by
  unfold noted
  cases o.response.remind with
  | false => exact ⟨rfl, rfl⟩
  | true => cases o.level <;> exact ⟨rfl, rfl⟩

/-- The response to a sample follows from what is observed. -/
theorem respond_does (s : PressureSettings) (session : String) (sample : Sample) (out : ToolResult) (w : World) :
    let o := ((w.pressure.get? session).getD .start).observation s (.classify sample s)
    let v := noted session o w
    let paused := o.response.pause && s.autoPause && owned session (v.cell.load v.files) && !w.isStopped session
    Does session
      ((if o.response.remind then reminder s sample o.level else []) ++ (if paused then [pausedText] else []) ++
        if o.response.escalate then [escalationText s o.response.criticalEvents] else [])
      ((if paused then [pausedNotice session sample] else []) ++
        if o.response.escalate then [escalationNotice s session o.response.criticalEvents] else [])
      paused (out, w) (respond s session sample (out, w)) := by
  intro o v paused
  let pressure := w.pressure.modify session fun _ =>
    (((w.pressure.get? session).getD .start).observe (.classify sample s) s).1
  have counted : Does session [] [] false (out, w) (out, { w with pressure }) := .nothing rfl rfl rfl rfl rfl
  have reminded := remind_does s session sample o.level o.response.remind (out, { w with pressure })
  obtain ⟨found, running⟩ := remind_found s session sample o out w pressure
  let scene := remind s session sample o.level o.response.remind (out, { w with pressure })
  let owns := owned session (v.cell.load v.files) && !w.isStopped session
  -- The loop is looked up behind the reminder, and what is read there is what `noted` leaves.
  have looked := pause_does session sample scene
  rw [found, running] at looked
  have step : ∀ due : Bool, Does session (if due && owns then [pausedText] else [])
      (if due && owns then [pausedNotice session sample] else []) (due && owns) scene
      (if due then pause session sample scene else scene) := by
    intro due
    cases due with
    | false => exact .nothing rfl rfl rfl rfl rfl
    | true => exact looked
  have paused' : paused = (o.response.pause && s.autoPause && owns) := Bool.and_assoc _ _ _
  have escalated := (escalate_does s session o.response.criticalEvents
    (if o.response.pause && s.autoPause then pause session sample scene else scene)).ite o.response.escalate
  have whole := ((counted.trans reminded).trans (step _)).trans escalated
  rw [← paused'] at whole
  simp only [List.nil_append, Bool.and_false, Bool.or_false, Bool.false_or] at whole
  exact whole

/-- What is counted and sampled makes no difference to what is found in the loop's file. -/
theorem noted_load (session : String) (o : Observation) {v w : World} (now : v.now = w.now)
    (journal : v.journal = w.journal) (loopFile : v.loopFile = w.loopFile) (files : v.files = w.files) :
    (noted session o v).cell.load (noted session o v).files =
      (noted session o w).cell.load (noted session o w).files := by
  unfold noted
  cases o.response.remind with
  | false => simp only [Bool.false_eq_true, if_false, World.cell, now, loopFile, files]
  | true =>
    cases o.level <;>
      simp only [if_true, remark, World.remark, World.cell, now, journal, loopFile, files]

section Turn

variable {session : String} (named : session ≠ "") (s : PressureSettings) (out : ToolResult) (w : World)

def samples (s : PressureSettings) (session : String) (w : World) : Bool :=
  session != "" && (((w.pressure.get? session).getD .start).tick s.sampleCooldownToolCalls).2

include named

theorem onToolAfter_eq :
    let ticked := ((w.pressure.get? session).getD .start).tick s.sampleCooldownToolCalls
    let counted := { w with pressure := (w.pressure.enroll session .start).modify session fun _ => ticked.1 }
    onToolAfter s session out w =
      if ticked.2 then
        match w.sample.2 with
        | .error _ => (out, remark counted.sample.1 .skip "sampler_failed" session)
        | .ok sample => respond s session sample (out, counted.sample.1)
      else (out, counted) := by
  intro ticked counted
  rw [onToolAfter, if_neg named]
  dsimp only [World.sample]
  rw [Roster.get?_enroll_self]
  change (if !ticked.2 then (out, counted) else _) = _
  cases ticked.2 with
  | false => rfl
  | true => cases w.sampler.sample.1 <;> rfl

theorem observed_of_sample {sample : Sample} (taken : w.sample.2 = .ok sample)
    (due : samples s session w = true) :
    let ticked := ((w.pressure.get? session).getD .start).tick s.sampleCooldownToolCalls
    observed s session w = some (ticked.1.observation s (.classify sample s)) := by
  have due' := (Bool.and_eq_true_iff.1 due).2
  rw [observed, if_neg named, shown, taken, call_seen _ s _ due']

theorem observed_of_unseen (unseen : samples s session w = false ∨ ∃ fault, w.sample.2 = .error fault) :
    observed s session w = none := by
  rw [observed, if_neg named]
  rcases unseen with early | ⟨fault, failed⟩
  · rw [samples, bne_iff_ne.2 named, Bool.true_and] at early
    rw [call_unseen _ s (.inl early)]
  · rw [shown, failed, call_unseen _ s (.inr rfl)]

/-- What happens at a tool call of a session. A sample that is due is taken, and that is the only one. -/
theorem onToolAfter_does_of_named :
    let after := onToolAfter s session out w
    after.2.sampler = (if samples s session w then w.sample.1.sampler else w.sampler) ∧
      Does session (blocks s session w) (notices s session w) (pauses s session w)
        (out, { w with sampler := after.2.sampler }) after := by
  let ticked := ((w.pressure.get? session).getD .start).tick s.sampleCooldownToolCalls
  let counted := { w with pressure := (w.pressure.enroll session .start).modify session fun _ => ticked.1 }
  have due : samples s session w = ticked.2 := by rw [samples, bne_iff_ne.2 named, Bool.true_and]
  have unseen : observed s session w = none → blocks s session w = [] ∧ notices s session w = [] ∧
      pauses s session w = false := by
    intro nothing
    simp only [blocks, notices, pauses, nothing, and_self]
  have turn := onToolAfter_eq named s out w
  dsimp only at turn ⊢
  rw [due]
  cases dueNow : ticked.2 with
  | false =>
    obtain ⟨block, notice, pause⟩ := unseen (observed_of_unseen named s w (.inl (due.trans dueNow)))
    rw [block, notice, pause, turn, if_neg (by simp [ticked, dueNow] at *)]
    exact ⟨rfl, .nothing rfl rfl rfl rfl rfl⟩
  | true =>
    rw [turn, if_pos dueNow]
    cases taken : w.sample.2 with
    | error fault =>
      obtain ⟨block, notice, pause⟩ := unseen (observed_of_unseen named s w (.inr ⟨fault, taken⟩))
      rw [block, notice, pause]
      exact ⟨rfl, .nothing rfl rfl rfl rfl rfl⟩
    | ok sample =>
      have seen := observed_of_sample named s w taken (due.trans dueNow)
      have responded := respond_does s session sample out counted.sample.1
      have known : (counted.sample.1.pressure.get? session).getD .start = ticked.1 :=
        congrArg (·.getD .start) (Roster.get?_enter_self w.pressure session .start _)
      dsimp only at seen responded
      rw [known, noted_load session _ (v := counted.sample.1) (w := w) rfl rfl rfl rfl] at responded
      -- The sampler has moved on by the sample, so the scene that is compared with starts behind it.
      have opens : ∀ sampler, sampler = counted.sample.1.sampler →
          Does session [] [] false (out, { w with sampler }) (out, counted.sample.1) :=
        fun sampler same => .nothing rfl rfl rfl rfl same.symm
      have whole := (opens _ responded.sampler).trans responded
      refine ⟨responded.sampler, ?_⟩
      simp only [blocks, notices, pauses, seen, taken]
      rw [List.nil_append, List.nil_append, Bool.false_or] at whole
      exact whole

end Turn

theorem observed_eq_some {s : PressureSettings} {session : String} {w : World} {o : Observation}
    (seen : observed s session w = some o) :
    samples s session w = true ∧ ∃ sample, w.sample.2 = .ok sample ∧
      o = (((w.pressure.get? session).getD .start).tick s.sampleCooldownToolCalls).1.observation s
        (.classify sample s) := by
  have named : session ≠ "" := fun blank => by simp [observed, blank] at seen
  cases due : samples s session w with
  | false => cases (observed_of_unseen named s w (.inl due)).symm.trans seen
  | true =>
    cases taken : w.sample.2 with
    | error fault => cases (observed_of_unseen named s w (.inr ⟨fault, taken⟩)).symm.trans seen
    | ok sample =>
      have seen' := observed_of_sample named s w taken due
      exact ⟨rfl, sample, rfl, Option.some.inj (seen.symm.trans seen')⟩

/-! What the agent reads. -/

def Reminds (s : PressureSettings) (level : PressureLevel) (blocks : List String) : Prop :=
  ∃ sample, ∃ block ∈ reminder s sample level, block ∈ blocks

def heading : PressureLevel → String
  | .normal => ""
  | .warning => "[PROCESS PRESSURE WARNING]\n"
  | .critical => "[PROCESS PRESSURE CRITICAL]\n"

theorem mem_reminder {s : PressureSettings} {sample : Sample} {level : PressureLevel} {block : String}
    (here : block ∈ reminder s sample level) :
    level ≠ .normal ∧ heading level ∈ Remark.headings.map Prod.snd ∧ ∃ rest, block = heading level ++ rest := by
  cases level with
  | normal => cases here
  | warning =>
    obtain rfl := List.mem_singleton.1 here
    exact ⟨by decide, by decide, warningText_headed s sample⟩
  | critical =>
    obtain rfl := List.mem_singleton.1 here
    exact ⟨by decide, by decide, criticalText_headed s sample⟩

theorem reminder_level {s : PressureSettings} {sample sample' : Sample} {level level' : PressureLevel}
    {block : String} (here : block ∈ reminder s sample level) (there : block ∈ reminder s sample' level') :
    level' = level := by
  obtain ⟨loud, known, rest, own⟩ := mem_reminder here
  obtain ⟨loud', known', rest', own'⟩ := mem_reminder there
  have same := Remark.heading_unique known known' (own.symm.trans own')
  cases level <;> cases level' <;> first | rfl | contradiction

theorem reminder_ne {s : PressureSettings} {sample : Sample} {level : PressureLevel} {block : String}
    (here : block ∈ reminder s sample level) : block ≠ pausedText ∧ ∀ events, block ≠ escalationText s events := by
  obtain ⟨loud, known, headed⟩ := mem_reminder here
  have other : ∀ h ∈ ["[AUTOPILOT PAUSED]\n", "[PROCESS PRESSURE ESCALATION]\n"], heading level ≠ h := by
    cases level <;> decide
  exact ⟨Remark.ne_of_headings (other _ (by simp)) known (by decide) headed pausedText_headed,
    fun events => Remark.ne_of_headings (other _ (by simp)) known (by decide) headed (escalationText_headed s events)⟩

theorem escalationText_ne (s : PressureSettings) (events : Nat) : escalationText s events ≠ pausedText :=
  Remark.ne_of_headings (by decide) (by decide) (by decide) (escalationText_headed s events) pausedText_headed

/-- A tool call reminds the agent of a level if that is what is observed and a reminder is due. -/
theorem reminds_blocks {s : PressureSettings} {session : String} {w : World} {level : PressureLevel} :
    Reminds s level (blocks s session w) ↔
      level ≠ .normal ∧ ∃ o, observed s session w = some o ∧ o.level = level ∧ o.response.remind = true := by
  constructor
  · rintro ⟨sample, block, here, read⟩
    obtain ⟨unpaused, unescalated⟩ := reminder_ne here
    refine ⟨(mem_reminder here).1, ?_⟩
    unfold blocks at read
    split at read
    next o sample' seen _ =>
      rcases List.mem_append.1 read with told | told
      · rcases List.mem_append.1 told with told | told
        · split at told
          next due => exact ⟨o, seen, reminder_level here told, due⟩
          · cases told
        · split at told
          · exact absurd (List.mem_singleton.1 told) unpaused
          · cases told
      · split at told
        · exact absurd (List.mem_singleton.1 told) (unescalated _)
        · cases told
    · cases read
  · rintro ⟨loud, o, seen, rfl, due⟩
    obtain ⟨-, sample, taken, -⟩ := observed_eq_some seen
    have text : ∃ block, block ∈ reminder s sample o.level := by
      cases shows : o.level with
      | normal => exact absurd shows loud
      | warning => exact ⟨_, List.mem_singleton.2 rfl⟩
      | critical => exact ⟨_, List.mem_singleton.2 rfl⟩
    obtain ⟨block, here⟩ := text
    refine ⟨sample, block, here, ?_⟩
    simp only [blocks, seen, taken, due, if_true]
    exact List.mem_append_left _ (List.mem_append_left _ here)

/-- A pause is told once, and nothing else tells of one. -/
theorem count_pausedText (s : PressureSettings) (session : String) (w : World) :
    (blocks s session w).count pausedText = (pauses s session w).toNat := by
  cases seen : observed s session w with
  | none => simp only [blocks, pauses, seen, List.count_nil, Bool.toNat_false]
  | some o =>
    obtain ⟨-, sample, taken, -⟩ := observed_eq_some seen
    have level : (if o.response.remind then reminder s sample o.level else []).count pausedText = 0 := by
      refine List.count_eq_zero.2 fun here => ?_
      split at here
      · exact (reminder_ne here).1 rfl
      · cases here
    have escalation : (if o.response.escalate then [escalationText s o.response.criticalEvents] else []).count
        pausedText = 0 := by
      refine List.count_eq_zero.2 fun here => ?_
      split at here
      · exact escalationText_ne s _ (List.mem_singleton.1 here).symm
      · cases here
    simp only [blocks, seen, taken, List.count_append, level, escalation]
    cases pauses s session w <;> simp

theorem countP_notices (s : PressureSettings) (session other : String) (w : World) :
    ((notices s session w).map Action.notify).countP (·.tellsOfPause other) =
      (pauses s session w && session == other).toNat := by
  cases seen : observed s session w with
  | none => simp only [notices, pauses, seen, List.map_nil, List.countP_nil, Bool.false_and, Bool.toNat_false]
  | some o =>
    obtain ⟨-, sample, taken, -⟩ := observed_eq_some seen
    have pause : (Action.notify (pausedNotice session sample)).tellsOfPause other = (session == other) := by
      simp [Action.tellsOfPause, pausedNotice]
    have escalation : ∀ events, (Action.notify (escalationNotice s session events)).tellsOfPause other = false := by
      intro events
      simp [Action.tellsOfPause, escalationNotice]
    simp only [notices, seen, taken, List.map_append, List.countP_append]
    cases pauses s session w <;> cases o.response.escalate <;> cases same : session == other <;>
      simp [pause, escalation, same]

/-- After a tool call the monitor has latched the session of the call if it has paused it, and no other one. -/
theorem onToolAfter_does (s : PressureSettings) (session : String) (out : ToolResult) (w : World) :
    let after := onToolAfter s session out w
    after.2.sampler = (if samples s session w then w.sample.1.sampler else w.sampler) ∧
      Does session (blocks s session w) (notices s session w) (pauses s session w)
        (out, { w with sampler := after.2.sampler }) after := by
  by_cases named : session = ""
  · subst named
    exact ⟨rfl, .nothing rfl rfl rfl rfl rfl⟩
  · exact onToolAfter_does_of_named named s out w

/-- What is handed over after a tool call tells of a pause if there is one and the host takes notices. -/
theorem onToolAfter_tellsOfPause (s : PressureSettings) (session other : String) (out : ToolResult) (w : World) :
    (onToolAfter s session out w).2.host.effects.countP (·.tellsOfPause other) =
      w.host.effects.countP (·.tellsOfPause other) +
        (pauses s session w && session == other && !(w.disturbance .notify).refuses).toNat := by
  have told := countP_notices s session other w
  rw [(onToolAfter_does s session out w).2.effects, List.countP_append]
  refine congrArg (w.host.effects.countP _ + ·) ?_
  cases refuses : (w.disturbance .notify).refuses with
  | true => simp
  | false => simp [told]

theorem handle_asks (s : PressureSettings) {e : Event} (elsewhere : ∀ call, e ≠ .toolAfter call) (out : e.Output)
    (w : World) : AsksNothing w (handle s e out w).state := by
  cases e with
  | toolAfter call => exact absurd rfl (elsewhere call)
  | lifecycle e =>
    simp only [handle, Handled.pass]
    split
    · split
      · exact .of_effects rfl rfl
      · exact .refl w
    · exact .refl w
  | toolBefore call => exact .refl w
  | commandBefore command => exact .refl w
  | chatMessage turn => exact .refl w
  | messagesTransform request => exact .refl w

theorem handle_adds (s : PressureSettings) (e : Event) (out : e.Output) (w : World) :
    Adds (fun a => ∃ n, a = .notify n) w (handle s e out w).state := by
  by_cases finished : ∃ call, e = .toolAfter call
  · obtain ⟨call, rfl⟩ := finished
    obtain ⟨-, does⟩ := onToolAfter_does s call.session out w
    refine ⟨_, does.effects, fun a asked => ?_⟩
    split at asked
    · cases asked
    · obtain ⟨n, -, rfl⟩ := List.mem_map.1 asked
      exact ⟨n, rfl⟩
  · exact (handle_asks s (fun call same => finished ⟨call, same⟩) out w).adds.mono fun _ never => never.elim

end PressurePolicy

end AgentHooks
