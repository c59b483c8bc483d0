import AgentHooks.Proofs.Pressure.Sustained

/-! The monitor's three memories. When the last sample was taken and when the agent was last reminded of either level
are remembered apart from each other, each against its own cooldown: a sample that fails reminds of nothing, and a
reminder of one level does not hold off one of the other. -/

namespace AgentHooks

namespace PressureCounters

variable (c : PressureCounters) (s : PressureSettings) (level kind : PressureLevel)

def lastOf (c : PressureCounters) : PressureLevel → Option Nat
  | .normal => none
  | .warning => c.lastReminderAt
  | .critical => c.lastCriticalReminderAt

def cooldownOf (s : PressureSettings) : PressureLevel → Nat
  | .normal => 0
  | .warning => s.reminderCooldownToolCalls
  | .critical => s.criticalReminderCooldownToolCalls

def reminderDue (c : PressureCounters) (s : PressureSettings) (level : PressureLevel) : Bool :=
  level != .normal && cooledDown (c.lastOf level) c.toolCalls (cooldownOf s level)

theorem note_snd : (c.note level s).2 = c.reminderDue s level := by
  cases level with
  | normal => rfl
  | warning =>
    simp only [note, reminderDue, lastOf, cooldownOf]
    split
    next cooled => exact cooled.symm
    next early => exact (Bool.eq_false_iff.2 early).symm
  | critical =>
    simp only [note, reminderDue, lastOf, cooldownOf]
    split
    next cooled => exact cooled.symm
    next early => exact (Bool.eq_false_iff.2 early).symm

theorem note_lastOf : (c.note level s).1.lastOf kind =
    if kind = level ∧ (c.note level s).2 then some c.toolCalls else c.lastOf kind := by
  cases level with
  | normal => simp [note]
  | warning =>
    simp only [note]
    split <;> cases kind <;> simp [lastOf]
  | critical =>
    simp only [note]
    split <;> cases kind <;> simp [lastOf]

theorem rearm_lastOf : (c.rearm s).lastOf kind = c.lastOf kind := by
  unfold rearm
  split <;> cases kind <;> rfl

theorem slide_lastOf (window : Nat) : (c.slide window).lastOf kind = c.lastOf kind := by
  cases kind <;> rfl

theorem observe_remind : (c.observe level s).2.remind = c.reminderDue s level := by
  have slid : (c.slide s.criticalEscalationWindowToolCalls).reminderDue s level = c.reminderDue s level := by
    rw [reminderDue, slide_lastOf]
    rfl
  rw [← slid, ← note_snd]
  rfl

theorem observe_lastOf : (c.observe level s).1.lastOf kind =
    if kind = level ∧ c.reminderDue s level then some c.toolCalls else c.lastOf kind := by
  let slid := c.slide s.criticalEscalationWindowToolCalls
  have due : (slid.note level s).2 = c.reminderDue s level := observe_remind c s level
  calc (c.observe level s).1.lastOf kind
      = ((slid.note level s).1.rearm s).lastOf kind := by cases kind <;> rfl
    _ = (slid.note level s).1.lastOf kind := rearm_lastOf _ s kind
    _ = _ := by
        rw [note_lastOf, due, slide_lastOf]
        rfl

theorem tick_lastOf (cooldown : Nat) : (c.tick cooldown).1.lastOf kind = c.lastOf kind := by
  unfold tick
  dsimp only
  split <;> cases kind <;> rfl

/-! A whole call. -/

section Call

variable {c s level} {sample : Option PressureLevel}

def RemindsOf (c : PressureCounters) (s : PressureSettings) (sample : Option PressureLevel) (level : PressureLevel) :
    Prop :=
  ∃ o, (c.call s sample).2 = some o ∧ o.level = level ∧ o.response.remind = true

/-- A call at which nothing is observed, or one at which the level of a sample is taken in. -/
theorem call_cases (c : PressureCounters) (s : PressureSettings) (sample : Option PressureLevel) :
    let ticked := c.tick s.sampleCooldownToolCalls
    (ticked.2 = false ∨ sample = none) ∧ c.call s sample = (ticked.1, none) ∨
      ∃ level, ticked.2 = true ∧ sample = some level ∧
        c.call s sample = ((ticked.1.observe level s).1, some (ticked.1.observation s level)) := by
  intro ticked
  cases due : ticked.2 with
  | false => exact .inl ⟨.inl rfl, call_unseen c s (.inl due)⟩
  | true =>
    cases sample with
    | none => exact .inl ⟨.inr rfl, call_unseen c s (.inr rfl)⟩
    | some level => exact .inr ⟨level, rfl, rfl, call_seen c s level due⟩

theorem call_toolCalls (sample : Option PressureLevel) : (c.call s sample).1.toolCalls = c.toolCalls + 1 := by
  have counted := (tick_fields c s.sampleCooldownToolCalls).1
  rcases call_cases c s sample with ⟨-, called⟩ | ⟨level, -, -, called⟩
  · rw [called, counted]
  · rw [called, observe_toolCalls, counted]

theorem call_lastSampleAt (sample : Option PressureLevel) : (c.call s sample).1.lastSampleAt =
    if (c.tick s.sampleCooldownToolCalls).2 then some (c.toolCalls + 1) else c.lastSampleAt := by
  have sampled := (tick_fields c s.sampleCooldownToolCalls).2.2.2.2
  rcases call_cases c s sample with ⟨-, called⟩ | ⟨level, -, -, called⟩
  · rw [called, sampled]
  · rw [called, observe_lastSampleAt, sampled]

/-- The agent is reminded of what a sample shows, if the last reminder of that level is long enough ago. -/
theorem remindsOf_iff : RemindsOf c s sample level ↔
    level ≠ .normal ∧ (c.tick s.sampleCooldownToolCalls).2 = true ∧ sample = some level ∧
      cooledDown (c.lastOf level) (c.toolCalls + 1) (cooldownOf s level) = true := by
  have counted := (tick_fields c s.sampleCooldownToolCalls).1
  have ready : ∀ kind, (c.tick s.sampleCooldownToolCalls).1.reminderDue s kind = true ↔
      kind ≠ .normal ∧ cooledDown (c.lastOf kind) (c.toolCalls + 1) (cooldownOf s kind) = true := by
    intro kind
    rw [reminderDue, tick_lastOf, counted, Bool.and_eq_true, bne_iff_ne]
  rcases call_cases c s sample with ⟨unseen, called⟩ | ⟨shows, due, rfl, called⟩
  · simp only [RemindsOf, called]
    constructor
    · rintro ⟨o, nothing, -⟩
      cases nothing
    · rintro ⟨-, due, shown, -⟩
      rcases unseen with early | failed
      · cases early.symm.trans due
      · cases failed.symm.trans shown
  · simp only [RemindsOf, called]
    constructor
    · rintro ⟨o, here, rfl, remind⟩
      obtain rfl := Option.some.inj here
      obtain ⟨loud, cooled⟩ := (ready shows).1 ((observe_remind _ s shows).symm.trans remind)
      exact ⟨loud, due, rfl, cooled⟩
    · rintro ⟨loud, -, shown, cooled⟩
      obtain rfl := Option.some.inj shown
      exact ⟨_, rfl, rfl, (observe_remind _ s shows).trans ((ready shows).2 ⟨loud, cooled⟩)⟩

theorem call_lastOf_of_reminded (reminded : RemindsOf c s sample level) :
    (c.call s sample).1.lastOf level = some (c.toolCalls + 1) := by
  obtain ⟨o, here, rfl, remind⟩ := reminded
  rcases call_cases c s sample with ⟨-, called⟩ | ⟨shows, -, -, called⟩
  · rw [called] at here
    cases here
  · rw [called] at here ⊢
    obtain rfl := Option.some.inj here
    have due := (observe_remind _ s shows).symm.trans remind
    rw [observe_lastOf, if_pos ⟨rfl, due⟩, (tick_fields c s.sampleCooldownToolCalls).1]

theorem call_lastOf_of_silent (silent : ¬RemindsOf c s sample level) :
    (c.call s sample).1.lastOf level = c.lastOf level := by
  rcases call_cases c s sample with ⟨-, called⟩ | ⟨shows, -, -, called⟩
  · rw [called, tick_lastOf]
  · rw [called, observe_lastOf, tick_lastOf, if_neg]
    rintro ⟨rfl, due⟩
    exact silent ⟨_, congrArg Prod.snd called, rfl, (observe_remind _ s _).trans due⟩

end Call

/-! When samples are taken. -/

/-- Samples were taken at the first call and at every multiple of the spacing after it, whether they failed or not. -/
def Paced (s : PressureSettings) (c : PressureCounters) : Prop :=
  c.toolCalls = 0 ∧ c.lastSampleAt = none ∨
    ∃ k, c.lastSampleAt = some (k * Watch.spacing s + 1) ∧ k * Watch.spacing s < c.toolCalls ∧
      c.toolCalls ≤ (k + 1) * Watch.spacing s

variable {c s}

/-- A sample is due at the first call and at those that are whole spacings away from it. -/
theorem Paced.due_iff (paced : Paced s c) :
    (c.tick s.sampleCooldownToolCalls).2 = true ↔ Watch.spacing s ∣ c.toolCalls := by
  have space : Watch.spacing s = max 1 s.sampleCooldownToolCalls := rfl
  rw [(tick_fields c s.sampleCooldownToolCalls).2.2.2.1]
  rcases paced with ⟨none', sampled⟩ | ⟨k, sampled, past, recent⟩
  · rw [sampled, none']
    simp [cooledDown]
  · rw [sampled, cooledDown, decide_eq_true_eq]
    rw [Nat.add_one_mul] at recent
    constructor
    · intro cooled
      refine ⟨k + 1, ?_⟩
      rw [Nat.mul_add_one, Nat.mul_comm]
      omega
    · -- The last sample was at the multiple `k`, so a later one that is not past `k + 1` is `k + 1`.
      rintro ⟨m, whole⟩
      have between : k < m := by
        by_contra behind
        have low := Nat.mul_le_mul_left (Watch.spacing s) (Nat.not_lt.1 behind)
        rw [← whole, Nat.mul_comm] at low
        omega
      have high := Nat.mul_le_mul_left (Watch.spacing s) (Nat.succ_le_of_lt between)
      rw [← whole, Nat.mul_succ, Nat.mul_comm] at high
      omega

theorem Paced.call (paced : Paced s c) (sample : Option PressureLevel) : Paced s (c.call s sample).1 := by
  have positive := Watch.spacing_pos s
  have due_iff := paced.due_iff
  rw [Paced, call_toolCalls, call_lastSampleAt]
  cases due : (c.tick s.sampleCooldownToolCalls).2 with
  | true =>
    obtain ⟨k, whole⟩ := due_iff.1 due
    refine .inr ⟨k, ?_, ?_, ?_⟩
    · rw [if_pos rfl, whole, Nat.mul_comm]
    · rw [whole, Nat.mul_comm]
      exact Nat.lt_succ_self _
    · rw [whole, Nat.add_one_mul, Nat.mul_comm]
      omega
  | false =>
    rw [due] at due_iff
    rcases paced with ⟨none', -⟩ | ⟨k, sampled, past, recent⟩
    · rw [none'] at due_iff
      simp at due_iff
    · have short : c.toolCalls ≠ (k + 1) * Watch.spacing s := by
        intro whole
        have divides : Watch.spacing s ∣ c.toolCalls := ⟨k + 1, by rw [whole, Nat.mul_comm]⟩
        cases due_iff.2 divides
      refine .inr ⟨k, by simpa using sampled, ?_, ?_⟩
      · omega
      · omega

end PressureCounters

end AgentHooks
