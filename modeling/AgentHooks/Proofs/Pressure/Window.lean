import AgentHooks.Pressure.Counters
import AgentHooks.Proofs.Settings.WellFormed

/-! Pressure over the tool calls of a session. The counters drop critical calls only when a sample is taken in, and
only from the front; all the same they hold after each sample exactly the critical calls inside the window, and the
answer to a sample depends on nothing else but whether the operator was called since the count was last below its
limit. -/

namespace AgentHooks

/-- A sample taken in: the tool call at which it was taken, the level it showed, the critical calls that are kept after
it, and what it called for. -/
structure Observation where
  call : Nat
  level : PressureLevel
  kept : List Nat
  response : PressureResponse
  deriving DecidableEq

namespace PressureCounters

variable (c : PressureCounters) (s : PressureSettings) (level : PressureLevel)

def observation : Observation where
  call := c.toolCalls
  level := level
  kept := (c.observe level s).1.criticalEvents
  response := (c.observe level s).2

/-- A session's next tool call: counted, and if a sample is due at it and does not fail, its level is taken in. -/
def call (sample : Option PressureLevel) : PressureCounters × Option Observation :=
  match c.tick s.sampleCooldownToolCalls, sample with
  | (c, true), some level => ((c.observe level s).1, some (c.observation s level))
  | (c, _), _ => (c, none)

/-! What each step does to the counters. -/

theorem note_fields :
    let noted := (c.note level s).1
    noted.toolCalls = c.toolCalls ∧ noted.lastSampleAt = c.lastSampleAt ∧ noted.escalated = c.escalated ∧
      noted.criticalEvents = c.criticalEvents ++ if level = .critical then [c.toolCalls] else [] := by
  cases level with
  | normal => simp [note]
  | warning =>
    simp only [note]
    split <;> simp
  | critical =>
    simp only [note]
    split <;> simp

theorem rearm_fields :
    (c.rearm s).toolCalls = c.toolCalls ∧ (c.rearm s).lastSampleAt = c.lastSampleAt ∧
      (c.rearm s).criticalEvents = c.criticalEvents ∧
      (c.rearm s).escalated = (decide (s.criticalEscalationAfterEvents ≤ c.criticalEvents.length) && c.escalated) := by
  unfold rearm
  split
  next below => simp [Nat.not_le.2 below]
  next reached => simp [Nat.not_lt.1 reached]

@[simp] theorem observe_toolCalls : (c.observe level s).1.toolCalls = c.toolCalls :=
  (rearm_fields _ s).1.trans (note_fields _ s level).1

@[simp] theorem observe_lastSampleAt : (c.observe level s).1.lastSampleAt = c.lastSampleAt :=
  (rearm_fields _ s).2.1.trans (note_fields _ s level).2.1

/-- What has left the window goes, and the call itself comes in if it is critical. -/
theorem observe_criticalEvents : (c.observe level s).1.criticalEvents =
    (c.criticalEvents.dropWhile fun before => s.criticalEscalationWindowToolCalls ≤ c.toolCalls - before) ++
      if level = .critical then [c.toolCalls] else [] :=
  (rearm_fields _ s).2.2.1.trans (note_fields _ s level).2.2.2

theorem observe_pause : (c.observe level s).2.pause =
    (level == .critical && s.criticalPauseAfterEvents ≤ (c.observe level s).1.criticalEvents.length) :=
  rfl

theorem observe_escalate : (c.observe level s).2.escalate =
    (level == .critical && s.criticalEscalationAfterEvents ≤ (c.observe level s).1.criticalEvents.length &&
      !c.escalated) := by
  let noted := ((c.slide s.criticalEscalationWindowToolCalls).note level s).1
  have latch : noted.escalated = c.escalated := (note_fields _ s level).2.2.1
  change (level == .critical && decide (s.criticalEscalationAfterEvents ≤ (noted.rearm s).criticalEvents.length) &&
    !(noted.rearm s).escalated) = (level == .critical &&
      decide (s.criticalEscalationAfterEvents ≤ (noted.rearm s).criticalEvents.length) && !c.escalated)
  rw [(rearm_fields noted s).2.2.2, (rearm_fields noted s).2.2.1, latch]
  -- Where the count is below its limit, nothing is called for, and the latch does not matter.
  cases decide (s.criticalEscalationAfterEvents ≤ noted.criticalEvents.length) with
  | false => simp
  | true => simp

/-- The latch falls when the count is below its limit; otherwise an escalation sets it. -/
theorem observe_escalated : (c.observe level s).1.escalated =
    (decide (s.criticalEscalationAfterEvents ≤ (c.observe level s).1.criticalEvents.length) &&
      (c.escalated || (c.observe level s).2.escalate)) := by
  let noted := ((c.slide s.criticalEscalationWindowToolCalls).note level s).1
  have latch : noted.escalated = c.escalated := (note_fields _ s level).2.2.1
  have rearmed := (rearm_fields noted s).2.2.2
  have split : (c.observe level s).1.escalated = ((noted.rearm s).escalated || (c.observe level s).2.escalate) := rfl
  have kept : (c.observe level s).1.criticalEvents = noted.criticalEvents := (rearm_fields noted s).2.2.1
  rw [split, rearmed, latch, observe_escalate, kept]
  cases decide (s.criticalEscalationAfterEvents ≤ noted.criticalEvents.length) with
  | false => simp
  | true => simp

theorem tick_fields (cooldown : Nat) :
    (c.tick cooldown).1.toolCalls = c.toolCalls + 1 ∧ (c.tick cooldown).1.criticalEvents = c.criticalEvents ∧
      (c.tick cooldown).1.escalated = c.escalated ∧
      (c.tick cooldown).2 = cooledDown c.lastSampleAt (c.toolCalls + 1) cooldown ∧
      (c.tick cooldown).1.lastSampleAt =
        if (c.tick cooldown).2 then some (c.toolCalls + 1) else c.lastSampleAt := by
  unfold tick
  dsimp only
  split
  next due => simp [due]
  next early => simp [early]

theorem call_unseen {sample : Option PressureLevel}
    (unseen : (c.tick s.sampleCooldownToolCalls).2 = false ∨ sample = none) :
    c.call s sample = ((c.tick s.sampleCooldownToolCalls).1, none) := by
  unfold call
  generalize c.tick s.sampleCooldownToolCalls = ticked at unseen
  obtain ⟨c', due⟩ := ticked
  cases due with
  | false => rfl
  | true =>
    cases sample with
    | none => rfl
    | some level => simp at unseen

theorem call_seen (due : (c.tick s.sampleCooldownToolCalls).2 = true) :
    c.call s (some level) =
      let now := (c.tick s.sampleCooldownToolCalls).1
      ((now.observe level s).1, some (now.observation s level)) := by
  unfold call
  generalize c.tick s.sampleCooldownToolCalls = ticked at due
  obtain ⟨c', due'⟩ := ticked
  cases due
  rfl

end PressureCounters

namespace Observation

def criticalCalls (seen : List Observation) : List Nat :=
  (seen.filter (·.level = .critical)).map (·.call)

/-- The observations since the last one that kept fewer than `limit` critical calls. -/
def sinceBelow (limit : Nat) (seen : List Observation) : List Observation :=
  seen.rtakeWhile fun o => limit ≤ o.kept.length

/-- What an observation keeps and calls for is determined by the observations before it: it keeps the critical calls
inside the window, pauses at their number, and escalates at their number unless that was done since it was last
reached from below. -/
structure Exact (s : PressureSettings) (before : List Observation) (o : Observation) : Prop where
  kept : o.kept =
    (criticalCalls (before ++ [o])).filter fun t => o.call - t < s.criticalEscalationWindowToolCalls
  counted : o.response.criticalEvents = o.kept.length
  pause : o.response.pause = true ↔ o.level = .critical ∧ s.criticalPauseAfterEvents ≤ o.kept.length
  escalate : o.response.escalate = true ↔
    o.level = .critical ∧ s.criticalEscalationAfterEvents ≤ o.kept.length ∧
      ∀ earlier ∈ sinceBelow s.criticalEscalationAfterEvents before, earlier.response.escalate = false

/-- Observations in their order, each of them answered exactly. -/
structure Consistent (s : PressureSettings) (seen : List Observation) : Prop where
  ascending : (seen.map (·.call)).Pairwise (· < ·)
  exact : ∀ before o after, seen = before ++ o :: after → o.Exact s before

variable {s : PressureSettings} {seen more : List Observation} {o : Observation}

theorem Consistent.initial (consistent : Consistent s (seen ++ more)) : Consistent s seen where
  ascending := by
    have all := consistent.ascending
    rw [List.map_append] at all
    exact (List.pairwise_append.1 all).1
  exact := by
    intro before o after split
    refine consistent.exact before o (after ++ more) ?_
    rw [split, List.append_assoc, List.cons_append]

theorem Consistent.upTo {after : List Observation} (consistent : Consistent s (seen ++ o :: after)) :
    Consistent s (seen ++ [o]) := by
  rw [List.append_cons] at consistent
  exact consistent.initial

theorem Consistent.final (consistent : Consistent s (seen ++ [o])) : o.Exact s seen :=
  consistent.exact seen o [] rfl

theorem criticalCalls_concat (seen : List Observation) (o : Observation) :
    criticalCalls (seen ++ [o]) = criticalCalls seen ++ if o.level = .critical then [o.call] else [] := by
  unfold criticalCalls
  by_cases critical : o.level = .critical
  · simp [critical]
  · simp [critical]

theorem criticalCalls_sublist (seen : List Observation) : (criticalCalls seen).Sublist (seen.map (·.call)) :=
  List.filter_sublist.map _

theorem sinceBelow_concat (limit : Nat) (seen : List Observation) (o : Observation) :
    sinceBelow limit (seen ++ [o]) = if limit ≤ o.kept.length then sinceBelow limit seen ++ [o] else [] := by
  rw [sinceBelow, List.rtakeWhile_concat]
  simp only [decide_eq_true_eq]
  rfl

end Observation

/-- A session under watch: its counters, how many samples were taken, and what was observed. -/
structure Watch where
  counters : PressureCounters
  samples : Nat
  seen : List Observation

namespace Watch

open PressureCounters Observation

def start : Watch :=
  ⟨.start, 0, []⟩

/-- One more tool call. A sample that fails is a sample all the same. -/
def next (s : PressureSettings) (levels : Nat → Option PressureLevel) (w : Watch) : Watch :=
  let (counters, made) := w.counters.call s (levels w.samples)
  ⟨counters, w.samples + (w.counters.tick s.sampleCooldownToolCalls).2.toNat, w.seen ++ made.toList⟩

/-- A session over its first tool calls, when its samples in their order show these levels, or fail. -/
def follow (s : PressureSettings) (levels : Nat → Option PressureLevel) : Nat → Watch
  | 0 => start
  | calls + 1 => (follow s levels calls).next s levels

/-- Calls leave the window in the order in which they came. -/
theorem dropWhile_eq_filter (window now : Nat) {calls : List Nat} (ascending : calls.Pairwise (· < ·)) :
    (calls.dropWhile fun t => window ≤ now - t) = calls.filter fun t => now - t < window := by
  induction calls with
  | nil => rfl
  | cons oldest rest ih =>
    obtain ⟨later, ascending⟩ := List.pairwise_cons.1 ascending
    by_cases left : window ≤ now - oldest
    · rw [List.dropWhile_cons_of_pos (by simpa using left), List.filter_cons_of_neg (by simpa using left),
        ih ascending]
    · rw [List.dropWhile_cons_of_neg (by simpa using left), eq_comm, List.filter_eq_self]
      intro t member
      rw [decide_eq_true_eq]
      rcases List.mem_cons.1 member with rfl | member
      · omega
      · have younger := later t member
        omega

/-- What the counters have to do with the observations: what they no longer keep has left the window for good, and the
latch stands if the operator was called since the count was last below its limit. -/
structure Knows (s : PressureSettings) (c : PressureCounters) (seen : List Observation) : Prop where
  past : ∀ o ∈ seen, o.call ≤ c.toolCalls
  ascending : (seen.map (·.call)).Pairwise (· < ·)
  left : ∃ gone, criticalCalls seen = gone ++ c.criticalEvents ∧
    ∀ t ∈ gone, s.criticalEscalationWindowToolCalls ≤ c.toolCalls - t
  latch : c.escalated = (sinceBelow s.criticalEscalationAfterEvents seen).any (·.response.escalate)

section Step

variable {s : PressureSettings} {c : PressureCounters} {seen : List Observation}

theorem Knows.criticalEvents_ascending (knows : Knows s c seen) : c.criticalEvents.Pairwise (· < ·) := by
  obtain ⟨gone, split, -⟩ := knows.left
  have all : (criticalCalls seen).Pairwise (· < ·) := knows.ascending.sublist (criticalCalls_sublist seen)
  rw [split] at all
  exact (List.pairwise_append.1 all).2.1

theorem Knows.tick (knows : Knows s c seen) (cooldown : Nat) : Knows s (c.tick cooldown).1 seen := by
  obtain ⟨calls, events, latch, -, -⟩ := tick_fields c cooldown
  obtain ⟨gone, split, outside⟩ := knows.left
  refine ⟨fun o member => ?_, knows.ascending, ⟨gone, ?_, fun t member => ?_⟩, ?_⟩
  · have past := knows.past o member
    omega
  · rw [split, events]
  · have out := outside t member
    omega
  · rw [latch, knows.latch]

theorem Knows.criticalCalls (knows : Knows s c seen) (level : PressureLevel) :
    ∃ gone, (∀ t ∈ gone, s.criticalEscalationWindowToolCalls ≤ c.toolCalls - t) ∧
      Observation.criticalCalls (seen ++ [c.observation s level]) = gone ++ (c.observation s level).kept := by
  obtain ⟨gone, split, outside⟩ := knows.left
  let leaves := fun t => decide (s.criticalEscalationWindowToolCalls ≤ c.toolCalls - t)
  refine ⟨gone ++ c.criticalEvents.takeWhile leaves, fun t member => ?_, ?_⟩
  · rcases List.mem_append.1 member with member | leaving
    · exact outside t member
    · simpa [leaves] using List.mem_takeWhile_imp leaving
  · have kept : (c.observation s level).kept =
        c.criticalEvents.dropWhile leaves ++ if level = .critical then [c.toolCalls] else [] :=
      observe_criticalEvents c s level
    have whole : c.criticalEvents.takeWhile leaves ++ c.criticalEvents.dropWhile leaves = c.criticalEvents :=
      List.takeWhile_append_dropWhile
    rw [criticalCalls_concat, split, kept, List.append_assoc, List.append_assoc,
      ← List.append_assoc (List.takeWhile _ _), whole]
    rfl

theorem Knows.kept_inside (knows : Knows s c seen) (window : 0 < s.criticalEscalationWindowToolCalls)
    (level : PressureLevel) :
    ∀ t ∈ (c.observation s level).kept, c.toolCalls - t < s.criticalEscalationWindowToolCalls := by
  intro t member
  change t ∈ (c.observe level s).1.criticalEvents at member
  rw [observe_criticalEvents, dropWhile_eq_filter _ _ knows.criticalEvents_ascending, List.mem_append] at member
  rcases member with kept | new
  · simpa using (List.mem_filter.1 kept).2
  · have now : t = c.toolCalls := by
      split at new
      · exact List.mem_singleton.1 new
      · cases new
    omega

/-- A sample is answered exactly. -/
theorem Knows.exact (knows : Knows s c seen) (window : 0 < s.criticalEscalationWindowToolCalls)
    (level : PressureLevel) : (c.observation s level).Exact s seen where
  kept := by
    obtain ⟨gone, outside, split⟩ := knows.criticalCalls level
    have forgotten : (gone.filter fun t => c.toolCalls - t < s.criticalEscalationWindowToolCalls) = [] := by
      rw [List.filter_eq_nil_iff]
      intro t member
      simpa using outside t member
    rw [split, List.filter_append]
    change _ = gone.filter (fun t => c.toolCalls - t < s.criticalEscalationWindowToolCalls) ++ _
    rw [forgotten, List.nil_append, eq_comm, List.filter_eq_self]
    intro t member
    exact decide_eq_true (knows.kept_inside window level t member)
  counted := rfl
  pause := by
    change (c.observe level s).2.pause = true ↔ _
    rw [observe_pause]
    simp [observation]
  escalate := by
    change (c.observe level s).2.escalate = true ↔ _
    rw [observe_escalate, knows.latch]
    simp [observation, and_assoc]

/-- A sample that is taken in at a call after all the others is known from then on. -/
theorem Knows.observe (knows : Knows s c seen) (fresh : ∀ o ∈ seen, o.call < c.toolCalls) (level : PressureLevel) :
    Knows s (c.observe level s).1 (seen ++ [c.observation s level]) where
  past := by
    intro o member
    rw [observe_toolCalls]
    rcases List.mem_append.1 member with member | last
    · exact knows.past o member
    · rw [List.mem_singleton.1 last]
      rfl
  ascending := by
    rw [List.map_append, List.pairwise_append]
    refine ⟨knows.ascending, List.pairwise_singleton _ _, fun call earlier last here => ?_⟩
    obtain ⟨o, member, rfl⟩ := List.mem_map.1 earlier
    rw [List.mem_singleton.1 here]
    exact fresh o member
  left := by
    obtain ⟨gone, outside, split⟩ := knows.criticalCalls level
    refine ⟨gone, split, ?_⟩
    rw [observe_toolCalls]
    exact outside
  latch := by
    rw [observe_escalated, sinceBelow_concat, knows.latch]
    by_cases reached : s.criticalEscalationAfterEvents ≤ (c.observe level s).1.criticalEvents.length
    · simp [reached, observation]
    · simp [reached, observation]

end Step

section Run

variable {s : PressureSettings} {levels : Nat → Option PressureLevel} {w : Watch}

/-- What is true of the last element of a list after what comes before it, and was true of every element already, is
true of every element. -/
theorem forall_split_concat {α : Type} {P : List α → α → Prop} {xs : List α} {x : α}
    (already : ∀ before y after, xs = before ++ y :: after → P before y) (last : P xs x) :
    ∀ before y after, xs ++ [x] = before ++ y :: after → P before y := by
  intro before y after split
  rcases List.eq_nil_or_concat after with rfl | ⟨after, z, rfl⟩
  · obtain ⟨rfl, same⟩ := List.append_inj' split rfl
    rw [← List.singleton_inj.1 same]
    exact last
  · have longer : xs ++ [x] = (before ++ y :: after) ++ [z] := by simpa using split
    exact already before y after (List.append_inj' longer rfl).1

/-- A call of a watched session either adds no observation or adds one, and then a sample was due and did not fail. -/
theorem next_cases (s : PressureSettings) (levels : Nat → Option PressureLevel) (w : Watch) :
    let ticked := w.counters.tick s.sampleCooldownToolCalls
    (w.next s levels).counters = ticked.1 ∧ (w.next s levels).seen = w.seen ∧
        (ticked.2 = false ∨ levels w.samples = none) ∨
      ∃ level, ticked.2 = true ∧ levels w.samples = some level ∧
        (w.next s levels).counters = (ticked.1.observe level s).1 ∧
        (w.next s levels).seen = w.seen ++ [ticked.1.observation s level] := by
  intro ticked
  cases due : ticked.2 with
  | false =>
    left
    rw [next, call_unseen w.counters s (.inl due)]
    exact ⟨rfl, List.append_nil _, .inl rfl⟩
  | true =>
    cases shown : levels w.samples with
    | none =>
      left
      rw [next, shown, call_unseen w.counters s (.inr rfl)]
      exact ⟨rfl, List.append_nil _, .inr rfl⟩
    | some level =>
      right
      rw [next, shown, call_seen w.counters s level due]
      exact ⟨level, rfl, rfl, rfl, rfl⟩

/-- After any number of calls the counters know what was observed, and every sample was answered exactly. -/
theorem follow_knows (window : 0 < s.criticalEscalationWindowToolCalls) (levels : Nat → Option PressureLevel)
    (calls : Nat) :
    Knows s (follow s levels calls).counters (follow s levels calls).seen ∧
      Consistent s (follow s levels calls).seen := by
  induction calls with
  | zero =>
    refine ⟨⟨by simp [follow, start], List.Pairwise.nil, ⟨[], rfl, by simp⟩, rfl⟩, List.Pairwise.nil, ?_⟩
    intro before o after nothing
    exact absurd nothing.symm (by simp [follow, start])
  | succ calls ih =>
    obtain ⟨knows, consistent⟩ := ih
    have ticked := knows.tick s.sampleCooldownToolCalls
    rcases next_cases s levels (follow s levels calls) with ⟨counters, seen, -⟩ | ⟨level, -, -, counters, seen⟩
    · rw [follow, counters, seen]
      exact ⟨ticked, consistent⟩
    · have fresh : ∀ o ∈ (follow s levels calls).seen,
          o.call < ((follow s levels calls).counters.tick s.sampleCooldownToolCalls).1.toolCalls := by
        intro o member
        rw [(tick_fields _ _).1]
        exact Nat.lt_succ_of_le (knows.past o member)
      have observed := ticked.observe fresh level
      rw [follow, counters, seen]
      exact ⟨observed, observed.ascending, forall_split_concat consistent.exact (ticked.exact window level)⟩

theorem follow_consistent (window : 0 < s.criticalEscalationWindowToolCalls) (levels : Nat → Option PressureLevel)
    (calls : Nat) : Consistent s (follow s levels calls).seen :=
  (follow_knows window levels calls).2

/-- The sliding window is exact. Whatever the samples of a session show and whichever of them fail, after each sample
the critical calls kept are those of all critical samples so far that are inside the window, in ascending order. A
pause is called for if this sample is critical and enough of them are kept, and an escalation if enough are kept for
that and none was called for since fewer were. -/
theorem window_is_exact (raw : Json) (levels : Nat → Option PressureLevel) (calls : Nat) :
    let s := (Settings.ofJson raw).pressure
    ∀ {before after : List Observation} {o : Observation}, (follow s levels calls).seen = before ++ o :: after →
      o.kept = ((criticalCalls (before ++ [o])).filter fun t =>
        o.call - t < s.criticalEscalationWindowToolCalls) ∧
      (criticalCalls (before ++ [o])).Pairwise (· < ·) ∧
      o.response.criticalEvents = o.kept.length ∧
      (o.response.pause = true ↔ o.level = .critical ∧ s.criticalPauseAfterEvents ≤ o.kept.length) ∧
      (o.response.escalate = true ↔
        o.level = .critical ∧ s.criticalEscalationAfterEvents ≤ o.kept.length ∧
          ∀ earlier ∈ sinceBelow s.criticalEscalationAfterEvents before, earlier.response.escalate = false) := by
  intro s before after o split
  have consistent := follow_consistent (Settings.ofJson_wellFormed raw).window levels calls
  rw [split] at consistent
  obtain ⟨kept, counted, pause, escalate⟩ := consistent.upTo.final
  exact ⟨kept, consistent.upTo.ascending.sublist (criticalCalls_sublist _), counted, pause, escalate⟩

/-- A sample that fails is followed by one that is no longer critical, and then by two that are: the first critical call
leaves the window just when the second comes in, and the third makes two. -/
theorem window_is_exact_boundary :
    let raw : Json := .object [("processPressure", .object [("sampleCooldownToolCalls", .int 0),
      ("criticalEscalationWindowToolCalls", .int 3), ("criticalEscalationAfterEvents", .int 2)])]
    let levels := fun n => [some .critical, none, some .warning, some .critical, some .critical][n]?.join
    let before : List Observation := [⟨1, .critical, [1], ⟨true, false, false, 1⟩⟩,
      ⟨3, .warning, [1], ⟨true, false, false, 1⟩⟩, ⟨4, .critical, [4], ⟨false, false, false, 1⟩⟩]
    let o : Observation := ⟨5, .critical, [4, 5], ⟨false, true, true, 2⟩⟩
    (follow (Settings.ofJson raw).pressure levels 5).seen = before ++ [o] ∧
      o.kept = ((criticalCalls (before ++ [o])).filter fun t => o.call - t < 3) ∧
      o.response.pause = true ∧ o.response.escalate = true := by
  intro raw levels before o
  have split : (follow (Settings.ofJson raw).pressure levels 5).seen = before ++ [o] := by decide +kernel
  obtain ⟨kept, -, -, pause, escalate⟩ := window_is_exact raw levels 5 split
  exact ⟨split, kept, pause.2 (by decide +kernel), escalate.2 (by decide +kernel)⟩

end Run

end Watch

end AgentHooks
