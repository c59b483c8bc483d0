import AgentHooks.Proofs.Pressure.Escalation
import Mathlib.Algebra.Order.Floor.Div

/-! Pressure that does not let up. Where no sample fails, samples are evenly spaced; where all of them are critical as
well, the window fills up to as many of them as fit and stays full. So whether a session is ever paused, or its operator
ever called, can be told from the settings. -/

namespace AgentHooks

namespace Watch

open PressureCounters Observation

section Spacing

variable (s : PressureSettings)

/-- How many calls lie between two samples. A cooldown of no calls is one of one call. -/
def spacing : Nat :=
  max 1 s.sampleCooldownToolCalls

theorem spacing_pos : 0 < spacing s :=
  Nat.lt_of_lt_of_le Nat.one_pos (Nat.le_max_left _ _)

def windowful : Nat :=
  s.criticalEscalationWindowToolCalls ⌈/⌉ spacing s

theorem lt_ceilDiv {c : Nat} (positive : 0 < c) {m n : Nat} : m < n ⌈/⌉ c ↔ m * c < n := by
  rw [← Nat.not_le, ← Nat.not_le, ceilDiv_le_iff_le_mul positive, Nat.mul_comm]

/-- The samples of a session are evenly spaced, and the next one is not overdue. -/
structure Spaced (w : Watch) : Prop where
  calls : w.seen.map (·.call) = (List.range w.seen.length).map fun i => i * spacing s + 1
  sampled : w.counters.lastSampleAt = w.seen.getLast?.map (·.call)
  past : ∀ o ∈ w.seen.getLast?, o.call ≤ w.counters.toolCalls
  recent : w.counters.toolCalls ≤ w.seen.length * spacing s

variable {s} {w : Watch}

theorem Spaced.call (spaced : Spaced s w) {before after : List Observation} {o : Observation}
    (split : w.seen = before ++ o :: after) : o.call = before.length * spacing s + 1 := by
  have calls := congrArg (·[before.length]?) spaced.calls
  simpa [split] using calls

theorem Spaced.due_iff (spaced : Spaced s w) :
    (w.counters.tick s.sampleCooldownToolCalls).2 = true ↔ w.counters.toolCalls = w.seen.length * spacing s := by
  rw [(tick_fields _ _).2.2.2.1, spaced.sampled]
  rcases List.eq_nil_or_concat w.seen with nothing | ⟨earlier, o, split⟩
  · have recent := spaced.recent
    simp only [nothing, List.length_nil, Nat.zero_mul] at recent ⊢
    simpa [cooledDown] using recent
  · rw [List.concat_eq_append] at split
    have call := spaced.call split
    have past := spaced.past o (by simp [split])
    have recent := spaced.recent
    have space : spacing s = max 1 s.sampleCooldownToolCalls := rfl
    rw [split, List.length_append, List.length_singleton, Nat.add_one_mul] at recent ⊢
    rw [List.getLast?_concat, Option.map_some, cooledDown, decide_eq_true_eq]
    omega

theorem Spaced.next (spaced : Spaced s w) (levels : Nat → PressureLevel) :
    Spaced s (w.next s fun n => some (levels n)) := by
  have due_iff := spaced.due_iff
  obtain ⟨counted, -, -, -, sampled⟩ := tick_fields w.counters s.sampleCooldownToolCalls
  have positive := spacing_pos s
  have recent := spaced.recent
  rcases next_cases s (fun n => some (levels n)) w with ⟨counters, seen, unseen⟩ | ⟨level, due, -, counters, seen⟩
  · have early : (w.counters.tick s.sampleCooldownToolCalls).2 = false := unseen.resolve_right (by simp)
    rw [early] at due_iff sampled
    simp only [Bool.false_eq_true, if_false, false_iff] at due_iff sampled
    refine ⟨?_, ?_, fun o here => ?_, ?_⟩
    · rw [seen, spaced.calls]
    · rw [counters, seen, sampled, spaced.sampled]
    · rw [seen] at here
      have past := spaced.past o here
      rw [counters]
      omega
    · rw [counters, seen]
      omega
  · rw [due, if_pos rfl] at sampled
    -- The spacing since the last sample is used up, so this one is a whole number of spacings from the first.
    have now := due_iff.1 due
    refine ⟨?_, ?_, fun o here => ?_, ?_⟩
    · rw [seen, List.map_append, spaced.calls, List.length_append, List.length_singleton, List.range_succ,
        List.map_append]
      simp [observation, counted, now]
    · rw [counters, seen, observe_lastSampleAt, sampled, List.getLast?_concat]
      simp [observation, counted]
    · rw [seen, List.getLast?_concat] at here
      obtain rfl := Option.some.inj here
      rw [counters, observe_toolCalls]
      exact Nat.le_refl _
    · rw [counters, seen, observe_toolCalls, counted, List.length_append, List.length_singleton, Nat.add_one_mul]
      omega

theorem follow_spaced (s : PressureSettings) (levels : Nat → PressureLevel) (calls : Nat) :
    Spaced s (follow s (fun n => some (levels n)) calls) ∧
      (follow s (fun n => some (levels n)) calls).counters.toolCalls = calls := by
  induction calls with
  | zero => exact ⟨⟨rfl, rfl, by simp [follow, start], Nat.zero_le _⟩, rfl⟩
  | succ calls ih =>
    obtain ⟨spaced, counted⟩ := ih
    refine ⟨spaced.next levels, ?_⟩
    rcases next_cases s (fun n => some (levels n)) (follow s (fun n => some (levels n)) calls) with
      ⟨counters, -, -⟩ | ⟨level, -, -, counters, -⟩
    · rw [follow, counters, (tick_fields _ _).1, counted]
    · rw [follow, counters, observe_toolCalls, (tick_fields _ _).1, counted]

theorem follow_length (s : PressureSettings) (levels : Nat → PressureLevel) (calls : Nat) :
    (follow s (fun n => some (levels n)) calls).seen.length = calls ⌈/⌉ spacing s := by
  obtain ⟨spaced, counted⟩ := follow_spaced s levels calls
  generalize follow s (fun n => some (levels n)) calls = w at spaced counted
  subst counted
  have positive := spacing_pos s
  apply Nat.le_antisymm
  · rcases List.eq_nil_or_concat w.seen with nothing | ⟨earlier, o, split⟩
    · simp [nothing]
    · rw [List.concat_eq_append] at split
      have call := spaced.call split
      have past := spaced.past o (by simp [split])
      rw [split, List.length_append, List.length_singleton, Nat.add_one_le_iff, lt_ceilDiv positive]
      omega
  · rw [ceilDiv_le_iff_le_mul positive, Nat.mul_comm]
    exact spaced.recent

end Spacing

theorem follow_levels (s : PressureSettings) (levels : Nat → Option PressureLevel) (calls : Nat) :
    ∀ o ∈ (follow s levels calls).seen, ∃ n, levels n = some o.level := by
  induction calls with
  | zero => simp [follow, start]
  | succ calls ih =>
    rcases next_cases s levels (follow s levels calls) with ⟨-, seen, -⟩ | ⟨level, -, shown, -, seen⟩
    · rw [follow, seen]
      exact ih
    · rw [follow, seen]
      intro o member
      rcases List.mem_append.1 member with member | now
      · exact ih o member
      · rw [List.mem_singleton.1 now]
        exact ⟨_, shown⟩

theorem length_filter_near (n m : Nat) : ((List.range (n + 1)).filter fun i => n - i < m).length = min (n + 1) m := by
  induction n with
  | zero =>
    cases m with
    | zero => rfl
    | succ m => simp
  | succ n ih =>
    have shifted : ((List.range (n + 1)).map Nat.succ).filter (fun i => n + 1 - i < m) =
        ((List.range (n + 1)).filter fun i => n - i < m).map Nat.succ := by
      rw [List.filter_map]
      congr 2
      funext i
      simp
    rw [List.range_succ_eq_map, List.filter_cons, shifted]
    by_cases far : n + 1 < m
    · simp [far, ih]
      omega
    · simp [far, ih]
      omega

section Sustained

variable {s : PressureSettings} {w : Watch} {before after : List Observation} {o : Observation}

/-- With nothing but critical samples the window fills up and stays full. -/
theorem Spaced.kept_length (spaced : Spaced s w) (critical : ∀ o ∈ w.seen, o.level = .critical)
    (split : w.seen = before ++ o :: after) (exact : o.Exact s before) :
    o.kept.length = min (before.length + 1) (windowful s) := by
  have regrouped : w.seen = before ++ [o] ++ after := by rw [split, ← List.append_cons]
  have all : (before ++ [o]).filter (·.level = .critical) = before ++ [o] := by
    rw [List.filter_eq_self]
    intro p member
    simpa using critical p (regrouped ▸ List.mem_append_left after member)
  have calls : (before ++ [o]).map (·.call) = (List.range (before.length + 1)).map fun i => i * spacing s + 1 := by
    have upTo := congrArg (List.take (before ++ [o]).length) spaced.calls
    rw [regrouped, ← List.map_take, List.take_left, ← List.map_take, List.take_range] at upTo
    simpa using upTo
  rw [exact.kept, criticalCalls, all, calls, List.filter_map, List.length_map, spaced.call split,
    ← length_filter_near]
  congr 1
  apply List.filter_congr
  intro i member
  have near : before.length - i < windowful s ↔
      (before.length - i) * spacing s < s.criticalEscalationWindowToolCalls := lt_ceilDiv (spacing_pos s)
  simp only [Function.comp_apply, decide_eq_decide, near, Nat.sub_mul]
  omega

theorem exists_sample (s : PressureSettings) (levels : Nat → PressureLevel) (n : Nat) :
    ∃ calls before o, (follow s (fun n => some (levels n)) calls).seen = before ++ [o] ∧ before.length = n := by
  have taken : (n * spacing s + 1) ⌈/⌉ spacing s = n + 1 := by
    have positive := spacing_pos s
    apply Nat.le_antisymm
    · rw [ceilDiv_le_iff_le_mul positive, Nat.mul_add_one, Nat.mul_comm]
      omega
    · rw [Nat.add_one_le_iff, lt_ceilDiv positive]
      omega
  have length := (follow_length s levels (n * spacing s + 1)).trans taken
  rcases List.eq_nil_or_concat (follow s (fun n => some (levels n)) (n * spacing s + 1)).seen with
    nothing | ⟨before, o, split⟩
  · simp [nothing] at length
  · rw [List.concat_eq_append] at split
    rw [split, List.length_append, List.length_singleton] at length
    exact ⟨_, before, o, split, Nat.succ.inj length⟩

/-- Where all samples are critical, this one keeps as many as fit, and is answered by that. -/
theorem sustained_kept (window : 0 < s.criticalEscalationWindowToolCalls) {calls : Nat}
    (split : (follow s (fun _ => some .critical) calls).seen = before ++ o :: after) :
    o.level = .critical ∧ Consistent s (before ++ [o]) ∧ o.call = before.length * spacing s + 1 ∧
      o.kept.length = min (before.length + 1) (windowful s) := by
  have spaced := (follow_spaced s (fun _ => .critical) calls).1
  have critical : ∀ p ∈ (follow s (fun _ => some .critical) calls).seen, p.level = .critical := by
    intro p member
    obtain ⟨-, shown⟩ := follow_levels s (fun _ => some .critical) calls p member
    exact (Option.some.inj shown).symm
  have opened : Consistent s (before ++ [o]) := by
    have consistent := follow_consistent window (fun _ => some .critical) calls
    rw [split] at consistent
    exact consistent.upTo
  exact ⟨critical o (by simp [split]), opened, spaced.call split,
    spaced.kept_length critical split opened.final⟩

theorem sustained_pauses_iff (window : 0 < s.criticalEscalationWindowToolCalls) {calls : Nat}
    (split : (follow s (fun _ => some .critical) calls).seen = before ++ o :: after) :
    o.response.pause = true ↔
      s.criticalPauseAfterEvents ≤ windowful s ∧ s.criticalPauseAfterEvents ≤ before.length + 1 := by
  obtain ⟨critical, consistent, -, kept⟩ := sustained_kept window split
  rw [consistent.final.pause, kept, Nat.le_min]
  exact ⟨fun ⟨_, few, fits⟩ => ⟨fits, few⟩, fun ⟨fits, few⟩ => ⟨critical, few, fits⟩⟩

theorem sustained_escalates_iff (window : 0 < s.criticalEscalationWindowToolCalls)
    (positive : 1 ≤ s.criticalEscalationAfterEvents) {calls : Nat}
    (split : (follow s (fun _ => some .critical) calls).seen = before ++ o :: after) :
    o.response.escalate = true ↔
      s.criticalEscalationAfterEvents ≤ windowful s ∧ before.length + 1 = s.criticalEscalationAfterEvents := by
  obtain ⟨critical, consistent, -, kept⟩ := sustained_kept window split
  have below : Below s.criticalEscalationAfterEvents before ↔
      min before.length (windowful s) < s.criticalEscalationAfterEvents := by
    rcases List.eq_nil_or_concat before with rfl | ⟨earlier, last, rfl⟩
    · rw [List.length_nil, Nat.zero_min]
      exact iff_of_true (below_nil _) positive
    · rw [List.concat_eq_append, List.append_assoc, List.singleton_append] at split
      obtain ⟨-, -, -, kept⟩ := sustained_kept window split
      rw [List.concat_eq_append, below_concat, List.length_append, List.length_singleton, ← kept]
  rw [consistent.escalates_iff positive, below, kept]
  simp only [critical, true_and]
  omega

/-- Sustained pressure, exactly. When every sample succeeds and is critical, the `n`-th sample finds as many of them in
the window as fit into it, up to `n`. So a session is paused at all only if the limit fits into the window, and then
from the sample of that number on; and the operator is called on the same condition, at that sample only. -/
theorem sustained_pressure (raw : Json) :
    let s := (Settings.ofJson raw).pressure
    let c := max 1 s.sampleCooldownToolCalls
    let most := s.criticalEscalationWindowToolCalls ⌈/⌉ c
    let seen := fun calls => (follow s (fun _ => some .critical) calls).seen
    (∀ calls, (seen calls).length = calls ⌈/⌉ c) ∧
    (∀ {calls before o after}, seen calls = before ++ o :: after →
      let n := before.length + 1
      o.call = (n - 1) * c + 1 ∧ o.response.criticalEvents = min n most ∧
      (o.response.pause = true ↔ s.criticalPauseAfterEvents ≤ most ∧ s.criticalPauseAfterEvents ≤ n) ∧
      (o.response.escalate = true ↔ s.criticalEscalationAfterEvents ≤ most ∧ n = s.criticalEscalationAfterEvents)) ∧
    ((∃ calls, ∃ o ∈ seen calls, o.response.pause = true) ↔ s.criticalPauseAfterEvents ≤ most) ∧
    ((∃ calls, ∃ o ∈ seen calls, o.response.escalate = true) ↔ s.criticalEscalationAfterEvents ≤ most) := by
  intro s c most seen
  have formed := Settings.ofJson_wellFormed raw
  have window : 0 < s.criticalEscalationWindowToolCalls := formed.window
  have pausing : 1 ≤ s.criticalPauseAfterEvents := formed.pause
  have escalating : 1 ≤ s.criticalEscalationAfterEvents := formed.escalation
  refine ⟨follow_length s _, ?_, ⟨?_, ?_⟩, ⟨?_, ?_⟩⟩
  · intro calls before o after split n
    obtain ⟨critical, consistent, call, kept⟩ := sustained_kept window split
    exact ⟨call, consistent.final.counted.trans kept, sustained_pauses_iff window split,
      sustained_escalates_iff window escalating split⟩
  · rintro ⟨calls, o, member, pauses⟩
    obtain ⟨before, after, split⟩ := List.append_of_mem member
    exact ((sustained_pauses_iff window split).1 pauses).1
  · intro fits
    obtain ⟨calls, before, o, split, length⟩ :=
      exists_sample s (fun _ => .critical) (s.criticalPauseAfterEvents - 1)
    exact ⟨calls, o, by simp [seen, split], (sustained_pauses_iff window split).2 ⟨fits, by omega⟩⟩
  · rintro ⟨calls, o, member, escalates⟩
    obtain ⟨before, after, split⟩ := List.append_of_mem member
    exact ((sustained_escalates_iff window escalating split).1 escalates).1
  · intro fits
    obtain ⟨calls, before, o, split, length⟩ :=
      exists_sample s (fun _ => .critical) (s.criticalEscalationAfterEvents - 1)
    exact ⟨calls, o, by simp [seen, split], (sustained_escalates_iff window escalating split).2 ⟨fits, by omega⟩⟩

/-- By default a sample is taken every five calls and eight of them fit into the window: the second pauses the session,
and the fourth calls the operator. -/
theorem sustained_pressure_default :
    let s := (Settings.ofJson .null).pressure
    let before : List Observation := [⟨1, .critical, [1], ⟨true, false, false, 1⟩⟩,
      ⟨6, .critical, [1, 6], ⟨false, true, false, 2⟩⟩, ⟨11, .critical, [1, 6, 11], ⟨true, true, false, 3⟩⟩]
    let o : Observation := ⟨16, .critical, [1, 6, 11, 16], ⟨false, true, true, 4⟩⟩
    (follow s (fun _ => some .critical) 16).seen = before ++ [o] ∧
      s.criticalEscalationWindowToolCalls ⌈/⌉ max 1 s.sampleCooldownToolCalls = 8 ∧
      o.response.criticalEvents = 4 ∧ o.response.pause = true ∧ o.response.escalate = true := by
  intro s before o
  have split : (follow s (fun _ => some .critical) 16).seen = before ++ [o] := by decide +kernel
  obtain ⟨-, counted, pause, escalate⟩ := (sustained_pressure .null).2.1 split
  exact ⟨split, by decide +kernel, counted, pause.2 (by decide +kernel), escalate.2 (by decide +kernel)⟩

end Sustained

end Watch

end AgentHooks
