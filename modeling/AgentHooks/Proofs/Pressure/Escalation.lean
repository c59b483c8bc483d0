import AgentHooks.Proofs.Pressure.Window

/-! When the operator is called. An escalation is a crossing: the count reaches its limit at a sample and was below it
at the sample before. So a window that has emptied arms the next escalation, except where the limit is a single event
and the sample that finds the window empty is that event itself: then no sample stands between, at which the count
could have been seen below its limit. -/

namespace AgentHooks

namespace Observation

def Below (limit : Nat) (seen : List Observation) : Prop :=
  ∀ last ∈ seen.getLast?, last.kept.length < limit

variable {s : PressureSettings} {seen more : List Observation} {o last : Observation}

theorem below_nil (limit : Nat) : Below limit [] :=
  fun _ nobody => nomatch nobody

theorem below_one : Below 1 seen ↔ ∀ last ∈ seen.getLast?, last.kept = [] := by
  simp [Below]

theorem below_concat {limit : Nat} : Below limit (seen ++ [o]) ↔ o.kept.length < limit := by
  simp [Below]

theorem Exact.one_le_kept (exact : o.Exact s seen) (window : 0 < s.criticalEscalationWindowToolCalls)
    (critical : o.level = .critical) : 1 ≤ o.kept.length := by
  have itself : o.call ∈ o.kept := by
    rw [exact.kept, criticalCalls_concat, if_pos critical, List.mem_filter]
    refine ⟨by simp, ?_⟩
    simpa using window
  exact List.length_pos_of_mem itself

theorem Consistent.kept_sublist (consistent : Consistent s (seen ++ [last] ++ [o])) (calm : o.level ≠ .critical) :
    o.kept.Sublist last.kept := by
  have order : last.call < o.call := by
    have all := consistent.ascending
    simp only [List.map_append, List.map_cons, List.map_nil] at all
    exact (List.pairwise_append.1 all).2.2 last.call (by simp) o.call (by simp)
  rw [consistent.final.kept, consistent.initial.final.kept, criticalCalls_concat, if_neg calm, List.append_nil]
  apply List.monotone_filter_right
  intro t inside
  rw [decide_eq_true_eq] at inside ⊢
  omega

theorem Consistent.below_of_calm (consistent : Consistent s (seen ++ [o]))
    (positive : 1 ≤ s.criticalEscalationAfterEvents) (calm : o.level ≠ .critical)
    (below : Below s.criticalEscalationAfterEvents seen) :
    o.kept.length < s.criticalEscalationAfterEvents := by
  rcases List.eq_nil_or_concat seen with rfl | ⟨earlier, last, rfl⟩
  · have nothing : o.kept = [] := by
      rw [consistent.final.kept, criticalCalls_concat, if_neg calm]
      rfl
    rw [nothing]
    exact positive
  · rw [List.concat_eq_append] at consistent below
    exact Nat.lt_of_le_of_lt (consistent.kept_sublist calm).length_le (below_concat.1 below)

theorem Consistent.below_of_unreached (consistent : Consistent s (seen ++ more))
    (positive : 1 ≤ s.criticalEscalationAfterEvents)
    (below : Below s.criticalEscalationAfterEvents seen)
    (unreached : ∀ o ∈ more, o.level = .critical → o.kept.length < s.criticalEscalationAfterEvents) :
    Below s.criticalEscalationAfterEvents (seen ++ more) := by
  induction more using List.reverseRecOn with
  | nil => simpa using below
  | append_singleton more o ih =>
    rw [← List.append_assoc] at consistent ⊢
    rw [below_concat]
    by_cases critical : o.level = .critical
    · exact unreached o (by simp) critical
    · exact consistent.below_of_calm positive critical
        (ih consistent.initial fun o member => unreached o (by simp [member]))

/-- An escalation was called for since the count was last below its limit exactly if the last sample has it there. -/
theorem Consistent.escalated_iff (consistent : Consistent s seen)
    (positive : 1 ≤ s.criticalEscalationAfterEvents) :
    (∃ o ∈ sinceBelow s.criticalEscalationAfterEvents seen, o.response.escalate = true) ↔
      ∃ last ∈ seen.getLast?, s.criticalEscalationAfterEvents ≤ last.kept.length := by
  induction seen using List.reverseRecOn with
  | nil => simp [sinceBelow]
  | append_singleton seen o ih =>
    rw [sinceBelow_concat, List.getLast?_concat]
    by_cases reached : s.criticalEscalationAfterEvents ≤ o.kept.length
    · rw [if_pos reached]
      refine ⟨fun _ => ⟨o, rfl, reached⟩, fun _ => ?_⟩
      by_cases before : ∃ o ∈ sinceBelow s.criticalEscalationAfterEvents seen, o.response.escalate = true
      · obtain ⟨earlier, member, escalates⟩ := before
        exact ⟨earlier, List.mem_append_left _ member, escalates⟩
      · -- Nothing was called for before, so the count was below its limit, and this sample is the one to call.
        refine ⟨o, by simp, consistent.final.escalate.2 ⟨?_, reached, ?_⟩⟩
        · have below := mt (ih consistent.initial).2 before
          push Not at below
          by_contra calm
          exact Nat.not_lt.2 reached (consistent.below_of_calm positive calm below)
        · intro earlier member
          simpa using fun escalates => before ⟨earlier, member, escalates⟩
    · rw [if_neg reached]
      simp [reached]

/-- An escalation is a crossing of the limit from below. -/
theorem Consistent.escalates_iff (consistent : Consistent s (seen ++ [o]))
    (positive : 1 ≤ s.criticalEscalationAfterEvents) :
    o.response.escalate = true ↔ o.level = .critical ∧ s.criticalEscalationAfterEvents ≤ o.kept.length ∧
      Below s.criticalEscalationAfterEvents seen := by
  have crossed := not_congr (consistent.initial.escalated_iff positive)
  push Not at crossed
  rw [consistent.final.escalate, Below, ← crossed]
  simp

/-- From a sample on at which the count was below the limit, the first critical one that reaches it escalates. -/
theorem Consistent.escalates_of_reached (consistent : Consistent s (seen ++ more ++ [o]))
    (positive : 1 ≤ s.criticalEscalationAfterEvents) (below : Below s.criticalEscalationAfterEvents seen)
    (unreached : ∀ p ∈ more, p.level = .critical → p.kept.length < s.criticalEscalationAfterEvents)
    (critical : o.level = .critical) (reaches : s.criticalEscalationAfterEvents ≤ o.kept.length) :
    o.response.escalate = true :=
  (consistent.escalates_iff positive).2
    ⟨critical, reaches, consistent.initial.below_of_unreached positive below unreached⟩

theorem Consistent.kept_of_emptied (consistent : Consistent s (seen ++ [o]))
    (emptied : ∀ t ∈ criticalCalls seen, s.criticalEscalationWindowToolCalls ≤ o.call - t) :
    o.kept.Sublist (if o.level = .critical then [o.call] else []) := by
  have gone : ((criticalCalls seen).filter fun t => o.call - t < s.criticalEscalationWindowToolCalls) = [] := by
    rw [List.filter_eq_nil_iff]
    intro t member
    simpa using emptied t member
  rw [consistent.final.kept, criticalCalls_concat, List.filter_append, gone, List.nil_append]
  exact List.filter_sublist

end Observation

namespace Watch

open Observation

/-- An emptied window arms the next escalation: from the sample that finds all earlier critical calls outside the
window, the first critical one that reaches the limit escalates, except where the limit is one event, the sample that
finds the window empty is itself critical, and the sample before still kept a critical call. -/
theorem rearms_when_emptied_iff (raw : Json) (levels : Nat → Option PressureLevel) (calls : Nat) :
    let s := (Settings.ofJson raw).pressure
    ∀ {before rest : List Observation} {o first : Observation},
      (follow s levels calls).seen = before ++ o :: rest →
      (∀ t ∈ criticalCalls before, s.criticalEscalationWindowToolCalls ≤ o.call - t) →
      (o :: rest).find? (fun p => p.level = .critical ∧ s.criticalEscalationAfterEvents ≤ p.kept.length) =
        some first →
      (first.response.escalate = true ↔ s.criticalEscalationAfterEvents ≠ 1 ∨ o.level ≠ .critical ∨
        ∀ last ∈ before.getLast?, last.kept = []) := by
  intro s before rest o first split emptied found
  have window : 0 < s.criticalEscalationWindowToolCalls := (Settings.ofJson_wellFormed raw).window
  have positive : 1 ≤ s.criticalEscalationAfterEvents := (Settings.ofJson_wellFormed raw).escalation
  have consistent : Consistent s (before ++ o :: rest) := split ▸ follow_consistent window levels calls
  obtain ⟨reaches, middle, later, parts, unreached⟩ := List.find?_eq_some_iff_append.1 found
  simp only [decide_eq_true_eq] at reaches
  have opened : Consistent s (before ++ [o]) := consistent.upTo
  have alone := (opened.kept_of_emptied emptied).length_le
  cases middle with
  | nil =>
    -- The sample that finds the window empty is the one that reaches the limit: then the limit is one event.
    obtain ⟨rfl, -⟩ := List.cons.inj parts
    rw [if_pos reaches.1, List.length_singleton] at alone
    have single : s.criticalEscalationAfterEvents = 1 := by omega
    have one := opened.final.one_le_kept window reaches.1
    rw [opened.escalates_iff positive, single, below_one]
    simp [reaches.1, one]
  | cons head middle =>
    -- Samples stand between, and at the first of them the count was below the limit.
    obtain ⟨rfl, parts⟩ := List.cons.inj parts
    have below : ∀ p ∈ o :: middle, p.level = .critical → p.kept.length < s.criticalEscalationAfterEvents := by
      intro p member critical
      simpa [critical] using unreached p member
    have upTo : Consistent s (before ++ [o] ++ middle ++ [first]) := by
      rw [parts] at consistent
      have regrouped : before ++ o :: (middle ++ first :: later) = before ++ [o] ++ middle ++ [first] ++ later := by
        simp
      exact (regrouped ▸ consistent).initial
    have started : o.kept.length < s.criticalEscalationAfterEvents ∧
        (s.criticalEscalationAfterEvents ≠ 1 ∨ o.level ≠ .critical) := by
      by_cases critical : o.level = .critical
      · have few := below o (by simp) critical
        have one := opened.final.one_le_kept window critical
        exact ⟨few, .inl (by omega)⟩
      · rw [if_neg critical, List.length_nil] at alone
        exact ⟨by omega, .inr critical⟩
    have crosses := upTo.escalates_of_reached positive (below_concat.2 started.1)
      (fun p member => below p (by simp [member])) reaches.1 reaches.2
    exact ⟨fun _ => started.2.imp_right .inl, fun _ => crosses⟩

/-- Two critical samples escalate; two samples fail, and the next one finds the window empty. Then two more critical
samples escalate again. -/
theorem rearms_when_emptied_iff_quiet :
    let raw : Json := .object [("processPressure", .object [("sampleCooldownToolCalls", .int 0),
      ("criticalEscalationWindowToolCalls", .int 3), ("criticalEscalationAfterEvents", .int 2)])]
    let levels := fun n => [some .critical, some .critical, none, none, some .normal, some .critical,
      some .critical][n]?.join
    let before : List Observation := [⟨1, .critical, [1], ⟨true, false, false, 1⟩⟩,
      ⟨2, .critical, [1, 2], ⟨false, true, true, 2⟩⟩]
    let o : Observation := ⟨5, .normal, [], ⟨false, false, false, 0⟩⟩
    let between : Observation := ⟨6, .critical, [6], ⟨false, false, false, 1⟩⟩
    let again : Observation := ⟨7, .critical, [6, 7], ⟨false, true, true, 2⟩⟩
    (follow (Settings.ofJson raw).pressure levels 7).seen = before ++ o :: [between, again] ∧
      again.response.escalate = true := by
  intro raw levels before o between again
  have split : (follow (Settings.ofJson raw).pressure levels 7).seen = before ++ o :: [between, again] := by
    decide +kernel
  have found : [o, between, again].find? (fun p => p.level = .critical ∧ 2 ≤ p.kept.length) = some again := by
    decide +kernel
  exact ⟨split, (rearms_when_emptied_iff raw levels 7 split (by decide +kernel) found).2 (.inr (.inl (by decide)))⟩

/-- A limit of one event. The second sample comes when the first has left the window, and is again critical, but the
count is seen below its limit at neither, and the operator is not called. -/
theorem emptied_window_need_not_rearm :
    let raw : Json := .object [("processPressure", .object [("sampleCooldownToolCalls", .int 3),
      ("criticalEscalationWindowToolCalls", .int 2), ("criticalPauseAfterEvents", .int 1),
      ("criticalEscalationAfterEvents", .int 1)])]
    let s := (Settings.ofJson raw).pressure
    let earlier : Observation := ⟨1, .critical, [1], ⟨true, true, true, 1⟩⟩
    let o : Observation := ⟨4, .critical, [4], ⟨false, true, false, 1⟩⟩
    (follow s (fun _ => some .critical) 4).seen = [earlier, o] ∧
      (∀ t ∈ criticalCalls [earlier], s.criticalEscalationWindowToolCalls ≤ o.call - t) ∧
      o.level = .critical ∧ s.criticalEscalationAfterEvents ≤ o.kept.length ∧ o.response.escalate = false := by
  decide +kernel

end Watch

end AgentHooks
