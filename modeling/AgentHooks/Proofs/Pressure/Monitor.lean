import AgentHooks.Proofs.Policy.Memory
import AgentHooks.Proofs.Pressure.Window

/-! The monitor keeps its counters by the book. A tool call does to those of its session what a call does to a session
under watch, with the level that a sample taken then shows; so whatever happens in between, the counters of a session
that stays on the roster are those of a session under watch. -/

namespace AgentHooks

open PressureCounters

namespace Watch

variable {s : PressureSettings}

theorem next_congr {levels levels' : Nat → Option PressureLevel} {w : Watch}
    (same : w.samples < (w.next s levels).samples → levels' w.samples = levels w.samples) :
    w.next s levels' = w.next s levels := by
  cases due : (w.counters.tick s.sampleCooldownToolCalls).2 with
  | false => rw [next, next, call_unseen _ _ (.inl due), call_unseen _ _ (.inl due)]
  | true =>
    have sampled : (w.next s levels).samples = w.samples + 1 := by
      rw [next, due]
      rfl
    rw [next, next, same (by omega)]

theorem samples_le_next (levels : Nat → Option PressureLevel) (w : Watch) : w.samples ≤ (w.next s levels).samples :=
  Nat.le_add_right _ _

theorem follow_congr {levels levels' : Nat → Option PressureLevel} {calls : Nat}
    (same : ∀ n < (follow s levels calls).samples, levels' n = levels n) :
    follow s levels' calls = follow s levels calls := by
  induction calls with
  | zero => rfl
  | succ calls ih =>
    have earlier := ih fun n before => same n (Nat.lt_of_lt_of_le before (samples_le_next levels _))
    rw [follow, follow, earlier]
    exact next_congr (same _)

end Watch

namespace PressurePolicy

def shown (s : PressureSettings) (w : World) : Option PressureLevel :=
  match w.sample.2 with
  | .ok sample => some (.classify sample s)
  | .error _ => none

variable (s : PressureSettings) {session : String} (named : session ≠ "")

include named

theorem onToolAfter_counters (out : ToolResult) (w : World) :
    (onToolAfter s session out w).2.pressure.get? session =
      some (((w.pressure.get? session).getD .start).call s (shown s w)).1 := by
  have enrolled := Roster.get?_enroll_self w.pressure session .start
  generalize (w.pressure.get? session).getD .start = c at enrolled ⊢
  have put : ∀ c' : PressureCounters,
      ((w.pressure.enroll session .start).modify session fun _ => c').get? session = some c' := by
    intro c'
    rw [Roster.get?_modify_self, enrolled, Option.map_some]
  unfold onToolAfter
  dsimp only
  rw [if_neg named, enrolled, Option.getD_some]
  cases due : (c.tick s.sampleCooldownToolCalls).2 with
  | false =>
    rw [call_unseen c s (.inl due)]
    exact put _
  | true =>
    let now := (c.tick s.sampleCooldownToolCalls).1
    simp only [Bool.not_true, Bool.false_eq_true, if_false]
    split
    next v fault failed =>
      have unseen : w.sample.2 = .error fault := (congrArg Prod.snd failed :)
      have counted : (w.pressure.enroll session .start).modify session (fun _ => now) = v.pressure :=
        (congrArg (·.1.pressure) failed :)
      rw [shown, unseen, call_unseen c s (.inr rfl)]
      change v.pressure.get? session = some now
      rw [← counted, put]
    next v sample taken =>
      have seen : w.sample.2 = .ok sample := (congrArg Prod.snd taken :)
      have counted : (w.pressure.enroll session .start).modify session (fun _ => now) = v.pressure :=
        (congrArg (·.1.pressure) taken :)
      have responded : (respond s session sample (out, v)).2.pressure = _ :=
        congrArg Prod.fst (respond_rosters s session sample out v)
      rw [shown, seen, call_seen c s _ due, responded, ← counted, Roster.get?_modify_self, put]
      rfl

/-- What the monitor knows of a session after any number of its calls is what a session under watch knows, whatever
happens in between, as long as the session stays on the roster. -/
theorem exists_watch {worlds : Nat → World} {outs : Nat → ToolResult}
    (new : (worlds 0).pressure.get? session = none)
    (stays : ∀ k, (worlds (k + 1)).pressure.get? session =
      (onToolAfter s session (outs k) (worlds k)).2.pressure.get? session) (calls : Nat) :
    ∃ levels, ((worlds calls).pressure.get? session).getD .start = (Watch.follow s levels calls).counters := by
  induction calls with
  | zero =>
    rw [new]
    exact ⟨fun _ => none, rfl⟩
  | succ calls ih =>
    obtain ⟨levels, counters⟩ := ih
    let now := (Watch.follow s levels calls).samples
    let levels' := fun n => if n = now then shown s (worlds calls) else levels n
    have before : Watch.follow s levels' calls = Watch.follow s levels calls :=
      Watch.follow_congr fun n earlier => if_neg (Nat.ne_of_lt earlier)
    refine ⟨levels', ?_⟩
    rw [stays, onToolAfter_counters s named, Option.getD_some, counters, Watch.follow, before]
    simp [Watch.next, levels', now]

end PressurePolicy

end AgentHooks
