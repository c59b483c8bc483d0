import AgentHooks.Proofs.Loop.Record
import AgentHooks.Loop.Advance
import AgentHooks.Loop.Prompt

/-! A loop over many turns, apart from the file that it is kept in. Each turn either ends the loop or
takes it to its next iteration, and the completions that it ignores are counted from the last turn that
brought none. -/

namespace AgentHooks

def Signal.streak (count : Nat) : Signal → Nat
  | .complete true => count + 1
  | _ => 0

/-- How many turns in a row, up to the last one, signalled completion over open work. -/
def Signal.ignored (signals : List Signal) : Nat :=
  (signals.reverse.takeWhile (· = .complete true)).length

theorem Signal.ignored_concat (signals : List Signal) (sig : Signal) :
    ignored (signals ++ [sig]) = sig.streak (ignored signals) := by
  simp only [ignored, List.reverse_append, List.reverse_cons, List.reverse_nil, List.nil_append,
    List.cons_append]
  by_cases complete : sig = .complete true
  · subst complete
    rfl
  · have zero : sig.streak ((signals.reverse.takeWhile (· = .complete true)).length) = 0 := by
      unfold streak
      split
      · exact absurd rfl complete
      · rfl
    rw [zero, List.takeWhile_cons, if_neg (by simpa using complete), List.length_nil]

def Turn.prompt? : Turn → Option String
  | continued l _ => some l.continuationPrompt
  | _ => none

def Turn.ends : Turn → Bool
  | completed _ => true
  | capReached _ _ => true
  | _ => false

namespace Loop

variable {l l' : Loop} {maxIgnored : Nat} {sig : Signal} {signals : List Signal} {t : Turn}

def next (l : Loop) (sig : Signal) : Loop :=
  { l with iteration := (l.iteration + 1) % word, ignoredCompletions := sig.streak l.ignoredCompletions }

theorem iteration_lt_cap (going : l.canContinue = true) (capped : l.maxIterations ≠ 0) :
    l.iteration < l.maxIterations := by
  simpa [canContinue, capped] using going

/-- With a cap the count of iterations does not start over. -/
theorem next_iteration (small : l.maxIterations < word) (going : l.canContinue = true)
    (room : l.maxIterations ≠ 0 ∨ l.iteration + 1 < word) (sig : Signal) :
    (l.next sig).iteration = l.iteration + 1 := by
  apply Nat.mod_eq_of_lt
  rcases room with capped | few
  · have below := iteration_lt_cap going capped
    omega
  · exact few

example : ({ start ⟨2024, 5, 1, 12, 0, 0, 0⟩ "s" "task" 0 .promise "DONE" with
    iteration := 18446744073709551615 }.next .pending).iteration = 0 := by
  decide

theorem next_eq (small : l.maxIterations < word) (going : l.canContinue = true)
    (room : l.maxIterations ≠ 0 ∨ l.iteration + 1 < word) (sig : Signal) :
    l.next sig = { l with iteration := l.iteration + 1, ignoredCompletions := sig.streak l.ignoredCompletions } := by
  rw [← next_iteration small going room sig]
  rfl

/-- Whether a turn may go on to the next iteration: completion is ignored over open work, at most so many
times in a row. -/
def Persists (l : Loop) (maxIgnored : Nat) (sig : Signal) : Prop :=
  sig = .pending ∨ sig = .complete true ∧ l.ignoredCompletions < maxIgnored

theorem streak_le (persists : l.Persists maxIgnored sig) : sig.streak l.ignoredCompletions ≤ maxIgnored := by
  rcases persists with rfl | ⟨rfl, few⟩
  · exact Nat.zero_le _
  · exact few

theorem belongsTo_iff {session : String} :
    l.belongsTo session = true ↔ l.active = true ∧ l.session = session := by
  simp [belongsTo]

theorem advance_of_persists (active : l.active = true) (persists : l.Persists maxIgnored sig) :
    l.advance l.session sig maxIgnored false =
      if l.canContinue then (some (l.next sig), .continued (l.next sig) (sig != .pending))
      else (none, .capReached l.iteration l.maxIterations) := by
  have mine : l.belongsTo l.session = true := by simp [belongsTo, active]
  rcases persists with rfl | ⟨rfl, few⟩
  · simp only [advance, mine, Bool.not_true, Bool.false_eq_true, if_false]
    rfl
  · have unspent : ¬maxIgnored ≤ l.ignoredCompletions := by omega
    simp only [advance, mine, Bool.not_true, Bool.false_eq_true, if_false, unspent, decide_false, Bool.or_false]
    rfl

theorem advance_goesOn (active : l.active = true) (persists : l.Persists maxIgnored sig)
    (going : l.canContinue = true) : l.advance l.session sig maxIgnored false =
      (some (l.next sig), .continued (l.next sig) (sig != .pending)) := by
  rw [advance_of_persists active persists, if_pos going]

theorem advance_of_completes (active : l.active = true) (completes : ¬l.Persists maxIgnored sig) :
    l.advance l.session sig maxIgnored false = (none, .completed l.iteration) := by
  have mine : l.belongsTo l.session = true := by simp [belongsTo, active]
  cases sig with
  | pending => exact absurd (.inl rfl) completes
  | complete openWork =>
    cases openWork with
    | false =>
      simp only [advance, mine, Bool.not_true, Bool.false_eq_true, if_false, Bool.not_false, Bool.true_or,
        if_true]
    | true =>
      have spent : maxIgnored ≤ l.ignoredCompletions := by
        apply Nat.le_of_not_lt
        intro few
        exact completes (.inr ⟨rfl, few⟩)
      simp only [advance, mine, Bool.not_true, Bool.false_eq_true, if_false, spent, decide_true,
        Bool.or_true, if_true]

theorem advance_some (active : l.active = true)
    (advanced : l.advance l.session sig maxIgnored false = (some l', t)) :
    l' = l.next sig ∧ t.prompt? = some l'.continuationPrompt ∧ l.canContinue = true ∧
      l.Persists maxIgnored sig := by
  by_cases persists : l.Persists maxIgnored sig
  · rw [advance_of_persists active persists] at advanced
    split at advanced
    next room =>
      cases advanced
      exact ⟨rfl, rfl, room, persists⟩
    · cases advanced
  · rw [advance_of_completes active persists] at advanced
    cases advanced

theorem advance_none (active : l.active = true)
    (advanced : l.advance l.session sig maxIgnored false = (none, t)) : t.prompt? = none := by
  by_cases persists : l.Persists maxIgnored sig
  · rw [advance_of_persists active persists] at advanced
    split at advanced
    · cases advanced
    · cases advanced
      rfl
  · rw [advance_of_completes active persists] at advanced
    cases advanced
    rfl

/-- The turns after which there is no loop are the last ones, whoever's loop it is and whether it is stopped or not. -/
theorem ends_of_advance {session : String} {stopped : Bool} {next : Option Loop}
    (advanced : l.advance session sig maxIgnored stopped = (next, t)) : t.ends = next.isNone := by
  have going : ∀ {l : Loop} {ignored : Bool}, l.goOn ignored = (next, t) → t.ends = next.isNone := by
    intro l ignored went
    unfold goOn at went
    split at went
    · cases went
      rfl
    · cases went
      rfl
  unfold advance at advanced
  split at advanced
  · cases advanced
    rfl
  · split at advanced
    · cases advanced
      rfl
    · split at advanced
      · exact going advanced
      · split at advanced
        · cases advanced
          rfl
        · exact going advanced

/-- The loop after some turns, if it is not over by then, and the prompts that they led to. -/
def turns (maxIgnored : Nat) : Loop → List Signal → Option Loop × List String
  | l, [] => (some l, [])
  | l, sig :: rest =>
    match l.advance l.session sig maxIgnored false with
    | (some next, t) => ((turns maxIgnored next rest).1, t.prompt?.toList ++ (turns maxIgnored next rest).2)
    | (none, t) => (none, t.prompt?.toList)

theorem next_valid (valid : l.Valid) (small : maxIgnored < word) (persists : l.Persists maxIgnored sig) :
    (l.next sig).Valid :=
  ⟨Nat.mod_lt _ (by decide), valid.maxIterations, valid.startedAt, Nat.lt_of_le_of_lt (streak_le persists) small⟩

/-- A loop that is not over has gone through all its turns, one iteration each. -/
theorem turns_some (active : l.active = true) (small : l.maxIterations < word)
    (room : l.maxIterations ≠ 0 ∨ l.iteration + signals.length < word)
    (alive : (l.turns maxIgnored signals).1 = some l') :
    l' = { l with
      iteration := l.iteration + signals.length
      ignoredCompletions := signals.foldl Signal.streak l.ignoredCompletions } ∧
    (l.turns maxIgnored signals).2.length = signals.length ∧
    (signals ≠ [] → l'.ignoredCompletions ≤ maxIgnored ∧
      (l.maxIterations ≠ 0 → l'.iteration ≤ l.maxIterations)) := by
  induction signals generalizing l with
  | nil =>
    cases alive
    exact ⟨rfl, rfl, fun absent => absurd rfl absent⟩
  | cons sig rest ih =>
    simp only [turns] at alive ⊢
    split at alive
    next next t advanced =>
      obtain ⟨rfl, prompted, going, persists⟩ := advance_some active advanced
      simp only [List.length_cons] at room
      have further := next_iteration small going (room.imp_right fun few => by omega) sig
      -- One turn is taken and one fewer is to come, so there is room for these as before.
      have room' : l.maxIterations ≠ 0 ∨ (l.next sig).iteration + rest.length < word := by
        rw [further]
        exact room.imp_right fun few => by omega
      obtain ⟨same, count, bounds⟩ := ih (l := l.next sig) active small room' alive
      refine ⟨?_, ?_, fun _ => ?_⟩
      · rw [same, further]
        simp only [Loop.next, List.length_cons, List.foldl_cons]
        congr 1
        omega
      · simp only [prompted, Option.toList_some, List.cons_append, List.nil_append, List.length_cons, count]
      · by_cases last : rest = []
        · subst last
          cases alive
          refine ⟨streak_le persists, fun capped => ?_⟩
          rw [further]
          exact iteration_lt_cap going capped
        · exact bounds last
    · cases alive

/-- The cap bounds the prompts of all turns together. -/
theorem turns_prompts_le (active : l.active = true) (small : l.maxIterations < word) (capped : l.maxIterations ≠ 0)
    (inside : l.iteration ≤ l.maxIterations) (signals : List Signal) :
    (l.turns maxIgnored signals).2.length ≤ l.maxIterations - l.iteration := by
  induction signals generalizing l with
  | nil => exact Nat.zero_le _
  | cons sig rest ih =>
    simp only [turns]
    split
    next next t advanced =>
      obtain ⟨rfl, prompted, going, -⟩ := advance_some active advanced
      have below := iteration_lt_cap going capped
      have further := next_iteration small going (.inl capped) sig
      have later : (turns maxIgnored (l.next sig) rest).2.length ≤ l.maxIterations - (l.next sig).iteration :=
        ih (l := l.next sig) active small capped (further ▸ below)
      simp only [prompted, Option.toList_some, List.cons_append, List.nil_append, List.length_cons]
      omega
    next t advanced =>
      rw [advance_none active advanced]
      exact Nat.zero_le _

end Loop

end AgentHooks
