import AgentHooks.Loop.Basic

/-!
One turn of the loop: what becomes of it when its session has gone idle.
-/

namespace AgentHooks

/-- What the agent's latest text says: more to come, or completion, with or without work still open. -/
inductive Signal where
  | pending
  | complete (openWork : Bool)
  deriving DecidableEq

inductive Turn where
  /-- The loop went on to the next iteration. -/
  | continued (loop : Loop) (ignoredCompletion : Bool)
  | completed (iteration : Nat)
  | capReached (iteration maxIterations : Nat)
  /-- The session was stopped; the loop stays as it is. -/
  | stopped
  /-- The loop is not an active loop of the session. -/
  | notOwned
  deriving DecidableEq

namespace Loop

/-- Another iteration, if the cap allows one. Iterations are counted in 64 bits, and the count starts over where
these end: only a loop without a cap can get there. -/
def goOn (l : Loop) (ignoredCompletion : Bool) : Option Loop × Turn :=
  if l.canContinue then
    let next := { l with iteration := (l.iteration + 1) % word }
    (some next, .continued next ignoredCompletion)
  else (none, .capReached l.iteration l.maxIterations)

/-- The loop after one turn, or nothing when it has ended, and what the turn was. Completion over open
work is ignored up to `maxIgnored` times in a row. -/
def advance (l : Loop) (session : String) (signal : Signal) (maxIgnored : Nat) (stopped : Bool) :
    Option Loop × Turn :=
  if !l.belongsTo session then (some l, .notOwned)
  else if stopped then (some l, .stopped)
  else match signal with
    | .pending => goOn { l with ignoredCompletions := 0 } false
    | .complete openWork =>
      if !openWork || maxIgnored ≤ l.ignoredCompletions then (none, .completed l.iteration)
      else goOn { l with ignoredCompletions := l.ignoredCompletions + 1 } true

end Loop

end AgentHooks
