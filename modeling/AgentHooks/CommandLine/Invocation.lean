import AgentHooks.CommandLine.Reading
import AgentHooks.Files.Path

/-!
What the arguments ask for.
-/

namespace AgentHooks.CommandLine

structure LoopPlan where
  session : String
  prompt : String
  maxIterations : Option Nat
  mode : Option CompletionMode
  promise : Option String
  deriving DecidableEq

inductive Task where
  | serve
  | order
  | config
  | start (plan : LoopPlan)
  | stop
  | status
  deriving DecidableEq

structure Invocation where
  config : Option Path
  /-- Where relative places of files start. -/
  project : Path
  task : Task
  deriving DecidableEq

namespace Level

def value? (l : Level) (s : Switch) : Option String :=
  l.values.lookup s

def plan (l : Level) : LoopPlan where
  session := l.operand.getD ""
  prompt := (l.value? .prompt).getD ""
  maxIterations := (l.value? .maxIterations).bind count?
  mode := (l.value? .mode).bind mode?
  promise := l.value? .promise

def task? (l : Level) : Option Task :=
  match l.command with
  | .serve => some .serve
  | .order => some .order
  | .config => some .config
  | .start => some (.start l.plan)
  | .stop => some .stop
  | .status => some .status
  | .program | .loop | .help => none

end Level

/-- The value that was given to a switch at the innermost level that has one. -/
def innermost? (levels : List Level) (s : Switch) : Option String :=
  levels.findSome? (·.value? s)

def Invocation.ofLevels? (levels : List Level) : Option Invocation := do
  let innermost ← levels.head?
  let task ← innermost.task?
  some {
    config := (innermost? levels .config).map Path.mk
    project := ⟨(innermost? levels .project).getD "."⟩
    task }

def invocation (args : List String) : Except Ending Invocation :=
  (levels args).bind fun levels =>
    match Invocation.ofLevels? levels with
    | some i => .ok i
    | none => .error .misuse

end AgentHooks.CommandLine
