import AgentHooks.Settings.Basic
import AgentHooks.Wire.Schema

/-!
The continuation loop of a session: the task it pushes towards and how far it has come.
-/

namespace AgentHooks

def CompletionMode.codec : Codec CompletionMode :=
  .variant ([promise, objective].map fun m => (m.name, m)) name

structure Loop where
  active : Bool
  session : String
  /-- The task that every prompt repeats. -/
  prompt : String
  iteration : Nat
  /-- The cap on iterations; 0 is no cap. -/
  maxIterations : Nat
  mode : CompletionMode
  promise : String
  startedAt : Timestamp
  /-- Completion signals in a row that were ignored because work was still open. -/
  ignoredCompletions : Nat
  deriving DecidableEq

namespace Loop

/-- How far a counter of 64 bits goes. -/
def word : Nat := Nat.pow 2 64

def start (now : Timestamp) (session prompt : String) (maxIterations : Nat) (mode : CompletionMode)
    (promise : String) : Loop where
  active := true
  session := session
  prompt := prompt
  iteration := 1
  maxIterations := maxIterations
  mode := mode
  promise := promise
  startedAt := now
  ignoredCompletions := 0

/-- Records without a starting time count as started when they are read. -/
def codec (now : Timestamp) : Codec Loop :=
  .record "AutopilotLoopState"
    (.field (.defaulted "active" .bool false) <| .field (.required "sessionId" .string) <|
      .field (.defaulted "prompt" .string "") <| .field (.defaulted "iteration" .word64 1) <|
      .field (.defaulted "maxIterations" .word64 0) <|
      .field (.defaulted "completionMode" CompletionMode.codec .promise) <|
      .field (.defaulted "completionPromise" .string "DONE") <|
      .field (.defaulted "startedAt" .timestamp now) <|
      .field (.defaulted "ignoredCompletions" .word64 0) .done)
    (fun (active, session, prompt, iteration, maxIterations, mode, promise, startedAt, ignored, ()) =>
      ⟨active, session, prompt, iteration, maxIterations, mode, promise, startedAt, ignored⟩)
    (fun l => (l.active, l.session, l.prompt, l.iteration, l.maxIterations, l.mode, l.promise,
      l.startedAt, l.ignoredCompletions, ()))

def canContinue (l : Loop) : Bool :=
  l.maxIterations == 0 || l.iteration < l.maxIterations

def belongsTo (l : Loop) (session : String) : Bool :=
  l.active && l.session == session

end Loop

end AgentHooks
