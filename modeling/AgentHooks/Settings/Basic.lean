import AgentHooks.NameSet

/-!
The settings under which hooks run. Every field has a value; what a configuration leaves out, or gets
wrong, has the value stated here.
-/

namespace AgentHooks

inductive CompletionMode where
  | promise
  | objective
  deriving DecidableEq

def CompletionMode.name : CompletionMode → String
  | promise => "promise"
  | objective => "objective"

structure AuditSettings where
  enabled : Bool := false
  path : String := ".hookgate/audit.jsonl"
  deriving BEq

structure StopSettings where
  enabled : Bool := true
  /-- The names of stop commands, without a leading slash. -/
  commandNames : List String := ["autopilot-stop", "stop-continuation"]
  /-- Older names that still stop. -/
  legacyCommandNames : List String := ["ralph-stop", "cancel-ralph", "autopilot-pause"]
  /-- Tools through which the host passes slash commands. -/
  slashCommandTools : List String := ["slashcommand"]
  deriving BEq

structure AutopilotSettings where
  enabled : Bool := true
  stateFile : String := ".hookgate/autopilot-state.json"
  /-- The cap of a loop that is started without one; 0 is no cap. -/
  defaultMaxIterations : Nat := 25
  defaultCompletionMode : CompletionMode := .promise
  defaultCompletionPromise : String := "DONE"
  /-- How often in a row completion may be signalled over open work before the loop ends. -/
  maxIgnoredCompletionCycles : Nat := 1
  notifyOnStop : Bool := true
  deriving BEq

structure PressureSettings where
  enabled : Bool := true
  sampleCooldownToolCalls : Nat := 5
  warningMaxRssMb : Nat := 6144
  criticalMaxRssMb : Nat := 10240
  warningOpencodeProcesses : Nat := 6
  reminderCooldownToolCalls : Nat := 25
  criticalReminderCooldownToolCalls : Nat := 10
  criticalEscalationWindowToolCalls : Nat := 40
  criticalPauseAfterEvents : Nat := 2
  criticalEscalationAfterEvents : Nat := 4
  autoPause : Bool := true
  maxSessionStateEntries : Nat := 256
  samplerTimeoutMs : Nat := 2500
  /-- Processes whose command line contains one of these are the agents'. -/
  processPatterns : List String := ["opencode"]
  deriving BEq

structure ContextSettings where
  enabled : Bool := true
  warningThreshold : Float := 0.7
  defaultContextLimitTokens : Nat := 200000
  reminderCooldownToolCalls : Nat := 15
  minTokenDeltaForReminder : Nat := 10000
  maxSessionStateEntries : Nat := 256
  deriving BEq

structure CompactionSettings where
  enabled : Bool := true
  warningThreshold : Float := 0.85
  defaultContextLimitTokens : Nat := 200000
  compactionCooldownToolCalls : Nat := 20
  maxSessionStateEntries : Nat := 256
  deriving BEq

structure Settings where
  /-- The switch for everything: when off, no hook runs. -/
  enabled : Bool := true
  /-- Hooks that never run. -/
  disabled : NameSet := .empty
  /-- Hooks that run first, in this order. -/
  order : List String := []
  audit : AuditSettings := {}
  stopGuard : StopSettings := {}
  autopilot : AutopilotSettings := {}
  pressure : PressureSettings := {}
  context : ContextSettings := {}
  compaction : CompactionSettings := {}
  deriving BEq

end AgentHooks
