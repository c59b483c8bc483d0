import AgentHooks.Json.Basic
import AgentHooks.Settings.Basic

/-!
Settings as a configuration document that says everything.
-/

namespace AgentHooks

def Json.ofTexts (texts : List String) : Json :=
  .array (texts.map .string)

def AuditSettings.toJson (s : AuditSettings) : Json :=
  .object [
    ("enabled", .bool s.enabled),
    ("path", .string s.path)]

def StopSettings.toJson (s : StopSettings) : Json :=
  .object [
    ("enabled", .bool s.enabled),
    ("commandNames", .ofTexts s.commandNames),
    ("legacyCommandNames", .ofTexts s.legacyCommandNames),
    ("slashCommandTools", .ofTexts s.slashCommandTools)]

def AutopilotSettings.toJson (s : AutopilotSettings) : Json :=
  .object [
    ("enabled", .bool s.enabled),
    ("stateFile", .string s.stateFile),
    ("defaultMaxIterations", .ofNat s.defaultMaxIterations),
    ("defaultCompletionMode", .string s.defaultCompletionMode.name),
    ("defaultCompletionPromise", .string s.defaultCompletionPromise),
    ("maxIgnoredCompletionCycles", .ofNat s.maxIgnoredCompletionCycles),
    ("notifyOnStop", .bool s.notifyOnStop)]

def PressureSettings.toJson (s : PressureSettings) : Json :=
  .object [
    ("enabled", .bool s.enabled),
    ("sampleCooldownToolCalls", .ofNat s.sampleCooldownToolCalls),
    ("warningMaxRssMb", .ofNat s.warningMaxRssMb),
    ("criticalMaxRssMb", .ofNat s.criticalMaxRssMb),
    ("warningOpencodeProcesses", .ofNat s.warningOpencodeProcesses),
    ("reminderCooldownToolCalls", .ofNat s.reminderCooldownToolCalls),
    ("criticalReminderCooldownToolCalls", .ofNat s.criticalReminderCooldownToolCalls),
    ("criticalEscalationWindowToolCalls", .ofNat s.criticalEscalationWindowToolCalls),
    ("criticalPauseAfterEvents", .ofNat s.criticalPauseAfterEvents),
    ("criticalEscalationAfterEvents", .ofNat s.criticalEscalationAfterEvents),
    ("autoPause", .bool s.autoPause),
    ("maxSessionStateEntries", .ofNat s.maxSessionStateEntries),
    ("samplerTimeoutMs", .ofNat s.samplerTimeoutMs),
    ("processPatterns", .ofTexts s.processPatterns)]

def ContextSettings.toJson (s : ContextSettings) : Json :=
  .object [
    ("enabled", .bool s.enabled),
    ("warningThreshold", .float s.warningThreshold),
    ("defaultContextLimitTokens", .ofNat s.defaultContextLimitTokens),
    ("reminderCooldownToolCalls", .ofNat s.reminderCooldownToolCalls),
    ("minTokenDeltaForReminder", .ofNat s.minTokenDeltaForReminder),
    ("maxSessionStateEntries", .ofNat s.maxSessionStateEntries)]

def CompactionSettings.toJson (s : CompactionSettings) : Json :=
  .object [
    ("enabled", .bool s.enabled),
    ("warningThreshold", .float s.warningThreshold),
    ("defaultContextLimitTokens", .ofNat s.defaultContextLimitTokens),
    ("compactionCooldownToolCalls", .ofNat s.compactionCooldownToolCalls),
    ("maxSessionStateEntries", .ofNat s.maxSessionStateEntries)]

def Settings.toJson (s : Settings) : Json :=
  .object [
    ("enabled", .bool s.enabled),
    ("disabled", .ofTexts s.disabled.names),
    ("order", .ofTexts s.order),
    ("audit", s.audit.toJson),
    ("stopContinuationGuard", s.stopGuard.toJson),
    ("autopilot", s.autopilot.toJson),
    ("processPressure", s.pressure.toJson),
    ("contextWindowMonitor", s.context.toJson),
    ("preemptiveCompaction", s.compaction.toJson)]

end AgentHooks
