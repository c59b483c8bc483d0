import AgentHooks.Json.Basic
import AgentHooks.Settings.Basic
import AgentHooks.Text.Blank
import AgentHooks.Text.Lowercase

/-!
Settings from a configuration document of any shape. Each leaf is judged alone: one that is missing or
malformed takes its own default and leaves the others as they are. Only two pairs of limits are judged
together, since the lower one must not exceed the higher.
-/

namespace AgentHooks

/-- Mode names are read without regard to case or surrounding blanks. -/
def CompletionMode.ofText? (s : String) : Option CompletionMode :=
  match Text.lower (Text.trim s) with
  | "promise" => some .promise
  | "objective" => some .objective
  | _ => none

namespace Leaf

def leaf {α : Type} (read : Json → Option α) (record : Json) (key : String) (default : α) : α :=
  ((record.member? key).bind read).getD default

def flag : Json → String → Bool → Bool :=
  leaf Json.bool?

def count : Json → String → Nat → Nat :=
  leaf Json.nat?

def positive : Json → String → Nat → Nat :=
  leaf fun j => j.nat?.filter (· ≠ 0)

def ratio : Json → String → Float → Float :=
  leaf fun j => j.float?.filter fun x => x.isFinite && 0 < x && x ≤ 1

def nonblank? (j : Json) : Option String :=
  (j.string?.map Text.trim).filter (· ≠ "")

def text : Json → String → String → String :=
  leaf nonblank?

/-- A list counts even when it is empty; entries that are not texts, or blank, are left out. -/
def texts : Json → String → List String → List String :=
  leaf fun j => j.items?.map (·.filterMap nonblank?)

def mode : Json → String → CompletionMode → CompletionMode :=
  leaf fun j => j.string?.bind CompletionMode.ofText?

/-- The record under a key; anything else there reads as an empty record. -/
def part (record : Json) (key : String) : Json :=
  .ofOption id (record.member? key)

end Leaf

open Leaf

def AuditSettings.ofJson (j : Json) : AuditSettings :=
  let d : AuditSettings := {}
  { enabled := flag j "enabled" d.enabled
    path := text j "path" d.path }

def StopSettings.ofJson (j : Json) : StopSettings :=
  let d : StopSettings := {}
  { enabled := flag j "enabled" d.enabled
    commandNames := texts j "commandNames" d.commandNames
    legacyCommandNames := texts j "legacyCommandNames" d.legacyCommandNames
    slashCommandTools := texts j "slashCommandTools" d.slashCommandTools }

def AutopilotSettings.ofJson (j : Json) : AutopilotSettings :=
  let d : AutopilotSettings := {}
  { enabled := flag j "enabled" d.enabled
    stateFile := text j "stateFile" d.stateFile
    defaultMaxIterations := count j "defaultMaxIterations" d.defaultMaxIterations
    defaultCompletionMode := mode j "defaultCompletionMode" d.defaultCompletionMode
    defaultCompletionPromise := text j "defaultCompletionPromise" d.defaultCompletionPromise
    maxIgnoredCompletionCycles := count j "maxIgnoredCompletionCycles" d.maxIgnoredCompletionCycles
    notifyOnStop := flag j "notifyOnStop" d.notifyOnStop }

namespace PressureSettings

def ofLeaves (j : Json) : PressureSettings :=
  let d : PressureSettings := {}
  { enabled := flag j "enabled" d.enabled
    sampleCooldownToolCalls := count j "sampleCooldownToolCalls" d.sampleCooldownToolCalls
    warningMaxRssMb := positive j "warningMaxRssMb" d.warningMaxRssMb
    criticalMaxRssMb := positive j "criticalMaxRssMb" d.criticalMaxRssMb
    warningOpencodeProcesses :=
      positive j "warningOpencodeProcesses" d.warningOpencodeProcesses
    reminderCooldownToolCalls :=
      count j "reminderCooldownToolCalls" d.reminderCooldownToolCalls
    criticalReminderCooldownToolCalls :=
      count j "criticalReminderCooldownToolCalls" d.criticalReminderCooldownToolCalls
    criticalEscalationWindowToolCalls :=
      positive j "criticalEscalationWindowToolCalls" d.criticalEscalationWindowToolCalls
    criticalPauseAfterEvents :=
      positive j "criticalPauseAfterEvents" d.criticalPauseAfterEvents
    criticalEscalationAfterEvents :=
      positive j "criticalEscalationAfterEvents" d.criticalEscalationAfterEvents
    autoPause := flag j "autoPause" d.autoPause
    maxSessionStateEntries := positive j "maxSessionStateEntries" d.maxSessionStateEntries
    samplerTimeoutMs := positive j "samplerTimeoutMs" d.samplerTimeoutMs
    processPatterns := texts j "processPatterns" d.processPatterns }

/-- Memory limits the wrong way round are replaced by the default pair. -/
def orderMemory (p : PressureSettings) : PressureSettings :=
  let d : PressureSettings := {}
  if p.criticalMaxRssMb < p.warningMaxRssMb then
    { p with warningMaxRssMb := d.warningMaxRssMb, criticalMaxRssMb := d.criticalMaxRssMb }
  else p

def orderEvents (p : PressureSettings) : PressureSettings :=
  let d : PressureSettings := {}
  if p.criticalEscalationAfterEvents < p.criticalPauseAfterEvents then
    { p with
      criticalPauseAfterEvents := d.criticalPauseAfterEvents
      criticalEscalationAfterEvents := d.criticalEscalationAfterEvents }
  else p

def ofJson (j : Json) : PressureSettings :=
  (ofLeaves j).orderMemory.orderEvents

end PressureSettings

def ContextSettings.ofJson (j : Json) : ContextSettings :=
  let d : ContextSettings := {}
  { enabled := flag j "enabled" d.enabled
    warningThreshold := ratio j "warningThreshold" d.warningThreshold
    defaultContextLimitTokens := positive j "defaultContextLimitTokens" d.defaultContextLimitTokens
    reminderCooldownToolCalls := count j "reminderCooldownToolCalls" d.reminderCooldownToolCalls
    minTokenDeltaForReminder := count j "minTokenDeltaForReminder" d.minTokenDeltaForReminder
    maxSessionStateEntries := positive j "maxSessionStateEntries" d.maxSessionStateEntries }

def CompactionSettings.ofJson (j : Json) : CompactionSettings :=
  let d : CompactionSettings := {}
  { enabled := flag j "enabled" d.enabled
    warningThreshold := ratio j "warningThreshold" d.warningThreshold
    defaultContextLimitTokens := positive j "defaultContextLimitTokens" d.defaultContextLimitTokens
    compactionCooldownToolCalls := count j "compactionCooldownToolCalls" d.compactionCooldownToolCalls
    maxSessionStateEntries := positive j "maxSessionStateEntries" d.maxSessionStateEntries }

/-- The settings that a configuration document means. Total: any document means some settings. -/
def Settings.ofJson (j : Json) : Settings :=
  let d : Settings := {}
  { enabled := flag j "enabled" d.enabled
    disabled := .ofList (texts j "disabled" [])
    order := (texts j "order" d.order).eraseDups
    audit := .ofJson (part j "audit")
    stopGuard := .ofJson (part j "stopContinuationGuard")
    autopilot := .ofJson (part j "autopilot")
    pressure := .ofJson (part j "processPressure")
    context := .ofJson (part j "contextWindowMonitor")
    compaction := .ofJson (part j "preemptiveCompaction") }

end AgentHooks
