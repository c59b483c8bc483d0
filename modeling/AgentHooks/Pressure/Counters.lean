import AgentHooks.Pressure.Sample
import AgentHooks.Session.Roster

/-!
How one session has fared under pressure, counted in its own tool calls, and what a new sample calls
for.
-/

namespace AgentHooks

inductive PressureLevel where
  | normal
  | warning
  | critical
  deriving DecidableEq

/-- Memory alone makes pressure critical; many processes are a warning. -/
def PressureLevel.classify (s : Sample) (c : PressureSettings) : PressureLevel :=
  if c.criticalMaxRssMb ≤ s.totalRssMb then .critical
  else if c.warningMaxRssMb ≤ s.totalRssMb || c.warningOpencodeProcesses ≤ s.processCount then
    .warning
  else .normal

structure PressureResponse where
  /-- Whether a reminder of the sample's level is due. -/
  remind : Bool
  pause : Bool
  escalate : Bool
  /-- How many critical samples the window holds. -/
  criticalEvents : Nat
  deriving DecidableEq

structure PressureCounters where
  toolCalls : Nat
  lastSampleAt : Option Nat
  lastReminderAt : Option Nat
  lastCriticalReminderAt : Option Nat
  /-- The tool calls at which pressure was critical, oldest first. -/
  criticalEvents : List Nat
  escalated : Bool
  deriving DecidableEq

namespace PressureCounters

def start : PressureCounters :=
  ⟨0, none, none, none, [], false⟩

def tick (c : PressureCounters) (cooldown : Nat) : PressureCounters × Bool :=
  let now := c.toolCalls + 1
  if cooledDown c.lastSampleAt now cooldown then
    ({ c with toolCalls := now, lastSampleAt := some now }, true)
  else ({ c with toolCalls := now }, false)

def slide (c : PressureCounters) (window : Nat) : PressureCounters :=
  { c with criticalEvents := c.criticalEvents.dropWhile fun before => window ≤ c.toolCalls - before }

def note (c : PressureCounters) (level : PressureLevel) (s : PressureSettings) :
    PressureCounters × Bool :=
  let now := c.toolCalls
  match level with
  | .normal => (c, false)
  | .warning =>
    if cooledDown c.lastReminderAt now s.reminderCooldownToolCalls then
      ({ c with lastReminderAt := some now }, true)
    else (c, false)
  | .critical =>
    let c := { c with criticalEvents := c.criticalEvents ++ [now] }
    if cooledDown c.lastCriticalReminderAt now s.criticalReminderCooldownToolCalls then
      ({ c with lastCriticalReminderAt := some now }, true)
    else (c, false)

/-- Below the limit of escalation, the next rise to it escalates anew. -/
def rearm (c : PressureCounters) (s : PressureSettings) : PressureCounters :=
  if c.criticalEvents.length < s.criticalEscalationAfterEvents then { c with escalated := false }
  else c

def observe (c : PressureCounters) (level : PressureLevel) (s : PressureSettings) :
    PressureCounters × PressureResponse :=
  let (c, remind) := (c.slide s.criticalEscalationWindowToolCalls).note level s
  let c := c.rearm s
  let events := c.criticalEvents.length
  let critical := level == .critical
  let escalate := critical && s.criticalEscalationAfterEvents ≤ events && !c.escalated
  ({ c with escalated := c.escalated || escalate },
    { remind, pause := critical && s.criticalPauseAfterEvents ≤ events, escalate
      criticalEvents := events })

end PressureCounters

end AgentHooks
