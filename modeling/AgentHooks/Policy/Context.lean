import AgentHooks.Decimal.Binary
import AgentHooks.Hook.Basic
import AgentHooks.World

/-!
Reminders that the context window fills up: from a share of the window on, not too often, and only
when usage has grown since the last one.
-/

namespace AgentHooks

namespace ContextMemory

def due (m : ContextMemory) (s : ContextSettings) : Bool :=
  !(m.usage.ratio s.defaultContextLimitTokens < s.warningThreshold) &&
    cooledDown m.lastReminderAt m.usage.toolCalls s.reminderCooldownToolCalls &&
    match m.lastReminderTokens with
    | none => true
    | some last => s.minTokenDeltaForReminder ≤ m.usage.used - last

def reminded (m : ContextMemory) : ContextMemory :=
  { m with lastReminderAt := some m.usage.toolCalls, lastReminderTokens := some m.usage.used }

def addOutput (m : ContextMemory) (s : ContextSettings) (text : String) : ContextMemory × Bool :=
  let m := { m with usage := m.usage.addOutput text }
  if m.due s then (m.reminded, true) else (m, false)

/-- After compaction usage starts over, and the growth since the last reminder no longer counts. -/
def compacted (m : ContextMemory) : ContextMemory :=
  { m with usage := m.usage.reset, lastReminderTokens := none }

def reminderText (m : ContextMemory) (s : ContextSettings) : String :=
  "[CONTEXT WINDOW]\nContext usage is at " ++
    Decimal.wholeText (m.usage.ratio s.defaultContextLimitTokens * 100) ++ "% (" ++
    toString m.usage.used ++ " of " ++ toString (m.usage.window s.defaultContextLimitTokens) ++
    " tokens). Keep responses concise, avoid reading large files whole, and wrap up the current " ++
    "step before starting new work."

end ContextMemory

namespace ContextPolicy

def id : String := "context-window-monitor"

def onLifecycle (r : Roster ContextMemory) (e : LifecycleEvent) : Roster ContextMemory :=
  match UsageReport.ofEvent? e with
  | some report =>
    (r.enroll report.session .start).modify report.session fun m =>
      { m with usage := m.usage.addReport report }
  | none =>
    match e.session? with
    | none => r
    | some session =>
      if e.kind = "session.compacted" then r.modify session ContextMemory.compacted
      else if e.kind = "session.deleted" then r.remove session
      else r

def onToolAfter (s : ContextSettings) (session : String) (out : ToolResult) (w : World) :
    ToolResult × World :=
  if session = "" then (out, w)
  else
    let roster := w.context.enroll session .start
    let (memory, due) := ((roster.get? session).getD .start).addOutput s out.output
    let w := { w with context := roster.modify session fun _ => memory }
    if due then
      (out.appendReminder (memory.reminderText s),
        w.remark (.on id .inject "context_reminder" "tool.execute.after" session))
    else (out, w)

def handle (s : ContextSettings) : (e : Event) → e.Output → World → Handled World e
  | .toolAfter call, out, w =>
    let (out, w) := onToolAfter s call.session out w
    .pass out w
  | .lifecycle e, out, w => .pass out { w with context := onLifecycle w.context e }
  | .toolBefore _, out, w => .pass out w
  | .commandBefore _, out, w => .pass out w
  | .chatMessage _, out, w => .pass out w
  | .messagesTransform _, out, w => .pass out w

def hook (settings : Settings) : Hook World :=
  ⟨id, 70, .lenient, handle settings.context⟩

end ContextPolicy

end AgentHooks
