import AgentHooks.Hook.Basic
import AgentHooks.World

/-!
Preemptive compaction: before the context window overflows, the host is asked to summarize the
session. One request at a time is on its way, and requests keep a distance in tool calls.
-/

namespace AgentHooks

namespace CompactionMemory

def due (m : CompactionMemory) (s : CompactionSettings) : Bool :=
  !m.inFlight &&
    !(m.usage.ratio s.defaultContextLimitTokens < s.warningThreshold) &&
    cooledDown m.lastRequestAt m.usage.toolCalls s.compactionCooldownToolCalls

def observe (m : CompactionMemory) (s : CompactionSettings) (usage : Usage) :
    CompactionMemory × Bool :=
  let m := { m with usage }
  if m.due s then ({ m with inFlight := true, lastRequestAt := some m.usage.toolCalls }, true)
  else (m, false)

/-- The request failed; its distance to the next one still counts. -/
def release (m : CompactionMemory) : CompactionMemory :=
  { m with inFlight := false }

def compacted (m : CompactionMemory) : CompactionMemory :=
  { m with inFlight := false, usage := m.usage.reset }

end CompactionMemory

namespace CompactionPolicy

def id : String := "preemptive-compaction"

def compact (w : World) (session event : String) : World :=
  match w.request .summarize (.summarize session) with
  | (w, none) => w.remark (.on id .inject "compaction_requested" event session)
  | (w, some _) =>
    { w with compaction := w.compaction.modify session CompactionMemory.release }.remark
      (.on id .skip "compaction_failed" event session)

def observe (s : CompactionSettings) (w : World) (session event : String) (f : Usage → Usage) :
    World :=
  let roster := w.compaction.enroll session .start
  let memory := (roster.get? session).getD .start
  let (memory, due) := memory.observe s (f memory.usage)
  let w := { w with compaction := roster.modify session fun _ => memory }
  if due then compact w session event else w

def onLifecycle (s : CompactionSettings) (w : World) (e : LifecycleEvent) : World :=
  match UsageReport.ofEvent? e with
  | some report => observe s w report.session "message.updated" (·.addReport report)
  | none =>
    match e.session? with
    | none => w
    | some session =>
      if e.kind = "session.compacted" then
        { w with compaction := w.compaction.modify session CompactionMemory.compacted }
      else if e.kind = "session.deleted" then { w with compaction := w.compaction.remove session }
      else w

def handle (s : CompactionSettings) : (e : Event) → e.Output → World → Handled World e
  | .toolAfter call, out, w =>
    .pass out
      (if call.session = "" then w
       else observe s w call.session "tool.execute.after" (·.addOutput out.output))
  | .lifecycle e, out, w => .pass out (onLifecycle s w e)
  | .toolBefore _, out, w => .pass out w
  | .commandBefore _, out, w => .pass out w
  | .chatMessage _, out, w => .pass out w
  | .messagesTransform _, out, w => .pass out w

def hook (settings : Settings) : Hook World :=
  ⟨id, 75, .lenient, handle settings.compaction⟩

end CompactionPolicy

end AgentHooks
