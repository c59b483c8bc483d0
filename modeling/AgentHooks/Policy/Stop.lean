import AgentHooks.Hook.Basic
import AgentHooks.Session.StopWords
import AgentHooks.World

/-!
The stop latch. A stop command latches its session; the next chat message that is no stop command
itself, or the end of the session, releases it. While the latch holds, the loop stays silent.
-/

namespace AgentHooks.StopPolicy

def id : String := "stop-continuation-guard"

/-- Latches a session, and says so even when it was latched before. -/
def latch (w : World) (session event : String) : World :=
  if session = "" then w
  else (w.stop session).remark (.on id .state "stop_requested" event session)

def release (w : World) (session event : String) : World :=
  if w.isStopped session then
    (w.clearStop session).remark (.on id .state "stop_cleared" event session)
  else w

def handle (words : StopWords) : (e : Event) → e.Output → World → Handled World e
  | .toolBefore call, args, w =>
    .pass args (if words.matchesTool call args then latch w call.session "tool.execute.before" else w)
  | .commandBefore command, out, w =>
    .pass out
      (if words.matchesCommand command.command then latch w command.session "command.execute.before"
       else w)
  | .chatMessage turn, out, w =>
    .pass out (if words.matchesChat out then w else release w turn.session "chat.message")
  | .lifecycle e, out, w =>
    .pass out
      (if e.kind = "session.deleted" then
        match e.session? with
        | some session => release w session "session.deleted"
        | none => w
       else w)
  | .toolAfter _, out, w => .pass out w
  | .messagesTransform _, out, w => .pass out w

def hook (settings : Settings) : Hook World :=
  ⟨id, 10, .lenient, handle (.ofSettings settings.stopGuard)⟩

end AgentHooks.StopPolicy
