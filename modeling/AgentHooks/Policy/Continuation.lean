import AgentHooks.Hook.Basic
import AgentHooks.Loop.Advance
import AgentHooks.Loop.Marker
import AgentHooks.Loop.Prompt
import AgentHooks.Session.StopWords
import AgentHooks.World

/-!
The loop at work. When the session of an active loop goes idle, the agent's latest text decides: it
signals completion, and the loop ends, or it does not, and the agent is prompted to go on. A stop
command, or the end of the session, removes the loop.
-/

namespace AgentHooks.ContinuationPolicy

def id : String := "autopilot"

def idle : String := "session.idle"

def remark (w : World) (stage : Stage) (reason event session : String) : World :=
  w.remark (.on id stage reason event session)

/-- The operator hears about the end of a loop if the settings say so. -/
def notify (s : AutopilotSettings) (w : World) (session title message : String)
    (level : NoticeLevel) : World :=
  if s.notifyOnStop then w.notify session title message level else w

def ownedLoop (w : World) (session event : String) : World × Option Loop :=
  match w.cell.load w.files with
  | .ok (some l) => (w, if l.belongsTo session then some l else none)
  | .ok none => (w, none)
  | .error _ => (remark w .skip "state_unavailable" event session, none)

def clearFor (w : World) (session event reason : String) : World × Option Fault :=
  match w.cell.clearSession session w.files with
  | (.error fault, files) => ({ w with files }, some fault)
  | (.ok false, files) => ({ w with files }, none)
  | (.ok true, files) => (remark { w with files } .state reason event session, none)

/-- Whether the session still has work to do; unknown work is none. -/
def hasOpenWork (w : World) (session : String) : World × Bool :=
  match w.ask .todos session (·.todos) with
  | (w, .ok todos) => (w, todos.any Todo.isOpen)
  | (w, .error _) => (w, false)

/-- What the agent's latest text says about completion. Open work matters only to a completed task. -/
def signal (w : World) (session : String) (l : Loop) (messages : List Message) : World × Signal :=
  let text := (Message.latestAssistantText messages).getD ""
  if (Marker.ofMode l.mode l.promise).isIn text then
    let (w, openWork) := hasOpenWork w session
    (w, .complete openWork)
  else (w, .pending)

/-- Prompts the agent to go on, unless the session was stopped in the meantime. -/
def inject (w : World) (session : String) (l : Loop) : World :=
  if w.isStopped session then remark w .skip "stopped" idle session
  else
    match w.request .prompt (.sendPrompt session l.continuationPrompt) with
    | (w, none) => remark w .inject "continuation_sent" idle session
    | (w, some _) => remark w .skip "prompt_failed" idle session

def conclude (s : AutopilotSettings) (w : World) (session : String) : Turn → World
  | .notOwned => w
  | .stopped => remark w .skip "stopped" idle session
  | .completed iteration =>
    notify s (remark w .state "completed" idle session) session "Autopilot complete"
      ("Completion signalled after " ++ toString iteration ++ " iteration(s)") .info
  | .capReached iteration maxIterations =>
    notify s (remark w .state "max_iterations_reached" idle session) session "Autopilot stopped"
      ("Max iterations reached (" ++ toString iteration ++ "/" ++ toString maxIterations ++ ")")
      .warning
  | .continued l ignored =>
    inject (if ignored then remark w .state "completion_ignored" idle session else w) session l

/-- One turn of the loop as it is stored now, which need not be the one that was looked at first. -/
def turn (s : AutopilotSettings) (w : World) (session : String) (signal : Signal) :
    World × Option Fault :=
  let step (l : Loop) := l.advance session signal s.maxIgnoredCompletionCycles (w.isStopped session)
  match w.cell.update step w.files with
  | (.error fault, files) => ({ w with files }, some fault)
  | (.ok none, files) => ({ w with files }, none)
  | (.ok (some t), files) => (conclude s { w with files } session t, none)

def onIdle (s : AutopilotSettings) (w : World) (session : String) : World × Option Fault :=
  match ownedLoop w session idle with
  | (w, none) => (w, none)
  | (w, some l) =>
    if w.isStopped session then (remark w .skip "stopped" idle session, none)
    else
      match w.ask .messages session (·.messages) with
      | (w, .error _) => (remark w .skip "history_unavailable" idle session, none)
      | (w, .ok messages) =>
        let (w, sig) := signal w session l messages
        turn s w session sig

def onLifecycle (s : AutopilotSettings) (w : World) (e : LifecycleEvent) : World × Option Fault :=
  match e.session? with
  | none => (w, none)
  | some session =>
    if e.kind = idle then onIdle s w session
    else if e.kind = "session.deleted" then clearFor w session "session.deleted" "session_deleted"
    else (w, none)

def onStop (w : World) (isStop : Bool) (session event : String) : World × Option Fault :=
  if isStop then clearFor w session event "stop_command" else (w, none)

def handled {e : Event} (output : e.Output) (result : World × Option Fault) : Handled World e :=
  ⟨output, result.1, result.2⟩

def handle (s : AutopilotSettings) (words : StopWords) :
    (e : Event) → e.Output → World → Handled World e
  | .lifecycle e, out, w => handled out (onLifecycle s w e)
  | .toolBefore call, args, w =>
    handled args (onStop w (words.matchesTool call args) call.session "tool.execute.before")
  | .commandBefore command, out, w =>
    handled out
      (onStop w (words.matchesCommand command.command) command.session "command.execute.before")
  | .toolAfter _, out, w => .pass out w
  | .chatMessage _, out, w => .pass out w
  | .messagesTransform _, out, w => .pass out w

def hook (settings : Settings) : Hook World :=
  ⟨id, 20, .lenient, handle settings.autopilot (.ofSettings settings.stopGuard)⟩

end AgentHooks.ContinuationPolicy
