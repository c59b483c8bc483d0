import AgentHooks.Contract.Call
import AgentHooks.Contract.Channel
import AgentHooks.Contract.Lifecycle

/-!
What a hook is called with: an event, which no hook can change, and the output that belongs to events
of its channel, which hooks may change one after another.
-/

namespace AgentHooks

inductive Event where
  | lifecycle (e : LifecycleEvent)
  | toolBefore (call : ToolCall)
  | toolAfter (call : ToolCall)
  | commandBefore (command : CommandCall)
  | chatMessage (turn : ChatTurn)
  | messagesTransform (request : HistoryRequest)

namespace Event

/-- What hooks may change on each channel; nothing about a lifecycle event can be changed. -/
abbrev Output : Event → Type
  | lifecycle _ => Unit
  | toolBefore _ => ToolArguments
  | toolAfter _ => ToolResult
  | commandBefore _ => Composition
  | chatMessage _ => Composition
  | messagesTransform _ => History

def channel : Event → Channel
  | lifecycle _ => .event
  | toolBefore _ => .toolBefore
  | toolAfter _ => .toolAfter
  | commandBefore _ => .commandBefore
  | chatMessage _ => .chatMessage
  | messagesTransform _ => .messagesTransform

/-- A lifecycle event goes by its own kind, any other by its channel. -/
def kind : Event → String
  | lifecycle e => e.kind
  | other => other.channel.name

/-- The session concerned, empty when there is none. -/
def session : Event → String
  | lifecycle e => e.session?.getD ""
  | toolBefore call => call.session
  | toolAfter call => call.session
  | commandBefore command => command.session
  | chatMessage turn => turn.session
  | messagesTransform _ => ""

end Event

end AgentHooks
