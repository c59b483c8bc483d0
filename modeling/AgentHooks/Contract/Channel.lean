import AgentHooks.Wire.Schema

/-!
The channels on which the host announces what happens.
-/

namespace AgentHooks

inductive Channel where
  | event
  | toolBefore
  | toolAfter
  | commandBefore
  | chatMessage
  | messagesTransform
  deriving DecidableEq

namespace Channel

def name : Channel → String
  | event => "event"
  | toolBefore => "tool.execute.before"
  | toolAfter => "tool.execute.after"
  | commandBefore => "command.execute.before"
  | chatMessage => "chat.message"
  | messagesTransform => "experimental.chat.messages.transform"

def all : List Channel :=
  [event, toolBefore, toolAfter, commandBefore, chatMessage, messagesTransform]

/-- On these channels the announced action has not happened yet and can be refused. -/
def isBefore : Channel → Bool
  | toolBefore | commandBefore => true
  | _ => false

def codec : Codec Channel :=
  .variant (all.map fun c => (c.name, c)) name

end Channel

end AgentHooks
