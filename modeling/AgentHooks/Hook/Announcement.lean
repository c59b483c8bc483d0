import AgentHooks.Hook.Event

/-!
Events as the host announces them: a channel and two JSON values, one for the input and one for the
output that hooks may change.
-/

namespace AgentHooks

structure Announcement where
  event : Event
  output : event.Output

/-- Which of the two values is not what its channel asks for, and why. -/
structure PayloadError where
  what : String
  error : DecodeError

def PayloadError.message (e : PayloadError) : String :=
  e.what ++ ": " ++ e.error.message

namespace Announcement

def payload {α : Type} (codec : Codec α) (what : String) (value : Json) : Except PayloadError α :=
  (codec.read value).mapError fun error => ⟨what, error⟩

/-- Like `payload`, with null in the place of a value that has nothing in it. -/
def payloadOr {α : Type} (blank : α) (codec : Codec α) (what : String) (value : Json) :
    Except PayloadError α :=
  if value.isNull then .ok blank else payload codec what value

def decode (channel : Channel) (input output : Json) : Except PayloadError Announcement :=
  match channel with
  | .event => do
    let e ← payload LifecycleEvent.codec "event" input
    .ok ⟨.lifecycle e, ()⟩
  | .toolBefore => do
    let call ← payload ToolCall.codec "tool input" input
    let args ← payloadOr .blank ToolArguments.codec "tool output" output
    .ok ⟨.toolBefore call, args⟩
  | .toolAfter => do
    let call ← payload ToolCall.codec "tool input" input
    let result ← payloadOr .blank ToolResult.codec "tool output" output
    .ok ⟨.toolAfter call, result⟩
  | .commandBefore => do
    let command ← payload CommandCall.codec "command input" input
    let parts ← payloadOr .blank Composition.commandCodec "command output" output
    .ok ⟨.commandBefore command, parts⟩
  | .chatMessage => do
    let turn ← payload ChatTurn.codec "chat input" input
    let parts ← payloadOr .blank Composition.chatCodec "chat output" output
    .ok ⟨.chatMessage turn, parts⟩
  | .messagesTransform => do
    let request ← payloadOr .blank HistoryRequest.codec "transform input" input
    let history ← payloadOr .blank History.codec "transform output" output
    .ok ⟨.messagesTransform request, history⟩

end Announcement

def Event.writeOutput : (e : Event) → e.Output → Json
  | .lifecycle _, _ => .null
  | .toolBefore _, out => ToolArguments.codec.write out
  | .toolAfter _, out => ToolResult.codec.write out
  | .commandBefore _, out => Composition.commandCodec.write out
  | .chatMessage _, out => Composition.chatCodec.write out
  | .messagesTransform _, out => History.codec.write out

end AgentHooks
