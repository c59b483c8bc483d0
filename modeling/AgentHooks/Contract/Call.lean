import AgentHooks.Contract.Message

/-!
What the host announces on the channels other than lifecycle events: the input, which hooks only read,
and the output, which they may change.
-/

namespace AgentHooks

structure ToolCall where
  tool : String
  session : String
  call : String

def ToolCall.codec : Codec ToolCall :=
  .record "ToolInput"
    (.field (.required "tool" .string) <|
      .field ((Field.required "sessionId" .string).orNamed "sessionID") <|
      .field ((Field.defaulted "callId" .string "").orNamed "callID") .done)
    (fun (tool, session, call, ()) => ⟨tool, session, call⟩)
    (fun c => (c.tool, c.session, c.call, ()))

structure ToolArguments where
  args : Json

namespace ToolArguments

def blank : ToolArguments :=
  ⟨.null⟩

def codec : Codec ToolArguments :=
  .record "ToolBeforeOutput" (.field (.defaulted "args" .json .null) .done)
    (fun (args, ()) => ⟨args⟩)
    (fun o => (o.args, ()))

def command? (o : ToolArguments) : Option String :=
  (o.args.member? "command").bind Json.string?

end ToolArguments

structure ToolResult where
  title : String
  output : String
  metadata : Json

namespace ToolResult

def blank : ToolResult :=
  ⟨"", "", .null⟩

def codec : Codec ToolResult :=
  .record "ToolAfterOutput"
    (.field (.defaulted "title" .string "") <| .field (.defaulted "output" .string "") <|
      .field (.defaulted "metadata" .json .null) .done)
    (fun (title, output, metadata, ()) => ⟨title, output, metadata⟩)
    (fun o => (o.title, o.output, o.metadata, ()))

/-- Adds a paragraph that the agent will read after the tool's own output. -/
def appendReminder (o : ToolResult) (text : String) : ToolResult :=
  { o with output := if o.output = "" then text else o.output ++ "\n\n" ++ text }

end ToolResult

structure CommandCall where
  command : String
  session : String
  arguments : String

def CommandCall.codec : Codec CommandCall :=
  .record "CommandInput"
    (.field (.required "command" .string) <|
      .field ((Field.defaulted "sessionId" .string "").orNamed "sessionID") <|
      .field (.defaulted "arguments" .string "") .done)
    (fun (command, session, arguments, ()) => ⟨command, session, arguments⟩)
    (fun c => (c.command, c.session, c.arguments, ()))

/-- A message in the making: what a command or a chat turn is about to send. -/
structure Composition where
  parts : List Part

namespace Composition

def blank : Composition :=
  ⟨[]⟩

/-- Messages call the two kinds of composition by different names. -/
def codec (name : String) : Codec Composition :=
  .record name (.field (.defaulted "parts" (.list Part.codec) []) .done)
    (fun (parts, ()) => ⟨parts⟩)
    (fun c => (c.parts, ()))

def commandCodec : Codec Composition :=
  codec "CommandOutput"

def chatCodec : Codec Composition :=
  codec "ChatOutput"

end Composition

structure ChatTurn where
  session : String
  agent : Option String
  message : Option String

def ChatTurn.codec : Codec ChatTurn :=
  .record "ChatInput"
    (.field ((Field.required "sessionId" .string).orNamed "sessionID") <|
      .field (.optional "agent" .string) <|
      .field ((Field.optional "messageId" .string).orNamed "messageID") .done)
    (fun (session, agent, message, ()) => ⟨session, agent, message⟩)
    (fun c => (c.session, c.agent, c.message, ()))

structure HistoryRequest where
  extra : List (String × Json)

namespace HistoryRequest

def blank : HistoryRequest :=
  ⟨[]⟩

def codec : Codec HistoryRequest :=
  .openRecord "TransformInput" .done (fun () extra => ⟨extra⟩) (fun _ => ()) (·.extra)

end HistoryRequest

structure History where
  messages : List Message

namespace History

def blank : History :=
  ⟨[]⟩

def codec : Codec History :=
  .record "TransformOutput" (.field (.defaulted "messages" (.list Message.codec) []) .done)
    (fun (messages, ()) => ⟨messages⟩)
    (fun h => (h.messages, ()))

end History

end AgentHooks
