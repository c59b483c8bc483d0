import AgentHooks.Contract.Action
import AgentHooks.Contract.Call
import AgentHooks.Contract.Channel

/-!
The envelopes in which events arrive and answers leave.
-/

namespace AgentHooks

def protocolVersion : Nat := 1

structure Snapshot where
  messages : List Message
  todos : List Todo

namespace Snapshot

def blank : Snapshot :=
  ⟨[], []⟩

def codec : Codec Snapshot :=
  .record "SessionSnapshot"
    (.field (.defaulted "messages" (.list Message.codec) []) <|
      .field (.defaulted "todos" (.list Todo.codec) []) .done)
    (fun (messages, todos, ()) => ⟨messages, todos⟩)
    (fun s => (s.messages, s.todos, ()))

end Snapshot

structure Context where
  sessions : List (String × Snapshot)

namespace Context

def blank : Context :=
  ⟨[]⟩

def codec : Codec Context :=
  .record "HostContext" (.field (.defaulted "sessions" (.table Snapshot.codec) []) .done)
    (fun (sessions, ()) => ⟨sessions⟩)
    (fun c => (c.sessions, ()))

def snapshot? (c : Context) (session : String) : Option Snapshot :=
  c.sessions.lookup session

end Context

structure Request where
  version : Nat
  channel : Channel
  input : Json
  output : Json
  context : Context

def Request.codec : Codec Request :=
  .record "GatewayRequest"
    (.field (.required "version" .word32) <| .field (.required "channel" Channel.codec) <|
      .field (.defaulted "input" .json .null) <| .field (.defaulted "output" .json .null) <|
      .field (.defaulted "context" Context.codec .blank) .done)
    (fun (version, channel, input, output, context, ()) => ⟨version, channel, input, output, context⟩)
    (fun r => (r.version, r.channel, r.input, r.output, r.context, ()))

/-- Why a request has no regular answer: kind `blocked` for a refusal, `error` for all else. -/
structure Refusal where
  kind : String
  hook : Option String
  message : String

def Refusal.codec : Codec Refusal :=
  .record "ResponseError"
    (.field (.required "kind" .string) <| .field (.optional "hook" .string) <|
      .field (.required "message" .string) .done)
    (fun (kind, hook, message, ()) => ⟨kind, hook, message⟩)
    (fun r => (r.kind, r.hook, r.message, ()))

structure Response where
  version : Nat
  ok : Bool
  output : Json
  error : Option Refusal
  effects : List Action

def Response.codec : Codec Response :=
  .record "GatewayResponse"
    (.field (.required "version" .word32) <| .field (.required "ok" .bool) <|
      .field (.defaulted "output" .json .null) <| .field (.optional "error" Refusal.codec) <|
      .field (.defaulted "effects" (.list Action.codec) []) .done)
    (fun (version, ok, output, error, effects, ()) => ⟨version, ok, output, error, effects⟩)
    (fun r => (r.version, r.ok, r.output, r.error, r.effects, ()))

end AgentHooks
