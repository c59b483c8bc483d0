import AgentHooks.Wire.Schema

/-!
Messages of a session, their parts, and the session's list of things to do.
-/

namespace AgentHooks

/-- One part of a message. Parts other than texts pass through untouched, with all their members. -/
structure Part where
  kind : String
  text : Option String
  extra : List (String × Json)

namespace Part

def ofText (text : String) : Part :=
  ⟨"text", some text, []⟩

def codec : Codec Part :=
  .openRecord "Part"
    (.field (.required "type" .string) <| .field (.optional "text" .string) .done)
    (fun (kind, text, ()) extra => ⟨kind, text, extra⟩)
    (fun p => (p.kind, p.text, ()))
    (·.extra)

end Part

structure MessageInfo where
  id : String
  role : String
  session : String

namespace MessageInfo

def blank : MessageInfo :=
  ⟨"", "", ""⟩

def codec : Codec MessageInfo :=
  .record "MessageInfo"
    (.field (.defaulted "id" .string "") <| .field (.defaulted "role" .string "") <|
      .field ((Field.defaulted "sessionID" .string "").orNamed "sessionId") .done)
    (fun (id, role, session, ()) => ⟨id, role, session⟩)
    (fun i => (i.id, i.role, i.session, ()))

end MessageInfo

structure Message where
  info : MessageInfo
  parts : List Part

namespace Message

def ofText (role text : String) : Message :=
  ⟨{ MessageInfo.blank with role }, [.ofText text]⟩

def codec : Codec Message :=
  .record "SessionMessage"
    (.field (.required "info" MessageInfo.codec) <|
      .field (.defaulted "parts" (.list Part.codec) []) .done)
    (fun (info, parts, ()) => ⟨info, parts⟩)
    (fun m => (m.info, m.parts, ()))

/-- Roles are told apart without regard to the case of ASCII letters. -/
def isAssistant (m : Message) : Bool :=
  m.info.role.toLower == "assistant"

def text (m : Message) : String :=
  String.intercalate "\n" ((m.parts.filter (·.kind == "text")).filterMap (·.text))

def latestAssistantText (messages : List Message) : Option String :=
  (messages.reverse.find? isAssistant).map text

end Message

structure Todo where
  content : String
  status : String
  priority : Option String

namespace Todo

def codec : Codec Todo :=
  .record "Todo"
    (.field (.required "content" .string) <| .field (.required "status" .string) <|
      .field (.optional "priority" .string) .done)
    (fun (content, status, priority, ()) => ⟨content, status, priority⟩)
    (fun t => (t.content, t.status, t.priority, ()))

def isOpen (t : Todo) : Bool :=
  t.status == "pending" || t.status == "in_progress"

end Todo

end AgentHooks
