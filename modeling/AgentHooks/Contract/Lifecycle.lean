import AgentHooks.Text.Blank
import AgentHooks.Wire.Schema

/-!
Lifecycle events: what the host reports about sessions and messages without asking for an answer.
-/

namespace AgentHooks

structure LifecycleEvent where
  kind : String
  properties : Json

namespace LifecycleEvent

def codec : Codec LifecycleEvent :=
  .record "LifecycleEvent"
    (.field (.required "type" .string) <| .field (.defaulted "properties" .json .null) .done)
    (fun (kind, properties, ()) => ⟨kind, properties⟩)
    (fun e => (e.kind, e.properties, ()))

/-- The places where a host may put the session's name, first one first: in the properties, in the
message's information, and for events about a session in the session itself. -/
def sessionPlaces (e : LifecycleEvent) : List (Option Json) :=
  let info := e.properties.member? "info"
  [e.properties.member? "sessionID",
   e.properties.member? "sessionId",
   info.bind (·.member? "sessionID"),
   if Text.begins "session." e.kind then info.bind (·.member? "id") else none]

/-- The session that the event is about. The first place that is filled at all decides, whatever it
holds; only a text that is not empty names a session. -/
def session? (e : LifecycleEvent) : Option String :=
  ((e.sessionPlaces.findSome? id).bind Json.string?).filter (· ≠ "")

end LifecycleEvent

end AgentHooks
