import AgentHooks.Json.Reader
import AgentHooks.Service

/-!
The service on lines of text: a response line for every line that is not blank, in order. A line that
is no request is answered too, and nothing else comes of it.
-/

namespace AgentHooks.Serving

def readLine (line : String) : Except String Request :=
  match Json.document? line with
  | none => .error "not a JSON document"
  | some document => (Request.codec.read document).mapError DecodeError.message

def rejection (reason : String) : Response :=
  ⟨protocolVersion, false, .null, some ⟨"error", none, "request: " ++ reason⟩, []⟩

def render (r : Response) : String :=
  (Response.codec.write r).compact

def isBlankLine (line : String) : Bool :=
  (Text.trim line).isEmpty

def answer (d : Dispatcher World) (line : String) (w : World) : Option String × World :=
  if isBlankLine line then (none, w)
  else match readLine line with
    | .error reason => (some (render (rejection reason)), w)
    | .ok request =>
      let (response, w) := Service.handle d request w
      (some (render response), w)

def serve (d : Dispatcher World) : List String → World → List String × World
  | [], w => ([], w)
  | line :: rest, w =>
    let (response, w) := answer d line w
    let (responses, w) := serve d rest w
    (response.toList ++ responses, w)

end AgentHooks.Serving
