import AgentHooks.Wire.Schema

/-!
What hooks ask of the host: to send a prompt into a session, to summarize it, to show a notice.
-/

namespace AgentHooks

inductive NoticeLevel where
  | info
  | warning
  | error
  deriving DecidableEq

namespace NoticeLevel

def name : NoticeLevel → String
  | info => "info"
  | warning => "warning"
  | error => "error"

def codecBy (passage : Passage) : Codec NoticeLevel :=
  .variantBy passage ([info, warning, error].map fun l => (l.name, l)) name

def codec : Codec NoticeLevel :=
  codecBy .direct

end NoticeLevel

structure Notice where
  session : Option String
  title : String
  message : String
  level : NoticeLevel
  deriving DecidableEq

namespace Notice

def schema (passage : Passage) : Schema (Option String × String × String × NoticeLevel × Unit) :=
  .field (.optional "sessionId" .string) <| .field (.required "title" .string) <|
    .field (.required "message" .string) <|
    .field (.defaulted "level" (NoticeLevel.codecBy passage) .info) .done

def codecBy (passage : Passage) : Codec Notice :=
  .recordBy passage "Notice" (schema passage)
    (fun (session, title, message, level, ()) => ⟨session, title, message, level⟩)
    (fun n => (n.session, n.title, n.message, n.level, ()))

def codec : Codec Notice :=
  codecBy .direct

end Notice

inductive Action where
  | sendPrompt (session text : String)
  | summarize (session : String)
  | notify (notice : Notice)
  deriving DecidableEq

namespace Action

def promptSchema : Schema (String × String × Unit) :=
  .field (.required "sessionId" .string) <| .field (.required "text" .string) .done

def summarizeSchema : Schema (String × Unit) :=
  .field (.required "sessionId" .string) .done

def notifySchema : Schema (Notice × Unit) :=
  .field (.required "notice" (Notice.codecBy .setAside)) .done

def kinds : List String :=
  ["sendPrompt", "summarize", "notify"]

def splitKind : List (String × Json) → Decoded (Option Json × List (String × Json))
  | [] => .ok (none, [])
  | (key, value) :: rest => do
    let (kind, others) ← splitKind rest
    if key = "kind" then
      if kind.isSome then .error (.duplicateField "kind") else .ok (some value, others)
    else .ok (kind, (key, value) :: others)

def readKind (fields : {τ : Type} → String → Schema τ → Decoded τ) : Json → Decoded Action
  | .string "sendPrompt" =>
    (fields "SendPrompt" promptSchema).map fun (session, text, ()) => sendPrompt session text
  | .string "summarize" =>
    (fields "Summarize" summarizeSchema).map fun (session, ()) => summarize session
  | .string "notify" => (fields "Notify" notifySchema).map fun (notice, ()) => notify notice
  | .string other => .error (.unknownVariant other kinds)
  | other => .error (.wrongType other "variant identifier")

/-- An action is an object with a member that names its kind, or an array that begins with the name. -/
def read : Json → Decoded Action
  | .object members => do
    match ← splitKind members with
    | (none, _) => .error (.missingField "kind")
    | (some kind, others) => readKind (fun _ s => s.readMembers others) kind
  | .array [] => .error (.missingField "kind")
  | .array (kind :: items) =>
    let fields {τ : Type} (name : String) (s : Schema τ) : Decoded τ :=
      s.readPositions .setAside ("struct variant HostEffect::" ++ name) items
    readKind fields kind
  | other => .error (.wrongType other "internally tagged enum HostEffect")

def write : Action → Json
  | sendPrompt session text =>
    .object (("kind", .string "sendPrompt") :: promptSchema.writeMembers (session, text, ()))
  | summarize session =>
    .object (("kind", .string "summarize") :: summarizeSchema.writeMembers (session, ()))
  | notify notice => .object (("kind", .string "notify") :: notifySchema.writeMembers (notice, ()))

def codec : Codec Action :=
  ⟨read, write⟩

end Action

end AgentHooks
