import AgentHooks.Fault
import AgentHooks.Files.Tree
import AgentHooks.Json.Reader
import AgentHooks.Wire.Schema

/-!
The journal: one line for each decision. Writing it is a courtesy: a line that cannot be written is
lost, and nothing else changes because of it.
-/

namespace AgentHooks

/-- What kind of decision a line reports: about a dispatch, a change of state, a step left out, or
something put in front of the agent or asked of the host. -/
inductive Stage where
  | dispatch
  | state
  | skip
  | inject
  deriving DecidableEq

namespace Stage

def name : Stage → String
  | dispatch => "dispatch"
  | state => "state"
  | skip => "skip"
  | inject => "inject"

def codec : Codec Stage :=
  .variant ([dispatch, state, skip, inject].map fun s => (s.name, s)) name

end Stage

structure Remark where
  hook : String
  stage : Stage
  reason : String
  event : Option String
  session : Option String
  deriving DecidableEq

/-- A remark made while an event was handled; an empty name is no session. -/
def Remark.on (hook : String) (stage : Stage) (reason event session : String) : Remark :=
  ⟨hook, stage, reason, some event, if session = "" then none else some session⟩

structure Entry where
  time : Timestamp
  remark : Remark
  deriving DecidableEq

namespace Entry

def codec : Codec Entry :=
  .record "AuditEntry"
    (.field (.required "ts" .timestamp) <| .field (.required "hookId" .string) <|
      .field (.required "stage" Stage.codec) <| .field (.required "reason" .string) <|
      .field (.optional "eventType" .string) <| .field (.optional "sessionId" .string) .done)
    (fun (time, hook, stage, reason, event, session, ()) =>
      ⟨time, ⟨hook, stage, reason, event, session⟩⟩)
    (fun e => (e.time, e.remark.hook, e.remark.stage, e.remark.reason, e.remark.event,
      e.remark.session, ()))

def line (e : Entry) : String :=
  (codec.write e).compact

def ofLine? (line : String) : Option Entry :=
  (Json.document? line).bind fun doc => (codec.read doc).toOption

end Entry

structure Journal where
  path : Option Path

namespace Journal

/-- Adds a line, with the directories it needs, as far as that is possible. -/
def record (j : Journal) (e : Entry) (files : FileTree) : FileTree :=
  match j.path with
  | none => files
  | some path =>
    match files.makeParents path with
    | (.error _, files) => files
    | (.ok (), files) =>
      match files.append path (e.line ++ "\n") with
      | .error _ => files
      | .ok files => files

/-- The entries of a journal's text; lines that are no entries are passed over. -/
def entriesOf (text : String) : List Entry :=
  (Text.lines text.toList).filterMap fun line => Entry.ofLine? (String.ofList line)

def entries (j : Journal) (files : FileTree) : Except Fault (List Entry) :=
  match j.path with
  | none => .ok []
  | some path =>
    match files.read path with
    | .ok text => .ok (entriesOf text)
    | .error .notFound => .ok []
    | .error e => .error (.io e.message)

end Journal

end AgentHooks
