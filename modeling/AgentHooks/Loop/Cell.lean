import AgentHooks.Fault
import AgentHooks.Files.Tree
import AgentHooks.Json.Reader
import AgentHooks.Loop.Basic

/-!
The file that holds the project's loop: a cell with one loop or none. A loop is put in as a whole, so
no reader ever finds half of one.
-/

namespace AgentHooks

structure LoopCell where
  path : Path
  now : Timestamp

namespace LoopCell

def parse (cell : LoopCell) (text : String) : Option Loop :=
  (Json.document? text).bind fun doc => ((Loop.codec cell.now).read doc).toOption

def render (cell : LoopCell) (l : Loop) : String :=
  ((Loop.codec cell.now).write l).indented

def readFault (cell : LoopCell) (e : FileError) : Fault :=
  .state ("Failed to read loop state " ++ cell.path.text ++ ": " ++ e.message)

def parseFault (cell : LoopCell) : Fault :=
  .state ("Failed to parse loop state " ++ cell.path.text ++ ": not a loop")

def load (cell : LoopCell) (files : FileTree) : Except Fault (Option Loop) :=
  match files.read cell.path with
  | .error .notFound => .ok none
  | .error e => .error (cell.readFault e)
  | .ok text =>
    match cell.parse text with
    | some l => .ok (some l)
    | none => .error cell.parseFault

/-- The mark that tells the drafts of different moments apart. It is drawn at random each time; as no draft
outlives its save, nothing of it but its length ever matters. -/
def draftMark : String := "00000000-0000-4000-8000-000000000000"

/-- The file, beside the cell's own, in which a loop is written before it is put into the cell. -/
def draft (cell : LoopCell) : Path :=
  cell.path.withName ("." ++ cell.path.fileName?.getD "loop-state" ++ "." ++ draftMark ++ ".tmp")

/-- Puts a loop into the cell; missing directories are made even if the rest fails. -/
def save (cell : LoopCell) (l : Loop) (files : FileTree) : Except Fault Unit × FileTree :=
  match files.makeParents cell.path with
  | (.error e, files) => (.error (.io e.message), files)
  | (.ok (), files) =>
    match files.replace cell.draft cell.path (cell.render l) with
    | .error e => (.error (.io e.message), files)
    | .ok files => (.ok (), files)

def clear (cell : LoopCell) (files : FileTree) : Except Fault Bool × FileTree :=
  match files.remove cell.path with
  | .ok files => (.ok true, files)
  | .error .notFound => (.ok false, files)
  | .error e => (.error (.io e.message), files)

def rawOwner? (cell : LoopCell) (files : FileTree) : Option String :=
  match files.read cell.path with
  | .ok text => ((Json.value? text).bind (·.member? "sessionId")).bind Json.string?
  | .error _ => none

/-- Empties the cell if its loop, active or not, is the session's. A file that holds no loop is judged
by the session it names, and goes when it names none. -/
def clearSession (cell : LoopCell) (session : String) (files : FileTree) :
    Except Fault Bool × FileTree :=
  match cell.load files with
  | .ok none => (.ok false, files)
  | .ok (some l) => if l.session = session then cell.clear files else (.ok false, files)
  | .error _ =>
    match cell.rawOwner? files with
    | some owner => if owner = session then cell.clear files else (.ok false, files)
    | none => cell.clear files

/-- Replaces the loop by what `f` makes of it, nothing meaning an empty cell, and answers what `f` says
besides. An empty cell stays empty. -/
def update {α : Type} (cell : LoopCell) (f : Loop → Option Loop × α) (files : FileTree) :
    Except Fault (Option α) × FileTree :=
  match cell.load files with
  | .error e => (.error e, files)
  | .ok none => (.ok none, files)
  | .ok (some l) =>
    match f l with
    | (some next, a) =>
      let (saved, files) := cell.save next files
      (saved.map fun _ => some a, files)
    | (none, a) =>
      let (cleared, files) := cell.clear files
      (cleared.map fun _ => some a, files)

end LoopCell

end AgentHooks
