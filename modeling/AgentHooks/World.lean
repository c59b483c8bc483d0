import AgentHooks.Contract.Envelope
import AgentHooks.Journal
import AgentHooks.Loop.Cell
import AgentHooks.Pressure.Counters
import AgentHooks.Session.Usage

/-!
Everything that hooks can see and change: files, the host, the processes, the stop latch and what the
monitors remember. One event after another is a run over values of this type.
-/

namespace AgentHooks

inductive HostCall where
  | messages
  | todos
  | prompt
  | summarize
  | notify
  deriving DecidableEq

def HostCall.name : HostCall → String
  | messages => "messages"
  | todos => "todos"
  | prompt => "prompt"
  | summarize => "summarize"
  | notify => "notify"

/-- What happens elsewhere while the host is busy with a call: the operator stops a session, another
process replaces the loop's file (putting nothing deletes it); and whether the host then refuses. -/
structure Disturbance where
  stops : Option String
  replaces : Option (Option Node)
  refuses : Bool

def Disturbance.none : Disturbance :=
  ⟨.none, .none, false⟩

/-- The host: what it has told about sessions, and what has been asked of it and not yet been handed
over. -/
structure Host where
  context : Context
  effects : List Action

namespace Host

def empty : Host :=
  ⟨.blank, []⟩

def snapshot (h : Host) (session : String) : Except Fault Snapshot :=
  match h.context.snapshot? session with
  | some s => .ok s
  | none => .error (.host ("no history supplied for session " ++ session))

def push (h : Host) (a : Action) : Host :=
  { h with effects := h.effects ++ [a] }

end Host

/-- The process listing as seen by successive samples: each takes the next result, and the last one
stays. -/
structure Sampler where
  script : List (Except Fault Sample)
  taken : Nat

def Sampler.sample (s : Sampler) : Except Fault Sample × Sampler :=
  ((s.script[s.taken]?.or s.script.getLast?).getD (.ok .none), { s with taken := s.taken + 1 })

structure ContextMemory where
  usage : Usage
  lastReminderAt : Option Nat
  lastReminderTokens : Option Nat
  deriving DecidableEq

def ContextMemory.start : ContextMemory :=
  ⟨.none, none, none⟩

structure CompactionMemory where
  usage : Usage
  lastRequestAt : Option Nat
  inFlight : Bool
  deriving DecidableEq

def CompactionMemory.start : CompactionMemory :=
  ⟨.none, none, false⟩

structure World where
  files : FileTree
  now : Timestamp
  journal : Journal
  loopFile : Path
  host : Host
  disturbance : HostCall → Disturbance
  sampler : Sampler
  /-- The sessions whose operator asked the loop to stop. -/
  stopped : NameSet
  pressure : Roster PressureCounters
  context : Roster ContextMemory
  compaction : Roster CompactionMemory

namespace World

def start (settings : Settings) (project : Path) (files : FileTree) (now : Timestamp)
    (sampler : Sampler) : World where
  files := files
  now := now
  journal := ⟨if settings.audit.enabled then some (project.join settings.audit.path) else none⟩
  loopFile := project.join settings.autopilot.stateFile
  host := .empty
  disturbance := fun _ => .none
  sampler := sampler
  stopped := .empty
  pressure := .empty settings.pressure.maxSessionStateEntries
  context := .empty settings.context.maxSessionStateEntries
  compaction := .empty settings.compaction.maxSessionStateEntries

def cell (w : World) : LoopCell :=
  ⟨w.loopFile, w.now⟩

def remark (r : Remark) (w : World) : World :=
  { w with files := w.journal.record ⟨w.now, r⟩ w.files }

def isStopped (w : World) (session : String) : Bool :=
  w.stopped.contains session

def stop (w : World) (session : String) : World :=
  { w with stopped := w.stopped.insert session }

def clearStop (w : World) (session : String) : World :=
  { w with stopped := w.stopped.erase session }

/-- Another process puts something in the place of the loop's file, or nothing. -/
def replaceLoop (w : World) (node : Option Node) : World :=
  { w with files := w.files.overwrite w.loopFile node }

def disturb (w : World) (d : Disturbance) : World :=
  let w := match d.stops with
    | some session => w.stop session
    | none => w
  match d.replaces with
  | some node => w.replaceLoop node
  | none => w

/-- Lets the host work on a call: the world after it, and the host's refusal, if it refuses. -/
def call (w : World) (c : HostCall) : World × Option Fault :=
  let d := w.disturbance c
  (w.disturb d, if d.refuses then some (.host (c.name ++ " unavailable")) else none)

def ask {α : Type} (w : World) (c : HostCall) (session : String) (field : Snapshot → α) :
    World × Except Fault α :=
  match w.call c with
  | (w, some fault) => (w, .error fault)
  | (w, none) => (w, (w.host.snapshot session).map field)

def request (w : World) (c : HostCall) (a : Action) : World × Option Fault :=
  match w.call c with
  | (w, some fault) => (w, some fault)
  | (w, none) => ({ w with host := w.host.push a }, none)

/-- Shows a notice; a host that cannot show it changes nothing. -/
def notify (w : World) (session title message : String) (level : NoticeLevel) : World :=
  (w.request .notify (.notify ⟨some session, title, message, level⟩)).1

def sample (w : World) : World × Except Fault Sample :=
  let (result, sampler) := w.sampler.sample
  ({ w with sampler }, result)

def takeEffects (w : World) : World × List Action :=
  ({ w with host := { w.host with effects := [] } }, w.host.effects)

def loadContext (w : World) (context : Context) : World :=
  { w with host := { w.host with context } }

end World

end AgentHooks
