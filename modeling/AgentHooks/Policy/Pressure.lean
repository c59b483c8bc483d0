import AgentHooks.Hook.Basic
import AgentHooks.World

/-!
Memory pressure. After a tool call, now and then, the processes are sampled; under pressure the agent
is reminded, a loop that runs under lasting pressure is paused, and at worst the operator is called.
-/

namespace AgentHooks.PressurePolicy

def id : String := "process-pressure-monitor"

def remark (w : World) (stage : Stage) (reason session : String) : World :=
  w.remark (.on id stage reason "tool.execute.after" session)

def warningText (s : PressureSettings) (sample : Sample) : String :=
  "[PROCESS PRESSURE WARNING]\n" ++ toString sample.processCount ++ " agent processes are using " ++
    toString sample.totalRssMb ++ " MB RSS (warning at " ++ toString s.warningMaxRssMb ++ " MB or " ++
    toString s.warningOpencodeProcesses ++ " processes). Avoid starting new background sessions " ++
    "and close idle ones."

def criticalText (s : PressureSettings) (sample : Sample) : String :=
  "[PROCESS PRESSURE CRITICAL]\n" ++ toString sample.processCount ++ " agent processes are using " ++
    toString sample.totalRssMb ++ " MB RSS (critical at " ++ toString s.criticalMaxRssMb ++
    " MB). Finish the current step, then stop launching subagents or long-running commands until " ++
    "memory is released."

def pausedText : String :=
  "[AUTOPILOT PAUSED]\nContinuation is paused for this session because memory pressure stayed " ++
    "critical. Send a message to resume."

def escalationText (s : PressureSettings) (events : Nat) : String :=
  "[PROCESS PRESSURE ESCALATION]\n" ++ toString events ++ " critical samples in the last " ++
    toString s.criticalEscalationWindowToolCalls ++ " tool calls. Save your work and ask the " ++
    "operator to close other agent sessions before continuing."

/-- A tool's result and the world, as the steps below pass them on. -/
abbrev Scene := ToolResult × World

def remind (s : PressureSettings) (session : String) (sample : Sample) (level : PressureLevel)
    (due : Bool) : Scene → Scene
  | (out, w) =>
    if !due then (out, w)
    else match level with
      | .normal => (out, w)
      | .warning =>
        (out.appendReminder (warningText s sample), remark w .inject "pressure_warning" session)
      | .critical =>
        (out.appendReminder (criticalText s sample), remark w .inject "pressure_critical" session)

def ownsLoop (w : World) (session : String) : World × Bool :=
  match w.cell.load w.files with
  | .ok (some l) =>
    if l.belongsTo session then (w, true) else (remark w .skip "no_active_loop" session, false)
  | .ok none => (remark w .skip "no_active_loop" session, false)
  | .error _ => (remark w .skip "state_unavailable" session, false)

/-- Latches a session with a loop, unless it is stopped already. -/
def pause (session : String) (sample : Sample) : Scene → Scene
  | (out, w) =>
    match ownsLoop w session with
    | (w, false) => (out, w)
    | (w, true) =>
      if w.isStopped session then (out, w)
      else
        (out.appendReminder pausedText,
          (remark (w.stop session) .state "auto_paused" session).notify session "Autopilot paused"
            ("Sustained memory pressure: " ++ toString sample.totalRssMb ++ " MB RSS") .warning)

def escalate (s : PressureSettings) (session : String) (events : Nat) : Scene → Scene
  | (out, w) =>
    (out.appendReminder (escalationText s events),
      (remark w .state "pressure_escalated" session).notify session "Memory pressure critical"
        (toString events ++ " critical samples within " ++
          toString s.criticalEscalationWindowToolCalls ++ " tool calls; close other agent sessions")
        .error)

def respond (s : PressureSettings) (session : String) (sample : Sample) (scene : Scene) : Scene :=
  let (out, w) := scene
  let level := PressureLevel.classify sample s
  let counters := (w.pressure.get? session).getD .start
  let (counters, response) := counters.observe level s
  let w := { w with pressure := w.pressure.modify session fun _ => counters }
  let scene := remind s session sample level response.remind (out, w)
  let scene := if response.pause && s.autoPause then pause session sample scene else scene
  if response.escalate then escalate s session response.criticalEvents scene else scene

/-- A tool call of a session: counted, and sampled when a sample is due. -/
def onToolAfter (s : PressureSettings) (session : String) (out : ToolResult) (w : World) : Scene :=
  if session = "" then (out, w)
  else
    let roster := w.pressure.enroll session .start
    let (counters, due) := ((roster.get? session).getD .start).tick s.sampleCooldownToolCalls
    let w := { w with pressure := roster.modify session fun _ => counters }
    if !due then (out, w)
    else
      match w.sample with
      | (w, .error _) => (out, remark w .skip "sampler_failed" session)
      | (w, .ok sample) => respond s session sample (out, w)

def handle (s : PressureSettings) : (e : Event) → e.Output → World → Handled World e
  | .toolAfter call, out, w =>
    let (out, w) := onToolAfter s call.session out w
    .pass out w
  | .lifecycle e, out, w =>
    .pass out
      (if e.kind = "session.deleted" then
        match e.session? with
        | some session => { w with pressure := w.pressure.remove session }
        | none => w
       else w)
  | .toolBefore _, out, w => .pass out w
  | .commandBefore _, out, w => .pass out w
  | .chatMessage _, out, w => .pass out w
  | .messagesTransform _, out, w => .pass out w

def hook (settings : Settings) : Hook World :=
  ⟨id, 60, .lenient, handle settings.pressure⟩

end AgentHooks.PressurePolicy
