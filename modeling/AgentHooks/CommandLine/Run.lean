import AgentHooks.CommandLine.Help
import AgentHooks.CommandLine.Invocation
import AgentHooks.Loop.Prompt
import AgentHooks.Serving
import AgentHooks.Settings.File
import AgentHooks.Settings.Printer

/-!
What the program does on its arguments: what it prints, what it complains about, and what becomes of the
files.
-/

namespace AgentHooks.CommandLine

inductive Complaint where
  | settings (fault : SettingsFault)
  | loopNotSaved
  | loopNotCleared
  | loopNotLoaded
  deriving DecidableEq

def Complaint.message : Complaint → String
  | settings fault => fault.message
  | loopNotSaved => "Failed to save loop state"
  | loopNotCleared => "Failed to clear loop state"
  | loopNotLoaded => "Failed to load loop state"

structure Done where
  result : Except Complaint String
  files : FileTree

def orderText (settings : Settings) : String :=
  match (Service.dispatcher settings).ids with
  | [] => "No hooks enabled\n"
  | ids => unlines (ids.zipIdx.map fun (id, i) =>
      String.ofList (List.replicate (2 - (toString (i + 1)).length) ' ') ++ toString (i + 1) ++ ". " ++ id)

def settingsText (settings : Settings) : String :=
  settings.toJson.indented ++ "\n"

def loopCell (settings : Settings) (project : Path) (now : Timestamp) : LoopCell :=
  ⟨project.join settings.autopilot.stateFile, now⟩

/-- The loop of a plan; what the plan leaves open is as the settings have it. -/
def LoopPlan.loop (plan : LoopPlan) (defaults : AutopilotSettings) (now : Timestamp) : Loop :=
  .start now plan.session plan.prompt (plan.maxIterations.getD defaults.defaultMaxIterations)
    (plan.mode.getD defaults.defaultCompletionMode) (plan.promise.getD defaults.defaultCompletionPromise)

def limitLines (l : Loop) : List String :=
  ["  Max iterations: " ++ (if l.maxIterations = 0 then "unbounded" else toString l.maxIterations),
    "  Completion: " ++ l.markerText]

def startText (l : Loop) (cell : LoopCell) : String :=
  unlines (["Autopilot loop armed for " ++ l.session, "  State file: " ++ cell.path.text] ++ limitLines l)

def idleText : String :=
  "No loop in progress\n"

/-- The task of a loop, as far as the first twenty lines tell it. -/
def promptLines (l : Loop) : List String :=
  if l.prompt = "" then []
  else "" :: "Task:" :: ((Text.lines l.prompt.toList).take 20).map fun line => "  " ++ String.ofList line

def statusText (l : Loop) (now : Timestamp) : String :=
  unlines (["Loop status for " ++ l.session ++ ":", "  Active: " ++ toString l.active,
      "  Current iteration: " ++ toString l.iteration] ++
    limitLines l ++
    ["  Started: " ++ l.startedAt.shown ++ " (" ++ toString (now.minutesSince l.startedAt) ++ " min ago)"] ++
    (if 0 < l.ignoredCompletions then ["  Ignored completions: " ++ toString l.ignoredCompletions] else []) ++
    promptLines l)

def startLoop (plan : LoopPlan) (settings : Settings) (cell : LoopCell) (files : FileTree) : Done :=
  let l := plan.loop settings.autopilot cell.now
  match cell.save l files with
  | (.ok (), files) => ⟨.ok (startText l cell), files⟩
  | (.error _, files) => ⟨.error .loopNotSaved, files⟩

def stopLoop (cell : LoopCell) (files : FileTree) : Done :=
  match cell.clear files with
  | (.ok true, files) => ⟨.ok "Autopilot loop stopped\n", files⟩
  | (.ok false, files) => ⟨.ok idleText, files⟩
  | (.error _, files) => ⟨.error .loopNotCleared, files⟩

def loopStatus (cell : LoopCell) (files : FileTree) : Done :=
  match cell.load files with
  | .ok (some l) => ⟨.ok (statusText l cell.now), files⟩
  | .ok none => ⟨.ok idleText, files⟩
  | .error _ => ⟨.error .loopNotLoaded, files⟩

def serveAll (settings : Settings) (project : Path) (files : FileTree) (now : Timestamp)
    (sampler : Sampler) (input : String) : Done :=
  let lines := (Text.lines input.toList).map String.ofList
  let (responses, w) := Serving.serve (Service.dispatcher settings) lines
    (World.start settings project files now sampler)
  ⟨.ok (unlines responses), w.files⟩

/-- A task under given settings. Only the service looks at the processes and the input. -/
def perform (task : Task) (settings : Settings) (project : Path) (files : FileTree) (now : Timestamp)
    (processes : Listing) (input : String) : Done :=
  let cell := loopCell settings project now
  match task with
  | .serve =>
    let sample := processes.sample settings.pressure.processPatterns settings.pressure.samplerTimeoutMs
    serveAll settings project files now ⟨[sample], 0⟩ input
  | .order => ⟨.ok (orderText settings), files⟩
  | .config => ⟨.ok (settingsText settings), files⟩
  | .start plan => startLoop plan settings cell files
  | .stop => stopLoop cell files
  | .status => loopStatus cell files

structure Outcome where
  exitCode : Nat
  out : String
  err : String
  files : FileTree

def Ending.outcome (files : FileTree) : Ending → Outcome
  | .help c => ⟨0, c.helpPage, "", files⟩
  | .version => ⟨0, versionText, "", files⟩
  | .misuse => ⟨2, "", misuseText, files⟩

def complain (c : Complaint) (files : FileTree) : Outcome :=
  ⟨1, "", "Error: " ++ c.message ++ "\n", files⟩

def Done.outcome (d : Done) : Outcome :=
  match d.result with
  | .ok out => ⟨0, out, "", d.files⟩
  | .error c => complain c d.files

def run (args : List String) (files : FileTree) (now : Timestamp) (processes : Listing)
    (input : String) : Outcome :=
  match invocation args with
  | .error ending => ending.outcome files
  | .ok i =>
    match Settings.load files i.config with
    | .error fault => complain (.settings fault) files
    | .ok settings => (perform i.task settings i.project files now processes input).outcome

end AgentHooks.CommandLine
