import AgentHooks.CommandLine.Run
import AgentHooks.Text.Utf8
import Std.Time.DateTime.Timestamp

/-!
The program: arguments, standard streams, clock, processes and the real files around the pure run. Files
are looked at before each step, and what the step changed is written back after it.
-/

namespace AgentHooks.Main

open CommandLine

def clock : IO Timestamp := do
  let now ← Std.Time.Timestamp.now
  return .ofNanos now.toNanosecondsSinceUnixEpoch.val.toNat

def placeText (place : Place) : String :=
  "/" ++ String.intercalate "/" place

def probe (place : Place) : IO (Option Node) := do
  let path := (← IO.currentDir) / placeText place
  if ← path.isDir then return some .directory
  else if ← path.pathExists then return some (.file (.ofBytes (← IO.FS.readBinFile path)))
  else return none

def look (tree : FileTree) (here : Place) : List String → IO FileTree
  | [] => return tree
  | name :: rest => do
    let there := FileTree.stepFrom here name
    match ← probe there with
    | none => return tree
    | some node =>
      let tree := if there = [] then tree else tree.set there node
      match node with
      | .directory => look tree there rest
      | .file _ => return tree

def capture (paths : List Path) : IO FileTree := do
  let here := Path.names ⟨(← IO.currentDir).toString⟩
  let tree ← look .empty [] here
  let known := paths.filter fun path => (FileTree.check path).isOk
  known.foldlM (fun tree path => look tree (tree.origin path) path.steps) { tree with here }

/-- Writes a file so that readers see what it held or what it is to hold. What only grew is added to. -/
def writeContent (place : Place) (old : Option Node) (content : Content) : IO Unit := do
  let path := (← IO.currentDir) / placeText place
  match old with
  | some (.file before) =>
    let size := before.bytes.size
    if (content.bytes.extract 0 size).data = before.bytes.data then
      let handle ← IO.FS.Handle.mk path .append
      handle.write (content.bytes.extract size content.bytes.size)
      return
  | _ => pure ()
  let beside := path.addExtension "tmp"
  IO.FS.writeBinFile beside content.bytes
  IO.FS.rename beside path

def writeBack (before after : FileTree) : IO Unit := do
  for (place, node) in (after.below []).mergeSort (fun a b => a.1.length ≤ b.1.length) do
    if before.node? place ≠ some node then
      match node with
      | .directory => IO.FS.createDirAll ((← IO.currentDir) / placeText place)
      | .file content => writeContent place (before.node? place) content
  for (place, _) in before.below [] do
    if (after.node? place).isNone then
      IO.FS.removeFile ((← IO.currentDir) / placeText place)

def processRow? (proc : String) (pid : String) : IO (Option String) := do
  let base := (← IO.currentDir) / proc / pid
  try
    let status ← IO.FS.readFile (base / "status")
    let command : String := Content.ofBytes (← IO.FS.readBinFile (base / "cmdline"))
    let rss := ((Text.lines status.toList).map Text.words).findSome? fun words =>
      match words with
      | name :: kb :: _ => if name = "VmRSS:".toList then some (String.ofList kb) else none
      | _ => none
    let command := String.ofList (command.toList.map fun c => if c = '\x00' then ' ' else c)
    return some (pid ++ " " ++ rss.getD "0" ++ " " ++ command)
  catch _ => return none

def processes : IO Listing := do
  let proc := "/proc"
  try
    let entries ← ((← IO.currentDir) / proc).readDir
    let pids := (entries.toList.map (·.fileName)).filter fun name => name.toList.all Char.isDigit
    let rows ← pids.filterMapM (processRow? proc)
    return .ended (some 0) (unlines rows) ""
  catch e => return .notStarted e.toString

def chomp (line : String) : String :=
  match line.toList.reverse with
  | '\n' :: rest => String.ofList (Text.dropReturn rest.reverse)
  | _ => line

/-- Answers one line. The processes are listed only if some hook asks for them. -/
def answerLine (d : Dispatcher World) (settings : Settings) (line : String) (w : World) :
    IO (Option String × World) := do
  let attempt := Serving.answer d line w
  if attempt.2.sampler.taken = w.sampler.taken then return attempt
  else
    let sample := (← processes).sample settings.pressure.processPatterns
      settings.pressure.samplerTimeoutMs
    return Serving.answer d line { w with sampler := ⟨[sample], 0⟩ }

partial def serve (d : Dispatcher World) (settings : Settings) (w : World) : IO Unit := do
  let line ← (← IO.getStdin).getLine
  if line.isEmpty then return
  let files ← capture (w.loopFile :: w.journal.path.toList)
  let (response, after) ← answerLine d settings (chomp line) { w with files, now := ← clock }
  writeBack files after.files
  match response with
  | none => pure ()
  | some text =>
    let out ← IO.getStdout
    out.putStrLn text
    out.flush
  serve d settings after

def finish (outcome : Outcome) : IO UInt32 := do
  IO.print outcome.out
  IO.eprint outcome.err
  return outcome.exitCode.toUInt32

def perform (i : Invocation) (settings : Settings) : IO UInt32 := do
  let now ← clock
  match i.task with
  | .serve =>
    serve (Service.dispatcher settings) settings
      (.start settings i.project (← capture []) now ⟨[], 0⟩)
    return 0
  | task =>
    let files ← capture [(loopCell settings i.project now).path]
    let done := CommandLine.perform task settings i.project files now (.ended (some 0) "" "") ""
    writeBack files done.files
    finish done.outcome

def run (args : List String) : IO UInt32 := do
  match invocation args with
  | .error ending => finish (ending.outcome .empty)
  | .ok i =>
    let files ← capture i.config.toList
    match Settings.load files i.config with
    | .error fault => finish (complain (.settings fault) files)
    | .ok settings => perform i settings

end AgentHooks.Main

def main (args : List String) : IO UInt32 :=
  AgentHooks.Main.run args
