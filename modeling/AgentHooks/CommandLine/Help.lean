import AgentHooks.CommandLine.Grammar

/-!
What each command tells about itself.
-/

namespace AgentHooks.CommandLine

def Command.about : Command → String
  | .program => "Policy hooks for agent sessions"
  | .serve => "Read gateway requests from stdin, one JSON object per line"
  | .order => "Show the resolved hook dispatch order"
  | .config => "Print the normalized configuration"
  | .loop => "Manage the autopilot loop"
  | .start => "Arm the loop for a session"
  | .stop => "Remove the loop state"
  | .status => "Show the loop state"
  | .help => "Print this message or the help of the given subcommand(s)"

def Switch.about : Switch → String
  | .verbose => "Enable verbose logging"
  | .config => "Configuration file (JSON or TOML)"
  | .project => "Project directory that relative state paths resolve against [default: .]"
  | .prompt => "Task description repeated in every continuation prompt"
  | .maxIterations => "Iteration cap (0 for unbounded; defaults to the configured cap)"
  | .mode => "How completion is detected [possible values: promise, objective]"
  | .promise => "Token expected inside <promise>...</promise>"
  | .help => "Print help"
  | .version => "Print version"

def Switch.valueName : Switch → String
  | .config => "FILE"
  | .project => "PROJECT"
  | .prompt => "PROMPT"
  | .maxIterations => "MAX_ITERATIONS"
  | .mode => "MODE"
  | .promise => "PROMISE"
  | .verbose | .help | .version => ""

def Switch.usage (s : Switch) : String :=
  (match s.letter? with
    | some c => String.ofList ['-', c] ++ ", "
    | none => "    ") ++
  "--" ++ s.name ++ (if s.takesValue then " <" ++ s.valueName ++ ">" else "")

def Command.call : Command → String
  | .program => "hookgate"
  | .start => "hookgate loop start"
  | .stop => "hookgate loop stop"
  | .status => "hookgate loop status"
  | c => "hookgate " ++ c.name

def Command.usage (c : Command) : String :=
  "Usage: " ++ c.call ++ " [OPTIONS]" ++ (if c.takesOperand then " <SESSION>" else "") ++
    (if c.inner.isEmpty then "" else " <COMMAND>")

def unlines (lines : List String) : String :=
  String.join (lines.map (· ++ "\n"))

def columns (rows : List (String × String)) : List String :=
  let width := (rows.map (·.1.length)).foldl max 0
  rows.map fun (left, right) =>
    "  " ++ left ++ String.ofList (List.replicate (width - left.length + 2) ' ') ++ right

def part (title : String) (rows : List (String × String)) : List String :=
  if rows.isEmpty then [] else "" :: title :: columns rows

def Command.helpPage (c : Command) : String :=
  unlines ([c.about, "", c.usage] ++
    part "Commands:" (c.inner.map fun i => (i.name, i.about)) ++
    part "Arguments:" (if c.takesOperand then [("<SESSION>", "Session the loop belongs to")] else []) ++
    part "Options:" (c.switches.map fun s => (s.usage, s.about)))

def misuseText : String :=
  unlines ["error: these arguments cannot be understood", "", Command.program.usage, "",
    "For more information, try '--help'."]

def versionText : String :=
  Command.program.name ++ " 0.1.0\n"

end AgentHooks.CommandLine
