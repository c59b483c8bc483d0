import AgentHooks.Loop.Basic
import AgentHooks.Text.Blank

/-!
The prompt that keeps a session going.
-/

namespace AgentHooks.Loop

def promptHead (l : Loop) : String :=
  "[AUTOPILOT - ITERATION " ++ toString l.iteration ++
    (if 0 < l.maxIterations then "/" ++ toString l.maxIterations else "") ++ "]\n\n"

/-- The task is repeated unless it is blank. -/
def promptTask (l : Loop) : String :=
  if Text.trim l.prompt = "" then "" else "## ORIGINAL TASK\n\n" ++ Text.trim l.prompt ++ "\n\n"

def markerText (l : Loop) : String :=
  match l.mode with
  | .promise => "<promise>" ++ l.promise ++ "</promise>"
  | .objective => "<objective-complete>true</objective-complete>"

def promptSignal (l : Loop) : String :=
  let lead := match l.mode with
    | .promise => "When the task is fully complete, output exactly:\n\n"
    | .objective => "When the objective is fully met, output exactly:\n\n"
  "## COMPLETION SIGNAL\n\n" ++ lead ++ l.markerText ++ "\n\n"

def continuationPrompt (l : Loop) : String :=
  l.promptHead ++
    "Your previous turn ended before the task was complete. " ++
    "Continue working on it; do not restart from scratch.\n\n" ++
    l.promptTask ++ l.promptSignal ++
    "Only signal completion when every open todo is finished.\n"

end AgentHooks.Loop
