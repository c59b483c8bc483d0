/-!
Everything that can go wrong while an event is handled, and the words in which it is reported.
-/

namespace AgentHooks

/-- A cause of failure. `blocked` alone is deliberate: a hook refuses the action that was announced. -/
inductive Fault where
  | blocked (hook message : String)
  | host (detail : String)
  | sampler (detail : String)
  | timeout (detail : String)
  | state (detail : String)
  | protocolVersion (found expected : Nat)
  | invalidPayload (detail : String)
  | io (detail : String)
  | serialization (detail : String)
  | other (detail : String)
  deriving DecidableEq

namespace Fault

/-- A refusal is reported in the words of the hook that refused. -/
def message : Fault → String
  | blocked _ message => message
  | host detail => "Host call failed: " ++ detail
  | sampler detail => "Process sampling failed: " ++ detail
  | timeout detail => "Operation timed out: " ++ detail
  | state detail => "State error: " ++ detail
  | protocolVersion found expected =>
    "Unsupported protocol version " ++ toString found ++ " (expected " ++ toString expected ++ ")"
  | invalidPayload detail => "Invalid payload: " ++ detail
  | io detail => "I/O error: " ++ detail
  | serialization detail => "Serialization error: " ++ detail
  | other detail => detail

def isBlocked : Fault → Bool
  | blocked _ _ => true
  | _ => false

def exceeded (work : String) (milliseconds : Nat) : Fault :=
  timeout (work ++ " exceeded " ++ toString milliseconds ++ "ms")

end Fault

/-- Work as seen from outside: it ended with an answer or a fault, or it never ends. -/
inductive Work (α : Type) where
  | ended (result : Except Fault α)
  | endless

/-- Waits for work at most so long; work that has ended wins over any limit. -/
def Work.within {α : Type} (name : String) (milliseconds : Nat) : Work α → Except Fault α
  | ended result => result
  | endless => .error (.exceeded name milliseconds)

end AgentHooks
