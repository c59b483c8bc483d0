import AgentHooks.Settings.Basic
import AgentHooks.Pressure.Sample

/-!
The commands of the program and the options that each of them takes.
-/

namespace AgentHooks.CommandLine

inductive Command where
  | program
  | serve
  | order
  | config
  | loop
  | start
  | stop
  | status
  | help
  deriving DecidableEq

inductive Switch where
  /-- Asks for more to be told on the way. -/
  | verbose
  | config
  | project
  | prompt
  | maxIterations
  | mode
  | promise
  | help
  | version
  deriving DecidableEq

namespace Switch

def name : Switch → String
  | verbose => "verbose"
  | config => "config"
  | project => "project"
  | prompt => "prompt"
  | maxIterations => "max-iterations"
  | mode => "mode"
  | promise => "promise"
  | help => "help"
  | version => "version"

def letter? : Switch → Option Char
  | verbose => some 'v'
  | config => some 'c'
  | project => some 'p'
  | prompt => some 'P'
  | maxIterations => some 'm'
  | help => some 'h'
  | version => some 'V'
  | mode | promise => none

def takesValue : Switch → Bool
  | verbose | help | version => false
  | _ => true

end Switch

def count? (s : String) : Option Nat :=
  ProcessRow.number? (Nat.pow 2 64) s.toList

def mode? (s : String) : Option CompletionMode :=
  [CompletionMode.promise, .objective].find? (·.name = s)

def Switch.accepts : Switch → String → Bool
  | config, s | project, s => s ≠ ""
  | maxIterations, s => (count? s).isSome
  | mode, s => (mode? s).isSome
  | _, _ => true

namespace Command

def name : Command → String
  | program => "hookgate"
  | serve => "serve"
  | order => "order"
  | config => "config"
  | loop => "loop"
  | start => "start"
  | stop => "stop"
  | status => "status"
  | help => "help"

/-- The commands inside a command. A command with others inside does nothing by itself. -/
def inner : Command → List Command
  | program => [serve, order, config, loop, help]
  | loop => [start, stop, status, help]
  | _ => []

/-- Where the files are can be said at every level. -/
def switches : Command → List Switch
  | program => [.verbose, .config, .project, .help, .version]
  | start => [.prompt, .maxIterations, .mode, .promise, .config, .project, .help]
  | _ => [.config, .project, .help]

def takesOperand : Command → Bool
  | start => true
  | _ => false

def inner? (c : Command) (name : String) : Option Command :=
  c.inner.find? (·.name = name)

def named? (c : Command) (name : String) : Option Switch :=
  c.switches.find? (·.name = name)

def lettered? (c : Command) (letter : Char) : Option Switch :=
  c.switches.find? (·.letter? = some letter)

end Command

end AgentHooks.CommandLine
