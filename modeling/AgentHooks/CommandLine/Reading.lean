import AgentHooks.CommandLine.Grammar
import AgentHooks.Text.Blank

/-!
Arguments read one after another. An argument is a value if the one before it asks for one; otherwise it
names a command inside the current one, sets switches, or is an operand. After `--` everything is an
operand.
-/

namespace AgentHooks.CommandLine

inductive Ending where
  /-- Somebody asked how to use a command. -/
  | help (c : Command)
  /-- Somebody asked for the version. -/
  | version
  | misuse
  deriving DecidableEq

/-- What has been said to one command. The switch set last is held back, together with its value once
there is one, until something after it at this level is understood. -/
structure Level where
  command : Command
  values : List (Switch × String)
  verbose : Bool
  held : Option (Switch × Option String)
  operand : Option String
  deriving DecidableEq

namespace Level

def start (c : Command) : Level :=
  ⟨c, [], false, none, none⟩

/-- Sets a switch to a value: one that it accepts, and only once. -/
def setValue (l : Level) (s : Switch) (value : String) : Except Ending Level :=
  if s.accepts value && (l.values.lookup s).isNone then
    .ok { l with values := l.values ++ [(s, value)] }
  else .error .misuse

def settle (l : Level) : Except Ending Level :=
  match l.held with
  | none => .ok l
  | some (_, none) => .error .misuse
  | some (s, some value) => ({ l with held := none }).setValue s value

def turnOn (l : Level) (s : Switch) : Except Ending Level := do
  let l ← l.settle
  match s with
  | .help => .error (.help l.command)
  | .version => .error .version
  | _ => if l.verbose then .error .misuse else .ok { l with verbose := true }

def turnTo (l : Level) (s : Switch) (value : Option String) : Except Ending Level := do
  let l ← l.settle
  match value with
  | some value => l.setValue s value
  | none => .ok { l with held := some (s, none) }

/-- Switches by their letters. The first that takes a value takes what is left, without an equals sign
in front of it. -/
def readLetters (l : Level) : List Char → Except Ending Level
  | [] => .ok l
  | c :: rest =>
    match l.command.lettered? c with
    | none => .error .misuse
    | some s =>
      if s.takesValue then
        l.turnTo s (match rest with
          | [] => none
          | '=' :: value => some (String.ofList value)
          | value => some (String.ofList value))
      else (l.turnOn s).bind (·.readLetters rest)

def readName (l : Level) (cs : List Char) : Except Ending Level :=
  let (name, value) := cs.span (· != '=')
  let value := match value with
    | _ :: value => some (String.ofList value)
    | [] => none
  match l.command.named? (String.ofList name) with
  | none => .error .misuse
  | some s =>
    if s.takesValue then l.turnTo s value
    else if value.isSome then .error .misuse
    else l.turnOn s

def addOperand (l : Level) (arg : String) : Except Ending Level := do
  let l ← l.settle
  if l.command.takesOperand && l.operand.isNone then .ok { l with operand := some arg }
  else .error .misuse

def waiting? (l : Level) : Option Switch :=
  match l.held with
  | some (s, none) => some s
  | _ => none

def finish (l : Level) : Except Ending Level := do
  let l ← l.settle
  if l.command.takesOperand && l.operand.isNone then .error .misuse else .ok l

end Level

structure Reading where
  /-- The levels above the current one, the nearest first. -/
  outer : List Level
  level : Level
  /-- Whether `--` has been read. -/
  operandsOnly : Bool
  /-- The command that somebody is asking about. -/
  asked : Option Command

namespace Reading

def start : Reading :=
  ⟨[], .start .program, false, none⟩

def changeLevel (r : Reading) (level : Except Ending Level) : Except Ending Reading :=
  level.map fun level => { r with level }

def readFree (r : Reading) (arg : String) : Except Ending Reading :=
  match r.level.command.inner? arg with
  | some .help => .ok { r with asked := some r.level.command }
  | some c => .ok { r with outer := r.level :: r.outer, level := .start c }
  | none =>
    match arg.toList with
    | ['-', '-'] => .ok { r with operandsOnly := true }
    | '-' :: '-' :: name => r.changeLevel (r.level.readName name)
    | '-' :: c :: letters => r.changeLevel (r.level.readLetters (c :: letters))
    | _ => r.changeLevel (r.level.addOperand arg)

/-- An argument where the value of a switch is awaited. It may not look like a switch. -/
def readValue (r : Reading) (s : Switch) (arg : String) : Except Ending Reading :=
  match arg.toList with
  | '-' :: _ :: _ => .error .misuse
  | _ => .ok { r with level := { r.level with held := some (s, some arg) } }

def step (r : Reading) (arg : String) : Except Ending Reading :=
  match r.asked with
  | some c =>
    match c.inner? arg with
    | some c => .ok { r with asked := some c }
    | none => .error .misuse
  | none =>
    if r.operandsOnly then r.changeLevel (r.level.addOperand arg)
    else match r.level.waiting? with
      | some s => r.readValue s arg
      | none => r.readFree arg

def finish (r : Reading) : Except Ending (List Level) :=
  match r.asked with
  | some c => .error (.help c)
  | none =>
    if r.level.command.inner.isEmpty then (r.level :: r.outer).mapM Level.finish
    else .error .misuse

end Reading

def levels (args : List String) : Except Ending (List Level) :=
  (args.foldlM Reading.step Reading.start).bind Reading.finish

end AgentHooks.CommandLine
