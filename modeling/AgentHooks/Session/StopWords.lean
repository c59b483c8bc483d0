import AgentHooks.Contract.Call
import AgentHooks.Settings.Basic
import AgentHooks.Text.Lowercase

/-!
The commands by which an operator stops a session's loop, wherever they are given.
-/

namespace AgentHooks

structure StopWords where
  commands : List String
  tools : List String

namespace StopWords

/-- A command's name without leading slashes, in lower case. -/
def plain (name : List Char) : String :=
  Text.lower (String.ofList (name.dropWhile (· == '/')))

def ofSettings (s : StopSettings) : StopWords where
  commands := (s.commandNames ++ s.legacyCommandNames).map fun name => plain name.toList
  tools := s.slashCommandTools.map Text.lower

/-- Whether the first word of a command line is a stop command. -/
def matchesCommand (w : StopWords) (line : String) : Bool :=
  match Text.words line.toList with
  | [] => false
  | name :: _ => w.commands.contains (plain name)

def matchesTool (w : StopWords) (call : ToolCall) (args : ToolArguments) : Bool :=
  w.tools.contains (Text.lower call.tool) && (args.command?.map w.matchesCommand).getD false

/-- The first part of a message that says anything, without blanks before it. -/
def firstText (parts : List Part) : Option String :=
  ((parts.filterMap (·.text)).map Text.trimStart).find? (· ≠ "")

/-- Whether a chat message repeats a stop command; only with its slash is it one. -/
def matchesChat (w : StopWords) (message : Composition) : Bool :=
  match firstText message.parts with
  | none => false
  | some text => Text.begins "/" text && w.matchesCommand text

end StopWords

end AgentHooks
