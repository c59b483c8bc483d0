import AgentHooks.Files.Tree
import AgentHooks.Json.Reader
import AgentHooks.Settings.Normalize
import AgentHooks.Toml.Reader

/-!
Settings from a configuration file. The name of the file tells which format it is in.
-/

namespace AgentHooks

inductive SettingsFormat where
  | json
  | toml
  deriving DecidableEq

namespace SettingsFormat

def name : SettingsFormat → String
  | json => "JSON"
  | toml => "TOML"

/-- Only the exact ending `toml` says that a file is not in JSON. -/
def ofPath (p : Path) : SettingsFormat :=
  if p.extension? = some "toml" then toml else json

def document? : SettingsFormat → String → Option Json
  | json => Json.value?
  | toml => Toml.document?

end SettingsFormat

inductive SettingsFault where
  | unreadable (path : Path)
  | malformed (format : SettingsFormat) (path : Path)
  deriving DecidableEq

def SettingsFault.message : SettingsFault → String
  | unreadable path => "Failed to read config " ++ path.text
  | malformed format path => "Failed to parse " ++ format.name ++ " config " ++ path.text

def Settings.load (files : FileTree) : Option Path → Except SettingsFault Settings
  | none => .ok (.ofJson .null)
  | some path =>
    match files.read path with
    | .error _ => .error (.unreadable path)
    | .ok text =>
      let format := SettingsFormat.ofPath path
      match format.document? text with
      | some document => .ok (.ofJson document)
      | none => .error (.malformed format path)

end AgentHooks
