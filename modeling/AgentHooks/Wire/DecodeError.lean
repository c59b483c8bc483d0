import AgentHooks.Decimal.Shortest
import AgentHooks.Json.Printer
import AgentHooks.Text.Quoted
import AgentHooks.Timestamp.Reader

/-!
Why a JSON document is not the record that was asked for.
-/

namespace AgentHooks

inductive DecodeError where
  /-- A value of the wrong kind. -/
  | wrongType (found : Json) (expected : String)
  /-- A value of the right kind that is out of bounds. -/
  | wrongValue (found : Json) (expected : String)
  | singleKeyExpected
  | wrongLength (length : Nat) (expected : String)
  | missingField (name : String)
  | duplicateField (name : String)
  | unknownVariant (found : String) (known : List String)
  | wrongTimestamp (error : Timestamp.ReadError)
  | unreadable

namespace DecodeError

def inTicks (s : String) : String :=
  "`" ++ s ++ "`"

def describe : Json → String
  | .null => "null"
  | .bool b => "boolean " ++ inTicks (toString b)
  | .int n => "integer " ++ inTicks (String.ofList (Json.printInt n))
  | .float x => "floating point " ++ inTicks (Decimal.floatText x)
  | .string s => "string " ++ Text.quoted s
  | .array _ => "sequence"
  | .object _ => "map"
  | .unreadable => "unreadable value"

def choices (known : List String) : String :=
  match known.map inTicks with
  | [] => "there are no variants"
  | [one] => "expected " ++ one
  | [one, two] => "expected " ++ one ++ " or " ++ two
  | many => "expected one of " ++ String.intercalate ", " many

def message : DecodeError → String
  | wrongType found expected => "invalid type: " ++ describe found ++ ", expected " ++ expected
  | wrongValue found expected => "invalid value: " ++ describe found ++ ", expected " ++ expected
  | singleKeyExpected => "invalid value: map, expected map with a single key"
  | wrongLength length expected => "invalid length " ++ toString length ++ ", expected " ++ expected
  | missingField name => "missing field " ++ inTicks name
  | duplicateField name => "duplicate field " ++ inTicks name
  | unknownVariant found known => "unknown variant " ++ inTicks found ++ ", " ++ choices known
  | wrongTimestamp error => error.message
  | unreadable => "unreadable value"

end DecodeError

end AgentHooks
