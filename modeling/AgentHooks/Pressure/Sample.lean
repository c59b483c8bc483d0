import AgentHooks.Fault
import AgentHooks.Settings.Basic
import AgentHooks.Text.Blank
import AgentHooks.Text.Lowercase
import AgentHooks.Text.Utf8
import AgentHooks.Json.Basic

/-!
How much memory the agents' processes use together, as told by a listing of all processes.
-/

namespace AgentHooks

structure Sample where
  totalRssMb : Nat
  processCount : Nat
  deriving DecidableEq

namespace Sample

def none : Sample :=
  ⟨0, 0⟩

end Sample

/-- A process in a listing: its memory in kilobytes and its command line. -/
structure ProcessRow where
  rssKb : Nat
  commandLine : String
  deriving DecidableEq

namespace ProcessRow

/-- A decimal number below a bound; a plus sign may stand before it. -/
def number? (bound : Nat) (word : List Char) : Option Nat :=
  let digits := match word with
    | '+' :: rest => rest
    | _ => word
  if digits.isEmpty || !digits.all Char.isDigit then .none
  else
    let n := digits.foldl (fun n c => n * 10 + (c.toNat - '0'.toNat)) 0
    if n < bound then some n else .none

def ofLine? (line : List Char) : Option ProcessRow :=
  match Text.words line with
  | pid :: rss :: args =>
    match number? (Nat.pow 2 32) pid, number? (Nat.pow 2 64) rss with
    | some _, some rssKb =>
      some ⟨rssKb, String.ofList (List.intercalate [' '] args)⟩
    | _, _ => .none
  | _ => .none

/-- Whether the command line contains one of the patterns, which are given in lower case. -/
def isMatch (patterns : List String) (row : ProcessRow) : Bool :=
  let line := (Text.lower row.commandLine).toList
  patterns.any fun p => Text.occursIn p.toList line

end ProcessRow

namespace Sample

/-- Patterns compare in lower case without blanks around them; blank ones match nothing. -/
def plainPatterns (patterns : List String) : List String :=
  (patterns.map fun p => Text.lower (Text.trim p)).filter (· ≠ "")

def rows (listing : String) : List ProcessRow :=
  (Text.lines listing.toList).filterMap ProcessRow.ofLine?

/-- Counts one more process; the sum stays within a word. -/
def add (sum : Nat × Nat) (row : ProcessRow) : Nat × Nat :=
  (min (sum.1 + row.rssKb) Json.maxInt, sum.2 + 1)

def ofListing (listing : String) (patterns : List String) : Sample :=
  let patterns := plainPatterns patterns
  let (kb, count) := ((rows listing).filter (·.isMatch patterns)).foldl add (0, 0)
  ⟨kb / 1024, count⟩

end Sample

inductive Listing where
  | notStarted (reason : String)
  /-- Ended with a code, or without one when it was killed. -/
  | ended (code : Option Nat) (out err : String)
  | endless

namespace Listing

def codeText : Option Nat → String
  | some n => "Some(" ++ toString n ++ ")"
  | none => "None"

def work : Listing → Work String
  | notStarted reason => .ended (.error (.sampler ("Failed to execute ps: " ++ reason)))
  | ended (some 0) out _ => .ended (.ok out)
  | ended code _ err =>
    .ended (.error (.sampler
      ("ps failed with exit code " ++ codeText code ++ ": " ++ Text.trim err)))
  | endless => .endless

def sample (l : Listing) (patterns : List String) (limitMs : Nat) : Except Fault Sample :=
  (l.work.within "process sampling" limitMs).map fun out => .ofListing out patterns

end Listing

end AgentHooks
