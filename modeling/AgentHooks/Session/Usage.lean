import AgentHooks.Contract.Lifecycle
import AgentHooks.Settings.Basic

/-!
How much of its context window a session uses: as the host reports it, or else as estimated from the
tool output that went into it.
-/

namespace AgentHooks

/-- About four characters make a token. -/
def estimateTokens (text : String) : Nat :=
  (text.length + 3) / 4

/-- Counts of tokens stay within a word. -/
def addTokens (a b : Nat) : Nat :=
  min (a + b) Json.maxInt

/-- Usage that the host reported for a session. -/
structure UsageReport where
  session : String
  tokens : Nat
  limit : Option Nat

namespace UsageReport

def countAt (j : Json) (key : String) : Nat :=
  ((j.member? key).bind Json.nat?).getD 0

/-- Tokens read by the model: fresh input and what came from its cache. -/
def tokensOf (tokens : Json) : Nat :=
  addTokens (countAt tokens "input") (((tokens.member? "cache").map (countAt · "read")).getD 0)

/-- Usage is reported with messages of the assistant; no tokens at all mean that the message is still
being written. -/
def ofEvent? (e : LifecycleEvent) : Option UsageReport := do
  guard (e.kind == "message.updated")
  let info ← e.properties.member? "info"
  guard ((info.member? "role").bind Json.string? == some "assistant")
  let tokens ← info.member? "tokens"
  guard (tokensOf tokens != 0)
  let session ← e.session?
  some ⟨session, tokensOf tokens, ((info.member? "contextLimit").bind Json.nat?).filter (0 < ·)⟩

end UsageReport

structure Usage where
  /-- What the host reported last; it counts before any estimate. -/
  reported : Option Nat
  estimated : Nat
  /-- The size of the context window, if the host told it. -/
  limit : Option Nat
  toolCalls : Nat
  deriving DecidableEq

namespace Usage

def none : Usage :=
  ⟨.none, 0, .none, 0⟩

def used (u : Usage) : Nat :=
  u.reported.getD u.estimated

def window (u : Usage) (default : Nat) : Nat :=
  u.limit.getD default

def ratio (u : Usage) (default : Nat) : Float :=
  if u.window default = 0 then 0 else .ofNat u.used / .ofNat (u.window default)

def addOutput (u : Usage) (text : String) : Usage :=
  { u with
    toolCalls := u.toolCalls + 1
    estimated := addTokens u.estimated (estimateTokens text) }

/-- A report that names no window leaves the known one. -/
def addReport (u : Usage) (r : UsageReport) : Usage :=
  { u with reported := some r.tokens, limit := r.limit.or u.limit }

def reset (u : Usage) : Usage :=
  { u with reported := .none, estimated := 0 }

end Usage

end AgentHooks
