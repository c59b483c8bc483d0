import AgentHooks.Hook.Arrangement
import AgentHooks.Journal
import AgentHooks.Settings.Basic

/-!
Running the hooks for an event, one after another. Where the action lies ahead a hook can refuse it,
and a hook that must not be passed over refuses it by failing; everywhere else a failure costs nothing
but a line in the journal.
-/

namespace AgentHooks

/-- The hooks that run, in order, and how remarks are taken down. -/
structure Dispatcher (σ : Type) where
  hooks : List (Hook σ)
  remark : Remark → σ → σ

namespace Dispatcher

variable {σ : Type}

/-- The name under which the dispatcher itself remarks. -/
def journalId : String := "dispatcher"

/-- With the global switch off there is no hook to run. -/
def ofHooks (hooks : List (Hook σ)) (settings : Settings) (remark : Remark → σ → σ) : Dispatcher σ where
  hooks := if settings.enabled then Hook.arrange hooks settings.order settings.disabled else []
  remark := remark

def ids (d : Dispatcher σ) : List String :=
  d.hooks.map (·.id)

/-- What a hook's failure means for the rest of the dispatch. -/
inductive Verdict where
  /-- The action is refused in the words of `refusal`; the journal calls it `reason`. -/
  | refuse (refusal : Fault) (reason : String)
  | proceed

def unverified (h : Hook σ) (fault : Fault) : Fault :=
  .blocked h.id (h.id ++ " could not verify this action: " ++ fault.message)

def judge (channel : Channel) (h : Hook σ) (fault : Fault) : Verdict :=
  if channel.isBefore then
    if fault.isBlocked then .refuse fault "blocked"
    else if h.policy = .strict then .refuse (unverified h fault) "failed_closed"
    else .proceed
  else .proceed

/-- The hooks of a list, each seeing what the ones before it left, until one refuses. -/
def runHooks (d : Dispatcher σ) (e : Event) : List (Hook σ) → e.Output → σ → Handled σ e
  | [], output, state => .pass output state
  | h :: rest, output, state =>
    let handled := h.handle e output state
    match handled.fault with
    | none => d.runHooks e rest handled.output handled.state
    | some fault =>
      match judge e.channel h fault with
      | .refuse refusal reason =>
        ⟨handled.output, d.remark (.on h.id .dispatch reason e.kind e.session) handled.state,
          some refusal⟩
      | .proceed =>
        d.runHooks e rest handled.output
          (d.remark (.on h.id .skip "hook_error" e.kind e.session) handled.state)

def dispatch (d : Dispatcher σ) (e : Event) (output : e.Output) (state : σ) : Handled σ e :=
  d.runHooks e d.hooks output
    (d.remark (.on journalId .dispatch "dispatched" e.kind e.session) state)

end Dispatcher

end AgentHooks
