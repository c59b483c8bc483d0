import AgentHooks.Fault
import AgentHooks.Hook.Event

/-!
Hooks: a name, a rank among hooks that the settings do not place, a stance on failures, and a handler
that sees every event.
-/

namespace AgentHooks

/-- What becomes of an action when a hook fails to judge it: it goes ahead, or it is refused. -/
inductive FailurePolicy where
  | lenient
  | strict
  deriving DecidableEq

/-- What a handler leaves behind. Changes made before a failure stay. -/
structure Handled (σ : Type) (e : Event) where
  output : e.Output
  state : σ
  fault : Option Fault

structure Hook (σ : Type) where
  id : String
  priority : Int
  policy : FailurePolicy
  handle : (e : Event) → e.Output → σ → Handled σ e

def Handled.pass {σ : Type} {e : Event} (output : e.Output) (state : σ) : Handled σ e :=
  ⟨output, state, none⟩

end AgentHooks
