import AgentHooks.Hook.Basic
import AgentHooks.NameSet

/-!
The order in which hooks run: those that the settings list, as listed, then the others by priority.
-/

namespace AgentHooks

namespace Hook

variable {σ : Type}

/-- Among listed hooks, the one listed first; among hooks of one name, as they come. -/
def listedBefore (order : List String) (a b : Hook σ) : Bool :=
  order.idxOf a.id ≤ order.idxOf b.id

/-- Among other hooks, the lower priority, and of equal ones the smaller name. -/
def rankedBefore (a b : Hook σ) : Bool :=
  a.priority < b.priority || (a.priority == b.priority && a.id ≤ b.id)

def arrange (hooks : List (Hook σ)) (order : List String) (disabled : NameSet) : List (Hook σ) :=
  let active := hooks.filter fun h => !disabled.contains h.id
  let (listed, others) := active.partition fun h => order.contains h.id
  listed.mergeSort (listedBefore order) ++ others.mergeSort rankedBefore

end Hook

end AgentHooks
