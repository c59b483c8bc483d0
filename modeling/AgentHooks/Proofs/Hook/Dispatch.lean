import AgentHooks.Hook.Dispatch

/-! Dispatching to hooks that never refuse. Every hook of the list has its turn then, whatever happens
to the ones before it, so a dispatch is a fold over the list. -/

namespace AgentHooks

variable {σ : Type}

namespace Hook

theorem arrange_perm (hooks : List (Hook σ)) (order : List String) (disabled : NameSet) :
    (arrange hooks order disabled).Perm (hooks.filter fun h => !disabled.contains h.id) := by
  simp only [arrange, List.partition_eq_filter_filter]
  exact ((List.mergeSort_perm _ _).append (List.mergeSort_perm _ _)).trans
    (List.filter_append_perm _ _)

/-- A hook that lets every action go ahead, even when it fails itself. -/
structure Tolerant (h : Hook σ) : Prop where
  lenient : h.policy = .lenient
  unblocking : ∀ e output state fault,
    (h.handle e output state).fault = some fault → fault.isBlocked = false

end Hook

namespace Dispatcher

/-- One hook's turn: a failure costs a line in the journal and nothing else. -/
def visit (d : Dispatcher σ) (e : Event) (x : e.Output × σ) (h : Hook σ) : e.Output × σ :=
  let handled := h.handle e x.1 x.2
  (handled.output,
    match handled.fault with
    | none => handled.state
    | some _ => d.remark (.on h.id .skip "hook_error" e.kind e.session) handled.state)

def visits (d : Dispatcher σ) (e : Event) (hooks : List (Hook σ)) (x : e.Output × σ) :
    e.Output × σ :=
  hooks.foldl (d.visit e) x

theorem judge_of_tolerant {h : Hook σ} (tolerant : h.Tolerant) (channel : Channel) {fault : Fault}
    (harmless : fault.isBlocked = false) : judge channel h fault = .proceed := by
  unfold judge
  rw [harmless, tolerant.lenient]
  split <;> rfl

theorem runHooks_eq_visits (d : Dispatcher σ) (e : Event) (hooks : List (Hook σ))
    (tolerant : ∀ h ∈ hooks, h.Tolerant) (output : e.Output) (state : σ) :
    d.runHooks e hooks output state =
      .pass (d.visits e hooks (output, state)).1 (d.visits e hooks (output, state)).2 := by
  induction hooks generalizing output state with
  | nil => rfl
  | cons h rest ih =>
    have others : ∀ k ∈ rest, k.Tolerant := fun k member => tolerant k (List.mem_cons_of_mem h member)
    have self : h.Tolerant := tolerant h (by simp)
    simp only [runHooks, visits, List.foldl_cons, visit]
    cases failed : (h.handle e output state).fault with
    | none => exact ih others _ _
    | some fault =>
      simp only [judge_of_tolerant self e.channel (self.unblocking e output state fault failed)]
      exact ih others _ _

theorem dispatch_eq_visits (d : Dispatcher σ) (e : Event) (tolerant : ∀ h ∈ d.hooks, h.Tolerant)
    (output : e.Output) (state : σ) :
    d.dispatch e output state =
      let x := d.visits e d.hooks
        (output, d.remark (.on journalId .dispatch "dispatched" e.kind e.session) state)
      .pass x.1 x.2 :=
  runHooks_eq_visits d e d.hooks tolerant output _

theorem visits_append (d : Dispatcher σ) (e : Event) (first rest : List (Hook σ)) (x : e.Output × σ) :
    d.visits e (first ++ rest) x = d.visits e rest (d.visits e first x) :=
  List.foldl_append

/-- What every hook's turn keeps, the turns of all hooks keep. -/
theorem visits_keep (d : Dispatcher σ) {e : Event} {P : e.Output × σ → Prop} {hooks : List (Hook σ)}
    (keeps : ∀ h ∈ hooks, ∀ x, P x → P (d.visit e x h)) {x : e.Output × σ} (holds : P x) :
    P (d.visits e hooks x) := by
  induction hooks generalizing x with
  | nil => exact holds
  | cons h rest ih =>
    exact ih (fun k member => keeps k (List.mem_cons_of_mem h member)) (keeps h (by simp) x holds)

end Dispatcher

end AgentHooks
