import AgentHooks.Hook.Dispatch

/-! What can be seen of a dispatch. A hook can be made to take down its calls, and the dispatcher its
remarks, and nothing else changes by that. The transcript then shows which handlers were called, with what,
and what became of their failures. -/

namespace AgentHooks

variable {σ : Type} {e : Event}

/-- What a transcript holds: that a handler was called, and with what, or a remark of the dispatcher's. -/
inductive Step (σ : Type) where
  | call (h : Hook σ) (e : Event) (output : e.Output) (state : σ)
  | remark (r : Remark)

/-- A hook, and what its handler is called with for an event. -/
structure Call (σ : Type) (e : Event) where
  hook : Hook σ
  output : e.Output
  state : σ

namespace Call

def left (c : Call σ e) : Handled σ e :=
  c.hook.handle e c.output c.state

/-- The refusal that a call leads to, and the journal's word for it. It takes an action that lies ahead, and
a handler that refuses it or, if its hook is strict, fails in any other way. -/
def refusal? (c : Call σ e) : Option (Fault × String) :=
  if e.channel.isBefore then
    c.left.fault.bind fun fault =>
      if fault.isBlocked then some (fault, "blocked")
      else if c.hook.policy = .strict then
        some (.blocked c.hook.id (c.hook.id ++ " could not verify this action: " ++ fault.message),
          "failed_closed")
      else none
  else none

def line? (c : Call σ e) : Option Remark :=
  match c.refusal? with
  | some (_, reason) => some (.on c.hook.id .dispatch reason e.kind e.session)
  | none => c.left.fault.map fun _ => .on c.hook.id .skip "hook_error" e.kind e.session

def steps (c : Call σ e) : List (Step σ) :=
  .call c.hook e c.output c.state :: c.line?.toList.map .remark

theorem refusal?_of_observed (observed : e.channel.isBefore = false) (c : Call σ e) : c.refusal? = none := by
  simp only [refusal?, observed, Bool.false_eq_true, if_false]

theorem refusal?_of_fine {c : Call σ e} (fine : c.left.fault = none) : c.refusal? = none := by
  simp only [refusal?, fine, Option.bind_none, ite_self]

theorem isBlocked_of_refusal? {c : Call σ e} {refusal : Fault} {reason : String}
    (refused : c.refusal? = some (refusal, reason)) : refusal.isBlocked = true := by
  unfold refusal? at refused
  split at refused
  · obtain ⟨fault, -, judged⟩ := Option.bind_eq_some_iff.1 refused
    split at judged
    next deliberate =>
      cases judged
      exact deliberate
    · split at judged
      · cases judged
        rfl
      · cases judged
  · cases refused

theorem isSome_line? (c : Call σ e) : c.line?.isSome = c.left.fault.isSome := by
  cases failed : c.left.fault with
  | none =>
    simp only [line?, refusal?_of_fine failed, failed]
    rfl
  | some fault =>
    simp only [line?, failed]
    cases c.refusal? with
    | none => rfl
    | some refusal => rfl

end Call

namespace Dispatcher

/-- What a call leaves to the next one: its handler's output, and its handler's state with the line about the
call, if there is one. -/
def handOn (d : Dispatcher σ) (c : Call σ e) : e.Output × σ :=
  (c.left.output,
    match c.line? with
    | some line => d.remark line c.left.state
    | none => c.left.state)

/-- What a failure means for the dispatch is told by the call's refusal. -/
theorem judge_eq_refusal? {c : Call σ e} {fault : Fault} (failed : c.left.fault = some fault) :
    judge e.channel c.hook fault =
      match c.refusal? with
      | some (refusal, reason) => .refuse refusal reason
      | none => .proceed := by
  simp only [judge, Call.refusal?, failed, Option.bind_some, unverified]
  cases e.channel.isBefore with
  | false => rfl
  | true =>
    cases fault.isBlocked with
    | true => rfl
    | false => cases c.hook.policy <;> rfl

theorem runHooks_call (d : Dispatcher σ) (c : Call σ e) (hooks : List (Hook σ)) :
    d.runHooks e (c.hook :: hooks) c.output c.state =
      match c.refusal? with
      | some (refusal, _) => ⟨(d.handOn c).1, (d.handOn c).2, some refusal⟩
      | none => d.runHooks e hooks (d.handOn c).1 (d.handOn c).2 := by
  cases failed : c.left.fault with
  | none =>
    have failed' : (c.hook.handle e c.output c.state).fault = none := failed
    have silent : c.line? = none := by simpa [failed] using c.isSome_line?
    simp only [runHooks, failed', handOn, Call.refusal?_of_fine failed, silent]
    rfl
  | some fault =>
    have failed' : (c.hook.handle e c.output c.state).fault = some fault := failed
    simp only [runHooks, failed', judge_eq_refusal? failed, handOn, Call.line?, failed]
    cases c.refusal? with
    | none => rfl
    | some refusal => rfl

end Dispatcher

/-! Taking down what happens. -/

def Hook.noted (h : Hook σ) : Hook (σ × List (Step σ)) where
  id := h.id
  priority := h.priority
  policy := h.policy
  handle e output state :=
    let handled := h.handle e output state.1
    ⟨handled.output, (handled.state, state.2 ++ [.call h e output state.1]), handled.fault⟩

def Call.noted (c : Call σ e) (log : List (Step σ)) : Call (σ × List (Step σ)) e :=
  ⟨c.hook.noted, c.output, (c.state, log)⟩

namespace Dispatcher

def noted (d : Dispatcher σ) : Dispatcher (σ × List (Step σ)) where
  hooks := d.hooks.map Hook.noted
  remark r state := (d.remark r state.1, state.2 ++ [.remark r])

theorem handOn_noted (d : Dispatcher σ) (c : Call σ e) (log : List (Step σ)) :
    d.noted.handOn (c.noted log) = ((d.handOn c).1, (d.handOn c).2, log ++ c.steps) := by
  have same : (c.noted log).line? = c.line? := rfl
  simp only [handOn, same, Call.steps]
  cases c.line? with
  | none => rfl
  | some line =>
    have appended : log ++ [Step.call c.hook e c.output c.state] ++ [.remark line] =
        log ++ [.call c.hook e c.output c.state, .remark line] := List.append_assoc _ _ _
    exact congrArg (fun log => (c.left.output, d.remark line c.left.state, log)) appended

/-- Calls one after another, from one output and state to another: each is given what the one before it
left. -/
def Relays (d : Dispatcher σ) : e.Output × σ → List (Call σ e) → e.Output × σ → Prop
  | x, [], y => y = x
  | x, c :: rest, y => (c.output, c.state) = x ∧ d.Relays (d.handOn c) rest y

/-- Where calls stop, which hooks are not called any more, and what comes of it: either nothing is refused and
nobody is left out, or the last call refuses the action. -/
inductive Stops : List (Call σ e) → List (Hook σ) → Option Fault → Prop where
  | finished {calls : List (Call σ e)} (passed : ∀ c ∈ calls, c.refusal? = none) : Stops calls [] none
  | refused {calls : List (Call σ e)} {last : Call σ e} {rest : List (Hook σ)} {refusal : Fault}
    {reason : String} (passed : ∀ c ∈ calls, c.refusal? = none)
    (refuses : last.refusal? = some (refusal, reason)) : Stops (calls ++ [last]) rest (some refusal)

theorem Stops.cons {c : Call σ e} {calls : List (Call σ e)} {rest : List (Hook σ)} {fault : Option Fault}
    (passed : c.refusal? = none) (stops : Stops calls rest fault) : Stops (c :: calls) rest fault := by
  cases stops with
  | finished others => exact .finished (List.forall_mem_cons.2 ⟨passed, others⟩)
  | refused others refuses =>
    rw [← List.cons_append]
    exact .refused (List.forall_mem_cons.2 ⟨passed, others⟩) refuses

theorem Stops.isBlocked {calls : List (Call σ e)} {rest : List (Hook σ)} {fault : Fault}
    (stops : Stops calls rest (some fault)) : fault.isBlocked = true := by
  generalize outcome : some fault = result at stops
  cases stops with
  | finished => cases outcome
  | refused _ refuses =>
    cases outcome
    exact Call.isBlocked_of_refusal? refuses

theorem Stops.of_observed {calls : List (Call σ e)} {rest : List (Hook σ)} {fault : Option Fault}
    (observed : e.channel.isBefore = false) (stops : Stops calls rest fault) : rest = [] ∧ fault = none := by
  cases stops with
  | finished => exact ⟨rfl, rfl⟩
  | @refused _ last _ _ _ _ refuses => cases (last.refusal?_of_observed observed).symm.trans refuses

/-- What the calls for a list of hooks show: the plain run of the hooks comes to the same, the hooks called
are the first ones of the list, and the transcript grows by what the calls add. -/
structure Shows (d : Dispatcher σ) (hooks : List (Hook σ)) (x : e.Output × σ) (log : List (Step σ))
    (calls : List (Call σ e)) (seen : Handled (σ × List (Step σ)) e) : Prop where
  plain : d.runHooks e hooks x.1 x.2 = ⟨seen.output, seen.state.1, seen.fault⟩
  called : ∃ rest, hooks = calls.map (·.hook) ++ rest ∧ Stops calls rest seen.fault
  relays : d.Relays x calls (seen.output, seen.state.1)
  transcript : seen.state.2 = log ++ calls.flatMap Call.steps

theorem runHooks_shows (d : Dispatcher σ) (hooks : List (Hook σ)) (x : e.Output × σ) (log : List (Step σ)) :
    ∃ calls, d.Shows hooks x log calls (d.noted.runHooks e (hooks.map Hook.noted) x.1 (x.2, log)) := by
  induction hooks generalizing x log with
  | nil => exact ⟨[], rfl, ⟨[], rfl, .finished (by simp)⟩, rfl, (List.append_nil log).symm⟩
  | cons h rest ih =>
    let c : Call σ e := ⟨h, x.1, x.2⟩
    have first := d.runHooks_call c rest
    have noted := d.noted.runHooks_call (c.noted log) (rest.map Hook.noted)
    -- A refusal does not depend on the transcript, so both runs stop at the same hook.
    have same : (c.noted log).refusal? = c.refusal? := rfl
    rw [same, handOn_noted] at noted
    change ∃ calls, d.Shows (c.hook :: rest) x log calls
      (d.noted.runHooks e ((c.noted log).hook :: rest.map Hook.noted) (c.noted log).output
        (c.noted log).state)
    rw [noted]
    cases judged : c.refusal? with
    | none =>
      rw [judged] at first
      obtain ⟨calls, plain, ⟨left, called, stops⟩, relays, transcript⟩ := ih (d.handOn c) (log ++ c.steps)
      refine ⟨c :: calls, first.trans plain, ⟨left, ?_, stops.cons judged⟩, ⟨rfl, relays⟩, ?_⟩
      · rw [called, List.map_cons, List.cons_append]
      · rw [transcript, List.flatMap_cons, List.append_assoc]
    | some refusal =>
      rw [judged] at first
      have none_before : ∀ c ∈ ([] : List (Call σ e)), c.refusal? = none := by simp
      refine ⟨[c], first, ⟨rest, rfl, .refused none_before judged⟩, ⟨rfl, rfl⟩, ?_⟩
      rw [List.flatMap_cons, List.flatMap_nil, List.append_nil]

/-- What a dispatch does, whatever its hooks are. The handlers called are the first ones of the list, in order
and once each, and each is given what the one before it left. The first call that leads to a refusal is the
last one, and its refusal is the result; without one every hook is called and nothing is refused, as always
where the action does not lie ahead. Nothing but a refusal comes out of a dispatch. The dispatcher remarks on
the event, and then once on each call whose handler failed. -/
theorem dispatch_transcript (d : Dispatcher σ) (e : Event) (out : e.Output) (state : σ) :
    let opened := Remark.on journalId .dispatch "dispatched" e.kind e.session
    let seen := d.noted.dispatch e out (state, [])
    d.dispatch e out state = ⟨seen.output, seen.state.1, seen.fault⟩ ∧
    ∃ (calls : List (Call σ e)) (rest : List (Hook σ)),
      d.hooks = calls.map (·.hook) ++ rest ∧
      d.Relays (out, d.remark opened state) calls (seen.output, seen.state.1) ∧
      Stops calls rest seen.fault ∧
      (e.channel.isBefore = false → rest = [] ∧ seen.fault = none) ∧
      (∀ fault, seen.fault = some fault → fault.isBlocked = true) ∧
      seen.state.2 = .remark opened :: calls.flatMap Call.steps ∧
      ∀ c ∈ calls, c.line?.isSome = c.left.fault.isSome := by
  intro opened seen
  obtain ⟨calls, plain, ⟨rest, called, stops⟩, relays, transcript⟩ :=
    d.runHooks_shows d.hooks (out, d.remark opened state) [.remark opened]
  refine ⟨plain, calls, rest, called, relays, stops, stops.of_observed, fun fault refused => ?_, transcript,
    fun c _ => c.isSome_line?⟩
  change Stops calls rest seen.fault at stops
  rw [refused] at stops
  exact stops.isBlocked

end Dispatcher

end AgentHooks
