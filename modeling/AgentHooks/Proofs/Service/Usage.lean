import AgentHooks.Proofs.Service.Episode

/-! What is heard of a session's usage over runs. The hooks that follow it count the session's tool calls while they do:
every one of them is heard of, and nothing else that is heard is counted. -/

namespace AgentHooks

open World

def Occurrence.compacts (session : String) : Occurrence → Bool
  | .dispatch a _ => a.event.compacts session
  | _ => false

namespace Service

variable {settings : Settings} {id session : String} {w : World} {o : Occurrence} {f : Usage → Usage}

def usage? (settings : Settings) (id session : String) (w : World) : Occurrence → Option (Usage → Usage)
  | .dispatch a conduct => (a.event.tidings (ahead settings id a conduct w).output).usage? session
  | _ => none

/-- What is heard at a call is the output as it is when the hook has its turn. -/
theorem usage?_of_call {call : ToolCall} (named : call.session ≠ "") (out : ToolResult) (conduct : Conduct) :
    usage? settings id call.session w (.dispatch ⟨.toolAfter call, out⟩ conduct) =
      some (·.addOutput (ahead settings id ⟨.toolAfter call, out⟩ conduct w).output.output) := by
  simp only [usage?, Event.tidings, if_neg named, Tidings.usage?, if_true]

theorem toolCalls_of_usage? (heard : usage? settings id session w o = some f) (u : Usage) :
    (f u).toolCalls = u.toolCalls + (o.isCallOf session).toNat := by
  cases o with
  | dispatch a conduct => exact Event.toolCalls_of_usage? heard u
  | _ => cases heard

theorem not_isCallOf_of_unheard (unheard : usage? settings id session w o = none) : o.isCallOf session = false := by
  cases o with
  | dispatch a conduct => exact Event.not_isCallOf_of_unheard unheard
  | _ => rfl

theorem not_compacts_of_usage? (heard : usage? settings id session w o = some f) : o.compacts session = false := by
  rw [Bool.eq_false_iff]
  intro whole
  cases o with
  | dispatch a conduct => cases (Event.unheard_of_compacts whole _).symm.trans heard
  | _ => cases heard

/-- A hook that follows the usage of sessions on a roster of its own: `take` tells what becomes of a session's entry when
its usage changes, `compacted` what becomes of it when the session has been compacted. -/
structure Listens {α : Type} (settings : Settings) (h : Hook World) (part : World → Roster α) (start : α)
    (take : String → Event → (HostCall → Disturbance) → (Usage → Usage) → α → α) (compacted : α → α) : Prop where
  owned : Owned settings h.id part
  usage : ∀ {session : String} {e : Event} {out : e.Output} {f : Usage → Usage} (w : World),
    (e.tidings out).usage? session = some f →
      (part (h.handle e out w).state).get? session =
        some (take session e w.disturbance f (((part w).get? session).getD start))
  compacts : ∀ {session : String} {e : Event} (out : e.Output) (w : World), e.compacts session = true →
    (part (h.handle e out w).state).get? session = ((part w).get? session).map compacted
  others : ∀ {session : String} {e : Event} {out : e.Output} (w : World), (e.tidings out).usage? session = none →
    e.compacts session = false →
      (part (h.handle e out w).state).get? session = (part w).get? session ∨
        (part (h.handle e out w).state).get? session = none
  fresh : compacted start = start

namespace Listens

variable {α : Type} {h : Hook World} {part : World → Roster α} {start : α} {compacted : α → α}
  {take : String → Event → (HostCall → Disturbance) → (Usage → Usage) → α → α}
  (listens : Listens settings h part start take compacted) (active : h ∈ (dispatcher settings).hooks)

include listens active

theorem entry (a : Announcement) (conduct : Conduct) (w : World) (session : String) :
    let before := ahead settings h.id a conduct w
    (part (occur settings w (.dispatch a conduct)).1).get? session =
      (part (h.handle a.event before.output before.state).state).get? session ∧
      (part before.state).get? session = (part w).get? session :=
  ⟨congrArg (·.get? session) (listens.owned.occur active w (.dispatch a conduct)),
    congrArg (·.get? session) (listens.owned.ahead a conduct w)⟩

theorem occur_of_usage? (heard : usage? settings h.id session w o = some f) :
    ∃ a conduct, o = .dispatch a conduct ∧
      (part (occur settings w o).1).get? session =
        some (take session a.event conduct.disturbance f (((part w).get? session).getD start)) := by
  cases o with
  | dispatch a conduct =>
    obtain ⟨turned, before⟩ := listens.entry active a conduct w session
    have taken := listens.usage (ahead settings h.id a conduct w).state heard
    rw [before, ahead_disturbance] at taken
    exact ⟨a, conduct, rfl, turned.trans taken⟩
  | _ => cases heard

theorem stays_of_usage? (heard : usage? settings h.id session w o = some f) :
    Stays settings part session w [o] := by
  obtain ⟨_, _, -, entered⟩ := listens.occur_of_usage? active heard
  refine ⟨fun _ => ?_, trivial⟩
  rw [Roster.contains, entered]
  rfl

/-- Otherwise the entry of a session that stays changes if the session has been compacted. -/
theorem occur_of_unheard (unheard : usage? settings h.id session w o = none)
    (stays : Stays settings part session w [o]) :
    ((part (occur settings w o).1).get? session).getD start =
      let m := ((part w).get? session).getD start
      if o.compacts session then compacted m else m := by
  have turned := listens.owned.occur active w o
  cases whole : o.compacts session with
  | true =>
    cases o with
    | dispatch a conduct =>
      obtain ⟨turned, before⟩ := listens.entry active a conduct w session
      rw [turned, listens.compacts _ _ whole, before]
      -- Without an entry there is nothing to compact, and starting anew comes to the same.
      cases (part w).get? session with
      | none => exact listens.fresh.symm
      | some m => rfl
    | _ => cases whole
  | false =>
    refine congrArg (·.getD start) (stays.get? ?_)
    cases o with
    | dispatch a conduct =>
      obtain ⟨turned, before⟩ := listens.entry active a conduct w session
      rw [turned, ← before]
      exact listens.others _ unheard whole
    | _ => exact .inl (congrArg (·.get? session) turned)

end Listens

end Service

end AgentHooks
