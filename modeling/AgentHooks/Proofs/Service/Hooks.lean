import AgentHooks.Proofs.Hook.Dispatch
import AgentHooks.Proofs.Policy.Continuation
import AgentHooks.Proofs.Policy.Monitors
import AgentHooks.Proofs.Policy.Stop
import AgentHooks.Service

/-! The service's hooks side by side. Each of them is tolerant, so every dispatch gives every active
hook its turn, and no two of them have a name in common, so each has it once. -/

namespace AgentHooks.Service

open World

variable {settings : Settings} {h : Hook World}

theorem mem_allHooks : h ∈ allHooks settings ↔
    h = StopPolicy.hook settings ∨ h = ContinuationPolicy.hook settings ∨
      h = PressurePolicy.hook settings ∨ h = ContextPolicy.hook settings ∨
      h = CompactionPolicy.hook settings := by
  simp [allHooks]

theorem switched_sublist {α : Type} (xs : List α) (switches : List Bool) :
    ((xs.zip switches).filterMap fun (x, on) => if on then some x else none).Sublist xs := by
  induction xs generalizing switches with
  | nil => simp
  | cons x rest ih =>
    cases switches with
    | nil => simp
    | cons on others =>
      cases on with
      | true => simpa using ih others
      | false => simpa using (ih others).cons x

theorem enabledHooks_sublist (settings : Settings) :
    (enabledHooks settings).Sublist (allHooks settings) :=
  switched_sublist _ _

theorem allHooks_ids (settings : Settings) : ((allHooks settings).map (·.id)).Nodup := by
  have names : (allHooks settings).map (·.id) =
      [StopPolicy.id, ContinuationPolicy.id, PressurePolicy.id, ContextPolicy.id,
        CompactionPolicy.id] := rfl
  rw [names]
  decide

theorem mem_of_active (active : h ∈ (dispatcher settings).hooks) : h ∈ allHooks settings := by
  simp only [dispatcher, Dispatcher.ofHooks] at active
  split at active
  · have kept := (Hook.arrange_perm _ _ _).mem_iff.1 active
    exact (enabledHooks_sublist settings).subset (List.mem_filter.1 kept).1
  · cases active

/-- The names of the hooks that run: nothing else switches a hook off but the global switch, its own one
and the list of disabled hooks. -/
theorem mem_ids {id : String} : id ∈ (dispatcher settings).ids ↔
    settings.enabled = true ∧ id ∈ (enabledHooks settings).map (·.id) ∧
      settings.disabled.contains id = false := by
  simp only [Dispatcher.ids, dispatcher, Dispatcher.ofHooks, List.mem_map]
  cases settings.enabled with
  | false => simp
  | true =>
    simp only [if_true, (Hook.arrange_perm _ _ _).mem_iff, List.mem_filter, Bool.not_eq_true', true_and]
    constructor
    · rintro ⟨k, ⟨enabled, allowed⟩, rfl⟩
      exact ⟨⟨k, enabled, rfl⟩, allowed⟩
    · rintro ⟨⟨k, enabled, rfl⟩, allowed⟩
      exact ⟨k, ⟨enabled, allowed⟩, rfl⟩

theorem dispatcher_ids (settings : Settings) : (dispatcher settings).ids.Nodup := by
  simp only [Dispatcher.ids, dispatcher, Dispatcher.ofHooks]
  split
  · rw [((Hook.arrange_perm _ _ _).map _).nodup_iff]
    exact (((enabledHooks_sublist settings).map _).nodup (allHooks_ids settings)).sublist
      (List.filter_sublist.map _)
  · exact List.nodup_nil

theorem allHooks_ranked (settings : Settings) :
    (allHooks settings).Pairwise fun a b => Hook.rankedBefore a b = true := by
  simp [allHooks, Hook.rankedBefore, StopPolicy.hook, ContinuationPolicy.hook, PressurePolicy.hook,
    ContextPolicy.hook, CompactionPolicy.hook]

theorem hooks_of_unordered (on : settings.enabled = true) (unordered : settings.order = []) :
    (dispatcher settings).hooks =
      (enabledHooks settings).filter fun h => !settings.disabled.contains h.id := by
  have allowed : ((enabledHooks settings).filter fun h => !settings.disabled.contains h.id).Sublist
      (allHooks settings) := List.filter_sublist.trans (enabledHooks_sublist settings)
  have listed : ∀ hooks : List (Hook World), hooks.filter (fun _ => false) = [] :=
    fun hooks => List.filter_eq_nil_iff.2 (by simp)
  have arranged : ∀ hooks : List (Hook World), Hook.arrange hooks settings.order settings.disabled =
      (hooks.filter fun h => !settings.disabled.contains h.id).mergeSort Hook.rankedBefore := by
    intro hooks
    simp [Hook.arrange, unordered, List.partition_eq_filter_filter, listed]
  simp only [dispatcher, Dispatcher.ofHooks, on, if_true, arranged]
  exact List.mergeSort_of_pairwise ((allHooks_ranked settings).sublist allowed)

theorem dispatcher_of_unordered {settings : Settings} (on : settings.enabled = true)
    (unordered : settings.order = []) :
    dispatcher settings =
      ⟨(enabledHooks settings).filter fun h => !settings.disabled.contains h.id, World.remark⟩ := by
  have remark : (dispatcher settings).remark = World.remark := rfl
  rw [← hooks_of_unordered on unordered, ← remark]

theorem eq_of_id {k : Hook World} (member : h ∈ allHooks settings) (other : k ∈ allHooks settings)
    (same : h.id = k.id) : h = k := by
  have apart := List.pairwise_map.1 (allHooks_ids settings)
  obtain ⟨first, rest, listed⟩ := List.append_of_mem member
  rw [listed, List.pairwise_append, List.pairwise_cons] at apart
  obtain ⟨-, ⟨later, -⟩, earlier⟩ := apart
  rw [listed] at other
  rcases List.mem_append.1 other with before | after
  · exact absurd same.symm (earlier k before h (by simp))
  · rcases List.mem_cons.1 after with now | after
    · exact now.symm
    · exact absurd same (later k after)

theorem active_of_id (member : h ∈ allHooks settings) (named : h.id ∈ (dispatcher settings).ids) :
    h ∈ (dispatcher settings).hooks := by
  obtain ⟨k, active, same⟩ := List.mem_map.1 named
  rw [eq_of_id member (mem_of_active active) same.symm]
  exact active

/-- An active hook has one turn in a dispatch; the other turns are other hooks'. -/
theorem hooks_split (active : h ∈ (dispatcher settings).hooks) :
    ∃ first rest, (dispatcher settings).hooks = first ++ h :: rest ∧
      (∀ k ∈ first, k ∈ allHooks settings ∧ k.id ≠ h.id) ∧
      ∀ k ∈ rest, k ∈ allHooks settings ∧ k.id ≠ h.id := by
  obtain ⟨first, rest, arranged⟩ := List.append_of_mem active
  have others : ∀ k ∈ first ++ rest, k ∈ allHooks settings ∧ k.id ≠ h.id := by
    intro k other
    refine ⟨?_, fun same => ?_⟩
    · have turn : k ∈ (dispatcher settings).hooks := by
        rw [arranged, List.perm_middle.mem_iff]
        exact List.mem_cons_of_mem h other
      exact mem_of_active turn
    · have unique := dispatcher_ids settings
      rw [Dispatcher.ids, arranged, (List.perm_middle.map _).nodup_iff] at unique
      exact (List.nodup_cons.1 unique).1 (List.mem_map.2 ⟨k, other, same⟩)
  exact ⟨first, rest, arranged, fun k turn => others k (List.mem_append_left _ turn),
    fun k turn => others k (List.mem_append_right _ turn)⟩

theorem tolerant_of_mem (member : h ∈ allHooks settings) : h.Tolerant := by
  rcases mem_allHooks.1 member with rfl | rfl | rfl | rfl | rfl
  · exact ⟨rfl, fun e out w fault failed => by
      cases (StopPolicy.handle_fault _ e out w).symm.trans failed⟩
  · exact ⟨rfl, fun e out w fault failed => ContinuationPolicy.handle_unblocking failed⟩
  · exact ⟨rfl, fun e out w fault failed => by
      cases (PressurePolicy.handle_fault _ e out w).symm.trans failed⟩
  · exact ⟨rfl, fun e out w fault failed => by
      cases (ContextPolicy.handle_fault _ e out w).symm.trans failed⟩
  · exact ⟨rfl, fun e out w fault failed => by
      cases (CompactionPolicy.handle_fault _ e out w).symm.trans failed⟩

/-- A dispatch is the journal's line about it and then every active hook's turn. -/
theorem dispatch_eq_visits (settings : Settings) (e : Event) (out : e.Output) (w : World) :
    (dispatcher settings).dispatch e out w =
      let x := (dispatcher settings).visits e (dispatcher settings).hooks
        (out, w.remark (.on Dispatcher.journalId .dispatch "dispatched" e.kind e.session))
      .pass x.1 x.2 :=
  Dispatcher.dispatch_eq_visits _ e (fun _ active => tolerant_of_mem (mem_of_active active)) out w

theorem visit_quiet (settings : Settings) (e : Event) (x : e.Output × World) (h : Hook World) :
    Quiet (h.handle e x.1 x.2).state ((dispatcher settings).visit e x h).2 := by
  simp only [Dispatcher.visit]
  split
  · exact .refl _
  · exact .remark _ _

/-- Only the output of a finished tool call is ever changed. -/
theorem visit_output (member : h ∈ allHooks settings) {e : Event} (x : e.Output × World)
    (elsewhere : ∀ call, e ≠ .toolAfter call) : ((dispatcher settings).visit e x h).1 = x.1 := by
  rcases mem_allHooks.1 member with rfl | rfl | rfl | rfl | rfl <;> cases e <;>
    first | exact absurd rfl (elsewhere _) | rfl

theorem visits_output {e : Event} {hooks : List (Hook World)}
    (members : ∀ h ∈ hooks, h ∈ allHooks settings) (elsewhere : ∀ call, e ≠ .toolAfter call)
    (x : e.Output × World) : ((dispatcher settings).visits e hooks x).1 = x.1 :=
  Dispatcher.visits_keep (P := fun y => y.1 = x.1) _
    (fun _ turn y same => (visit_output (members _ turn) y elsewhere).trans same) rfl

theorem visit_fixtures (member : h ∈ allHooks settings) (e : Event) (x : e.Output × World) :
    ∃ stopped, Steady { x.2 with stopped } ((dispatcher settings).visit e x h).2 := by
  have moves : ∀ {w : World}, Moves x.2 w → ∃ stopped, Steady { x.2 with stopped } w := by
    rintro w ⟨stopped, quiet⟩
    exact ⟨stopped, quiet.toSteady⟩
  have handled : ∃ stopped, Steady { x.2 with stopped } (h.handle e x.1 x.2).state := by
    rcases mem_allHooks.1 member with rfl | rfl | rfl | rfl | rfl
    · exact moves (StopPolicy.handle_moves _ e x.1 x.2)
    · exact ⟨x.2.stopped, ContinuationPolicy.handle_steady _ _ e x.1 x.2⟩
    · exact moves (PressurePolicy.handle_moves _ e x.1 x.2)
    · exact ⟨x.2.stopped, (ContextPolicy.handle_quiet _ e x.1 x.2).toSteady⟩
    · exact ⟨x.2.stopped, (CompactionPolicy.handle_quiet _ e x.1 x.2).toSteady⟩
  obtain ⟨stopped, steady⟩ := handled
  exact ⟨stopped, steady.trans (visit_quiet settings e x h).toSteady⟩

theorem visit_apart (member : h ∈ allHooks settings) (e : Event) (x : e.Output × World)
    (apart : x.2.Apart) : ((dispatcher settings).visit e x h).2.Apart := by
  obtain ⟨_, steady⟩ := visit_fixtures member e x
  exact steady.apart apart

theorem visit_loopPlace (member : h ∈ allHooks settings) (e : Event) (x : e.Output × World) :
    ((dispatcher settings).visit e x h).2.loopPlace = x.2.loopPlace := by
  obtain ⟨_, steady⟩ := visit_fixtures member e x
  exact steady.loopPlace

end AgentHooks.Service
