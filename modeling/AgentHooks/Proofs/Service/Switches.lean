import AgentHooks.Proofs.Hook.Arrangement
import AgentHooks.Proofs.Service.Conversation

/-! The switches of the hooks. A hook can be put on the list of hooks that never run, or its own switch can be off;
either way it is the same service, and the hooks that are left run in the order in which they ran before. -/

namespace AgentHooks

namespace NameSet

def insertAll (s : NameSet) (names : List String) : NameSet :=
  names.foldl insert s

theorem contains_insertAll (s : NameSet) (names : List String) (other : String) :
    (s.insertAll names).contains other = (names.contains other || s.contains other) := by
  induction names generalizing s with
  | nil => rfl
  | cons name rest ih =>
    change ((s.insert name).insertAll rest).contains other = _
    rw [ih, contains_insert, List.contains_cons]
    cases rest.contains other <;> cases other == name <;> rfl

end NameSet

namespace Settings

def disabling (s : Settings) (names : List String) : Settings :=
  { s with disabled := s.disabled.insertAll names }

def switchingOff (s : Settings) (names : List String) : Settings :=
  { s with
    stopGuard.enabled := s.stopGuard.enabled && !names.contains StopPolicy.id
    autopilot.enabled := s.autopilot.enabled && !names.contains ContinuationPolicy.id
    pressure.enabled := s.pressure.enabled && !names.contains PressurePolicy.id
    context.enabled := s.context.enabled && !names.contains ContextPolicy.id
    compaction.enabled := s.compaction.enabled && !names.contains CompactionPolicy.id }

end Settings

namespace Hook

variable {σ : Type}

/-- Leaving out some of the hooks leaves the others in their order. -/
theorem arrange_filter (hooks : List (Hook σ)) (order : List String) (disabled : NameSet) (p : Hook σ → Bool) :
    arrange (hooks.filter p) order disabled = (arrange hooks order disabled).filter p := by
  have whole := arranged hooks order disabled
  have part := arranged (hooks.filter p) order disabled
  have swap : ∀ (xs : List (Hook σ)) (q : Hook σ → Bool), (xs.filter p).filter q = (xs.filter q).filter p := by
    intro xs q
    rw [List.filter_filter, List.filter_filter]
    exact List.filter_congr fun h _ => Bool.and_comm _ _
  apply eq_of_ranks part.sorted (whole.sorted.sublist List.filter_sublist)
  intro r
  rw [part.stable, swap, swap, swap, whole.stable]

theorem arrange_insertAll (hooks : List (Hook σ)) (order : List String) (disabled : NameSet) (names : List String) :
    arrange hooks order (disabled.insertAll names) =
      arrange (hooks.filter fun h => !names.contains h.id) order disabled := by
  have allowed : ∀ h : Hook σ, (!(disabled.insertAll names).contains h.id) =
      (!disabled.contains h.id && !names.contains h.id) := by
    intro h
    rw [NameSet.contains_insertAll, Bool.not_or, Bool.and_comm]
  simp only [arrange, allowed, List.filter_filter]

end Hook

namespace Service

variable (settings : Settings) (names : List String)

theorem switched_filter {α : Type} (p : α → Bool) (xs : List α) (switches : List Bool) :
    ((xs.zip (xs.zipWith (fun x on => on && p x) switches)).filterMap fun (x, on) => if on then some x else none) =
      ((xs.zip switches).filterMap fun (x, on) => if on then some x else none).filter p := by
  induction xs generalizing switches with
  | nil => rfl
  | cons x rest ih =>
    cases switches with
    | nil => rfl
    | cons on others =>
      have tail := ih others
      cases on with
      | false => simpa using tail
      | true => cases kept : p x <;> simpa [kept] using tail

theorem allHooks_switchingOff : allHooks (settings.switchingOff names) = allHooks settings := by
  unfold allHooks
  rfl

theorem enabledHooks_switchingOff :
    enabledHooks (settings.switchingOff names) =
      (enabledHooks settings).filter fun h => !names.contains h.id := by
  unfold enabledHooks
  rw [allHooks_switchingOff]
  exact switched_filter (fun h : Hook World => !names.contains h.id) (allHooks settings)
    [settings.stopGuard.enabled, settings.autopilot.enabled, settings.pressure.enabled, settings.context.enabled,
      settings.compaction.enabled]

theorem dispatcher_eq : dispatcher settings =
    ⟨if settings.enabled then Hook.arrange (enabledHooks settings) settings.order settings.disabled else [],
      World.remark⟩ :=
  rfl

/-- However hooks are switched off, the same hooks run in the same order. -/
theorem dispatcher_switchingOff : dispatcher (settings.switchingOff names) = dispatcher (settings.disabling names) := by
  have arranged := Hook.arrange_insertAll (enabledHooks settings) settings.order settings.disabled names
  rw [← enabledHooks_switchingOff] at arranged
  exact congrArg (fun hooks => Dispatcher.mk (if settings.enabled then hooks else []) World.remark) arranged.symm

theorem dispatcher_disabling_hooks : (dispatcher (settings.disabling names)).hooks =
    (dispatcher settings).hooks.filter fun h => !names.contains h.id := by
  have arranged := Hook.arrange_filter (enabledHooks settings) settings.order settings.disabled
    fun h => !names.contains h.id
  rw [← Hook.arrange_insertAll] at arranged
  change (if settings.enabled then Hook.arrange (enabledHooks settings) settings.order
    (settings.disabled.insertAll names) else []) = _
  rw [arranged, dispatcher_eq]
  cases settings.enabled with
  | true => rfl
  | false => rfl

theorem dispatcher_disabling_ids :
    (dispatcher (settings.disabling names)).ids = (dispatcher settings).ids.filter fun id => !names.contains id := by
  rw [Dispatcher.ids, dispatcher_disabling_hooks, Dispatcher.ids, List.filter_map]
  rfl

theorem dispatcher_disabling_all :
    dispatcher (settings.disabling ((allHooks settings).map (·.id))) = dispatcher { settings with enabled := false } := by
  have nobody : (dispatcher (settings.disabling ((allHooks settings).map (·.id)))).hooks = [] := by
    rw [dispatcher_disabling_hooks, List.filter_eq_nil_iff]
    intro h active
    have named : h.id ∈ (allHooks settings).map (·.id) := List.mem_map_of_mem (mem_of_active active)
    rw [List.contains_iff_mem.2 named]
    exact Bool.false_ne_true
  exact congrArg (fun hooks => Dispatcher.mk hooks World.remark) nobody

/-- The switches agree. Hooks on the list of hooks that never run, and the same hooks with their own switches off,
make the same service: the remaining hooks run in the order in which they ran before, and every conversation gets
the same responses and ends in the same world, with the same loop file and the same lines in the journal. With all
hooks switched off in either way it is the service with the global switch off. -/
theorem switches_agree (project : Path) (files : FileTree) (now : Timestamp) (sampler : Sampler)
    (run : List Incident) :
    let ids (s : Settings) := (dispatcher s).ids
    let outcome (s : Settings) := converse (dispatcher s) (World.start s project files now sampler) run
    let off := { settings with enabled := false }
    let everything := (allHooks settings).map (·.id)
    ids (settings.disabling names) = (ids settings).filter (fun id => !names.contains id) ∧
      ids (settings.switchingOff names) = ids (settings.disabling names) ∧
      outcome (settings.switchingOff names) = outcome (settings.disabling names) ∧
      ids off = [] ∧
      outcome (settings.disabling everything) = outcome off ∧
      outcome (settings.switchingOff everything) = outcome off := by
  intro ids outcome off everything
  have alike : ∀ names, outcome (settings.switchingOff names) = outcome (settings.disabling names) := fun names =>
    congrArg (fun d => converse d (World.start settings project files now sampler) run)
      (dispatcher_switchingOff settings names)
  have nobody : outcome (settings.disabling everything) = outcome off :=
    congrArg (fun d => converse d (World.start settings project files now sampler) run)
      (dispatcher_disabling_all settings)
  exact ⟨dispatcher_disabling_ids settings names, congrArg Dispatcher.ids (dispatcher_switchingOff settings names),
    alike names, rfl, nobody, (alike everything).trans nobody⟩

end Service

end AgentHooks
