import AgentHooks.Proofs.Service.Deletion

/-! Which session an event is about. The places where a host may put the name are gone through in order, and the first
one that is filled decides: something that is no name hides the names behind it, and the end of a session that is
hidden in this way is the end of nothing. -/

namespace AgentHooks

namespace LifecycleEvent

def nameIn? (value : Json) : Option String :=
  value.string?.filter (· ≠ "")

def firstName? (e : LifecycleEvent) : Option String :=
  e.sessionPlaces.findSome? (·.bind nameIn?)

def filled (e : LifecycleEvent) : List Json :=
  e.sessionPlaces.filterMap id

/-- The first place that is filled holds no name, but one behind it does. -/
def hidesName (e : LifecycleEvent) : Bool :=
  match e.filled with
  | [] => false
  | value :: later => (nameIn? value).isNone && later.any fun other => (nameIn? other).isSome

variable {e : LifecycleEvent}

theorem session?_eq_head (e : LifecycleEvent) : e.session? = e.filled.head?.bind nameIn? := by
  rw [session?, filled, List.head?_filterMap]
  cases e.sessionPlaces.findSome? id <;> rfl

theorem firstName?_eq_filled (e : LifecycleEvent) : e.firstName? = e.filled.findSome? nameIn? := by
  rw [firstName?, filled, ← List.head?_filterMap, ← List.head?_filterMap, List.filterMap_filterMap]
  rfl

theorem session?_of_hidden (hidden : e.hidesName = true) : e.session? = none ∧ e.firstName? ≠ none := by
  rw [session?_eq_head, firstName?_eq_filled]
  unfold hidesName at hidden
  split at hidden
  · cases hidden
  next value later told =>
    obtain ⟨nameless, behind⟩ := Bool.and_eq_true_iff.1 hidden
    obtain ⟨other, member, named⟩ := List.any_eq_true.1 behind
    have first : nameIn? value = none := Option.isNone_iff_eq_none.1 nameless
    rw [told]
    refine ⟨first, fun none' => ?_⟩
    rw [List.findSome?_eq_none_iff] at none'
    rw [none' other (List.mem_cons_of_mem value member)] at named
    cases named

theorem session?_of_plain (plain : e.hidesName = false) : e.session? = e.firstName? := by
  rw [session?_eq_head, firstName?_eq_filled]
  unfold hidesName at plain
  split at plain
  next nothing => rw [nothing]; rfl
  next value later told =>
    rw [told, List.findSome?_cons]
    change nameIn? value = _
    cases first : nameIn? value with
    | some name => rfl
    | none =>
      rw [first] at plain
      refine (List.findSome?_eq_none_iff.2 fun other member => ?_).symm
      have unnamed := List.any_eq_false.1 plain other member
      simpa using unnamed

end LifecycleEvent

open World

namespace Service

variable {settings : Settings} {w : World} {l : LifecycleEvent}

/-- A hook that is told that a session is gone, but not which, does nothing. -/
theorem turnOf_of_nameless {h : Hook World} (member : h ∈ allHooks settings) (deleted : l.kind = "session.deleted")
    (nameless : l.session? = none) (w : World) : turnOf settings (e := .lifecycle l) () h w = w := by
  have unreported := unreported_of_deleted deleted
  rcases mem_allHooks.1 member with rfl | rfl | rfl | rfl | rfl
  · rw [turnOf_of_harmless (StopPolicy.handle_fault (.ofSettings settings.stopGuard) (.lifecycle l) () w)]
    simp only [StopPolicy.hook, StopPolicy.handle, Handled.pass, nameless, ite_self]
  · rw [turnOf, visit_eq_settle]
    simp only [ContinuationPolicy.hook, ContinuationPolicy.handle, ContinuationPolicy.onLifecycle, nameless,
      ContinuationPolicy.handled, settle]
    rfl
  · rw [turnOf_of_harmless (PressurePolicy.handle_fault settings.pressure (.lifecycle l) () w)]
    simp only [PressurePolicy.hook, PressurePolicy.handle, Handled.pass, nameless, ite_self]
  · rw [turnOf_of_harmless (ContextPolicy.handle_fault settings.context (.lifecycle l) () w)]
    simp only [ContextPolicy.hook, ContextPolicy.handle, Handled.pass, ContextPolicy.onLifecycle, unreported, nameless]
  · rw [turnOf_of_harmless (CompactionPolicy.handle_fault settings.compaction (.lifecycle l) () w)]
    simp only [CompactionPolicy.hook, CompactionPolicy.handle, Handled.pass, CompactionPolicy.onLifecycle, unreported,
      nameless]

/-- Nothing comes of such an event but the line that says that it was there. -/
theorem dispatch_of_nameless (settings : Settings) (deleted : l.kind = "session.deleted")
    (nameless : l.session? = none) (w : World) :
    (dispatcher settings).dispatch (.lifecycle l) () w =
      .pass () (w.remark (.on Dispatcher.journalId .dispatch "dispatched" "session.deleted" "")) := by
  have named : (Event.lifecycle l).session = "" := by simp only [Event.session, nameless, Option.getD_none]
  have kind : (Event.lifecycle l).kind = "session.deleted" := deleted
  rw [dispatch_eq_visits, named, kind]
  generalize w.remark _ = opened
  have elsewhere : ∀ call, Event.lifecycle l ≠ .toolAfter call := by
    rintro _ ⟨⟩
  have idle : (dispatcher settings).visits (.lifecycle l) (dispatcher settings).hooks ((), opened) = ((), opened) := by
    refine Dispatcher.visits_keep _ (e := .lifecycle l) (P := fun x => x = ((), opened)) (fun h turn x same => ?_) rfl
    have member := mem_of_active turn
    rw [same, visit_eq_turnOf member elsewhere, turnOf_of_nameless member deleted nameless]
  rw [idle]

/-- An event is about the session whose name comes first in its places, just if no other thing stands in front of that
name. So the end of a session is the end of all that is remembered about it if its name is not hidden in this way;
otherwise a line in the journal is all that comes of it. -/
theorem session_found_iff (settings : Settings) (active : ∀ h ∈ allHooks settings, h.id ∈ (dispatcher settings).ids)
    (reached : Reachable settings w) (apart : w.Apart) (l : LifecycleEvent) :
    l.session? = (if l.hidesName then none else l.firstName?) ∧
    (l.session? = l.firstName? ↔ l.hidesName = false) ∧
    ∀ session, l.kind = "session.deleted" → l.firstName? = some session →
      let x := (dispatcher settings).dispatch (.lifecycle l) () w
      x.fault = none ∧
        if l.hidesName then
          x.state = w.remark (.on Dispatcher.journalId .dispatch "dispatched" "session.deleted" "")
        else w.Forgets session x.state := by
  cases hidden : l.hidesName with
  | true =>
    obtain ⟨nameless, named⟩ := l.session?_of_hidden hidden
    refine ⟨nameless, ⟨fun same => absurd (same.symm.trans nameless) named, nofun⟩, fun session deleted _ => ?_⟩
    intro x
    have quiet : x = .pass () _ := dispatch_of_nameless settings deleted nameless w
    exact ⟨congrArg Handled.fault quiet, congrArg Handled.state quiet⟩
  | false =>
    have found := l.session?_of_plain hidden
    refine ⟨found, ⟨fun _ => rfl, fun _ => found⟩, fun session deleted named => ?_⟩
    exact dispatch_forgets deleted (found.trans named) (fun h member => active_of_id member (active h member)) w
      reached.tidy apart

/-- A stopped session is deleted, and stays stopped if its name stands behind a place that is filled with nothing. -/
theorem session_found_iff_null :
    let settings : Settings := {}
    let w := (World.start settings ⟨"/project"⟩ .empty ⟨2024, 5, 1, 12, 0, 0, 0⟩ ⟨[], 0⟩).stop "s"
    let info : String × Json := ("info", .object [("id", .string "s")])
    let l : LifecycleEvent := ⟨"session.deleted", .object [info]⟩
    let l' : LifecycleEvent := ⟨"session.deleted", .object [info, ("sessionID", .null)]⟩
    l.firstName? = some "s" ∧ l'.firstName? = some "s" ∧ l'.session? = none ∧
      ((dispatcher settings).dispatch (.lifecycle l) () w).state.isStopped "s" = false ∧
      ((dispatcher settings).dispatch (.lifecycle l') () w).state.isStopped "s" = true := by
  intro settings w info l l'
  have active : ∀ h ∈ allHooks settings, h.id ∈ (dispatcher settings).ids := by
    intro h member
    rcases mem_allHooks.1 member with rfl | rfl | rfl | rfl | rfl
    all_goals exact mem_ids.2 (by decide)
  have reached : Reachable settings w := .meet (.stop "s") (.start _ _ _ _)
  have apart : w.Apart := by
    intro q kept
    cases kept
  have named : l.firstName? = some "s" := by decide +kernel
  have named' : l'.firstName? = some "s" := by decide +kernel
  have plain : l.hidesName = false := by decide +kernel
  have hidden : l'.hidesName = true := by decide +kernel
  obtain ⟨-, -, forgets⟩ := session_found_iff settings active reached apart l
  obtain ⟨lost, -, stays⟩ := session_found_iff settings active reached apart l'
  rw [plain] at forgets
  rw [hidden] at lost stays
  refine ⟨named, named', lost, (forgets "s" rfl named).2.released, ?_⟩
  have same := (stays "s" rfl named').2
  rw [if_pos rfl] at same
  rw [same]
  decide +kernel

end Service

end AgentHooks
