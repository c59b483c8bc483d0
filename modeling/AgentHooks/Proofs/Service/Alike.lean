import AgentHooks.Proofs.Policy.Alike
import AgentHooks.Proofs.Service.Conversation

/-! The service in worlds that its hooks cannot tell apart: whole conversations are the same in both. -/

namespace AgentHooks

open World

variable {p : Path} {j k : Journal} {F : FileTree → FileTree → Prop} {u v : World} {settings : Settings}

namespace Service

theorem visit_of_harmless {e : Event} {h : Hook World} {x : e.Output × World}
    (harmless : (h.handle e x.1 x.2).fault = none) :
    (dispatcher settings).visit e x h = ((h.handle e x.1 x.2).output, (h.handle e x.1 x.2).state) := by
  simp only [Dispatcher.visit, harmless]

theorem visit_eq_settle (settings : Settings) (e : Event) (x : e.Output × World) (h : Hook World) :
    ((dispatcher settings).visit e x h).2 =
      settle ((h.handle e x.1 x.2).state, (h.handle e x.1 x.2).fault)
        (.on h.id .skip "hook_error" e.kind e.session) := by
  simp only [Dispatcher.visit, settle]
  cases (h.handle e x.1 x.2).fault <;> rfl

theorem visit_alike (o : Overlooked p j k F) {h : Hook World} (member : h ∈ allHooks settings) {e : Event}
    {x y : e.Output × World} (same : AlikeWith p j k F x y) :
    AlikeWith p j k F ((dispatcher settings).visit e x h) ((dispatcher settings).visit e y h) := by
  obtain ⟨_, u⟩ := x
  obtain ⟨out, v⟩ := y
  obtain ⟨rfl, alike⟩ := same
  rcases mem_allHooks.1 member with rfl | rfl | rfl | rfl | rfl
  · rw [visit_of_harmless (StopPolicy.handle_fault _ e out u), visit_of_harmless (StopPolicy.handle_fault _ e out v)]
    refine ⟨?_, StopPolicy.handle_alike o alike _ e out⟩
    cases e <;> rfl
  · refine ⟨?_, ?_⟩
    · cases e <;> rfl
    · rw [visit_eq_settle, visit_eq_settle]
      exact ContinuationPolicy.handle_alike o alike _ _ e out _
  · rw [visit_of_harmless (PressurePolicy.handle_fault _ e out u),
      visit_of_harmless (PressurePolicy.handle_fault _ e out v)]
    exact PressurePolicy.handle_alike o _ alike e out
  · rw [visit_of_harmless (ContextPolicy.handle_fault _ e out u),
      visit_of_harmless (ContextPolicy.handle_fault _ e out v)]
    exact ContextPolicy.handle_alike o alike _ e out
  · rw [visit_of_harmless (CompactionPolicy.handle_fault _ e out u),
      visit_of_harmless (CompactionPolicy.handle_fault _ e out v)]
    refine ⟨?_, CompactionPolicy.handle_alike o alike _ e out⟩
    cases e <;> rfl

theorem visits_alike (o : Overlooked p j k F) {hooks : List (Hook World)}
    (members : ∀ h ∈ hooks, h ∈ allHooks settings) {e : Event} {x y : e.Output × World}
    (same : AlikeWith p j k F x y) :
    AlikeWith p j k F ((dispatcher settings).visits e hooks x) ((dispatcher settings).visits e hooks y) := by
  induction hooks generalizing x y with
  | nil => exact same
  | cons h rest ih =>
    exact ih (fun k later => members k (List.mem_cons_of_mem h later)) (visit_alike o (members h (by simp)) same)

/-- Dispatchers that treat an announcement alike in worlds that are alike, and without a refusal. -/
def TreatAlike (p : Path) (j k : Journal) (F : FileTree → FileTree → Prop) (d d' : Dispatcher World)
    (a : Announcement) : Prop :=
  ∀ {u v}, Alike p j k F u v →
    let x := d.dispatch a.event a.output u
    let y := d'.dispatch a.event a.output v
    x.fault = none ∧ y.fault = none ∧ y.output = x.output ∧ Alike p j k F x.state y.state

theorem treatAlike_self (o : Overlooked p j k F) (settings : Settings) (a : Announcement) :
    TreatAlike p j k F (dispatcher settings) (dispatcher settings) a := by
  intro u v alike
  rw [dispatch_eq_visits, dispatch_eq_visits]
  exact ⟨rfl, rfl, visits_alike o (fun h active => mem_of_active active) ⟨rfl, alike.remark o _⟩⟩

section Conversation

variable {d d' : Dispatcher World}

theorem answer_alike (alike : Alike p j k F u v) (respond : List Action → Response) :
    (answer v respond).1 = (answer u respond).1 ∧ Alike p j k F (answer u respond).2 (answer v respond).2 := by
  refine ⟨?_, alike.map (g := fun w => w.takeEffects.1) (fun _ _ _ => rfl) rfl rfl rfl rfl⟩
  simp only [answer, takeEffects, alike.host]

theorem handle_alike {r : Request} (treated : ∀ a, announcement r = .ok a → TreatAlike p j k F d d' a)
    (alike : Alike p j k F u v) :
    (handle d' r v).1 = (handle d r u).1 ∧ Alike p j k F (handle d r u).2 (handle d' r v).2 := by
  by_cases current : r.version = protocolVersion
  · have told : Alike p j k F (u.loadContext r.context) (v.loadContext r.context) :=
      alike.map (g := (·.loadContext r.context)) (fun _ _ _ => rfl) rfl rfl rfl rfl
    cases announced : announcement r with
    | error e =>
      rw [handle_of_payload current announced, handle_of_payload current announced]
      exact answer_alike told _
    | ok a =>
      obtain ⟨fault, fault', output, after⟩ := treated a announced told
      simp only [handle, if_neg (not_not_intro current), announced, fault, fault', output]
      exact answer_alike after _
  · rw [handle_of_version current, handle_of_version current]
    exact ⟨rfl, alike⟩

/-- What is said in worlds that are alike is the same, incident by incident. -/
theorem converse_alike {run : List Incident} (untouched : ∀ node, .rewrite node ∉ run)
    (treated : ∀ r a, .request r ∈ run → announcement r = .ok a → TreatAlike p j k F d d' a)
    (alike : Alike p j k F u v) :
    (converse d' v run).2 = (converse d u run).2 ∧
      Alike p j k F (converse d u run).1 (converse d' v run).1 := by
  induction run generalizing u v with
  | nil => exact ⟨rfl, alike⟩
  | cons i rest ih =>
    have met : (meet d' v i).2 = (meet d u i).2 ∧ Alike p j k F (meet d u i).1 (meet d' v i).1 := by
      cases i with
      | request r =>
        obtain ⟨same, after⟩ := handle_alike (fun a => treated r a (by simp)) alike
        exact ⟨congrArg (fun response => [(r, response)]) same, after⟩
      | clock now => exact ⟨rfl, alike.map (g := fun w => { w with now }) (fun _ _ _ => rfl) rfl rfl rfl rfl⟩
      | rewrite node => exact absurd (by simp) (untouched node)
      | stop session => exact ⟨rfl, alike.map (g := (·.stop session)) (fun _ _ _ => rfl) rfl rfl rfl rfl⟩
      | resume session =>
        exact ⟨rfl, alike.map (g := (·.clearStop session)) (fun _ _ _ => rfl) rfl rfl rfl rfl⟩
    obtain ⟨same, after⟩ := met
    obtain ⟨others, last⟩ := ih (fun node later => untouched node (List.mem_cons_of_mem i later))
      (fun r a later => treated r a (List.mem_cons_of_mem i later)) after
    simp only [converse, same, others]
    exact ⟨trivial, last⟩

end Conversation

end Service

end AgentHooks
