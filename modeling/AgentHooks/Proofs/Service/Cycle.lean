import AgentHooks.Proofs.Policy.Cycle
import AgentHooks.Proofs.Service.Run

/-! The loop over runs in which its file is left to the hooks. An occurrence brings a turn of the loop, or
takes the loop away, or leaves it as it is; which of these it does can be told from the latch, from what
the host tells and from the event alone. -/

namespace AgentHooks

open World ContinuationPolicy

namespace Occurrence

def Undisturbed : Occurrence → Prop
  | dispatch _ conduct => ∀ c, conduct.rewrites c = none
  | rewrite _ => False
  | _ => True

def TakesPrompts : Occurrence → Prop
  | dispatch _ conduct => conduct.refuses .prompt = false
  | _ => True

end Occurrence

namespace Service

variable {settings : Settings} {w : World} {l : Loop} {session : String} {h : Hook World}

/-- What a turn of a session's loop goes by, if an occurrence brings one. -/
def told? (session : String) (w : World) : Occurrence → Option Account
  | .dispatch ⟨.lifecycle e, _⟩ conduct =>
    if e.kind = idle ∧ e.session? = some session then
      ContinuationPolicy.told? { w with disturbance := conduct.disturbance } session
    else none
  | _ => none

def accounts (settings : Settings) (session : String) (w : World) : List Occurrence → List Account
  | [] => []
  | o :: rest => (told? session w o).toList ++ accounts settings session (occur settings w o).1 rest

def discards (settings : Settings) (session : String) : Occurrence → Bool
  | .dispatch a _ => (StopWords.ofSettings settings.stopGuard).discards session a.event a.output
  | _ => false

theorem opening_undisturbed {a : Announcement} {conduct : Conduct}
    (undisturbed : ∀ c, conduct.rewrites c = none) (w : World) : (opening a conduct w).Undisturbed :=
  (opening_quiet a conduct w).undisturbed undisturbed

theorem opening_handsOff (a : Announcement) (conduct : Conduct) (w : World) :
    (opening a conduct w).HandsOff :=
  (opening_quiet a conduct w).handsOff fun _ => rfl

theorem visit_moves (member : h ∈ allHooks settings) (other : h.id ≠ ContinuationPolicy.id) {e : Event}
    (x : e.Output × World) : Moves x.2 ((dispatcher settings).visit e x h).2 := by
  refine Moves.trans ?_ (.of_quiet (visit_quiet settings e x h))
  rcases mem_allHooks.1 member with rfl | rfl | rfl | rfl | rfl
  · exact StopPolicy.handle_moves _ e x.1 x.2
  · exact absurd rfl other
  · exact PressurePolicy.handle_moves _ e x.1 x.2
  · exact .of_quiet (ContextPolicy.handle_quiet _ e x.1 x.2)
  · exact .of_quiet (CompactionPolicy.handle_quiet _ e x.1 x.2)

theorem visits_moves {hooks : List (Hook World)}
    (others : ∀ h ∈ hooks, h ∈ allHooks settings ∧ h.id ≠ ContinuationPolicy.id) {e : Event}
    (x : e.Output × World) : Moves x.2 ((dispatcher settings).visits e hooks x).2 :=
  Dispatcher.visits_keep (P := fun y => Moves x.2 y.2) _
    (fun h turn y moves => moves.trans (visit_moves (others h turn).1 (others h turn).2 y)) (.refl x.2)

theorem dispatch_unlooped (unlooped : ContinuationPolicy.id ∉ (dispatcher settings).ids) (a : Announcement)
    (conduct : Conduct) (w : World) : Moves (opening a conduct w) (dispatch settings a conduct w).state := by
  rw [dispatch_state]
  refine visits_moves (fun h active => ⟨mem_of_active active, fun same => unlooped ?_⟩)
    (a.output, opening a conduct w)
  rw [← same]
  exact List.mem_map_of_mem active

/-- The loop's own hook has one turn in a dispatch, on an output that nobody has touched unless a tool call is
over. Before and after its turn the loop's file is left to itself. -/
theorem dispatch_split (looping : ContinuationPolicy.id ∈ (dispatcher settings).ids) (a : Announcement)
    (conduct : Conduct) (w : World) :
    ∃ x : a.event.Output × World, Moves (opening a conduct w) x.2 ∧
      ((∀ call, a.event ≠ .toolAfter call) → x.1 = a.output) ∧
      Moves ((ContinuationPolicy.hook settings).handle a.event x.1 x.2).state
        (dispatch settings a conduct w).state := by
  have member : ContinuationPolicy.hook settings ∈ allHooks settings := by simp [allHooks]
  obtain ⟨first, rest, arranged, early, late⟩ := hooks_split (active_of_id member looping)
  let before := (dispatcher settings).visits a.event first (a.output, opening a conduct w)
  refine ⟨before, visits_moves early (a.output, opening a conduct w), fun elsewhere => ?_, ?_⟩
  · exact visits_output (fun k turn => (early k turn).1) elsewhere (a.output, opening a conduct w)
  · rw [dispatch_state, arranged, Dispatcher.visits_append]
    have turn := visit_quiet settings a.event before (ContinuationPolicy.hook settings)
    exact (Moves.of_quiet turn).trans (visits_moves late ((dispatcher settings).visit a.event before _))

theorem dispatch_moves (settings : Settings) (a : Announcement) (conduct : Conduct) (w : World)
    (own : ∀ x : a.event.Output × World, Moves (opening a conduct w) x.2 →
      ((∀ call, a.event ≠ .toolAfter call) → x.1 = a.output) →
      Moves x.2 ((ContinuationPolicy.hook settings).handle a.event x.1 x.2).state) :
    Moves (opening a conduct w) (dispatch settings a conduct w).state := by
  by_cases looping : ContinuationPolicy.id ∈ (dispatcher settings).ids
  · obtain ⟨x, upTo, unread, onwards⟩ := dispatch_split looping a conduct w
    exact (upTo.trans (own x upTo unread)).trans onwards
  · exact dispatch_unlooped looping a conduct w

theorem dispatch_of_vacant (settings : Settings) {a : Announcement} {conduct : Conduct}
    (undisturbed : ∀ c, conduct.rewrites c = none) (apart : (opening a conduct w).Apart)
    (vacant : (opening a conduct w).Holds none) :
    Moves (opening a conduct w) (dispatch settings a conduct w).state := by
  refine dispatch_moves settings a conduct w fun x moves _ => ?_
  have still := vacant.of_moves (opening_undisturbed undisturbed w) apart moves
  exact .of_quiet (handle_of_vacant still x.1)

/-- An event that brings no turn and takes nothing away leaves a loop alone. -/
theorem dispatch_elsewhere (settings : Settings) {a : Announcement} {conduct : Conduct}
    (undisturbed : ∀ c, conduct.rewrites c = none) (apart : (opening a conduct w).Apart)
    (stores : (opening a conduct w).Holds (some l)) (busy : ¬IdleOf l.session a.event)
    (kept : (StopWords.ofSettings settings.stopGuard).discards l.session a.event a.output = false) :
    Moves (opening a conduct w) (dispatch settings a conduct w).state := by
  refine dispatch_moves settings a conduct w fun x moves unread => ?_
  have still := stores.of_moves (opening_undisturbed undisturbed w) apart moves
  refine .of_quiet (handle_elsewhere still busy ?_)
  by_cases finished : ∃ call, a.event = .toolAfter call
  · obtain ⟨call, same⟩ := finished
    cases a
    cases same
    rfl
  · rw [unread fun call same => finished ⟨call, same⟩]
    exact kept

theorem visit_idle_other (member : h ∈ allHooks settings) (other : h.id ≠ ContinuationPolicy.id)
    {e : Event} (gone : IdleOf session e) (x : e.Output × World) :
    (dispatcher settings).visit e x h = x := by
  obtain ⟨l, rfl, kind, about⟩ := gone
  have alive : l.kind ≠ "session.deleted" := by
    rw [kind]
    decide
  have whole : l.kind ≠ "session.compacted" := by
    rw [kind]
    decide
  have unreported : UsageReport.ofEvent? l = none := by
    rw [UsageReport.ofEvent?, kind]
    rfl
  rcases mem_allHooks.1 member with rfl | rfl | rfl | rfl | rfl
  · simp only [Dispatcher.visit, StopPolicy.hook, StopPolicy.handle, Handled.pass, if_neg alive]
  · exact absurd rfl other
  · simp only [Dispatcher.visit, PressurePolicy.hook, PressurePolicy.handle, Handled.pass, if_neg alive]
  · simp only [Dispatcher.visit, ContextPolicy.hook, ContextPolicy.handle, Handled.pass,
      ContextPolicy.onLifecycle, unreported, about, if_neg alive, if_neg whole]
  · simp only [Dispatcher.visit, CompactionPolicy.hook, CompactionPolicy.handle, Handled.pass,
      CompactionPolicy.onLifecycle, unreported, about, if_neg alive, if_neg whole]

theorem dispatch_idle (looping : ContinuationPolicy.id ∈ (dispatcher settings).ids)
    {a : Announcement} (gone : IdleOf session a.event) (conduct : Conduct) (w : World) :
    (dispatch settings a conduct w).state =
      ((dispatcher settings).visit a.event (a.output, opening a conduct w)
        (ContinuationPolicy.hook settings)).2 := by
  have member : ContinuationPolicy.hook settings ∈ allHooks settings := by simp [allHooks]
  obtain ⟨first, rest, arranged, early, late⟩ := hooks_split (active_of_id member looping)
  have idles : ∀ hooks, (∀ k ∈ hooks, k ∈ allHooks settings ∧ k.id ≠ ContinuationPolicy.id) →
      ∀ x : a.event.Output × World, (dispatcher settings).visits a.event hooks x = x := by
    intro hooks others x
    refine Dispatcher.visits_keep (P := (· = x)) _ (fun k turn y same => ?_) rfl
    obtain ⟨known, other⟩ := others k turn
    rw [visit_idle_other known other gone, same]
  rw [dispatch_state, arranged, Dispatcher.visits_append, idles first early]
  change ((dispatcher settings).visits a.event rest _).2 = _
  rw [idles rest late]

theorem dispatch_onIdle (looping : ContinuationPolicy.id ∈ (dispatcher settings).ids)
    {a : Announcement} (gone : IdleOf session a.event) (conduct : Conduct) (w : World) :
    Quiet (onIdle settings.autopilot (opening a conduct w) session).1
      (dispatch settings a conduct w).state := by
  rw [dispatch_idle looping gone]
  have turn := visit_quiet settings a.event (a.output, opening a conduct w)
    (ContinuationPolicy.hook settings)
  have own : (ContinuationPolicy.hook settings).handle a.event a.output (opening a conduct w) = _ :=
    handle_of_idle settings.autopilot (opening a conduct w) gone
  rwa [own] at turn

theorem told?_of_idle {a : Announcement} (gone : IdleOf session a.event) (conduct : Conduct) (w : World) :
    told? session w (.dispatch a conduct) = ContinuationPolicy.told? (opening a conduct w) session := by
  rcases a with ⟨e, out⟩
  obtain ⟨l, rfl, kind, about⟩ := gone
  simp only [told?, kind, about, and_self, if_true]
  rfl

/-- When a session goes idle, its turn goes by its history, unless it is stopped or the host does not tell. -/
theorem told?_eq_some {a : Announcement} (gone : IdleOf session a.event) {conduct : Conduct} {w : World}
    {account : Account} :
    told? session w (.dispatch a conduct) = some account ↔
      w.isStopped session = false ∧ conduct.refuses .messages = false ∧
        ∃ history, w.host.context.snapshot? session = some history ∧
          account = ⟨history, !conduct.refuses .todos⟩ := by
  have same : told? session w (.dispatch a conduct) =
      if w.isStopped session || conduct.refuses .messages then none
      else (w.host.context.snapshot? session).map fun history => ⟨history, !conduct.refuses .todos⟩ :=
    told?_of_idle gone conduct w
  rw [same]
  constructor
  · intro told
    split at told
    · cases told
    next answered =>
      simp only [Bool.or_eq_true, not_or, Bool.not_eq_true] at answered
      obtain ⟨history, known, rfl⟩ := Option.map_eq_some_iff.1 told
      exact ⟨answered.1, answered.2, history, known, rfl⟩
  · rintro ⟨running, answers, history, known, rfl⟩
    rw [running, answers, known]
    rfl

theorem dispatch_of_told {o : Occurrence} {account : Account} (told : told? session w o = some account) :
    ∃ a conduct, o = .dispatch a conduct ∧ IdleOf session a.event := by
  unfold told? at told
  split at told
  next e out conduct =>
    split at told
    next gone => exact ⟨_, conduct, rfl, e, rfl, gone.1, gone.2⟩
    · cases told
  · cases told

theorem idle_of_told {a : Announcement} {conduct : Conduct} {account : Account}
    (told : told? session w (.dispatch a conduct) = some account) : IdleOf session a.event := by
  obtain ⟨_, _, same, gone⟩ := dispatch_of_told told
  cases same
  exact gone

/-- A turn of the loop: its file is replaced or taken away, and the rest follows. -/
theorem dispatch_turn (looping : ContinuationPolicy.id ∈ (dispatcher settings).ids) {a : Announcement}
    {conduct : Conduct} (undisturbed : ∀ c, conduct.rewrites c = none)
    (offers : (opening a conduct w).Offers l) (active : l.active = true) {account : Account}
    (told : told? l.session w (.dispatch a conduct) = some account) {next : Option Loop} {t : Turn}
    (advanced : l.advance l.session (heard l account) settings.autopilot.maxIgnoredCompletionCycles false =
      (next, t)) :
    (dispatch settings a conduct w).state =
      conclude settings.autopilot ((opening a conduct w).put next) l.session t := by
  have gone := idle_of_told told
  rw [told?_of_idle gone] at told
  have mine : l.belongsTo l.session = true := by simp [Loop.belongsTo, active]
  have turn := (onIdle_of_told (s := settings.autopilot) (opening_handsOff a conduct w)
    (opening_undisturbed undisturbed w) offers.loaded mine told).trans
    (turn_of_offers offers (running_of_told told) _)
  rw [dispatch_idle looping gone]
  simp only [Dispatcher.visit, ContinuationPolicy.hook, handle_of_idle settings.autopilot _ gone, handled,
    turn, advanced]

theorem dispatch_untold (looping : ContinuationPolicy.id ∈ (dispatcher settings).ids) {a : Announcement}
    {conduct : Conduct} (undisturbed : ∀ c, conduct.rewrites c = none)
    (offers : (opening a conduct w).Offers l) (active : l.active = true)
    (gone : IdleOf l.session a.event) (untold : told? l.session w (.dispatch a conduct) = none) :
    Moves (opening a conduct w) (dispatch settings a conduct w).state := by
  rw [told?_of_idle gone] at untold
  have mine : l.belongsTo l.session = true := by simp [Loop.belongsTo, active]
  have quiet := onIdle_of_untold (s := settings.autopilot) (opening_handsOff a conduct w)
    (opening_undisturbed undisturbed w) offers.loaded mine untold
  exact .of_quiet (quiet.trans (dispatch_onIdle looping gone conduct w))

/-- A stop command, or the end of the session, takes the file away, and nobody is prompted. -/
theorem dispatch_discards (looping : ContinuationPolicy.id ∈ (dispatcher settings).ids)
    {a : Announcement} {conduct : Conduct} (undisturbed : ∀ c, conduct.rewrites c = none)
    (apart : (opening a conduct w).Apart) (stores : (opening a conduct w).Holds (some l))
    (discarded : (StopWords.ofSettings settings.stopGuard).discards l.session a.event a.output = true) :
    let v := (dispatch settings a conduct w).state
    v.Apart ∧ v.Vacant ∧ ∀ session, promptsTo session v.host.effects = promptsTo session w.host.effects := by
  obtain ⟨x, upTo, unread, onwards⟩ := dispatch_split looping a conduct w
  have still : x.2.Stores l := stores.of_moves (opening_undisturbed undisturbed w) apart upTo
  rw [← unread (StopWords.elsewhere_of_discards discarded)] at discarded
  obtain ⟨event, reason, cleared⟩ := handle_discards (s := settings.autopilot) still discarded
  let cut := x.2.put none
  have free : cut.Apart := (upTo.apart apart).put none
  have alone : cut.Undisturbed := upTo.undisturbed (opening_undisturbed undisturbed w)
  have own : ((ContinuationPolicy.hook settings).handle a.event x.1 x.2).state = _ := cleared
  have ending : Moves cut (dispatch settings a conduct w).state := by
    rw [own] at onwards
    exact (Moves.of_quiet (.remark _ _)).trans onwards
  refine ⟨ending.apart free, ?_, fun session => ?_⟩
  · have gone : cut.Holds none := still.offers.put_none
    exact gone.of_moves alone free ending
  · exact (ending.prompts session).trans (upTo.prompts session)

end Service

end AgentHooks
