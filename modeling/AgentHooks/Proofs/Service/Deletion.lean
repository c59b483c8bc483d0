import AgentHooks.Proofs.Loop.Store
import AgentHooks.Proofs.Policy.Memory
import AgentHooks.Proofs.Service.Conversation
import AgentHooks.Proofs.Service.Order

/-! The end of a session. Each hook forgets what it has about the session, whatever the others do, and nobody
forgets anything else. -/

namespace AgentHooks

open World FileTree

/-! Lines in the journal. -/

namespace World

/-- A step that does nothing to the files but add lines to the journal. -/
structure Jots (w w' : World) : Prop where
  now : w'.now = w.now
  journal : w'.journal = w.journal
  loopFile : w'.loopFile = w.loopFile
  files : ∃ es, w'.files = recordAll w.journal es w.files

namespace Jots

variable {w w' later : World}

theorem of_files (now : w'.now = w.now) (journal : w'.journal = w.journal) (loopFile : w'.loopFile = w.loopFile)
    (files : w'.files = w.files) : Jots w w' :=
  ⟨now, journal, loopFile, [], files⟩

theorem refl (w : World) : Jots w w :=
  .of_files rfl rfl rfl rfl

theorem remark (w : World) (r : Remark) : Jots w (w.remark r) :=
  ⟨rfl, rfl, rfl, [⟨w.now, r⟩], rfl⟩

theorem note (w : World) (n : Option Remark) : Jots w (w.note n) := by
  cases n with
  | none => exact .refl w
  | some r => exact .remark w r

theorem trans (first : Jots w w') (second : Jots w' later) : Jots w later := by
  obtain ⟨es, written⟩ := first.files
  obtain ⟨es', written'⟩ := second.files
  refine ⟨second.now.trans first.now, second.journal.trans first.journal,
    second.loopFile.trans first.loopFile, es ++ es', ?_⟩
  rw [written', first.journal, written, recordAll_append]

theorem cell (jots : Jots w w') : w'.cell = w.cell := by
  rw [World.cell, World.cell, jots.now, jots.loopFile]

theorem here (jots : Jots w w') : w'.files.here = w.files.here := by
  obtain ⟨es, written⟩ := jots.files
  rw [written, recordAll_here]

theorem loopPlace (jots : Jots w w') : w'.loopPlace = w.loopPlace := by
  rw [World.loopPlace, World.loopPlace, jots.loopFile, placeOf_eq jots.here]

theorem apart (jots : Jots w w') (apart : w.Apart) : w'.Apart := by
  intro q kept
  rw [jots.loopPlace, placeOf_eq jots.here]
  exact apart q (jots.journal ▸ kept)

theorem spares (jots : Jots w w') (apart : w.Apart) : Spares w.loopPlace w.files w'.files := by
  obtain ⟨es, written⟩ := jots.files
  rw [written]
  exact recordAll_spares es apart

theorem loopContent? (jots : Jots w w') (apart : w.Apart) : w'.loopContent? = w.loopContent? := by
  rw [World.loopContent?, jots.loopPlace, (jots.spares apart).content, World.loopContent?]

theorem inked (jots : Jots w w') (inked : ∀ q ∈ w.journal.path, Inked q w.files) :
    ∀ q ∈ w'.journal.path, Inked q w'.files := by
  obtain ⟨es, written⟩ := jots.files
  rw [jots.journal, written]
  exact recordAll_inked inked es

theorem fetch (jots : Jots w w') (inked : ∀ q ∈ w.journal.path, Inked q w.files) (apart : w.Apart) :
    w'.files.fetch w.loopFile = w.files.fetch w.loopFile := by
  obtain ⟨es, written⟩ := jots.files
  rw [written]
  exact recordAll_fetch inked (fun q kept => (apart q kept).symm) es

end Jots

/-- A session is forgotten: it is not stopped, no monitor has anything about it, and the loop's file holds no loop of
it, active or not. Nobody else is forgotten: all others are stopped or not as before, the monitors have about them
what they had, in the order in which they came, and a file that is somebody else's loop, or names somebody else, stays
as it is. -/
structure Forgets (session : String) (before after : World) : Prop where
  released : after.isStopped session = false
  latch : ∀ other, other ≠ session → after.isStopped other = before.isStopped other
  pressure : Roster.Forgets session before.pressure after.pressure
  context : Roster.Forgets session before.context after.context
  compaction : Roster.Forgets session before.compaction after.compaction
  loop : ∀ l, after.cell.load after.files = .ok (some l) → l.session ≠ session
  content : ∀ content owner, before.loopContent? = some content → before.cell.owner? content = some owner →
    owner ≠ session → after.loopContent? = some content

end World

/-- The loop's file goes if what is found in it is the session's or nobody's; otherwise at most a line is written. -/
theorem ContinuationPolicy.clearFor_spec (w : World) (session event reason : String) (r : Remark) :
    (∃ content gone, w.loopContent? = some content ∧ w.cell.Clears session content ∧
      settle (clearFor w session event reason) r = (w.put none).remark gone) ∨
    Jots w (settle (clearFor w session event reason) r) ∧
      ∀ content, w.files.fetch w.loopFile = .ok content → ¬w.cell.Clears session content := by
  cases looked : w.files.fetch w.cell.path with
  | error e =>
    rw [clearFor_of_unread looked]
    refine .inr ⟨.note w _, fun content found => ?_⟩
    cases looked.symm.trans found
  | ok content =>
    rcases LoopCell.clearSession_of_fetch session looked with ⟨clears, cleared⟩ | ⟨keeps, kept⟩
    · refine .inl ⟨content, .on id .state reason event session, content_of_fetch looked, clears, ?_⟩
      simp only [clearFor, cleared]
      rfl
    · have same : settle (clearFor w session event reason) r = w := by
        simp only [clearFor, kept]
        rfl
      rw [same]
      refine .inr ⟨.refl w, fun content' found => ?_⟩
      cases looked.symm.trans found
      exact keeps

namespace Service

variable {settings : Settings} {h : Hook World} {w : World}

/-! One hook's turn among the others. -/

theorem visits_around {R : World → World → Prop} (refl : ∀ w, R w w)
    (trans : ∀ {u v w}, R u v → R v w → R u w) {e : Event} (out : e.Output)
    (elsewhere : ∀ call, e ≠ .toolAfter call) (active : h ∈ (dispatcher settings).hooks)
    (others : ∀ k ∈ allHooks settings, k.id ≠ h.id → ∀ w, R w (turnOf settings out k w)) (w : World) :
    ∃ y, R w y ∧ R (turnOf settings out h y)
      ((dispatcher settings).visits e (dispatcher settings).hooks (out, w)).2 := by
  obtain ⟨first, rest, arranged, early, late⟩ := hooks_split active
  have goes : ∀ hooks : List (Hook World), (∀ k ∈ hooks, k ∈ allHooks settings ∧ k.id ≠ h.id) → ∀ w,
      ∃ v, (dispatcher settings).visits e hooks (out, w) = (out, v) ∧ R w v := by
    intro hooks
    induction hooks with
    | nil => exact fun _ w => ⟨w, rfl, refl w⟩
    | cons k more ih =>
      intro known w
      obtain ⟨member, other⟩ := known k (by simp)
      obtain ⟨v, gone, onwards⟩ := ih (fun i later => known i (List.mem_cons_of_mem k later))
        (turnOf settings out k w)
      refine ⟨v, ?_, trans (others k member other w) onwards⟩
      rw [← gone, ← visit_eq_turnOf member elsewhere]
      rfl
  obtain ⟨y, before, upTo⟩ := goes first early w
  obtain ⟨v, after, onwards⟩ := goes rest late (turnOf settings out h y)
  refine ⟨y, upTo, ?_⟩
  have turn : (dispatcher settings).visits e (h :: rest) (out, y) =
      (dispatcher settings).visits e rest (out, turnOf settings out h y) := by
    rw [← visit_eq_turnOf (mem_of_active active) elsewhere]
    rfl
  rw [arranged, Dispatcher.visits_append, before, turn, after]
  exact onwards

section Deleted

variable {l : LifecycleEvent} {session : String} (deleted : l.kind = "session.deleted")
  (about : l.session? = some session)

/-! What each hook does when a session is deleted. -/

include deleted

theorem unreported_of_deleted : UsageReport.ofEvent? l = none := by
  refine UsageReport.ofEvent?_of_kind ?_
  rw [deleted]
  decide

include about

theorem turnOf_stop_of_deleted (w : World) :
    turnOf settings (e := .lifecycle l) () (StopPolicy.hook settings) w =
      StopPolicy.release w session "session.deleted" := by
  have calm := StopPolicy.handle_fault (.ofSettings settings.stopGuard) (.lifecycle l) () w
  rw [turnOf_of_harmless calm]
  simp only [StopPolicy.hook, StopPolicy.handle, Handled.pass, if_pos deleted, about]

theorem turnOf_continuation_of_deleted (w : World) :
    turnOf settings (e := .lifecycle l) () (ContinuationPolicy.hook settings) w =
      settle (ContinuationPolicy.clearFor w session "session.deleted" "session_deleted")
        (.on ContinuationPolicy.id .skip "hook_error" l.kind session) := by
  have busy : l.kind ≠ ContinuationPolicy.idle := by
    rw [deleted]
    decide
  have named : (Event.lifecycle l).session = session := by simp only [Event.session, about, Option.getD_some]
  rw [turnOf, visit_eq_settle, named]
  simp only [ContinuationPolicy.hook, ContinuationPolicy.handle, ContinuationPolicy.onLifecycle, about, if_neg busy,
    if_pos deleted, ContinuationPolicy.handled, Event.kind]

theorem turnOf_pressure_of_deleted (w : World) :
    turnOf settings (e := .lifecycle l) () (PressurePolicy.hook settings) w =
      { w with pressure := w.pressure.remove session } := by
  have calm := PressurePolicy.handle_fault settings.pressure (.lifecycle l) () w
  rw [turnOf_of_harmless calm]
  simp only [PressurePolicy.hook, PressurePolicy.handle, Handled.pass, if_pos deleted, about]

theorem turnOf_context_of_deleted (w : World) :
    turnOf settings (e := .lifecycle l) () (ContextPolicy.hook settings) w =
      { w with context := w.context.remove session } := by
  have calm := ContextPolicy.handle_fault settings.context (.lifecycle l) () w
  have whole : l.kind ≠ "session.compacted" := by
    rw [deleted]
    decide
  rw [turnOf_of_harmless calm]
  simp only [ContextPolicy.hook, ContextPolicy.handle, Handled.pass, ContextPolicy.onLifecycle,
    unreported_of_deleted deleted, about, if_neg whole, if_pos deleted]

theorem turnOf_compaction_of_deleted (w : World) :
    turnOf settings (e := .lifecycle l) () (CompactionPolicy.hook settings) w =
      { w with compaction := w.compaction.remove session } := by
  have calm := CompactionPolicy.handle_fault settings.compaction (.lifecycle l) () w
  have whole : l.kind ≠ "session.compacted" := by
    rw [deleted]
    decide
  rw [turnOf_of_harmless calm]
  simp only [CompactionPolicy.hook, CompactionPolicy.handle, Handled.pass, CompactionPolicy.onLifecycle,
    unreported_of_deleted deleted, about, if_neg whole, if_pos deleted]

/-- What a hook of this name leaves as it is when a session is deleted: everything but its own, save for lines in the
journal. -/
structure Leaves (id : String) (before after : World) : Prop where
  latch : id ≠ StopPolicy.id → after.stopped = before.stopped
  files : id ≠ ContinuationPolicy.id → Jots before after
  pressure : id ≠ PressurePolicy.id → after.pressure = before.pressure
  context : id ≠ ContextPolicy.id → after.context = before.context
  compaction : id ≠ CompactionPolicy.id → after.compaction = before.compaction

theorem turnOf_leaves (member : h ∈ allHooks settings) (w : World) :
    Leaves h.id w (turnOf settings (e := .lifecycle l) () h w) := by
  have jots : ∀ {v : World}, v.now = w.now → v.journal = w.journal → v.loopFile = w.loopFile → v.files = w.files →
      Jots w v := .of_files
  rcases mem_allHooks.1 member with rfl | rfl | rfl | rfl | rfl
  · rw [turnOf_stop_of_deleted deleted about, StopPolicy.release]
    split
    · have unstopped : Jots w (w.clearStop session) := jots rfl rfl rfl rfl
      exact ⟨fun other => absurd rfl other, fun _ => unstopped.trans (.remark _ _), fun _ => rfl, fun _ => rfl,
        fun _ => rfl⟩
    · exact ⟨fun _ => rfl, fun _ => .refl w, fun _ => rfl, fun _ => rfl, fun _ => rfl⟩
  · rw [turnOf_continuation_of_deleted deleted about]
    generalize Remark.on ContinuationPolicy.id .skip "hook_error" l.kind session = r
    have own : ∀ v : World, v.stopped = w.stopped → v.pressure = w.pressure → v.context = w.context →
        v.compaction = w.compaction → Leaves ContinuationPolicy.id w v :=
      fun v latch pressure context compaction =>
        ⟨fun _ => latch, fun other => absurd rfl other, fun _ => pressure, fun _ => context, fun _ => compaction⟩
    rcases ContinuationPolicy.clearFor_forms w session "session.deleted" "session_deleted" r with
      ⟨n, noted⟩ | ⟨content, gone, -, cut⟩
    · rw [noted w ⟨rfl, rfl⟩]
      cases n <;> exact own _ rfl rfl rfl rfl
    · rw [cut w ⟨rfl, rfl⟩]
      exact own _ rfl rfl rfl rfl
  · rw [turnOf_pressure_of_deleted deleted about]
    exact ⟨fun _ => rfl, fun _ => jots rfl rfl rfl rfl, fun other => absurd rfl other, fun _ => rfl, fun _ => rfl⟩
  · rw [turnOf_context_of_deleted deleted about]
    exact ⟨fun _ => rfl, fun _ => jots rfl rfl rfl rfl, fun _ => rfl, fun other => absurd rfl other, fun _ => rfl⟩
  · rw [turnOf_compaction_of_deleted deleted about]
    exact ⟨fun _ => rfl, fun _ => jots rfl rfl rfl rfl, fun _ => rfl, fun _ => rfl, fun other => absurd rfl other⟩

/-! What all of them do together. -/

/-- Some hook has its turn in between, and the others leave what is its own as it is. -/
theorem visits_of_deleted {R : World → World → Prop} (refl : ∀ w, R w w)
    (trans : ∀ {u v w}, R u v → R v w → R u w) (active : h ∈ (dispatcher settings).hooks)
    (left : ∀ {id u v}, id ≠ h.id → Leaves id u v → R u v) (w : World) :
    ∃ y, R w y ∧ R (turnOf settings (e := .lifecycle l) () h y)
      ((dispatcher settings).visits (.lifecycle l) (dispatcher settings).hooks ((), w)).2 :=
  visits_around (e := .lifecycle l) refl trans () (fun _ finished => nomatch finished) active
    (fun _ member other w => left other (turnOf_leaves deleted about member w)) w

theorem visits_own {α : Type} (part : World → α) (change : α → α) (active : h ∈ (dispatcher settings).hooks)
    (left : ∀ {id u v}, id ≠ h.id → Leaves id u v → part v = part u)
    (own : ∀ w, part (turnOf settings (e := .lifecycle l) () h w) = change (part w)) (w : World) :
    part ((dispatcher settings).visits (.lifecycle l) (dispatcher settings).hooks ((), w)).2 = change (part w) := by
  obtain ⟨y, before, after⟩ := visits_of_deleted (R := fun u v => part v = part u) deleted about (fun _ => rfl)
    (fun first second => second.trans first) active left w
  rw [after, own, before]

section Active

variable (active : ∀ h ∈ allHooks settings, h ∈ (dispatcher settings).hooks) (w : World)

include active

theorem visits_isStopped (other : String) :
    ((dispatcher settings).visits (.lifecycle l) (dispatcher settings).hooks ((), w)).2.isStopped other =
      (session != other && w.isStopped other) := by
  refine visits_own deleted about (fun w => w.isStopped other) (session != other && ·)
    (active (StopPolicy.hook settings) (by simp [allHooks])) (fun foreign left => ?_) (fun y => ?_) w
  · simp only [World.isStopped, left.latch foreign]
  · rw [turnOf_stop_of_deleted deleted about, StopPolicy.isStopped_release]

theorem visits_pressure :
    ((dispatcher settings).visits (.lifecycle l) (dispatcher settings).hooks ((), w)).2.pressure =
      w.pressure.remove session :=
  visits_own deleted about World.pressure (·.remove session)
    (active (PressurePolicy.hook settings) (by simp [allHooks])) (fun foreign left => left.pressure foreign)
    (fun y => by rw [turnOf_pressure_of_deleted deleted about]) w

theorem visits_context :
    ((dispatcher settings).visits (.lifecycle l) (dispatcher settings).hooks ((), w)).2.context =
      w.context.remove session :=
  visits_own deleted about World.context (·.remove session)
    (active (ContextPolicy.hook settings) (by simp [allHooks])) (fun foreign left => left.context foreign)
    (fun y => by rw [turnOf_context_of_deleted deleted about]) w

theorem visits_compaction :
    ((dispatcher settings).visits (.lifecycle l) (dispatcher settings).hooks ((), w)).2.compaction =
      w.compaction.remove session :=
  visits_own deleted about World.compaction (·.remove session)
    (active (CompactionPolicy.hook settings) (by simp [allHooks])) (fun foreign left => left.compaction foreign)
    (fun y => by rw [turnOf_compaction_of_deleted deleted about]) w

/-- The loop's file, once the journal needs no more directories: it is the session's or nobody's and goes, or it
stays, and what is read there is not the session's. -/
theorem visits_loopContent (apart : w.Apart) (inked : ∀ q ∈ w.journal.path, Inked q w.files) :
    let v := ((dispatcher settings).visits (.lifecycle l) (dispatcher settings).hooks ((), w)).2
    v.cell = w.cell ∧
      ((∃ content, w.loopContent? = some content ∧ w.cell.Clears session content ∧ v.loopContent? = none) ∨
        v.loopContent? = w.loopContent? ∧
          ∀ content, v.files.fetch v.loopFile = .ok content → ¬w.cell.Clears session content) := by
  intro v
  obtain ⟨y, before, after⟩ := visits_of_deleted (R := Jots) deleted about Jots.refl Jots.trans
    (active (ContinuationPolicy.hook settings) (by simp [allHooks])) (fun other left => left.files other) w
  rw [turnOf_continuation_of_deleted deleted about] at after
  generalize Remark.on ContinuationPolicy.id .skip "hook_error" l.kind session = r at after
  have apart' := before.apart apart
  rw [← before.cell, ← before.loopContent? apart]
  rcases ContinuationPolicy.clearFor_spec y session "session.deleted" "session_deleted" r with
    ⟨content, gone, stands, clears, cut⟩ | ⟨written, keeps⟩
  · rw [cut] at after
    have onwards : Jots (y.put none) v := (Jots.remark _ gone).trans after
    refine ⟨onwards.cell, .inl ⟨content, stands, clears, ?_⟩⟩
    rw [onwards.loopContent? (apart'.put none)]
    exact put_vacant stands
  · have onwards : Jots y v := written.trans after
    refine ⟨onwards.cell, .inr ⟨onwards.loopContent? apart', fun content found => keeps content ?_⟩⟩
    rw [onwards.loopFile, onwards.fetch (before.inked inked) apart'] at found
    exact found

/-- When a session is deleted, every hook forgets it, and nobody else. -/
theorem dispatch_forgets (tidy : w.Tidy) (apart : w.Apart) :
    let x := (dispatcher settings).dispatch (.lifecycle l) () w
    x.fault = none ∧ w.Forgets session x.state := by
  rw [dispatch_eq_visits]
  refine ⟨rfl, ?_⟩
  generalize Remark.on Dispatcher.journalId .dispatch "dispatched" _ _ = r
  change w.Forgets session ((dispatcher settings).visits (.lifecycle l) (dispatcher settings).hooks
    ((), w.remark r)).2
  have jots := Jots.remark w r
  have apart' := jots.apart apart
  have inked : ∀ q ∈ (w.remark r).journal.path, Inked q (w.remark r).files :=
    fun q kept => inked_record kept ⟨w.now, r⟩ w.files
  have latch := visits_isStopped deleted about active (w.remark r)
  obtain ⟨cell, content⟩ := visits_loopContent deleted about active (w.remark r) apart' inked
  rw [jots.cell] at cell content
  rw [jots.loopContent? apart] at content
  refine ⟨?_, fun other apart => ?_, ?_, ?_, ?_, fun loop loaded mine => ?_, fun content' owner stood named other => ?_⟩
  · exact (latch session).trans (by simp)
  · refine (latch other).trans ?_
    simp only [bne_iff_ne.2 (Ne.symm apart), Bool.true_and]
    rfl
  · rw [visits_pressure deleted about active]
    exact tidy.pressure.remove_forgets session
  · rw [visits_context deleted about active]
    exact tidy.context.remove_forgets session
  · rw [visits_compaction deleted about active]
    exact tidy.compaction.remove_forgets session
  · obtain ⟨found, looked, held⟩ := LoopCell.content_of_load loaded
    rcases content with ⟨-, -, -, gone⟩ | ⟨-, keeps⟩
    · exact Vacant.load gone loop loaded
    · rw [cell] at held
      exact keeps found looked (.inl ⟨loop, held, mine⟩)
  · rcases content with ⟨content, stands, clears, -⟩ | ⟨same, -⟩
    · cases stood.symm.trans stands
      rw [LoopCell.clears_iff, named] at clears
      exact absurd clears other
    · exact same.trans stood

end Active

end Deleted

/-! However the service came to be in its state. -/

/-- A world in which an event can find the service: the first one, or one that an incident left behind, whatever the
host tells in the meantime and however it will behave. -/
inductive Reachable (settings : Settings) : World → Prop where
  | start (project : Path) (files : FileTree) (now : Timestamp) (sampler : Sampler) :
    Reachable settings (.start settings project files now sampler)
  | meet {w : World} (i : Incident) (reached : Reachable settings w) :
    Reachable settings (meet (dispatcher settings) w i).1
  | tell {w : World} (context : Context) (reached : Reachable settings w) : Reachable settings (w.loadContext context)
  | disturb {w : World} (disturbance : HostCall → Disturbance) (reached : Reachable settings w) :
    Reachable settings { w with disturbance }

theorem visit_sound (member : h ∈ allHooks settings) (e : Event) (x : e.Output × World)
    (sound : x.2.Sound settings) : ((dispatcher settings).visit e x h).2.Sound settings := by
  have handled : (h.handle e x.1 x.2).state.Sound settings := by
    rcases mem_allHooks.1 member with rfl | rfl | rfl | rfl | rfl
    · exact sound.of_rosters (StopPolicy.handle_rosters _ e x.1 x.2)
    · exact sound.of_rosters (ContinuationPolicy.handle_rosters _ _ e x.1 x.2)
    · exact PressurePolicy.handle_sound sound _ e x.1
    · exact ContextPolicy.handle_sound sound _ e x.1
    · exact CompactionPolicy.handle_sound sound _ e x.1
  rw [visit_eq_settle]
  generalize (h.handle e x.1 x.2).fault = failed
  cases failed with
  | none => exact handled
  | some fault => exact handled.of_rosters rfl

theorem dispatch_sound (sound : w.Sound settings) (e : Event) (out : e.Output) :
    ((dispatcher settings).dispatch e out w).state.Sound settings := by
  have opened : (w.remark (.on Dispatcher.journalId .dispatch "dispatched" e.kind e.session)).Sound settings :=
    sound.of_rosters rfl
  rw [dispatch_eq_visits]
  exact Dispatcher.visits_keep (P := fun x => x.2.Sound settings) (x := (out, w.remark _)) _
    (fun _ turn x sound => visit_sound (mem_of_active turn) e x sound) opened

theorem handle_sound (sound : w.Sound settings) (r : Request) :
    (handle (dispatcher settings) r w).2.Sound settings := by
  have told : (w.loadContext r.context).Sound settings := sound.of_rosters rfl
  by_cases current : r.version = protocolVersion
  · simp only [handle, if_neg (not_not_intro current)]
    split
    · exact told.of_rosters rfl
    next a announced =>
      have handled := dispatch_sound told a.event a.output
      split
      · exact handled.of_rosters rfl
      · exact handled.of_rosters rfl
  · rw [handle_of_version current]
    exact sound

theorem Reachable.sound (reached : Reachable settings w) : w.Sound settings := by
  induction reached with
  | start project files now sampler => exact start_sound settings project files now sampler
  | meet i _ sound =>
    cases i with
    | request r => exact handle_sound sound r
    | clock now => exact sound.of_rosters rfl
    | rewrite node => exact sound.of_rosters rfl
    | stop session => exact sound.of_rosters rfl
    | resume session => exact sound.of_rosters rfl
  | tell context _ sound => exact sound.of_rosters rfl
  | disturb disturbance _ sound => exact sound.of_rosters rfl

theorem Reachable.tidy (reached : Reachable settings w) : w.Tidy :=
  reached.sound.tidy

/-- The end of a session is the end of everything that is remembered about it, and of nothing else. Whichever order
the hooks are in, however the service came to be in its state and whatever stands in its files, each of them has its
turn and forgets the session: it is no longer stopped, no monitor has it on its roster, and no loop of it is left.
All that is about other sessions stays. The journal is in another file than the loop. -/
theorem deletion_forgets_session (settings : Settings)
    (active : ∀ h ∈ allHooks settings, h.id ∈ (dispatcher settings).ids) (reached : Reachable settings w)
    (apart : w.Apart) {l : LifecycleEvent} {session : String} (deleted : l.kind = "session.deleted")
    (about : l.session? = some session) :
    let x := (dispatcher settings).dispatch (.lifecycle l) () w
    x.fault = none ∧ w.Forgets session x.state :=
  dispatch_forgets deleted about (fun h member => active_of_id member (active h member)) w reached.tidy apart

/-- Two sessions are stopped, one of them with a loop, and that one is deleted. -/
theorem deletion_forgets_session_stopped :
    let settings : Settings := { audit := { enabled := true }, order := [ContinuationPolicy.id, StopPolicy.id] }
    let files : FileTree := ⟨["project"], [(["project"], .directory), (["project", ".hookgate"], .directory),
      (["project", ".hookgate", "autopilot-state.json"], .file "\x7b\"active\": true, \"sessionId\": \"s\"\x7d")]⟩
    let w := ((World.start settings ⟨"/project"⟩ files ⟨2024, 5, 1, 12, 0, 0, 0⟩ ⟨[], 0⟩).stop "s").stop "t"
    let l : LifecycleEvent := ⟨"session.deleted", .object [("sessionID", .string "s")]⟩
    let x := (dispatcher settings).dispatch (.lifecycle l) () w
    w.isStopped "s" = true ∧ (w.stored?.map (·.session)) = some "s" ∧
      x.state.isStopped "s" = false ∧ x.state.isStopped "t" = true ∧
      ∀ l, x.state.cell.load x.state.files = .ok (some l) → l.session ≠ "s" := by
  intro settings files w l x
  have active : ∀ h ∈ allHooks settings, h.id ∈ (dispatcher settings).ids := by
    intro h member
    rcases mem_allHooks.1 member with rfl | rfl | rfl | rfl | rfl
    all_goals exact mem_ids.2 (by decide)
  have reached : Reachable settings w := .meet (.stop "t") (.meet (.stop "s") (.start _ _ _ _))
  have apart : w.Apart := by
    intro q kept
    cases kept
    decide +kernel
  obtain ⟨-, forgets⟩ := deletion_forgets_session settings active reached apart (l := l) rfl rfl
  refine ⟨by decide +kernel, by decide +kernel, forgets.released, ?_, forgets.loop⟩
  rw [forgets.latch "t" (by decide)]
  decide +kernel

end Service

end AgentHooks
