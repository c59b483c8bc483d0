import Mathlib.Data.List.Pairwise
import AgentHooks.Proofs.Policy.Frame
import AgentHooks.Proofs.Policy.Order
import AgentHooks.Proofs.Service.Alike
import AgentHooks.Proofs.Service.Cycle
import AgentHooks.Proofs.World.Journal

/-! The order of the hooks. Unless a tool call is over, any two of them can change places and leave the same world
behind, but for the order of their lines in the journal; so can all of them, in every dispatch of a
conversation. -/

namespace AgentHooks

open World FileTree

namespace World

/-- The journal keeps clear of the loop's file: its path leads neither to that file nor through it. -/
def Separate (w : World) : Prop :=
  ∀ q ∈ w.journal.path, w.loopPlace ∉ w.files.wayOf q

/-- Worlds that differ at most in the order of the lines that their journals took after `base`. They hold the same
loop. -/
structure SameButLines (base : Content) (u v : World) : Prop where
  rest : v = { u with files := v.files }
  files : Shuffled u.journal base u.files v.files
  loop : v.loopContent? = u.loopContent?

theorem sameButLines_of_alike {base : Content} {p : Path} {j : Journal} {u v : World}
    (alike : Alike p j j (ShuffledApart p j base) u v) : SameButLines base u v := by
  have rest := alike.rest
  rw [← alike.journal] at rest
  have files := alike.files.toShuffled
  rw [← alike.journal] at files
  refine ⟨rest, files, ?_⟩
  have place : v.loopPlace = u.loopPlace := by
    rw [loopPlace, loopPlace, alike.loopFile, alike.loopFile', placeOf_eq files.here]
  have apart := alike.files.apart
  rw [← alike.loopFile, ← alike.journal] at apart
  rw [loopContent?, loopContent?, place, FileTree.content?, files.others u.loopPlace apart]
  rfl

end World

theorem Announcement.channel_of_decode {channel : Channel} {input output : Json} {a : Announcement}
    (decoded : decode channel input output = .ok a) : a.event.channel = channel := by
  cases channel <;> simp only [decode, bind, Except.bind] at decoded <;> repeat' split at decoded
  all_goals cases decoded <;> rfl

variable {settings : Settings} {e : Event} {out : e.Output} {h k : Hook World} {w : World} {p : Path} {j : Journal}
  {base : Content}

namespace Service

/-- What a hook's turn makes of the world while nobody changes the output. -/
def turnOf (settings : Settings) {e : Event} (out : e.Output) (h : Hook World) (w : World) : World :=
  ((dispatcher settings).visit e (out, w) h).2

theorem visit_eq_turnOf (member : h ∈ allHooks settings) (elsewhere : ∀ call, e ≠ .toolAfter call) (out : e.Output)
    (w : World) : (dispatcher settings).visit e (out, w) h = (out, turnOf settings out h w) :=
  Prod.ext (visit_output member (out, w) elsewhere) rfl

theorem turnOf_of_harmless (harmless : (h.handle e out w).fault = none) :
    turnOf settings out h w = (h.handle e out w).state := by
  rw [turnOf, visit_of_harmless harmless]

/-! What each hook's turn comes to. -/

theorem turnOf_stop (settings : Settings) (out : e.Output) :
    ∃ opens change r, ∀ w, turnOf settings out (StopPolicy.hook settings) w = w.gate opens change r := by
  obtain ⟨opens, change, r, gated⟩ := StopPolicy.handle_gate (.ofSettings settings.stopGuard) e out
  exact ⟨opens, change, r, fun w => (turnOf_of_harmless (StopPolicy.handle_fault _ e out w)).trans (gated w)⟩

theorem turnOf_stop_of_updates (updates : e.Updates) (out : e.Output) (w : World) :
    turnOf settings out (StopPolicy.hook settings) w = w := by
  rw [turnOf_of_harmless (StopPolicy.handle_fault _ e out w)]
  exact congrArg Handled.state (StopPolicy.handle_of_updates _ updates out w)

theorem turnOf_continuation (settings : Settings) (out : e.Output)
    (busy : ∀ session, ¬ContinuationPolicy.IdleOf session e) :
    (∃ session event reason r, ∀ w, turnOf settings out (ContinuationPolicy.hook settings) w =
        settle (ContinuationPolicy.clearFor w session event reason) r) ∨
      ∀ w, turnOf settings out (ContinuationPolicy.hook settings) w = w := by
  have settled := fun w => visit_eq_settle settings e (out, w) (ContinuationPolicy.hook settings)
  rcases ContinuationPolicy.handle_forms settings.autopilot (.ofSettings settings.stopGuard) out busy with
    ⟨session, event, reason, -, clears⟩ | still
  · refine .inl ⟨session, event, reason, .on ContinuationPolicy.id .skip "hook_error" e.kind e.session, fun w => ?_⟩
    refine (settled w).trans ?_
    simp only [ContinuationPolicy.hook, clears, ContinuationPolicy.handled]
  · refine .inr fun w => (settled w).trans ?_
    simp only [ContinuationPolicy.hook, still, Handled.pass]
    rfl

theorem turnOf_continuation_of_updates (updates : e.Updates) (out : e.Output) (w : World) :
    turnOf settings out (ContinuationPolicy.hook settings) w = w := by
  have still := ContinuationPolicy.handle_of_updates settings.autopilot (.ofSettings settings.stopGuard) updates out w
  rw [turnOf, visit_eq_settle]
  simp only [ContinuationPolicy.hook, still, Handled.pass]
  rfl

theorem turnOf_pressure (settings : Settings) (out : e.Output) (elsewhere : ∀ call, e ≠ .toolAfter call) :
    ∃ f, ∀ w, turnOf settings out (PressurePolicy.hook settings) w = w.recast f (·) (·) := by
  obtain ⟨f, cast⟩ := PressurePolicy.handle_cast settings.pressure out elsewhere
  exact ⟨f, fun w => (turnOf_of_harmless (PressurePolicy.handle_fault _ e out w)).trans (cast w)⟩

theorem turnOf_context (settings : Settings) (out : e.Output) (elsewhere : ∀ call, e ≠ .toolAfter call) :
    ∃ g, ∀ w, turnOf settings out (ContextPolicy.hook settings) w = w.recast (·) g (·) := by
  obtain ⟨g, cast⟩ := ContextPolicy.handle_cast settings.context out elsewhere
  exact ⟨g, fun w => (turnOf_of_harmless (ContextPolicy.handle_fault _ e out w)).trans (cast w)⟩

theorem turnOf_compaction (settings : Settings) (out : e.Output) (elsewhere : ∀ call, e ≠ .toolAfter call)
    (other : ¬e.Updates) :
    ∃ h, ∀ w, turnOf settings out (CompactionPolicy.hook settings) w = w.recast (·) (·) h := by
  obtain ⟨h, cast⟩ := CompactionPolicy.handle_cast settings.compaction out elsewhere other
  exact ⟨h, fun w => (turnOf_of_harmless (CompactionPolicy.handle_fault _ e out w)).trans (cast w)⟩

/-! One turn after another. -/

/-- Hooks whose turns can be taken in either order. -/
def Interchange (p : Path) (j : Journal) (base : Content) (settings : Settings) {e : Event} (out : e.Output)
    (h k : Hook World) : Prop :=
  ∀ w, Alike p j j (ShuffledInk p j base) w w →
    Alike p j j (ShuffledInk p j base) (turnOf settings out k (turnOf settings out h w))
      (turnOf settings out h (turnOf settings out k w))

theorem turnOf_alike (member : h ∈ allHooks settings) (self : Alike p j j (ShuffledInk p j base) w w) :
    Alike p j j (ShuffledInk p j base) (turnOf settings out h w) (turnOf settings out h w) :=
  (visit_alike (shuffledInk_overlooked p j base) member (x := (out, w)) (y := (out, w)) ⟨rfl, self⟩).2

theorem Interchange.symm (either : Interchange p j base settings out h k) : Interchange p j base settings out k h :=
  fun w self => (either w self).symm (either w self).files.symm

theorem interchange_of_eq (member : h ∈ allHooks settings) (member' : k ∈ allHooks settings)
    (same : ∀ w, w.Undisturbed →
      turnOf settings out h (turnOf settings out k w) = turnOf settings out k (turnOf settings out h w)) :
    Interchange p j base settings out h k := by
  intro w self
  rw [same w self.alone]
  exact turnOf_alike member' (turnOf_alike member self)

/-- When a session goes idle, nobody but the loop's own hook acts. -/
theorem interchange_of_idle {session : String} (gone : ContinuationPolicy.IdleOf session e)
    (member : h ∈ allHooks settings) (member' : k ∈ allHooks settings) (apart : h.id ≠ k.id) :
    Interchange p j base settings out h k := by
  have still : ∀ {i : Hook World}, i ∈ allHooks settings → i.id ≠ ContinuationPolicy.id →
      ∀ w, turnOf settings out i w = w := by
    intro i known other w
    rw [turnOf, visit_idle_other known other gone]
  refine interchange_of_eq member member' fun w _ => ?_
  by_cases own : h.id = ContinuationPolicy.id
  · have other := still member' fun same => apart (own.trans same.symm)
    rw [other, other]
  · rw [still member own, still member own]

theorem interchange_stop_continuation (out : e.Output) (busy : ∀ session, ¬ContinuationPolicy.IdleOf session e) :
    Interchange p j base settings out (StopPolicy.hook settings) (ContinuationPolicy.hook settings) := by
  intro w self
  have stop : StopPolicy.hook settings ∈ allHooks settings := by simp [allHooks]
  have held : Alike p j j _ (turnOf settings out _ w) _ := turnOf_alike stop self
  obtain ⟨opens, change, r, gated⟩ := turnOf_stop settings out
  rw [gated] at held ⊢
  rw [gated]
  rcases turnOf_continuation settings out busy with ⟨session, event, reason, r', clears⟩ | still
  · rw [clears, clears]
    exact ContinuationPolicy.clearFor_gate self session event reason r'
  · rw [still, still]
    exact held

section Recast

variable {f : Roster PressureCounters → Roster PressureCounters} {g : Roster ContextMemory → Roster ContextMemory}
  {i : Roster CompactionMemory → Roster CompactionMemory}

theorem turnOf_stop_recast (out : e.Output) (w : World) :
    turnOf settings out (StopPolicy.hook settings) (w.recast f g i) =
      (turnOf settings out (StopPolicy.hook settings) w).recast f g i := by
  obtain ⟨opens, change, r, gated⟩ := turnOf_stop settings out
  rw [gated, gated, gate_recast]

theorem turnOf_continuation_recast (out : e.Output) (busy : ∀ session, ¬ContinuationPolicy.IdleOf session e)
    (w : World) :
    turnOf settings out (ContinuationPolicy.hook settings) (w.recast f g i) =
      (turnOf settings out (ContinuationPolicy.hook settings) w).recast f g i := by
  rcases turnOf_continuation settings out busy with ⟨session, event, reason, r, clears⟩ | still
  · rw [clears, clears, ContinuationPolicy.clearFor_recast]
  · rw [still, still]

theorem turnOf_compaction_recast (out : e.Output) (elsewhere : ∀ call, e ≠ .toolAfter call) (alone : w.Undisturbed) :
    turnOf settings out (CompactionPolicy.hook settings) (w.recast f g (·)) =
      (turnOf settings out (CompactionPolicy.hook settings) w).recast f g (·) := by
  have handled : ∀ w, turnOf settings out (CompactionPolicy.hook settings) w = _ :=
    fun w => turnOf_of_harmless (CompactionPolicy.handle_fault settings.compaction e out w)
  rw [handled, handled]
  exact CompactionPolicy.handle_recast alone settings.compaction out elsewhere

/-- A monitor's turn and another hook's, to which it means nothing. -/
theorem interchange_of_recast (member : h ∈ allHooks settings) (member' : k ∈ allHooks settings)
    (cast : ∀ w, turnOf settings out k w = w.recast f g i)
    (bears : ∀ w, w.Undisturbed → turnOf settings out h (w.recast f g i) = (turnOf settings out h w).recast f g i) :
    Interchange p j base settings out h k :=
  interchange_of_eq member member' fun w alone => by rw [cast, cast, bears w alone]

end Recast

/-- Only where a message was updated is the host asked for a summary, and there the stop hook and the loop's own
hook do nothing. -/
theorem interchange_compaction (member : h ∈ allHooks settings) (elsewhere : ∀ call, e ≠ .toolAfter call)
    (still : e.Updates → ∀ w, turnOf settings out h w = w)
    (bears : ∀ i w, turnOf settings out h (w.recast (·) (·) i) = (turnOf settings out h w).recast (·) (·) i) :
    Interchange p j base settings out h (CompactionPolicy.hook settings) := by
  have compaction : CompactionPolicy.hook settings ∈ allHooks settings := by simp [allHooks]
  by_cases updates : e.Updates
  · refine interchange_of_eq member compaction fun w _ => ?_
    rw [still updates, still updates]
  · obtain ⟨i, cast⟩ := turnOf_compaction settings out elsewhere updates
    exact interchange_of_recast member compaction cast fun w _ => bears i w

theorem interchange_allHooks (out : e.Output) (elsewhere : ∀ call, e ≠ .toolAfter call) :
    (allHooks settings).Pairwise (Interchange p j base settings out) := by
  by_cases idles : ∃ session, ContinuationPolicy.IdleOf session e
  · obtain ⟨session, gone⟩ := idles
    exact (List.pairwise_map.1 (allHooks_ids settings)).imp_of_mem fun member member' apart =>
      interchange_of_idle gone member member' apart
  · have busy : ∀ session, ¬ContinuationPolicy.IdleOf session e := fun session gone => idles ⟨session, gone⟩
    obtain ⟨f, pressed⟩ := turnOf_pressure settings out elsewhere
    obtain ⟨g, told⟩ := turnOf_context settings out elsewhere
    have stop : StopPolicy.hook settings ∈ allHooks settings := by simp [allHooks]
    have continuation : ContinuationPolicy.hook settings ∈ allHooks settings := by simp [allHooks]
    have pressure : PressurePolicy.hook settings ∈ allHooks settings := by simp [allHooks]
    have context : ContextPolicy.hook settings ∈ allHooks settings := by simp [allHooks]
    have compaction : CompactionPolicy.hook settings ∈ allHooks settings := by simp [allHooks]
    simp only [allHooks, List.pairwise_cons, List.mem_cons, List.not_mem_nil, or_false, forall_eq_or_imp, forall_eq]
    refine ⟨⟨interchange_stop_continuation out busy, ?_, ?_, ?_⟩, ⟨?_, ?_, ?_⟩, ⟨?_, ?_⟩, ?_, ?_⟩
    · exact interchange_of_recast stop pressure pressed fun w _ => turnOf_stop_recast out w
    · exact interchange_of_recast stop context told fun w _ => turnOf_stop_recast out w
    · exact interchange_compaction stop elsewhere (turnOf_stop_of_updates · out) fun i w => turnOf_stop_recast out w
    · exact interchange_of_recast continuation pressure pressed fun w _ => turnOf_continuation_recast out busy w
    · exact interchange_of_recast continuation context told fun w _ => turnOf_continuation_recast out busy w
    · exact interchange_compaction continuation elsewhere (turnOf_continuation_of_updates · out)
        fun i w => turnOf_continuation_recast out busy w
    · refine interchange_of_recast pressure context told fun w _ => ?_
      rw [pressed, pressed]
      rfl
    · exact (interchange_of_recast compaction pressure pressed
        fun w alone => turnOf_compaction_recast out elsewhere alone).symm
    · exact (interchange_of_recast compaction context told
        fun w alone => turnOf_compaction_recast out elsewhere alone).symm
    · simp

theorem interchange_of_mem (member : h ∈ allHooks settings) (member' : k ∈ allHooks settings)
    (elsewhere : ∀ call, e ≠ .toolAfter call) (out : e.Output) : Interchange p j base settings out h k := by
  have : Std.Symm (Interchange p j base settings out) := ⟨fun _ _ either => either.symm⟩
  refine List.Pairwise.forall_of_forall (fun i known => ?_) (interchange_allHooks out elsewhere) member member'
  exact interchange_of_eq known known fun _ _ => rfl

theorem visits_perm {hooks hooks' : List (Hook World)} (perm : hooks.Perm hooks')
    (members : ∀ h ∈ hooks, h ∈ allHooks settings) (elsewhere : ∀ call, e ≠ .toolAfter call) (out : e.Output)
    (self : Alike p j j (ShuffledInk p j base) w w) :
    AlikeWith p j j (ShuffledInk p j base) ((dispatcher settings).visits e hooks (out, w))
      ((dispatcher settings).visits e hooks' (out, w)) := by
  have step : ∀ {h} rest w, h ∈ allHooks settings → (dispatcher settings).visits e (h :: rest) (out, w) =
      (dispatcher settings).visits e rest (out, turnOf settings out h w) := by
    intro h rest w member
    rw [← visit_eq_turnOf member elsewhere]
    rfl
  -- Two neighbours change places at a time; what comes after them goes on in worlds that are alike.
  induction perm generalizing w with
  | nil => exact ⟨rfl, self⟩
  | cons h perm ih =>
    have member := members h (by simp)
    rw [step _ _ member, step _ _ member]
    exact ih (fun k later => members k (List.mem_cons_of_mem h later)) (turnOf_alike member self)
  | swap h k rest =>
    have member := members h (by simp)
    have member' := members k (by simp)
    rw [step _ _ member', step _ _ member, step _ _ member, step _ _ member']
    exact visits_alike (shuffledInk_overlooked p j base) (fun i later => members i (by simp [later]))
      ⟨rfl, interchange_of_mem member' member elsewhere out w self⟩
  | trans first second ih ih' =>
    obtain ⟨same, alike⟩ := ih members self
    obtain ⟨same', alike'⟩ := ih' (fun h member => members h (first.mem_iff.2 member)) self
    exact ⟨same'.trans same, alike.trans alike' (alike.files.trans alike'.files)⟩

theorem hooks_perm (settings : Settings) (order : List String) :
    (dispatcher settings).hooks.Perm (dispatcher { settings with order }).hooks := by
  simp only [dispatcher, Dispatcher.ofHooks]
  split
  · exact (Hook.arrange_perm _ _ _).trans (Hook.arrange_perm _ _ _).symm
  · exact .nil

theorem treatAlike_reordered (settings : Settings) (order : List String) {a : Announcement}
    (elsewhere : ∀ call, a.event ≠ .toolAfter call) :
    TreatAlike p j j (ShuffledApart p j base) (dispatcher settings) (dispatcher { settings with order }) a := by
  intro u v alike
  have o := shuffledInk_overlooked p j base
  have visits : ∀ hooks x, (dispatcher { settings with order }).visits a.event hooks x =
      (dispatcher settings).visits a.event hooks x := fun _ _ => rfl
  let opening : Remark := .on Dispatcher.journalId .dispatch "dispatched" a.event.kind a.event.session
  have opened : Alike p j j (ShuffledInk p j base) (u.remark opening) (v.remark opening) :=
    alike.remark_of_record alike.files.record opening
  have self := opened.trans (opened.symm opened.files.symm) (opened.files.trans opened.files.symm)
  have perm := hooks_perm settings order
  have members : ∀ h ∈ (dispatcher settings).hooks, h ∈ allHooks settings := fun _ active => mem_of_active active
  obtain ⟨same, turned⟩ := visits_perm perm members elsewhere a.output self
  obtain ⟨same', onwards⟩ := visits_alike o (fun h member => members h (perm.mem_iff.2 member))
    (⟨rfl, opened⟩ : AlikeWith p j j (ShuffledInk p j base) (a.output, u.remark opening) (a.output, v.remark opening))
  rw [dispatch_eq_visits, dispatch_eq_visits, visits]
  refine ⟨rfl, rfl, same'.trans same, ?_⟩
  exact turned.trans onwards (turned.files.trans onwards.files).toShuffledApart

/-- Apart from finished tool calls, the order of the hooks is immaterial. Under either order, the same event in the
same world gives the same output, asks the same of the host, and leaves the same latch, the same memories and
the same loop behind; only the lines that the journal takes can be in another order. So conversations in which
no tool call is over are the same, response by response. The journal has to be kept apart from the loop: a path
that leads through the loop's file opens when the loop is taken away. -/
theorem order_is_immaterial (settings : Settings) (order : List String) (w : World) (alone : w.Undisturbed)
    (separate : w.Separate) :
    let other : Settings := { settings with order }
    (∀ (e : Event) (out : e.Output), (∀ call, e ≠ .toolAfter call) →
      let x := (dispatcher settings).dispatch e out w
      let y := (dispatcher other).dispatch e out w
      y.output = x.output ∧ y.fault = x.fault ∧ x.state.SameButLines w.journalContent y.state) ∧
    ∀ run : List Incident, (∀ node, .rewrite node ∉ run) → (∀ r, .request r ∈ run → r.channel ≠ .toolAfter) →
      let x := converse (dispatcher settings) w run
      let y := converse (dispatcher other) w run
      y.2 = x.2 ∧ x.1.SameButLines w.journalContent y.1 := by
  intro other
  have start : Alike w.loopFile w.journal w.journal (ShuffledApart w.loopFile w.journal w.journalContent) w w :=
    ⟨rfl, rfl, rfl, alone, ⟨shuffled_start w.journal w.files, separate⟩⟩
  refine ⟨fun e out elsewhere => ?_, fun run untouched unfinished => ?_⟩
  · obtain ⟨calm, calm', same, after⟩ := treatAlike_reordered settings order (a := ⟨e, out⟩) elsewhere start
    exact ⟨same, calm'.trans calm.symm, sameButLines_of_alike after⟩
  · have treated : ∀ r a, .request r ∈ run → announcement r = .ok a →
        TreatAlike w.loopFile w.journal w.journal (ShuffledApart w.loopFile w.journal w.journalContent)
          (dispatcher settings) (dispatcher other) a := by
      intro r a asked announced
      refine treatAlike_reordered settings order fun call finished => unfinished r asked ?_
      rw [← Announcement.channel_of_decode announced, finished]
      rfl
    obtain ⟨same, last⟩ := converse_alike untouched treated start
    exact ⟨same, sameButLines_of_alike last⟩

/-- A stop command that both the stop hook and the loop's own hook hear, the one first or the other. -/
theorem order_is_immaterial_on_stop :
    let settings : Settings := { audit := { enabled := true } }
    let other : Settings := { settings with order := [ContinuationPolicy.id, StopPolicy.id] }
    let files : FileTree := ⟨["project"], [(["project"], .directory), (["project", ".hookgate"], .directory),
      (["project", ".hookgate", "autopilot-state.json"], .file "\x7b\"active\": true, \"sessionId\": \"s\"\x7d")]⟩
    let w := World.start settings ⟨"/project"⟩ files ⟨2024, 5, 1, 12, 0, 0, 0⟩ ⟨[], 0⟩
    let stop : Request := ⟨protocolVersion, .commandBefore,
      .object [("command", .string "autopilot-stop"), ("sessionID", .string "s"), ("arguments", .string "")],
      .null, .blank⟩
    (w.Undisturbed ∧ w.Separate) ∧
      let x := converse (dispatcher settings) w [.request stop]
      let y := converse (dispatcher other) w [.request stop]
      y.2 = x.2 ∧ x.1.SameButLines w.journalContent y.1 := by
  intro settings other files w stop
  have alone : w.Undisturbed := fun _ => rfl
  have separate : w.Separate := by
    intro q kept
    cases kept
    decide +kernel
  have heard := (order_is_immaterial settings other.order w alone separate).2 [.request stop]
  exact ⟨⟨alone, separate⟩, heard (by simp) (by simp [stop])⟩

end Service

end AgentHooks
