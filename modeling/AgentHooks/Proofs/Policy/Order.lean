import AgentHooks.Proofs.Files.Ink
import AgentHooks.Proofs.Policy.Alike
import AgentHooks.Proofs.Policy.Cycle

/-! Hooks one after the other. Apart from finished tool calls, what a monitor remembers about sessions is nobody
else's business, so monitors can have their turns before or after any other hook. The stop hook and the loop's own
hook act on the same events, but one looks at the latch and the other at the loop's file; only their lines in the
journal tell who came first. -/

namespace AgentHooks

namespace World

def recast (w : World) (f : Roster PressureCounters → Roster PressureCounters)
    (g : Roster ContextMemory → Roster ContextMemory) (h : Roster CompactionMemory → Roster CompactionMemory) :
    World :=
  { w with pressure := f w.pressure, context := g w.context, compaction := h w.compaction }

/-- A step that looks at the latch alone, changes at most the latch and says so. -/
def gate (w : World) (opens : NameSet → Bool) (change : NameSet → NameSet) (r : Remark) : World :=
  if opens w.stopped then { w with stopped := change w.stopped }.remark r else w

/-- A reader finds the same in the loop's file, or fails for the same reason. -/
def SameReading (v w : World) : Prop :=
  v.cell = w.cell ∧ v.files.fetch w.cell.path = w.files.fetch w.cell.path

end World

open World

variable {w : World} {e : Event} {f : Roster PressureCounters → Roster PressureCounters}
  {g : Roster ContextMemory → Roster ContextMemory} {h : Roster CompactionMemory → Roster CompactionMemory}
  {opens : NameSet → Bool} {change : NameSet → NameSet} {r : Remark}

theorem World.gate_of_open (opened : opens w.stopped = true) :
    w.gate opens change r = { w with stopped := change w.stopped }.remark r :=
  if_pos opened

theorem World.gate_of_shut (shut : ¬opens w.stopped = true) : w.gate opens change r = w :=
  if_neg shut

/-! What the hooks can come to when no tool call is over. -/

def Event.Updates (e : Event) : Prop :=
  ∃ l, e = .lifecycle l ∧ l.kind = "message.updated"

theorem UsageReport.ofEvent?_of_kind {l : LifecycleEvent} (other : l.kind ≠ "message.updated") :
    ofEvent? l = none := by
  have different : (l.kind == "message.updated") = false := by simpa using other
  rw [ofEvent?, different]
  rfl

namespace StopPolicy

theorem handle_gate (words : StopWords) (e : Event) (out : e.Output) :
    ∃ opens change r, ∀ w, (handle words e out w).state = w.gate opens change r := by
  have still : ∀ state : World → World, (∀ w, state w = w) →
      ∃ opens change r, ∀ w, state w = w.gate opens change r :=
    fun state same => ⟨fun _ => false, fun set => set, .on id .state "" "" "", fun w => (same w).trans rfl⟩
  have latches : ∀ session event, ∃ opens change r, ∀ w, latch w session event = w.gate opens change r := by
    intro session event
    by_cases blank : session = ""
    · exact still _ fun w => if_pos blank
    · exact ⟨fun _ => true, (·.insert session), _, fun w => if_neg blank⟩
  have releases : ∀ session event, ∃ opens change r, ∀ w, release w session event = w.gate opens change r :=
    fun session event => ⟨(·.contains session), (·.erase session), _, fun w => rfl⟩
  -- What the output says decides on the gate, never the world.
  cases e with
  | toolBefore call =>
    by_cases found : words.matchesTool call out = true
    · simpa only [handle, Handled.pass, if_pos found] using latches _ _
    · exact still _ fun w => if_neg found
  | commandBefore command =>
    by_cases found : words.matchesCommand command.command = true
    · simpa only [handle, Handled.pass, if_pos found] using latches _ _
    · exact still _ fun w => if_neg found
  | chatMessage turn =>
    by_cases echo : words.matchesChat out = true
    · exact still _ fun w => if_pos echo
    · simpa only [handle, Handled.pass, if_neg echo] using releases _ _
  | lifecycle e =>
    by_cases ended : e.kind = "session.deleted"
    · cases about : e.session? with
      | some session => simpa only [handle, Handled.pass, if_pos ended, about] using releases _ _
      | none => exact still _ fun w => by simp only [handle, Handled.pass, if_pos ended, about]
    · exact still _ fun w => if_neg ended
  | toolAfter call => exact still _ fun w => rfl
  | messagesTransform request => exact still _ fun w => rfl

theorem handle_of_updates (words : StopWords) (updates : e.Updates) (out : e.Output) (w : World) :
    handle words e out w = .pass out w := by
  obtain ⟨l, rfl, kind⟩ := updates
  have alive : l.kind ≠ "session.deleted" := by
    rw [kind]
    decide
  simp only [handle, if_neg alive]

end StopPolicy

namespace ContinuationPolicy

theorem handle_of_updates (s : AutopilotSettings) (words : StopWords) (updates : e.Updates) (out : e.Output)
    (w : World) : handle s words e out w = .pass out w := by
  obtain ⟨l, rfl, kind⟩ := updates
  have busy : l.kind ≠ idle := by
    rw [kind]
    decide
  have alive : l.kind ≠ "session.deleted" := by
    rw [kind]
    decide
  simp only [handle, onLifecycle, if_neg busy, if_neg alive]
  cases l.session? <;> rfl

end ContinuationPolicy

namespace PressurePolicy

theorem handle_cast (s : PressureSettings) (out : e.Output) (elsewhere : ∀ call, e ≠ .toolAfter call) :
    ∃ f, ∀ w, (handle s e out w).state = w.recast f (·) (·) := by
  have still : ∀ w : World, w = w.recast (·) (·) (·) := fun w => rfl
  cases e with
  | toolAfter call => exact absurd rfl (elsewhere call)
  | lifecycle e =>
    by_cases ended : e.kind = "session.deleted"
    · cases about : e.session? with
      | some session =>
        exact ⟨(·.remove session), fun w => by simp only [handle, Handled.pass, if_pos ended, about]; rfl⟩
      | none => exact ⟨_, fun w => by simp only [handle, Handled.pass, if_pos ended, about]; exact still w⟩
    · exact ⟨_, fun w => (if_neg ended).trans (still w)⟩
  | toolBefore call => exact ⟨_, still⟩
  | commandBefore command => exact ⟨_, still⟩
  | chatMessage turn => exact ⟨_, still⟩
  | messagesTransform request => exact ⟨_, still⟩

end PressurePolicy

namespace ContextPolicy

theorem handle_cast (s : ContextSettings) (out : e.Output) (elsewhere : ∀ call, e ≠ .toolAfter call) :
    ∃ g, ∀ w, (handle s e out w).state = w.recast (·) g (·) := by
  have still : ∀ w : World, w = w.recast (·) (·) (·) := fun w => rfl
  cases e with
  | toolAfter call => exact absurd rfl (elsewhere call)
  | lifecycle e => exact ⟨(onLifecycle · e), fun w => rfl⟩
  | toolBefore call => exact ⟨_, still⟩
  | commandBefore command => exact ⟨_, still⟩
  | chatMessage turn => exact ⟨_, still⟩
  | messagesTransform request => exact ⟨_, still⟩

end ContextPolicy

namespace CompactionPolicy

/-- Unless a message was updated, the host is not asked for a summary. -/
theorem handle_cast (s : CompactionSettings) (out : e.Output) (elsewhere : ∀ call, e ≠ .toolAfter call)
    (other : ¬e.Updates) : ∃ h, ∀ w, (handle s e out w).state = w.recast (·) (·) h := by
  have still : ∀ w : World, w = w.recast (·) (·) (·) := fun w => rfl
  cases e with
  | toolAfter call => exact absurd rfl (elsewhere call)
  | lifecycle e =>
    have unreported := UsageReport.ofEvent?_of_kind fun kind => other ⟨e, rfl, kind⟩
    simp only [handle, Handled.pass, onLifecycle, unreported]
    cases e.session? with
    | none => exact ⟨_, still⟩
    | some session =>
      by_cases whole : e.kind = "session.compacted"
      · exact ⟨(·.modify session CompactionMemory.compacted), fun w => if_pos whole⟩
      · by_cases ended : e.kind = "session.deleted"
        · exact ⟨(·.remove session), fun w => (if_neg whole).trans (if_pos ended)⟩
        · exact ⟨_, fun w => (if_neg whole).trans ((if_neg ended).trans (still w))⟩
  | toolBefore call => exact ⟨_, still⟩
  | commandBefore command => exact ⟨_, still⟩
  | chatMessage turn => exact ⟨_, still⟩
  | messagesTransform request => exact ⟨_, still⟩

end CompactionPolicy

/-! What the other monitors remember stays out of it. -/

theorem World.remark_recast (r : Remark) : (w.recast f g h).remark r = (w.remark r).recast f g h := by
  simp only [remark, recast]

theorem World.note_recast (n : Option Remark) : (w.recast f g h).note n = (w.note n).recast f g h := by
  cases n with
  | none => rfl
  | some r => exact remark_recast r

theorem World.gate_recast : (w.recast f g h).gate opens change r = (w.gate opens change r).recast f g h := by
  by_cases opened : opens w.stopped = true
  · have opened' : opens (w.recast f g h).stopped = true := opened
    rw [gate_of_open opened, gate_of_open opened']
    simp only [remark, recast]
  · have shut' : ¬opens (w.recast f g h).stopped = true := opened
    rw [gate_of_shut opened, gate_of_shut shut']

namespace CompactionPolicy

theorem compact_recast (alone : w.Undisturbed) (session event : String) :
    compact (w.recast f g (·)) session event = (compact w session event).recast f g (·) := by
  have alone' : (w.recast f g (·)).Undisturbed := alone
  have refused : (w.recast f g (·)).refusal .summarize = w.refusal .summarize := rfl
  have latched : (w.recast f g (·)).stoppedAfter .summarize = w.stoppedAfter .summarize := rfl
  unfold compact request
  rw [call_of_alone alone, call_of_alone alone', refused, latched]
  cases w.refusal .summarize <;> simp only [recast, remark]

theorem observe_recast (alone : w.Undisturbed) (s : CompactionSettings) (session event : String)
    (change : Usage → Usage) :
    observe s (w.recast f g (·)) session event change =
      (observe s w session event change).recast f g (·) := by
  have asked := fun compaction =>
    compact_recast (w := { w with compaction }) (f := f) (g := g) alone session event
  unfold observe
  dsimp only [recast] at asked ⊢
  split
  · exact asked _
  · rfl

theorem onLifecycle_recast (alone : w.Undisturbed) (s : CompactionSettings) (l : LifecycleEvent) :
    onLifecycle s (w.recast f g (·)) l = (onLifecycle s w l).recast f g (·) := by
  unfold onLifecycle
  split
  · exact observe_recast alone s _ _ _
  · split
    · rfl
    · split
      · rfl
      · split <;> rfl

theorem handle_recast (alone : w.Undisturbed) (s : CompactionSettings) (out : e.Output)
    (elsewhere : ∀ call, e ≠ .toolAfter call) :
    (handle s e out (w.recast f g (·))).state = (handle s e out w).state.recast f g (·) := by
  cases e with
  | toolAfter call => exact absurd rfl (elsewhere call)
  | lifecycle l => exact onLifecycle_recast alone s l
  | toolBefore call => rfl
  | commandBefore command => rfl
  | chatMessage turn => rfl
  | messagesTransform request => rfl

end CompactionPolicy

namespace ContinuationPolicy

/-- Taking a loop away goes by what is read in its file: either it is there and goes, or at most a failure is
noted. -/
theorem clearFor_forms (w : World) (session event reason : String) (r : Remark) :
    (∃ n, ∀ v, v.SameReading w → settle (clearFor v session event reason) r = v.note n) ∨
      ∃ text gone, w.files.fetch w.cell.path = .ok text ∧
        ∀ v, v.SameReading w → settle (clearFor v session event reason) r = (v.put none).remark gone := by
  cases looked : w.files.fetch w.cell.path with
  | error e =>
    refine .inl ⟨if e = .notFound then none else some r, fun v same => ?_⟩
    exact clearFor_of_unread (by rw [same.1, same.2, looked]) session event reason r
  | ok text =>
    have found : ∀ v : World, v.SameReading w → v.files.fetch w.cell.path = .ok text :=
      fun v same => same.2.trans looked
    by_cases clears : w.cell.Clears session text
    · refine .inr ⟨text, .on id .state reason event session, rfl, fun v same => ?_⟩
      rcases LoopCell.clearSession_of_fetch session (found v same) with ⟨-, cleared⟩ | ⟨keeps, -⟩
      · have place : v.files.placeOf w.cell.path = v.loopPlace := by rw [← same.1]; rfl
        simp only [clearFor, same.1, cleared, place]
        rfl
      · exact absurd clears keeps
    · refine .inl ⟨none, fun v same => ?_⟩
      rcases LoopCell.clearSession_of_fetch session (found v same) with ⟨clears', -⟩ | ⟨-, kept⟩
      · exact absurd clears' clears
      · simp only [clearFor, same.1, kept]
        rfl

theorem clearFor_recast (session event reason : String) (r : Remark) :
    settle (clearFor (w.recast f g h) session event reason) r =
      (settle (clearFor w session event reason) r).recast f g h := by
  rcases clearFor_forms w session event reason r with ⟨n, noted⟩ | ⟨text, gone, -, cut⟩
  · rw [noted w ⟨rfl, rfl⟩, noted (w.recast f g h) ⟨rfl, rfl⟩, note_recast]
  · rw [cut w ⟨rfl, rfl⟩, cut (w.recast f g h) ⟨rfl, rfl⟩, ← remark_recast]
    rfl

end ContinuationPolicy

/-! The stop hook and the loop's own hook. -/

theorem FileTree.shuffledInk_overlooked (p : Path) (j : Journal) (base : Content) :
    Overlooked p j j (ShuffledInk p j base) where
  record shuffled e := shuffled.toShuffledApart.record e
  read shuffled := .inl (shuffled.toShuffled.fetch shuffled.apart).symm
  set shuffled found _ next := shuffled.set (content_of_fetch found) next
  erase shuffled found _ := shuffled.erase (content_of_fetch found)

section Gate

variable {p : Path} {j : Journal} {base : Content} (self : Alike p j j (FileTree.ShuffledInk p j base) w w)

include self

theorem World.gate_sameReading : (w.gate opens change r).SameReading w := by
  obtain rfl := self.journal
  obtain rfl := self.loopFile
  by_cases opened : opens w.stopped = true
  · have read := FileTree.record_fetch self.files.inked self.files.apart ⟨w.now, r⟩
    rw [gate_of_open opened]
    simpa only [SameReading, remark, cell, true_and] using read
  · rw [gate_of_shut opened]
    exact ⟨rfl, rfl⟩

theorem World.put_gate : (w.gate opens change r).put none = (w.put none).gate opens change r := by
  obtain rfl := self.journal
  obtain rfl := self.loopFile
  by_cases opened : opens w.stopped = true
  · have opened' : opens (w.put none).stopped = true := opened
    have erased := FileTree.record_erase self.files.inked self.files.off ⟨w.now, r⟩
    have place := FileTree.placeOf_eq (w.journal.record_here ⟨w.now, r⟩ w.files) w.loopFile
    rw [gate_of_open opened, gate_of_open opened']
    simp only [put, remark, loopPlace, place, erased]
  · have shut' : ¬opens (w.put none).stopped = true := opened
    rw [gate_of_shut opened, gate_of_shut shut']

theorem World.note_gate (n : Option Remark) :
    Alike p j j (FileTree.ShuffledInk p j base) ((w.gate opens change r).note n)
      ((w.note n).gate opens change r) := by
  have o := FileTree.shuffledInk_overlooked p j base
  have same : (w.note n).stopped = w.stopped := by cases n <;> rfl
  by_cases opened : opens w.stopped = true
  · have latched := self.map (g := fun w => { w with stopped := change w.stopped }) (fun _ _ _ => rfl)
      rfl rfl rfl rfl
    rw [gate_of_open opened, gate_of_open (same ▸ opened), same]
    cases n with
    | none => exact latched.remark o r
    | some b =>
      obtain rfl := self.journal
      simp only [note, remark]
      exact latched.of_files (latched.files.swap _ _)
  · rw [gate_of_shut opened, gate_of_shut (same ▸ opened)]
    exact self.note o n

theorem ContinuationPolicy.clearFor_gate (session event reason : String) (r' : Remark) :
    Alike p j j (FileTree.ShuffledInk p j base)
      (settle (clearFor (w.gate opens change r) session event reason) r')
      ((settle (clearFor w session event reason) r').gate opens change r) := by
  rcases clearFor_forms w session event reason r' with ⟨n, noted⟩ | ⟨text, gone, found, cut⟩
  · rw [noted w ⟨rfl, rfl⟩, noted _ (gate_sameReading self)]
    exact note_gate self n
  · rw [cut w ⟨rfl, rfl⟩, cut _ (gate_sameReading self), put_gate self]
    exact note_gate (self.erase (FileTree.shuffledInk_overlooked p j base) found found) (some gone)

end Gate

end AgentHooks
