import AgentHooks.Proofs.Files.Frame
import AgentHooks.World

/-! What most steps of a hook have in common. A steady step keeps the world's fixtures and the stop
latch, and a silent one also prompts nobody. A quiet one, besides, leaves the file of the loop as it is,
as long as no other process interferes: remarks go into another file. -/

namespace AgentHooks

def Action.promptTo? (session : String) : Action → Option String
  | .sendPrompt other text => if other = session then some text else none
  | _ => none

def promptsTo (session : String) (actions : List Action) : List String :=
  actions.filterMap (·.promptTo? session)

theorem Journal.record_spares (j : Journal) (e : Entry) (t : FileTree) {place : Place}
    (apart : ∀ p ∈ j.path, t.placeOf p ≠ place) : FileTree.Spares place t (j.record e t) := by
  unfold Journal.record
  split
  · exact .refl place t
  next p kept =>
    have parents := FileTree.makeParents_spares t place p
    split
    next made => rw [made] at parents; exact parents
    next made =>
      rw [made] at parents
      split
      · exact parents
      next added =>
        refine parents.trans (FileTree.append_spares ?_ added)
        rw [FileTree.placeOf_eq parents.here]
        exact (apart p kept).symm

theorem Journal.record_here (j : Journal) (e : Entry) (t : FileTree) : (j.record e t).here = t.here := by
  unfold Journal.record
  split
  · rfl
  next p _ =>
    have made := FileTree.makeParents_here t p
    split
    next failed =>
      rw [failed] at made
      exact made
    next done =>
      rw [done] at made
      split
      · exact made
      next added => exact (FileTree.append_here added).trans made

namespace World

/-- Nobody stops a session by hand while the host works on a call. -/
def HandsOff (w : World) : Prop :=
  ∀ c, (w.disturbance c).stops = none

def Undisturbed (w : World) : Prop :=
  ∀ c, (w.disturbance c).replaces = none

def loopPlace (w : World) : Place :=
  w.files.placeOf w.loopFile

def Apart (w : World) : Prop :=
  ∀ p ∈ w.journal.path, w.files.placeOf p ≠ w.loopPlace

structure Steady (before after : World) : Prop where
  now : after.now = before.now
  journal : after.journal = before.journal
  loopFile : after.loopFile = before.loopFile
  context : after.host.context = before.host.context
  disturbance : after.disturbance = before.disturbance
  here : after.files.here = before.files.here
  latch : before.HandsOff → after.stopped = before.stopped

structure Silent (before after : World) : Prop extends Steady before after where
  prompts : ∀ session, promptsTo session after.host.effects = promptsTo session before.host.effects

structure Quiet (before after : World) : Prop extends Silent before after where
  files : before.Undisturbed → before.Apart →
    FileTree.Spares before.loopPlace before.files after.files

variable {w w' later : World}

namespace Steady

theorem refl (w : World) : Steady w w :=
  ⟨rfl, rfl, rfl, rfl, rfl, rfl, fun _ => rfl⟩

theorem handsOff (steady : Steady w w') (handsOff : w.HandsOff) : w'.HandsOff := by
  intro c
  rw [steady.disturbance]
  exact handsOff c

theorem undisturbed (steady : Steady w w') (undisturbed : w.Undisturbed) : w'.Undisturbed := by
  intro c
  rw [steady.disturbance]
  exact undisturbed c

theorem trans (first : Steady w w') (second : Steady w' later) : Steady w later where
  now := second.now.trans first.now
  journal := second.journal.trans first.journal
  loopFile := second.loopFile.trans first.loopFile
  context := second.context.trans first.context
  disturbance := second.disturbance.trans first.disturbance
  here := second.here.trans first.here
  latch handsOff := (second.latch (first.handsOff handsOff)).trans (first.latch handsOff)

theorem isStopped (steady : Steady w w') (handsOff : w.HandsOff) (session : String) :
    w'.isStopped session = w.isStopped session := by
  simp only [World.isStopped, steady.latch handsOff]

theorem loopPlace (steady : Steady w w') : w'.loopPlace = w.loopPlace := by
  simp only [World.loopPlace, steady.loopFile, FileTree.placeOf_eq steady.here]

theorem apart (steady : Steady w w') (apart : w.Apart) : w'.Apart := by
  intro p kept
  rw [steady.loopPlace, FileTree.placeOf_eq steady.here]
  exact apart p (steady.journal ▸ kept)

end Steady

namespace Silent

theorem trans (first : Silent w w') (second : Silent w' later) : Silent w later :=
  ⟨first.toSteady.trans second.toSteady,
    fun session => (second.prompts session).trans (first.prompts session)⟩

theorem of_files (w : World) {files : FileTree} (here : files.here = w.files.here) :
    Silent w { w with files } :=
  ⟨⟨rfl, rfl, rfl, rfl, rfl, here, fun _ => rfl⟩, fun _ => rfl⟩

end Silent

namespace Quiet

theorem refl (w : World) : Quiet w w :=
  ⟨⟨.refl w, fun _ => rfl⟩, fun _ _ => .refl _ _⟩

theorem trans (first : Quiet w w') (second : Quiet w' later) : Quiet w later := by
  refine ⟨first.toSilent.trans second.toSilent, fun undisturbed apart => ?_⟩
  have spared := first.files undisturbed apart
  have next := second.files (first.toSteady.undisturbed undisturbed)
    (first.toSteady.apart apart)
  rw [first.toSteady.loopPlace] at next
  exact spared.trans next

theorem of_hidden (w : World) (sampler : Sampler) (pressure : Roster PressureCounters)
    (context : Roster ContextMemory) (compaction : Roster CompactionMemory) :
    Quiet w { w with sampler, pressure, context, compaction } :=
  ⟨⟨⟨rfl, rfl, rfl, rfl, rfl, rfl, fun _ => rfl⟩, fun _ => rfl⟩, fun _ _ => .refl _ _⟩

theorem sample (w : World) : Quiet w w.sample.1 :=
  .of_hidden w _ w.pressure w.context w.compaction

theorem remark (w : World) (r : Remark) : Quiet w (w.remark r) :=
  ⟨⟨⟨rfl, rfl, rfl, rfl, rfl, Journal.record_here w.journal ⟨w.now, r⟩ w.files, fun _ => rfl⟩,
      fun _ => rfl⟩,
    fun _ apart => Journal.record_spares w.journal ⟨w.now, r⟩ w.files apart⟩

theorem disturb_here (w : World) (d : Disturbance) : (w.disturb d).files.here = w.files.here := by
  obtain ⟨stops, replaces, refuses⟩ := d
  have kept : ∀ node, (w.files.overwrite w.loopFile node).here = w.files.here :=
    FileTree.overwrite_here w.files w.loopFile
  cases replaces with
  | none => cases stops <;> rfl
  | some node => cases stops <;> exact kept node

theorem call (w : World) (c : HostCall) : Quiet w (w.call c).1 := by
  refine ⟨⟨⟨?_, ?_, ?_, ?_, ?_, ?_, fun handsOff => ?_⟩, fun session => ?_⟩, fun undisturbed _ => ?_⟩
  case refine_6 => exact disturb_here w (w.disturbance c)
  case refine_7 =>
    simp only [World.call, World.disturb, handsOff c]
    split <;> rfl
  case refine_9 =>
    simp only [World.call, World.disturb, undisturbed c]
    split <;> exact .refl _ _
  all_goals
    simp only [World.call, World.disturb]
    split <;> split <;> rfl

theorem push (w : World) (a : Action) (harmless : ∀ session, a.promptTo? session = none) :
    Quiet w { w with host := w.host.push a } :=
  ⟨⟨⟨rfl, rfl, rfl, rfl, rfl, rfl, fun _ => rfl⟩,
    fun session => by simp [Host.push, promptsTo, harmless session]⟩, fun _ _ => .refl _ _⟩

theorem request (w : World) (c : HostCall) (a : Action)
    (harmless : ∀ session, a.promptTo? session = none) : Quiet w (w.request c a).1 := by
  have called := Quiet.call w c
  unfold World.request
  split
  next refused => rw [refused] at called; exact called
  next taken =>
    rw [taken] at called
    exact called.trans (.push _ a harmless)

theorem ask {α : Type} (w : World) (c : HostCall) (session : String) (field : Snapshot → α) :
    Quiet w (w.ask c session field).1 := by
  have called := Quiet.call w c
  unfold World.ask
  split
  next refused => rw [refused] at called; exact called
  next answered => rw [answered] at called; exact called

theorem notify (w : World) (session title message : String) (level : NoticeLevel) :
    Quiet w (w.notify session title message level) :=
  Quiet.request w _ _ fun _ => rfl

theorem isStopped (quiet : Quiet w w') (handsOff : w.HandsOff) (session : String) :
    w'.isStopped session = w.isStopped session :=
  quiet.toSteady.isStopped handsOff session

theorem relatch (quiet : Quiet w w') (stopped : NameSet) :
    Quiet { w with stopped } { w' with stopped } :=
  ⟨⟨⟨quiet.now, quiet.journal, quiet.loopFile, quiet.context, quiet.disturbance, quiet.here,
    fun _ => rfl⟩,
    quiet.prompts⟩, quiet.files⟩

end Quiet

/-- A quiet step, except that the latch may have been moved. -/
def Moves (before after : World) : Prop :=
  ∃ stopped, Quiet { before with stopped } after

namespace Moves

theorem of_quiet (quiet : Quiet w w') : Moves w w' :=
  ⟨w.stopped, quiet⟩

theorem refl (w : World) : Moves w w :=
  of_quiet (.refl w)

theorem trans (first : Moves w w') (second : Moves w' later) : Moves w later := by
  obtain ⟨_, before⟩ := first
  obtain ⟨stopped, after⟩ := second
  exact ⟨stopped, (before.relatch stopped).trans after⟩

theorem stop (w : World) (session : String) : Moves w (w.stop session) :=
  ⟨_, .refl _⟩

theorem prompts (moves : Moves w w') (session : String) :
    promptsTo session w'.host.effects = promptsTo session w.host.effects := by
  obtain ⟨_, quiet⟩ := moves
  exact quiet.prompts session

theorem disturbance (moves : Moves w w') : w'.disturbance = w.disturbance := by
  obtain ⟨_, quiet⟩ := moves
  exact quiet.disturbance

theorem handsOff (moves : Moves w w') (handsOff : w.HandsOff) : w'.HandsOff := by
  intro c
  rw [moves.disturbance]
  exact handsOff c

theorem files (moves : Moves w w') (undisturbed : w.Undisturbed) (apart : w.Apart) :
    FileTree.Spares w.loopPlace w.files w'.files := by
  obtain ⟨_, quiet⟩ := moves
  exact quiet.files undisturbed apart

theorem undisturbed (moves : Moves w w') (undisturbed : w.Undisturbed) : w'.Undisturbed := by
  obtain ⟨_, quiet⟩ := moves
  exact quiet.undisturbed undisturbed

theorem apart (moves : Moves w w') (apart : w.Apart) : w'.Apart := by
  obtain ⟨_, quiet⟩ := moves
  exact quiet.toSteady.apart apart

end Moves

end World

end AgentHooks
