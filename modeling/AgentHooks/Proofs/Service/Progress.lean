import AgentHooks.Proofs.Service.Cycle

/-! How far a loop gets. While its file is left to the hooks, what a run makes of it is what the turns
make of it that the run brings, one for every time that its session goes idle unstopped and with a history
told. -/

namespace AgentHooks.Service

open World ContinuationPolicy

/-- The loop's file is as it should be between two occurrences: it holds a loop that can be replaced, or it
is not there, the journal is elsewhere, and nothing waits to be handed over. -/
structure Keeps (w : World) (kept : Option Loop) : Prop where
  settled : Settled w
  apart : w.Apart
  holds : w.Holds kept

variable {settings : Settings} {w : World} {l : Loop} {o : Occurrence}

theorem Keeps.of_save (settled : Settled w) (apart : w.Apart) {files : FileTree}
    (saved : w.cell.save l w.files = (.ok (), files)) (valid : l.Valid) :
    Keeps { w with files } (some l) := by
  have here : files.here = w.files.here := by
    have kept := LoopCell.save_here w.cell l w.files
    rw [saved] at kept
    exact kept
  have places : ∀ p, files.placeOf p = w.files.placeOf p := FileTree.placeOf_eq here
  refine ⟨settled, fun p journal => ?_, Stores.of_save saved valid⟩
  simp only [World.loopPlace, places]
  exact apart p journal

theorem opening_spares (a : Announcement) {conduct : Conduct}
    (undisturbed : ∀ c, conduct.rewrites c = none) (apart : w.Apart) :
    FileTree.Spares w.loopPlace w.files (opening a conduct w).files :=
  (opening_quiet a conduct w).files undisturbed apart

theorem opening_apart (a : Announcement) (conduct : Conduct) (apart : w.Apart) :
    (opening a conduct w).Apart :=
  (opening_quiet a conduct w).apart apart

theorem opening_holds {kept : Option Loop} (holds : w.Holds kept) (a : Announcement) {conduct : Conduct}
    (undisturbed : ∀ c, conduct.rewrites c = none) (apart : w.Apart) :
    (opening a conduct w).Holds kept :=
  holds.of_spares rfl (opening_spares a undisturbed apart)

theorem opening_offers (offers : w.Offers l) (a : Announcement) {conduct : Conduct}
    (undisturbed : ∀ c, conduct.rewrites c = none) (apart : w.Apart) :
    (opening a conduct w).Offers l :=
  offers.of_spares rfl (opening_spares a undisturbed apart)

theorem Keeps.of_moves {kept : Option Loop} (keeps : Keeps w kept) {a : Announcement} {conduct : Conduct}
    (undisturbed : ∀ c, conduct.rewrites c = none)
    (moves : Moves (opening a conduct w) (dispatch settings a conduct w).state) :
    Keeps (occur settings w (.dispatch a conduct)).1 kept ∧
      ∀ session, promptsTo session (occur settings w (.dispatch a conduct)).2 = [] := by
  have alone := opening_undisturbed (a := a) undisturbed w
  have free := opening_apart a conduct keeps.apart
  refine ⟨⟨rfl, moves.apart free, ?_⟩, fun session => ?_⟩
  · have held := (opening_holds keeps.holds a undisturbed keeps.apart).of_moves alone free moves
    exact held.of_spares rfl (.refl _ _)
  · have same : promptsTo session (dispatch settings a conduct w).state.host.effects =
        promptsTo session w.host.effects := moves.prompts session
    rw [keeps.settled] at same
    exact same

theorem occur_of_vacant (settings : Settings) (undisturbed : o.Undisturbed) (keeps : Keeps w none) :
    Keeps (occur settings w o).1 none ∧ ∀ session, promptsTo session (occur settings w o).2 = [] := by
  cases o with
  | dispatch a conduct =>
    exact keeps.of_moves undisturbed (dispatch_of_vacant settings undisturbed
      (opening_apart a conduct keeps.apart) (opening_holds keeps.holds a undisturbed keeps.apart))
  | tell context => exact ⟨⟨keeps.settled, keeps.apart, keeps.holds⟩, fun _ => rfl⟩
  | rewrite node => exact absurd undisturbed id
  | clock now => exact ⟨⟨keeps.settled, keeps.apart, keeps.holds⟩, fun _ => rfl⟩

/-- Once the file is gone it stays so, and nobody is prompted any more. -/
theorem after_of_vacant (settings : Settings) {run : List Occurrence}
    (undisturbed : ∀ o ∈ run, o.Undisturbed) (keeps : Keeps w none) :
    Keeps (after settings w run) none ∧ ∀ session, prompts settings w session run = [] := by
  induction run generalizing w with
  | nil => exact ⟨keeps, fun _ => rfl⟩
  | cons o rest ih =>
    obtain ⟨next, silent⟩ := occur_of_vacant settings (undisturbed o (by simp)) keeps
    obtain ⟨later, still⟩ := ih (fun p turn => undisturbed p (List.mem_cons_of_mem o turn)) next
    refine ⟨later, fun session => ?_⟩
    rw [prompts_cons, silent, still]
    rfl

theorem occur_of_discards (looping : ContinuationPolicy.id ∈ (dispatcher settings).ids)
    (undisturbed : o.Undisturbed) (keeps : Keeps w (some l))
    (discarded : discards settings l.session o = true) :
    Keeps (occur settings w o).1 none ∧ ∀ session, promptsTo session (occur settings w o).2 = [] := by
  cases o with
  | dispatch a conduct =>
    obtain ⟨apart, vacant, silent⟩ := dispatch_discards looping undisturbed
      (opening_apart a conduct keeps.apart) (opening_holds keeps.holds a undisturbed keeps.apart)
      discarded
    refine ⟨⟨rfl, apart, vacant⟩, fun session => ?_⟩
    change promptsTo session (dispatch settings a conduct w).state.host.effects = []
    rw [silent, keeps.settled]
    rfl
  | tell context => cases discarded
  | rewrite node => cases discarded
  | clock now => cases discarded

theorem occur_of_kept (looping : ContinuationPolicy.id ∈ (dispatcher settings).ids)
    (undisturbed : o.Undisturbed) (keeps : Keeps w (some l)) (active : l.active = true)
    (kept : discards settings l.session o = false) (untold : told? l.session w o = none) :
    Keeps (occur settings w o).1 (some l) ∧ ∀ session, promptsTo session (occur settings w o).2 = [] := by
  have here : ∀ v : World, v.files = w.files → v.loopFile = w.loopFile → v.Holds (some l) := by
    intro v files loopFile
    apply keeps.holds.of_spares loopFile
    rw [files]
    exact .refl _ _
  cases o with
  | dispatch a conduct =>
    have apart := opening_apart a conduct keeps.apart
    have stores : (opening a conduct w).Stores l := opening_holds keeps.holds a undisturbed keeps.apart
    apply keeps.of_moves undisturbed
    by_cases gone : IdleOf l.session a.event
    · exact dispatch_untold looping undisturbed stores.offers active gone untold
    · exact dispatch_elsewhere settings undisturbed apart stores gone kept
  | tell context => exact ⟨⟨keeps.settled, keeps.apart, here _ rfl rfl⟩, fun _ => rfl⟩
  | rewrite node => exact absurd undisturbed id
  | clock now => exact ⟨⟨keeps.settled, keeps.apart, here _ rfl rfl⟩, fun _ => rfl⟩

/-- What a loop may become in a turn can be written down again. -/
theorem advance_valid (small : settings.autopilot.maxIgnoredCompletionCycles < Loop.word)
    (valid : l.Valid) (active : l.active = true) (sig : Signal) :
    ∀ l' ∈ (l.advance l.session sig settings.autopilot.maxIgnoredCompletionCycles false).1, l'.Valid := by
  intro l' kept
  obtain ⟨rfl, -, -, persists⟩ := Loop.advance_some active (Prod.ext kept rfl)
  exact Loop.next_valid valid small persists

/-- What a turn comes to: the file holds what the turn makes of the loop, the rest is what follows from the
turn, and the host is asked for the turn's prompt. -/
structure Turns (settings : Settings) (w : World) (session : String) (a : Announcement) (conduct : Conduct)
    (next : Option Loop) (t : Turn) : Prop where
  keeps : Keeps (occur settings w (.dispatch a conduct)).1 next
  prompted : promptsTo session (occur settings w (.dispatch a conduct)).2 =
    if conduct.refuses .prompt then [] else t.prompt?.toList
  concluded : occur settings w (.dispatch a conduct) =
    (conclude settings.autopilot ((opening a conduct w).put next) session t).takeEffects

theorem occur_of_told (looping : ContinuationPolicy.id ∈ (dispatcher settings).ids)
    (small : settings.autopilot.maxIgnoredCompletionCycles < Loop.word) {a : Announcement}
    {conduct : Conduct} (undisturbed : ∀ c, conduct.rewrites c = none) (settled : Settled w)
    (apart : w.Apart) (offers : w.Offers l) (valid : l.Valid) (active : l.active = true)
    {account : Account} (told : told? l.session w (.dispatch a conduct) = some account)
    {next : Option Loop} {t : Turn}
    (advanced : l.advance l.session (heard l account) settings.autopilot.maxIgnoredCompletionCycles false =
      (next, t)) :
    Turns settings w l.session a conduct next t := by
  have found := opening_offers offers a undisturbed apart
  have turn := dispatch_turn looping undisturbed found active told advanced
  have running := running_of_told ((told?_of_idle (idle_of_told told) conduct w).symm.trans told)
  have fits := advance_valid small valid active (heard l account)
  rw [advanced] at fits
  have put := put_silent (opening a conduct w) next
  have handsOff := opening_handsOff a conduct w
  have free := (opening_apart a conduct apart).put next
  obtain ⟨spared, prompted⟩ := conclude_outcome (s := settings.autopilot) (put.handsOff handsOff)
    (put.undisturbed (opening_undisturbed undisturbed w)) free
    ((put.isStopped handsOff l.session).trans running) t
  have steady := (conclude_actsFor settings.autopilot ((opening a conduct w).put next) l.session t).toSteady
  rw [← turn] at spared prompted steady
  refine ⟨⟨rfl, steady.apart free, ?_⟩, ?_, congrArg takeEffects turn⟩
  · have held := (found.put fits).of_spares steady.loopFile spared
    exact held.of_spares rfl (.refl _ _)
  · have before : promptsTo l.session ((opening a conduct w).put next).host.effects = [] := by
      rw [put.prompts, (opening_quiet a conduct w).prompts l.session, settled]
      rfl
    rw [before, put.disturbance] at prompted
    exact prompted

/-- A run follows the turns of a session's loop: the file ends up as the turns leave the loop, unless it is
gone for another reason, and no prompt is sent that the turns do not lead to. A host that takes every prompt
has got them all, if there still is a file. -/
def Follows (settings : Settings) (w : World) (session : String) (run : List Occurrence)
    (turns : Option Loop × List String) : Prop :=
  ∃ kept, Keeps (after settings w run) kept ∧ (prompts settings w session run).Sublist turns.2 ∧
    ∀ l ∈ kept, turns.1 = some l ∧
      ((∀ o ∈ run, o.TakesPrompts) → prompts settings w session run = turns.2)

variable {session : String} {rest : List Occurrence} {turns : Option Loop × List String}

theorem Follows.of_gone (undisturbed : ∀ p ∈ rest, p.Undisturbed)
    (gone : Keeps (occur settings w o).1 none) (silent : promptsTo session (occur settings w o).2 = []) :
    Follows settings w session (o :: rest) turns := by
  obtain ⟨still, quiet⟩ := after_of_vacant settings undisturbed gone
  refine ⟨none, still, ?_, fun l absent => nomatch absent⟩
  rw [prompts_cons, silent, quiet]
  exact List.nil_sublist _

theorem Follows.cons {sent : List String}
    (asked : promptsTo session (occur settings w o).2 = sent ∨
      ¬o.TakesPrompts ∧ promptsTo session (occur settings w o).2 = [])
    (later : Follows settings (occur settings w o).1 session rest turns) :
    Follows settings w session (o :: rest) (turns.1, sent ++ turns.2) := by
  obtain ⟨kept, keeps, fewer, alive⟩ := later
  refine ⟨kept, keeps, ?_, fun l here => ⟨(alive l here).1, fun takes => ?_⟩⟩
  · rw [prompts_cons]
    rcases asked with same | ⟨-, silent⟩
    · rw [same]
      exact fewer.append_left sent
    · rw [silent]
      exact fewer.trans (List.sublist_append_right sent _)
  · rcases asked with same | ⟨refused, -⟩
    · rw [prompts_cons, same]
      congr 1
      exact (alive l here).2 fun p turn => takes p (List.mem_cons_of_mem o turn)
    · exact absurd (takes o (by simp)) refused

/-- A run takes the loop through the turns that it brings. -/
theorem after_follows (looping : ContinuationPolicy.id ∈ (dispatcher settings).ids)
    (small : settings.autopilot.maxIgnoredCompletionCycles < Loop.word) {run : List Occurrence}
    (undisturbed : ∀ o ∈ run, o.Undisturbed) (keeps : Keeps w (some l)) (active : l.active = true) :
    Follows settings w l.session run (l.turns settings.autopilot.maxIgnoredCompletionCycles
      ((accounts settings l.session w run).map (heard l))) := by
  -- The file holds the loop as the turns so far have left it, so the next turn sets out from there.
  induction run generalizing w l with
  | nil => exact ⟨some l, keeps, .refl _, fun l' same => ⟨same, fun _ => rfl⟩⟩
  | cons o rest ih =>
    have alone := undisturbed o (by simp)
    have others : ∀ p ∈ rest, p.Undisturbed := fun p turn => undisturbed p (List.mem_cons_of_mem o turn)
    cases discarded : discards settings l.session o with
    | true =>
      obtain ⟨gone, silent⟩ := occur_of_discards looping alone keeps discarded
      exact .of_gone others gone (silent _)
    | false =>
      simp only [accounts]
      cases told : told? l.session w o with
      | none =>
        obtain ⟨same, silent⟩ := occur_of_kept looping alone keeps active discarded told
        exact .cons (.inl (silent _)) (ih others same active)
      | some account =>
        obtain ⟨a, conduct, rfl, -⟩ := dispatch_of_told told
        have stores : w.Stores l := keeps.holds
        simp only [Option.toList_some, List.cons_append, List.nil_append, List.map_cons, Loop.turns]
        split
        next next t advanced =>
          obtain ⟨rfl, -, -, -⟩ := Loop.advance_some active advanced
          have turn := occur_of_told looping small alone keeps.settled keeps.apart stores.offers
            stores.valid active told advanced
          refine .cons ?_ (ih others turn.keeps active)
          rw [turn.prompted]
          cases refused : conduct.refuses .prompt with
          | false => exact .inl rfl
          | true =>
            refine .inr ⟨fun takes => ?_, rfl⟩
            cases (show conduct.refuses .prompt = false from takes).symm.trans refused
        next t advanced =>
          have turn := occur_of_told looping small alone keeps.settled keeps.apart stores.offers
            stores.valid active told advanced
          apply Follows.of_gone others turn.keeps
          rw [turn.prompted, Loop.advance_none active advanced]
          split <;> rfl

end AgentHooks.Service
