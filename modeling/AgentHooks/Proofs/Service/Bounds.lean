import AgentHooks.Proofs.Service.Progress

/-! What bounds a loop: the cap on its iterations, and the number of completions in a row that it may
ignore. Either of them can be the one that ends it. -/

namespace AgentHooks

namespace Signal

theorem foldl_streak (signals : List Signal) : signals.foldl streak 0 = ignored signals := by
  have reversed : ∀ latest : List Signal, latest.reverse.foldl streak 0 = ignored latest.reverse := by
    intro latest
    induction latest with
    | nil => rfl
    | cons sig earlier ih =>
      rw [List.reverse_cons, List.foldl_append, List.foldl_cons, List.foldl_nil, ih, ignored_concat]
  have same := reversed signals.reverse
  rwa [List.reverse_reverse] at same

end Signal

namespace Service

open World ContinuationPolicy

variable {settings : Settings} {w : World} {l : Loop}

/-- A loop that is read after a run has gone one iteration on with each of the run's turns. -/
theorem after_stands (looping : ContinuationPolicy.id ∈ (dispatcher settings).ids)
    (small : settings.autopilot.maxIgnoredCompletionCycles < Loop.word) {run : List Occurrence}
    (undisturbed : ∀ o ∈ run, o.Undisturbed) (keeps : Keeps w (some l)) (active : l.active = true)
    (room : l.maxIterations ≠ 0 ∨
      l.iteration + (accounts settings l.session w run).length < Loop.word)
    (standing : ¬(after settings w run).Vacant) :
    let known := accounts settings l.session w run
    let l' := { l with
      iteration := l.iteration + known.length
      ignoredCompletions := (known.map (heard l)).foldl Signal.streak l.ignoredCompletions }
    Keeps (after settings w run) (some l') ∧
      (known ≠ [] → l'.ignoredCompletions ≤ settings.autopilot.maxIgnoredCompletionCycles ∧
        (l.maxIterations ≠ 0 → l'.iteration ≤ l.maxIterations)) ∧
      (prompts settings w l.session run).length ≤ known.length ∧
      ((∀ o ∈ run, o.TakesPrompts) → (prompts settings w l.session run).length = known.length) := by
  have stores : w.Stores l := keeps.holds
  obtain ⟨kept, keeps', fewer, alive⟩ := after_follows looping small undisturbed keeps active
  cases kept with
  | none => exact absurd keeps'.holds standing
  | some l' =>
    obtain ⟨reached, sent⟩ := alive l' rfl
    obtain ⟨rfl, count, bounds⟩ :=
      Loop.turns_some active stores.valid.maxIterations (by rwa [List.length_map]) reached
    simp only [List.length_map] at keeps' count bounds
    refine ⟨keeps', fun turned => bounds ?_, ?_, fun takes => ?_⟩
    · simpa using turned
    · rw [← count]
      exact fewer.length_le
    · rw [sent takes, count]

theorem after_loaded (looping : ContinuationPolicy.id ∈ (dispatcher settings).ids)
    (small : settings.autopilot.maxIgnoredCompletionCycles < Loop.word) {run : List Occurrence}
    (undisturbed : ∀ o ∈ run, o.Undisturbed) (keeps : Keeps w (some l)) (active : l.active = true)
    (fresh : l.ignoredCompletions = 0)
    (room : l.maxIterations ≠ 0 ∨ l.iteration + (accounts settings l.session w run).length < Loop.word)
    {l' : Loop} (loaded : (after settings w run).cell.load (after settings w run).files = .ok (some l')) :
    let known := accounts settings l.session w run
    Keeps (after settings w run) (some l') ∧
      l' = { l with
        iteration := l.iteration + known.length
        ignoredCompletions := Signal.ignored (known.map (heard l)) } ∧
      l'.ignoredCompletions ≤ settings.autopilot.maxIgnoredCompletionCycles := by
  intro known
  have standing : ¬(after settings w run).Vacant := fun gone => gone.load l' loaded
  obtain ⟨keeps', bounds, -⟩ := after_stands looping small undisturbed keeps active room standing
  rw [fresh, Signal.foldl_streak] at keeps' bounds
  obtain rfl := Option.some.inj (Except.ok.inj (loaded.symm.trans (Stores.offers keeps'.holds).loaded))
  refine ⟨keeps', rfl, ?_⟩
  by_cases turned : known = []
  · change Signal.ignored (known.map (heard l)) ≤ _
    rw [turned]
    exact Nat.zero_le _
  · exact (bounds turned).1

/-- Bounded continuation. A loop that was put into its file and is left to the hooks stays a loop of its
session as long as the file stands, and its iteration counts the prompts that were sent. The cap bounds
these prompts, and the turns after which the file is gone. -/
theorem bounded_continuation (looping : ContinuationPolicy.id ∈ (dispatcher settings).ids)
    (small : settings.autopilot.maxIgnoredCompletionCycles < Loop.word) (settled : Settled w)
    (apart : w.Apart) {files : FileTree} (saved : w.cell.save l w.files = (.ok (), files))
    (valid : l.Valid) (active : l.active = true) (begun : 1 ≤ l.iteration)
    (inside : l.iteration ≤ l.maxIterations) {run : List Occurrence}
    (undisturbed : ∀ o ∈ run, o.Undisturbed) :
    let start := { w with files }
    let v := after settings start run
    let sent := (prompts settings start l.session run).length
    (¬v.Vacant → ∃ l', v.cell.load v.files = .ok (some l') ∧ l'.belongsTo l.session = true ∧
      l.iteration ≤ l'.iteration ∧ l'.iteration ≤ l.maxIterations ∧ l.iteration + sent ≤ l'.iteration ∧
      ((∀ o ∈ run, o.TakesPrompts) → l'.iteration = l.iteration + sent)) ∧
    sent ≤ l.maxIterations - l.iteration ∧
    (l.maxIterations - l.iteration + 1 ≤ (accounts settings l.session start run).length → v.Vacant) := by
  intro start v sent
  have keeps : Keeps start (some l) := .of_save settled apart saved valid
  have capped : l.maxIterations ≠ 0 := by omega
  have stands := after_stands looping small undisturbed keeps active (.inl capped)
  have below : ¬v.Vacant → l.iteration + (accounts settings l.session start run).length ≤
      l.maxIterations := by
    intro standing
    obtain ⟨-, bounds, -⟩ := stands standing
    by_cases turned : accounts settings l.session start run = []
    · rw [turned]
      exact inside
    · exact (bounds turned).2 capped
  refine ⟨fun standing => ?_, ?_, fun many => ?_⟩
  · obtain ⟨keeps', -, fewer, all⟩ := stands standing
    have stores := keeps'.holds
    refine ⟨_, (Stores.offers stores).loaded, ?_, Nat.le_add_right _ _, below standing,
      Nat.add_le_add_left fewer _, fun takes => ?_⟩
    · simp [Loop.belongsTo, active]
    · exact congrArg (l.iteration + ·) (all takes).symm
  · obtain ⟨-, -, fewer, -⟩ := after_follows looping small undisturbed keeps active
    calc
      sent ≤ _ := fewer.length_le
      _ ≤ l.maxIterations - l.iteration := Loop.turns_prompts_le active valid.maxIterations capped inside _
  · apply Classical.byContradiction
    intro standing
    have room := below standing
    omega

/-- A loop at its last iteration whose session goes idle: no prompt, and the file is gone. -/
theorem bounded_continuation_last :
    let now : Timestamp := ⟨2024, 5, 1, 12, 0, 0, 0⟩
    let w := World.start {} ⟨"/project"⟩ .empty now ⟨[], 0⟩
    let l := Loop.start now "s" "task" 1 .promise "DONE"
    let start := { w with files := (w.cell.save l w.files).2 }
    let idle := ⟨.lifecycle ⟨"session.idle", .object [("sessionID", .string "s")]⟩, ()⟩
    let run := [.tell ⟨[("s", .blank)]⟩, .dispatch idle .calm]
    (w.cell.save l w.files).1.isOk = true ∧ l.Valid ∧ Settled w ∧ w.Apart ∧
      (∀ o ∈ run, o.Undisturbed) ∧ (accounts {} l.session start run).length = 1 ∧
      (prompts {} start l.session run).length ≤ l.maxIterations - l.iteration ∧
      (after {} start run).Vacant := by
  intro now w l start idle run
  have done : (w.cell.save l w.files).1.isOk = true := by decide +kernel
  have saved : w.cell.save l w.files = (.ok (), (w.cell.save l w.files).2) := LoopCell.save_of_isOk done
  have instant : now.Valid := by constructor <;> decide
  have valid : l.Valid := Loop.start_valid instant _ _ (by decide) _ _
  have settled : Settled w := start_settled _ _ _ _ _
  have apart : w.Apart := start_apart rfl _ _ _ _
  have undisturbed : ∀ o ∈ run, o.Undisturbed := by
    simp [run, Occurrence.Undisturbed, Conduct.calm]
  have looping : ContinuationPolicy.id ∈ (dispatcher {}).ids := mem_ids.2 (by decide)
  have bounded := bounded_continuation looping (by decide) settled apart saved valid rfl (by decide)
    (by decide) undisturbed
  have turns : (accounts {} l.session start run).length = 1 := by decide +kernel
  have enough : l.maxIterations - l.iteration + 1 ≤ (accounts {} l.session start run).length := by
    rw [turns]
    decide
  exact ⟨done, valid, settled, apart, undisturbed, turns, bounded.2.1, bounded.2.2 enough⟩

/-- Ignored completions. The file counts the turns in a row, up to the last one, that signalled completion
over open work, and never more of them than may be ignored. At the next turn completion with nothing left
open ends the loop, whatever the cap says; over open work it ends the loop if no more of them may be
ignored; any other turn goes on if the cap allows it, and a turn without a signal starts the count over. -/
theorem ignored_completions (looping : ContinuationPolicy.id ∈ (dispatcher settings).ids)
    (small : settings.autopilot.maxIgnoredCompletionCycles < Loop.word) (settled : Settled w)
    (apart : w.Apart) {files : FileTree} (saved : w.cell.save l w.files = (.ok (), files))
    (valid : l.Valid) (active : l.active = true) (fresh : l.ignoredCompletions = 0)
    {run : List Occurrence} (undisturbed : ∀ o ∈ run, o.Undisturbed)
    (room : l.maxIterations ≠ 0 ∨
      l.iteration + (accounts settings l.session { w with files } run).length + 1 < Loop.word) :
    let start := { w with files }
    let v := after settings start run
    let most := settings.autopilot.maxIgnoredCompletionCycles
    let inRow := Signal.ignored ((accounts settings l.session start run).map (heard l))
    ∀ l', v.cell.load v.files = .ok (some l') →
      l'.ignoredCompletions = inRow ∧ inRow ≤ most ∧
      ∀ a conduct account, (∀ c, conduct.rewrites c = none) →
        told? l.session v (.dispatch a conduct) = some account →
        let turns := Turns settings v l.session a conduct
        (heard l account = .complete false → turns none (.completed l'.iteration)) ∧
        (heard l account = .complete true → inRow = most → turns none (.completed l'.iteration)) ∧
        (heard l account = .complete true → inRow < most → l'.canContinue = true →
          let next := { l' with iteration := l'.iteration + 1, ignoredCompletions := inRow + 1 }
          turns (some next) (.continued next true)) ∧
        (heard l account = .pending → l'.canContinue = true →
          let next := { l' with iteration := l'.iteration + 1, ignoredCompletions := 0 }
          turns (some next) (.continued next false)) ∧
        (heard l account = .pending ∨ heard l account = .complete true ∧ inRow < most →
          l'.canContinue = false → turns none (.capReached l'.iteration l'.maxIterations)) := by
  intro start v most inRow l' loaded
  have keeps : Keeps start (some l) := .of_save settled apart saved valid
  obtain ⟨keeps', same, few⟩ := after_loaded looping small undisturbed keeps active fresh
    (room.imp_right fun few => Nat.lt_of_succ_lt few) loaded
  have counted : l'.ignoredCompletions = inRow := by rw [same]
  refine ⟨counted, counted ▸ few, fun a conduct account free told => ?_⟩
  have active' : l'.active = true := by rw [same, active]
  have space : l'.maxIterations ≠ 0 ∨ l'.iteration + 1 < Loop.word := by
    rw [same]
    exact room
  have owner : l'.session = l.session := by rw [same]
  have words : heard l' = heard l := by
    rw [same]
    rfl
  have stores : v.Stores l' := keeps'.holds
  have further := fun going => Loop.next_eq stores.valid.maxIterations going space
  have told' : told? l'.session v (.dispatch a conduct) = some account := by rw [owner, told]
  have turn : ∀ next t, l'.advance l'.session (heard l account) most false = (next, t) →
      Turns settings v l.session a conduct next t := by
    intro next t advanced
    rw [← words] at advanced
    rw [← owner]
    exact occur_of_told looping small free keeps'.settled keeps'.apart stores.offers stores.valid active' told' advanced
  refine ⟨fun done => ?_, fun done spent => ?_, fun done left going => ?_, fun more going => ?_,
    fun persists full => ?_⟩
  · apply turn
    rw [done]
    apply Loop.advance_of_completes active'
    rintro (pending | ⟨blocked, -⟩)
    · cases pending
    · cases blocked
  · apply turn
    rw [done]
    apply Loop.advance_of_completes active'
    rintro (pending | ⟨-, left⟩)
    · cases pending
    · omega
  · apply turn
    have persists : l'.Persists most (.complete true) := .inr ⟨rfl, by omega⟩
    rw [done, Loop.advance_goesOn active' persists going, further going, ← counted]
    rfl
  · apply turn
    rw [more, Loop.advance_goesOn active' (.inl rfl) going, further going]
    rfl
  · apply turn
    have persists' : l'.Persists most (heard l account) := by
      rw [Loop.Persists, counted]
      exact persists
    rw [Loop.advance_of_persists active' persists', full]
    rfl

/-- A fresh loop whose session signals completion over an open todo, under the settings that hold by
default: the signal is ignored once. -/
theorem ignored_completions_first :
    let now : Timestamp := ⟨2024, 5, 1, 12, 0, 0, 0⟩
    let history : Snapshot := ⟨[.ofText "assistant" "<promise>done</promise>"], [⟨"test", "pending", none⟩]⟩
    let w := (World.start {} ⟨"/project"⟩ .empty now ⟨[], 0⟩).loadContext ⟨[("s", history)]⟩
    let l := Loop.start now "s" "task" 2 .promise "DONE"
    let start := { w with files := (w.cell.save l w.files).2 }
    let idle := ⟨.lifecycle ⟨"session.idle", .object [("sessionID", .string "s")]⟩, ()⟩
    let next := { l with iteration := l.iteration + 1, ignoredCompletions := 1 }
    (w.cell.save l w.files).1.isOk = true ∧ start.cell.load start.files = .ok (some l) ∧
      heard l ⟨history, true⟩ = .complete true ∧
      Turns {} start l.session idle .calm (some next) (.continued next true) := by
  intro now history w l start idle next
  have done : (w.cell.save l w.files).1.isOk = true := by decide +kernel
  have saved : w.cell.save l w.files = (.ok (), (w.cell.save l w.files).2) := LoopCell.save_of_isOk done
  have instant : now.Valid := by constructor <;> decide
  have valid : l.Valid := Loop.start_valid instant _ _ (by decide) _ _
  have unaudited : ({} : Settings).audit.enabled = false := rfl
  have apart : w.Apart := start_apart unaudited ⟨"/project"⟩ .empty now ⟨[], 0⟩
  have loaded : start.cell.load start.files = .ok (some l) := (Stores.of_save saved valid).offers.loaded
  have looping : ContinuationPolicy.id ∈ (dispatcher {}).ids := mem_ids.2 (by decide)
  have told : told? l.session (after {} start []) (.dispatch idle .calm) = some ⟨history, true⟩ := by rfl
  have signalled : heard l ⟨history, true⟩ = .complete true := by decide +kernel
  have settled : Settled w := rfl
  have nothing : ∀ o ∈ ([] : List Occurrence), o.Undisturbed := by simp
  have capped : l.maxIterations ≠ 0 := by decide
  have counted := ignored_completions looping (by decide) settled apart saved valid rfl rfl
    nothing (.inl capped) l loaded
  obtain ⟨-, -, table⟩ := counted
  obtain ⟨-, -, ignores, -, -⟩ := table idle .calm ⟨history, true⟩ (fun _ => rfl) told
  exact ⟨done, loaded, signalled, ignores signalled (by decide) (by decide)⟩

end Service

end AgentHooks
