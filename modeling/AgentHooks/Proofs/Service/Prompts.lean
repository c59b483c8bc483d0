import AgentHooks.Proofs.Service.Frame
import AgentHooks.Proofs.Service.Resume

/-! Prompts and the record of them. A dispatch prompts one session at most, and its loop's file then tells
the iteration that the prompt is for; and no iteration is recorded without its prompt. -/

namespace AgentHooks

def Action.prompt? : Action → Option (String × String)
  | .sendPrompt session text => some (session, text)
  | _ => none

def promptsAmong (actions : List Action) : List (String × String) :=
  actions.filterMap Action.prompt?

theorem mem_promptsAmong {actions : List Action} {session text : String} :
    (session, text) ∈ promptsAmong actions ↔ .sendPrompt session text ∈ actions := by
  simp only [promptsAmong, List.mem_filterMap]
  constructor
  · rintro ⟨action, member, prompts⟩
    cases action with
    | sendPrompt other said =>
      cases prompts
      exact member
    | summarize other => cases prompts
    | notify notice => cases prompts
  · intro member
    exact ⟨_, member, rfl⟩

theorem promptsAmong_of_others {actions : List Action} {session : String}
    (others : ∀ other, other ≠ session → promptsTo other actions = []) :
    promptsAmong actions = (promptsTo session actions).map (session, ·) := by
  induction actions with
  | nil => rfl
  | cons action rest ih =>
    have later : ∀ other, other ≠ session → promptsTo other rest = [] := by
      intro other different
      have nothing := others other different
      simp only [promptsTo, List.filterMap_cons] at nothing
      split at nothing
      · exact nothing
      · cases nothing
    have tail := ih later
    simp only [promptsAmong, promptsTo] at tail
    cases action with
    | sendPrompt other said =>
      by_cases same : other = session
      · subst same
        simp [promptsAmong, promptsTo, Action.prompt?, Action.promptTo?, tail]
      · have prompted := others other same
        simp [promptsTo, Action.promptTo?] at prompted
    | summarize other => exact tail
    | notify notice => exact tail

namespace Service

open World ContinuationPolicy

variable {settings : Settings} {w : World} {a : Announcement} {conduct : Conduct}

/-- A dispatch prompts nobody and records no loop that was not there; or a session goes idle, its loop goes on
to the next iteration, and the host is asked to prompt the session for it. -/
theorem dispatch_prompts_or (small : settings.autopilot.maxIgnoredCompletionCycles < Loop.word)
    (settled : Settled w) (apart : w.Apart) (instant : w.now.Valid)
    (room : ∀ l ∈ w.stored?, l.maxIterations ≠ 0 ∨ l.iteration + 1 < Loop.word)
    (undisturbed : ∀ c, conduct.rewrites c = none) :
    let v := (occur settings w (.dispatch a conduct)).1
    let sent := promptsAmong (occur settings w (.dispatch a conduct)).2
    (sent = [] ∧ ∀ l, v.stored? = some l → w.stored? = some l) ∨
    ∃ session l next, IdleOf session a.event ∧ w.stored? = some l ∧ next.belongsTo session = true ∧
      next.iteration = l.iteration + 1 ∧ v.cell.load v.files = .ok (some next) ∧
      sent = if conduct.refuses .prompt then [] else [(session, next.continuationPrompt)] := by
  intro v sent
  let ended := (dispatch settings a conduct w).state
  have opened := opening_passes a undisturbed apart
  have waiting : ∀ session, promptsTo session w.host.effects = [] := by
    intro session
    rw [settled]
    rfl
  have silent : (∀ session, promptsTo session ended.host.effects = promptsTo session w.host.effects) →
      sent = [] := by
    intro nobody
    have unsent := fun session => (nobody session).trans (waiting session)
    have all : sent = _ := promptsAmong_of_others fun other (_ : other ≠ "") => unsent other
    rw [all]
    exact congrArg (List.map _) (unsent "")
  have emptied : ended.Vacant → ∀ l, v.stored? = some l → w.stored? = some l := by
    intro gone l held
    have missing : v.stored? = none := congrArg (·.bind v.cell.loopIn?) gone
    cases missing.symm.trans held
  have passed : Passes w ended → sent = [] ∧ ∀ l, v.stored? = some l → w.stored? = some l := by
    intro passes
    exact ⟨silent passes.prompts, fun l held => passes.stored?.symm.trans held⟩
  cases dispatch_outcome settings a undisturbed apart with
  | passed passes idle => exact .inl (passed passes)
  | cleared ends stands clears gone nobody => exact .inl ⟨silent nobody, emptied gone⟩
  | @turned session l account following t loaded mine told advanced took =>
    have stored : w.stored? = some l := opened.stored? ▸ stored_of_load loaded
    obtain ⟨active, rfl⟩ := Loop.belongsTo_iff.1 mine
    cases took with
    | ended gone nobody =>
      exact .inl ⟨silent fun other => (nobody other).trans (opened.prompts other), emptied gone⟩
    | unsaved failed passes => exact .inl (passed (opened.trans passes))
    | @wentOn next ready content prompted others =>
      obtain ⟨content', -, held⟩ := Option.bind_eq_some_iff.1 stored
      have valid : l.Valid := LoopCell.loopIn?_valid instant held
      have fits := advance_valid small valid active (heard l account)
      rw [advanced] at fits
      have loaded' : ended.cell.load ended.files = .ok (some next) := ready.load (fits next rfl) content
      obtain ⟨rfl, -, going, -⟩ := Loop.advance_some active advanced
      have further : (l.next (heard l account)).iteration = l.iteration + 1 :=
        Loop.next_iteration valid.maxIterations going (room l stored) _
      refine .inr ⟨l.session, l, l.next (heard l account), idle_of_told told, stored, mine, further, loaded', ?_⟩
      rw [opened.prompts, waiting, List.nil_append] at prompted
      have alone : sent = (promptsTo l.session ended.host.effects).map (l.session, ·) :=
        promptsAmong_of_others fun other different =>
          (others other different).trans ((opened.prompts other).trans (waiting other))
      have asked : ((opening a conduct w).disturbance .prompt).refuses = conduct.refuses .prompt := rfl
      rw [alone, prompted, asked]
      split
      · rfl
      · rfl

/-- Prompts and the record agree. A dispatch sends one prompt at most. If it sends one, a session has gone
idle, its loop's file holds an active loop of the session at the iteration after the one before the dispatch,
and the prompt is the one for that iteration. And if the file holds a loop at another iteration than
before, just this prompt was sent, unless the host did not take it. -/
theorem prompts_match_record (small : settings.autopilot.maxIgnoredCompletionCycles < Loop.word)
    (settled : Settled w) (apart : w.Apart) (instant : w.now.Valid)
    (room : ∀ l ∈ w.stored?, l.maxIterations ≠ 0 ∨ l.iteration + 1 < Loop.word)
    (undisturbed : ∀ c, conduct.rewrites c = none) :
    let v := (occur settings w (.dispatch a conduct)).1
    let effects := (occur settings w (.dispatch a conduct)).2
    (promptsAmong effects).length ≤ 1 ∧
    (∀ session text, .sendPrompt session text ∈ effects → IdleOf session a.event ∧
      ∃ l next, w.stored? = some l ∧ v.cell.load v.files = .ok (some next) ∧
        next.belongsTo session = true ∧ next.iteration = l.iteration + 1 ∧ text = next.continuationPrompt) ∧
    ∀ next, v.stored? = some next → w.stored?.map (·.iteration) ≠ some next.iteration →
      ∃ session, IdleOf session a.event ∧ next.belongsTo session = true ∧
        promptsAmong effects =
          if conduct.refuses .prompt then [] else [(session, next.continuationPrompt)] := by
  intro v effects
  rcases dispatch_prompts_or (a := a) small settled apart instant room undisturbed with
    ⟨nothing, kept⟩ | ⟨session, l, next, gone, stored, mine, further, loaded, sent⟩
  · have unsent : promptsAmong effects = [] := nothing
    refine ⟨?_, fun session text asked => ?_, fun next held moved => ?_⟩
    · rw [unsent]
      exact Nat.zero_le 1
    · have member := mem_promptsAmong.2 asked
      rw [unsent] at member
      cases member
    · rw [kept next held] at moved
      exact absurd rfl moved
  · have all : promptsAmong effects = _ := sent
    refine ⟨?_, fun other text asked => ?_, fun next' held _ => ?_⟩
    · rw [all]
      split
      · exact Nat.zero_le 1
      · exact Nat.le_refl 1
    · have member := mem_promptsAmong.2 asked
      rw [all] at member
      split at member
      · cases member
      · cases List.mem_singleton.1 member
        exact ⟨gone, l, next, stored, loaded, mine, further, rfl⟩
    · cases (stored_of_load loaded).symm.trans held
      exact ⟨session, gone, mine, sent⟩

/-- The session of a loop at its first iteration goes idle, and is prompted for the second one. -/
theorem prompts_match_record_second :
    let now : Timestamp := ⟨2024, 5, 1, 12, 0, 0, 0⟩
    let fresh := (World.start {} ⟨"/project"⟩ .empty now ⟨[], 0⟩).loadContext ⟨[("s", .blank)]⟩
    let l := Loop.start now "s" "task" 5 .promise "DONE"
    let w := { fresh with files := (fresh.cell.save l fresh.files).2 }
    let idle : Announcement := ⟨.lifecycle ⟨"session.idle", .object [("sessionID", .string "s")]⟩, ()⟩
    let v := (occur {} w (.dispatch idle .calm)).1
    let next := { l with iteration := 2 }
    Settled w ∧ w.Apart ∧ now.Valid ∧ w.stored? = some l ∧ v.stored? = some next ∧
      promptsAmong (occur {} w (.dispatch idle .calm)).2 = [("s", next.continuationPrompt)] := by
  intro now fresh l w idle v next
  have done : (fresh.cell.save l fresh.files).1.isOk = true := by decide +kernel
  have saved : fresh.cell.save l fresh.files = (.ok (), (fresh.cell.save l fresh.files).2) :=
    LoopCell.save_of_isOk done
  have instant : now.Valid := by constructor <;> decide
  have valid : l.Valid := Loop.start_valid instant _ _ (by decide) _ _
  have apart : fresh.Apart := start_apart rfl ⟨"/project"⟩ .empty now ⟨[], 0⟩
  have settled : Settled fresh := rfl
  have keeps : Keeps w (some l) := Keeps.of_save settled apart saved valid
  have offers : w.Offers l := Stores.offers keeps.holds
  have stored : w.stored? = some l := stored_of_load offers.loaded
  have capped : l.maxIterations ≠ 0 := by decide
  have room : ∀ l ∈ w.stored?, l.maxIterations ≠ 0 ∨ l.iteration + 1 < Loop.word := by
    intro l' held
    cases stored.symm.trans held
    exact .inl capped
  have small : ({} : Settings).autopilot.maxIgnoredCompletionCycles < Loop.word := by decide
  have looping : ContinuationPolicy.id ∈ (dispatcher {}).ids := mem_ids.2 (by decide)
  have calm : ∀ c, Conduct.calm.rewrites c = none := fun _ => rfl
  have pending : heard l ⟨.blank, true⟩ = .pending := by decide +kernel
  have unfinished : Unfinished w "s" ⟨"session.idle", .object [("sessionID", .string "s")]⟩ .calm l :=
    ⟨rfl, rfl, calm, rfl, offers, valid, by decide, ⟨.blank, rfl, pending⟩, by decide, .inl capped⟩
  have turns := turns_of_unfinished looping small keeps.settled keeps.apart rfl unfinished
  have further : v.stored? = some next := stored_of_load (Stores.offers turns.keeps.holds).loaded
  obtain ⟨-, -, recorded⟩ :=
    prompts_match_record (a := idle) small keeps.settled keeps.apart instant room calm
  have moved : w.stored?.map (·.iteration) ≠ some next.iteration := by
    rw [stored]
    decide
  obtain ⟨session, gone, -, sent⟩ := recorded next further moved
  have idles : IdleOf "s" idle.event := ⟨_, rfl, rfl, rfl⟩
  cases idle_unique gone idles
  exact ⟨keeps.settled, keeps.apart, instant, stored, further, sent⟩

end Service

end AgentHooks
