import AgentHooks.Proofs.Policy.Faithful
import AgentHooks.Proofs.Service.Cycle

/-! The journal can be relied on. In whatever state the service is, the lines of a dispatch tell just what it did:
nothing is done without its line, and no line is written of something that was not done. -/

namespace AgentHooks

open World

namespace Event

def appended : (e : Event) → e.Output → List String → e.Output
  | .toolAfter _, out, blocks => blocks.foldl ToolResult.appendReminder out
  | .lifecycle _, out, _ => out
  | .toolBefore _, out, _ => out
  | .commandBefore _, out, _ => out
  | .chatMessage _, out, _ => out
  | .messagesTransform _, out, _ => out

variable {e : Event} {x y z : e.Output × World}

theorem appended_nil (out : e.Output) : e.appended out [] = out := by
  cases e <;> rfl

theorem appended_append (out : e.Output) (blocks more : List String) :
    e.appended out (blocks ++ more) = e.appended (e.appended out blocks) more := by
  cases e with
  | toolAfter call => exact List.foldl_append
  | _ => rfl

def Reminds (e : Event) (before after : e.Output × World) : Prop :=
  ∃ blocks, after.1 = e.appended before.1 blocks ∧ ((∀ call, e ≠ .toolAfter call) → blocks = []) ∧
    Faithful blocks before.2 after.2

namespace Reminds

theorem of_faithful (same : y.1 = x.1) (faithful : Faithful [] x.2 y.2) : e.Reminds x y :=
  ⟨[], same.trans (appended_nil x.1).symm, fun _ => rfl, faithful⟩

theorem trans (first : e.Reminds x y) (second : e.Reminds y z) : e.Reminds x z := by
  obtain ⟨blocks, output, silent, faithful⟩ := first
  obtain ⟨more, output', silent', faithful'⟩ := second
  refine ⟨blocks ++ more, ?_, fun elsewhere => ?_, faithful.trans faithful'⟩
  · rw [output', output, appended_append]
  · rw [silent elsewhere, silent' elsewhere]
    rfl

theorem of_toolAfter {call : ToolCall} {x y : ToolResult × World} (reminds : World.Reminds x y) :
    (Event.toolAfter call).Reminds x y := by
  obtain ⟨blocks, output, faithful⟩ := reminds
  exact ⟨blocks, output, fun elsewhere => absurd rfl (elsewhere call), faithful⟩

end Reminds

end Event

namespace Service

variable {settings : Settings} {w : World} {h : Hook World}

theorem visit_faithful (settings : Settings) (e : Event) (x : e.Output × World) (h : Hook World) :
    Faithful [] (h.handle e x.1 x.2).state ((dispatcher settings).visit e x h).2 := by
  simp only [Dispatcher.visit]
  split
  · exact .refl _
  · exact .line _ _ _ _ _ (by decide)

theorem visit_reminds (member : h ∈ allHooks settings) (e : Event) (x : e.Output × World) :
    e.Reminds x ((dispatcher settings).visit e x h) := by
  have failed := visit_faithful settings e x h
  by_cases finished : ∃ call, e = .toolAfter call
  · obtain ⟨call, rfl⟩ := finished
    have handled : World.Reminds x ((h.handle (.toolAfter call) x.1 x.2).output,
        (h.handle (.toolAfter call) x.1 x.2).state) := by
      rcases mem_allHooks.1 member with rfl | rfl | rfl | rfl | rfl
      · exact .refl x
      · exact .refl x
      · exact PressurePolicy.onToolAfter_faithful settings.pressure call.session x.1 x.2
      · exact ContextPolicy.onToolAfter_faithful settings.context call.session x.1 x.2
      · exact .of_faithful rfl (CompactionPolicy.handle_faithful settings.compaction (.toolAfter call) x.1 x.2)
    exact .of_toolAfter (handled.trans (.of_faithful rfl failed))
  · have elsewhere : ∀ call, e ≠ .toolAfter call := fun call same => finished ⟨call, same⟩
    refine .of_faithful (visit_output member x elsewhere) (Faithful.trans (?_ : Faithful [] _ _) failed)
    rcases mem_allHooks.1 member with rfl | rfl | rfl | rfl | rfl
    · exact StopPolicy.handle_faithful _ e x.1 x.2
    · exact ContinuationPolicy.handle_faithful _ _ e x.1 x.2
    · exact PressurePolicy.handle_faithful _ e x.1 x.2 elsewhere
    · exact ContextPolicy.handle_faithful _ e x.1 x.2 elsewhere
    · exact CompactionPolicy.handle_faithful _ e x.1 x.2

theorem visits_reminds {hooks : List (Hook World)} (members : ∀ h ∈ hooks, h ∈ allHooks settings) (e : Event)
    (x : e.Output × World) : e.Reminds x ((dispatcher settings).visits e hooks x) :=
  Dispatcher.visits_keep (P := e.Reminds x) _ (fun h turn y soFar => soFar.trans (visit_reminds (members h turn) e y))
    (.of_faithful rfl (.refl x.2))

/-- What a dispatch adds to a journal that can be written, does and hands back. -/
theorem dispatch_told (settings : Settings) (a : Announcement) {conduct : Conduct}
    (alone : ∀ c, conduct.rewrites c = none) (writable : w.Writable) (apart : w.Apart) :
    ∃ lines asked blocks gone,
      Writes { w with disturbance := conduct.disturbance } (dispatch settings a conduct w).state lines asked gone ∧
      Told lines asked blocks gone ∧ (dispatch settings a conduct w).output = a.event.appended a.output blocks ∧
      ((∀ call, a.event ≠ .toolAfter call) → blocks = []) := by
  let start : World := { w with disturbance := conduct.disturbance }
  have startWritable : start.Writable := writable
  have startApart : start.Apart := apart
  have opened := writes_remark startWritable startApart (fun _ => rfl) alone
    (.on Dispatcher.journalId .dispatch "dispatched" a.event.kind a.event.session)
  have first := Told.plain Dispatcher.journalId .dispatch a.event.kind a.event.session
    (by decide : "dispatched" ∉ Remark.telling)
  obtain ⟨blocks, output, silent, faithful⟩ := visits_reminds
    (fun h active => mem_of_active active) a.event (a.output, opening a conduct w)
  obtain ⟨lines, asked, gone, writes, told⟩ := faithful opened.audited
  refine ⟨_, _, _, _, ?_, first.append told, ?_, silent⟩
  · rw [dispatch_state]
    exact opened.trans writes
  · rw [dispatch, dispatch_eq_visits]
    exact output

theorem dispatch_writable (settings : Settings) (a : Announcement) {conduct : Conduct}
    (alone : ∀ c, conduct.rewrites c = none) (writable : w.Writable) (apart : w.Apart) :
    (dispatch settings a conduct w).state.Writable ∧ (dispatch settings a conduct w).state.Apart := by
  obtain ⟨lines, asked, blocks, gone, writes, -⟩ := dispatch_told settings a alone writable apart
  exact ⟨writes.audited.begun.writable, writes.audited.apart⟩

theorem after_writable (settings : Settings) {run : List Occurrence} (undisturbed : ∀ o ∈ run, o.Undisturbed)
    (writable : w.Writable) (apart : w.Apart) :
    (after settings w run).Writable ∧ (after settings w run).Apart := by
  refine after_keeps (P := fun w => w.Writable ∧ w.Apart) (fun o happens w ready => ?_) ⟨writable, apart⟩
  have alone := undisturbed o happens
  cases o with
  | dispatch a conduct => exact dispatch_writable settings a alone ready.1 ready.2
  | tell context => exact ready
  | rewrite node => exact absurd alone id
  | clock now => exact ready

/-- The audit trail is faithful. With a journal that can be written, in another file than the loop, every dispatch of
every run adds lines to it of which these things hold, whatever the host refuses: for each session there are as
many lines of a prompt sent as prompts, and as many lines of a compaction requested as requests to summarize it; the
lines of reminders and the reminders put behind a finished tool call's output are the same ones in the same order;
and the loop's file goes away just when one line of the loop's own hook says that the loop has ended. -/
theorem audit_is_faithful (settings : Settings) (settled : Settled w) (writable : w.Writable) (apart : w.Apart)
    (run : List Occurrence) (undisturbed : ∀ o ∈ run, o.Undisturbed) (a : Announcement) (conduct : Conduct)
    (alone : ∀ c, conduct.rewrites c = none) :
    let v := after settings w run
    let done := dispatch settings a conduct v
    let effects := (occur settings v (.dispatch a conduct)).2
    ∃ lines blocks,
      done.state.journalContent = v.journalContent ++ Remark.written v.now lines ∧
      done.output = a.event.appended a.output blocks ∧ ((∀ call, a.event ≠ .toolAfter call) → blocks = []) ∧
      (∀ session, lines.countP (·.gives "continuation_sent" session) = (promptsTo session effects).length) ∧
      (∀ session, lines.countP (·.gives "compaction_requested" session) = effects.countP (·.summarizes session)) ∧
      Headed (lines.filterMap Remark.heading?) blocks ∧
      (v.loopContent?.isSome ∧ done.state.loopContent? = none ↔ lines.countP Remark.endsLoop = 1) := by
  intro v done effects
  obtain ⟨vWritable, vApart⟩ := after_writable settings undisturbed writable apart
  obtain ⟨lines, asked, blocks, gone, writes, told, output, silent⟩ :=
    dispatch_told settings a alone vWritable vApart
  have asks : effects = asked := by
    have nothing : v.host.effects = [] := after_settled settings settled run
    have handed : effects = v.host.effects ++ asked := writes.effects
    rw [handed, nothing, List.nil_append]
  refine ⟨lines, blocks, writes.journal, output, silent, ?_, ?_, told.reminders, ?_⟩
  · rw [asks]
    exact told.prompts
  · rw [asks]
    exact told.summaries
  · rw [told.endings]
    exact writes.gone_iff

/-- The session of a loop goes idle and is prompted; there is no journal before the first dispatch. -/
theorem audit_is_faithful_prompt :
    let settings : Settings := { audit := { enabled := true } }
    let files : FileTree := ⟨["project"], [(["project"], .directory), (["project", ".hookgate"], .directory),
      (["project", ".hookgate", "autopilot-state.json"], .file "\x7b\"active\": true, \"sessionId\": \"s\"\x7d")]⟩
    let w := World.start settings ⟨"/project"⟩ files ⟨2024, 5, 1, 12, 0, 0, 0⟩ ⟨[], 0⟩
    let v := after settings w [.tell ⟨[("s", .blank)]⟩]
    let idle : Announcement := ⟨.lifecycle ⟨"session.idle", .object [("sessionID", .string "s")]⟩, ()⟩
    let done := dispatch settings idle .calm v
    (Settled w ∧ w.Writable ∧ w.Apart) ∧
      ∃ lines, done.state.journalContent = v.journalContent ++ Remark.written v.now lines ∧
        lines.countP (·.gives "continuation_sent" "s") = 1 ∧ lines.countP Remark.endsLoop ≠ 1 := by
  intro settings files w v idle done
  have writable : w.Writable := ⟨_, rfl, by decide +kernel⟩
  have apart : w.Apart := by
    intro q kept
    cases kept
    decide +kernel
  have hooks : dispatcher settings =
      ⟨(enabledHooks settings).filter fun h => !settings.disabled.contains h.id, World.remark⟩ :=
    dispatcher_of_unordered rfl rfl
  have sent : (promptsTo "s" (occur settings v (.dispatch idle .calm)).2).length = 1 := by
    simp only [occur, dispatch, hooks]
    decide +kernel
  have stays : done.state.loopContent? ≠ none := by
    simp only [done, dispatch, hooks]
    decide +kernel
  have settled : Settled w := rfl
  obtain ⟨lines, blocks, text, -, -, prompts, -, -, ends⟩ := audit_is_faithful settings settled writable apart
    [.tell ⟨[("s", .blank)]⟩] (by simp [Occurrence.Undisturbed]) idle .calm (fun _ => rfl)
  exact ⟨⟨settled, writable, apart⟩, lines, text, (prompts "s").trans sent, fun once => stays (ends.2 once).2⟩

end Service

end AgentHooks
