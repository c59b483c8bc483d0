import Mathlib.Data.List.Forall2
import AgentHooks.Policy.Pressure
import AgentHooks.Proofs.Policy.Frame
import AgentHooks.Proofs.World.Journal

/-! Keeping count. What a step asks of the host, what it puts before the agent and whether it takes the loop's file
away stand beside the lines that it adds to the journal, and both only ever grow at the end. So what holds of the
lines of every step, that they tell just what was done, holds of the lines of any number of steps. -/

namespace AgentHooks

def Action.summarizes (session : String) : Action → Bool
  | .summarize other => other == session
  | _ => false

namespace Remark

def gives (reason session : String) (r : Remark) : Bool :=
  r.reason == reason && r.session == if session = "" then none else some session

/-- The reasons that the journal gives for reminders, each with the words that such a reminder begins with. -/
def headings : List (String × String) :=
  [("pressure_warning", "[PROCESS PRESSURE WARNING]\n"), ("pressure_critical", "[PROCESS PRESSURE CRITICAL]\n"),
    ("auto_paused", "[AUTOPILOT PAUSED]\n"), ("pressure_escalated", "[PROCESS PRESSURE ESCALATION]\n"),
    ("context_reminder", "[CONTEXT WINDOW]\n")]

def heading? (r : Remark) : Option String :=
  headings.lookup r.reason

def endings : List String :=
  ["completed", "max_iterations_reached", "session_deleted", "stop_command"]

/-- A line by which the loop's own hook tells that it has taken the loop away. -/
def endsLoop (r : Remark) : Bool :=
  r.hook == ContinuationPolicy.id && endings.contains r.reason

def telling : List String :=
  "continuation_sent" :: "compaction_requested" :: headings.map Prod.fst ++ endings

def written (now : Timestamp) (lines : List Remark) : String :=
  String.join (lines.map fun r => (⟨now, r⟩ : Entry).line ++ "\n")

theorem written_nil (now : Timestamp) : written now [] = "" :=
  rfl

theorem written_append (now : Timestamp) (lines more : List Remark) :
    written now (lines ++ more) = written now lines ++ written now more := by
  rw [written, List.map_append, String.join_append, written, written]

theorem gives_on (hook : String) (stage : Stage) (reason event session reason' session' : String) :
    (Remark.on hook stage reason event session).gives reason' session' =
      (reason == reason' && session == session') := by
  have same : ((if session = "" then none else some session) ==
      if session' = "" then none else some session') = (session == session') := by
    rw [Bool.eq_iff_iff, beq_iff_eq, beq_iff_eq]
    split
    next blank =>
      rw [blank]
      split
      next blank' => simp [blank']
      next named' => simp [Ne.symm named']
    next named =>
      split
      next blank' => simp [blank', named]
      next named' => simp
  simp only [gives, Remark.on, same]

end Remark

/-- Texts that begin with these words, one for one and in this order. -/
def Headed (headings blocks : List String) : Prop :=
  List.Forall₂ (fun heading block => ∃ rest, block = heading ++ rest) headings blocks

/-- The lines tell just what was done: which sessions were prompted, which were to be summarized, which reminders were
given, one after another, and how often the loop was taken away. -/
structure Told (lines : List Remark) (asked : List Action) (blocks : List String) (gone : Nat) : Prop where
  prompts : ∀ session,
    lines.countP (·.gives "continuation_sent" session) = (promptsTo session asked).length
  summaries : ∀ session,
    lines.countP (·.gives "compaction_requested" session) = asked.countP (·.summarizes session)
  reminders : Headed (lines.filterMap Remark.heading?) blocks
  endings : lines.countP Remark.endsLoop = gone

namespace Told

variable {lines more : List Remark} {asked others : List Action} {blocks later : List String} {gone again : Nat}

theorem nothing : Told [] [] [] 0 :=
  ⟨fun _ => rfl, fun _ => rfl, List.Forall₂.nil, rfl⟩

theorem append (first : Told lines asked blocks gone) (second : Told more others later again) :
    Told (lines ++ more) (asked ++ others) (blocks ++ later) (gone + again) where
  prompts session := by
    rw [List.countP_append, first.prompts, second.prompts, promptsTo, promptsTo, promptsTo, List.filterMap_append,
      List.length_append]
  summaries session := by rw [List.countP_append, first.summaries, second.summaries, List.countP_append]
  reminders := by
    rw [List.filterMap_append]
    exact List.rel_append first.reminders second.reminders
  endings := by rw [List.countP_append, first.endings, second.endings]

variable (hook : String) (stage : Stage) (event session : String)

/-- A line that tells neither of a prompt nor of a request to summarize: its reason says whether it tells of a
reminder, and with its hook whether it tells of an end. -/
theorem of_line {reason : String} (unsent : reason ≠ "continuation_sent") (unasked : reason ≠ "compaction_requested")
    (headed : Headed (Remark.headings.lookup reason).toList blocks) :
    Told [.on hook stage reason event session] [] blocks
      (if hook = ContinuationPolicy.id ∧ reason ∈ Remark.endings then 1 else 0) := by
  refine ⟨fun session => ?_, fun session => ?_, ?_, ?_⟩
  · simp [Remark.gives_on, unsent, promptsTo]
  · simp [Remark.gives_on, unasked]
  · cases known : Remark.headings.lookup reason <;>
      simpa [Remark.heading?, Remark.on, known] using headed
  · simp [Remark.endsLoop, Remark.on, List.countP_cons]

theorem of_unheaded {reason : String} (unsent : reason ≠ "continuation_sent")
    (unasked : reason ≠ "compaction_requested") (unheaded : Remark.headings.lookup reason = none) :
    Told [.on hook stage reason event session] [] []
      (if hook = ContinuationPolicy.id ∧ reason ∈ Remark.endings then 1 else 0) := by
  refine of_line hook stage event session unsent unasked ?_
  rw [unheaded]
  exact List.Forall₂.nil

theorem plain {reason : String} (plain : reason ∉ Remark.telling) :
    Told [.on hook stage reason event session] [] [] 0 := by
  simp only [Remark.telling, List.mem_append, List.mem_cons, not_or] at plain
  obtain ⟨⟨unsent, unasked, unheaded⟩, unended⟩ := plain
  have nothing : Remark.headings.lookup reason = none := by
    refine List.lookup_eq_none_iff.2 fun entry member => ?_
    simpa using fun same => unheaded (List.mem_map.2 ⟨entry, member, same.symm⟩)
  have told := of_unheaded hook stage event session unsent unasked nothing
  rwa [if_neg fun ends => unended ends.2] at told

theorem prompted (text : String) :
    Told [.on hook stage "continuation_sent" event session] [.sendPrompt session text] [] 0 := by
  refine ⟨fun session' => ?_, fun session' => ?_, ?_, ?_⟩
  · by_cases same : session = session' <;> simp [Remark.gives_on, promptsTo, Action.promptTo?, same]
  · simp [Remark.gives_on, Action.summarizes]
  · simp [Headed, Remark.heading?, Remark.on, Remark.headings, List.lookup_cons]
  · simp [Remark.endsLoop, Remark.on, Remark.endings]

theorem summarized : Told [.on hook stage "compaction_requested" event session] [.summarize session] [] 0 := by
  refine ⟨fun session' => ?_, fun session' => ?_, ?_, ?_⟩
  · simp [Remark.gives_on, promptsTo, Action.promptTo?]
  · by_cases same : session = session' <;> simp [Remark.gives_on, Action.summarizes, same]
  · simp [Headed, Remark.heading?, Remark.on, Remark.headings, List.lookup_cons]
  · simp [Remark.endsLoop, Remark.on, Remark.endings]

theorem noticed (notice : Notice) : Told [] [.notify notice] [] 0 :=
  ⟨fun _ => rfl, fun _ => rfl, List.Forall₂.nil, rfl⟩

theorem reminded {reason heading : String} (known : Remark.headings.lookup reason = some heading)
    (other : reason ∉ "continuation_sent" :: "compaction_requested" :: Remark.endings) {block : String}
    (headed : ∃ rest, block = heading ++ rest) : Told [.on hook stage reason event session] [] [block] 0 := by
  simp only [List.mem_cons, not_or] at other
  obtain ⟨unsent, unasked, unended⟩ := other
  have headed : Headed (Remark.headings.lookup reason).toList [block] := by
    rw [known]
    exact List.Forall₂.cons headed .nil
  have told := of_line hook stage event session unsent unasked headed
  rwa [if_neg fun ends => unended ends.2] at told

theorem ended {reason : String} (known : reason ∈ Remark.endings) :
    Told [.on ContinuationPolicy.id stage reason event session] [] [] 1 := by
  have other : ∀ reason ∈ Remark.endings, reason ≠ "continuation_sent" ∧ reason ≠ "compaction_requested" ∧
      Remark.headings.lookup reason = none := by decide
  obtain ⟨unsent, unasked, nothing⟩ := other reason known
  have told := of_unheaded ContinuationPolicy.id stage event session unsent unasked nothing
  rwa [if_pos ⟨rfl, known⟩] at told

end Told

namespace World

open FileTree

variable {w w' later : World}

/-- Every line reaches the journal, which is kept in another file than the loop, and nothing happens elsewhere while
the host works on a call. -/
structure Audited (w : World) : Prop where
  begun : w.Begun
  apart : w.Apart
  handsOff : w.HandsOff
  undisturbed : w.Undisturbed

def loopCount (w : World) : Nat :=
  w.loopContent?.toList.length

/-- What a step adds to the journal, what it asks of the host, and how often it takes the loop's file away. -/
structure Writes (before after : World) (lines : List Remark) (asked : List Action) (gone : Nat) : Prop where
  audited : after.Audited
  now : after.now = before.now
  journal : after.journalContent = before.journalContent ++ Remark.written before.now lines
  effects : after.host.effects = before.host.effects ++ asked
  loop : before.loopCount = after.loopCount + gone

theorem Writes.trans {lines more : List Remark} {asked others : List Action} {gone again : Nat}
    (first : Writes w w' lines asked gone) (second : Writes w' later more others again) :
    Writes w later (lines ++ more) (asked ++ others) (gone + again) where
  audited := second.audited
  now := second.now.trans first.now
  journal := by
    rw [second.journal, first.journal, first.now, Remark.written_append, Content.append_assoc]
  effects := by rw [second.effects, first.effects, List.append_assoc]
  loop := by
    have before := first.loop
    have after := second.loop
    omega

/-- The file goes away just once if it goes away at all. -/
theorem Writes.gone_iff {lines : List Remark} {asked : List Action} {gone : Nat}
    (writes : Writes w w' lines asked gone) : (w.loopContent?.isSome = true ∧ w'.loopContent? = none) ↔ gone = 1 := by
  have count := writes.loop
  simp only [loopCount] at count
  generalize w.loopContent? = before at count ⊢
  generalize w'.loopContent? = later at count ⊢
  cases before <;> cases later <;> simp at count ⊢ <;> omega

theorem writes_remark (writable : w.Writable) (apart : w.Apart) (handsOff : w.HandsOff) (undisturbed : w.Undisturbed)
    (r : Remark) : Writes w (w.remark r) [r] [] 0 := by
  have quiet := Quiet.remark w r
  obtain ⟨begun, added⟩ := remark_of_writable writable r
  refine ⟨⟨begun, quiet.apart apart, handsOff, undisturbed⟩, rfl, ?_, (List.append_nil _).symm, ?_⟩
  · rw [added, Remark.written, List.map_singleton, String.join_cons, String.join_nil, String.append_empty]
  · rw [loopCount, loopCount, (Passes.of_quiet undisturbed apart quiet).loopContent?, Nat.add_zero]

namespace Audited

variable (audited : w.Audited)

include audited

theorem hidden (sampler : Sampler) (stopped : NameSet) (pressure : Roster PressureCounters)
    (context : Roster ContextMemory) (compaction : Roster CompactionMemory) :
    Writes w { w with sampler, stopped, pressure, context, compaction } [] [] 0 :=
  ⟨⟨audited.begun, audited.apart, audited.handsOff, audited.undisturbed⟩, rfl, (Content.append_empty _).symm,
    (List.append_nil _).symm, rfl⟩

theorem remark (r : Remark) : Writes w (w.remark r) [r] [] 0 :=
  writes_remark audited.begun.writable audited.apart audited.handsOff audited.undisturbed r

theorem push (a : Action) : Writes w { w with host := w.host.push a } [] [a] 0 :=
  ⟨⟨audited.begun, audited.apart, audited.handsOff, audited.undisturbed⟩, rfl, (Content.append_empty _).symm, rfl, rfl⟩

theorem put_some {content : Content} (stands : w.loopContent? = some content) (l : Loop) :
    Writes w (w.put (some l)) [] [] 0 := by
  obtain ⟨q, kept, takes⟩ := audited.begun
  have free : w.files.node? w.loopPlace ≠ some .directory := by simp [content?_eq_some.1 stands]
  have filled : (w.put (some l)).loopContent? = some (.text (w.cell.render l)) := content?_set_self free
  refine ⟨⟨⟨q, kept, takes.set stands _⟩, audited.apart.put _, audited.handsOff, audited.undisturbed⟩, rfl, ?_,
    (List.append_nil _).symm, ?_⟩
  · rw [Remark.written_nil, Content.append_empty]
    exact journalContent_congr rfl rfl fun q kept => content?_set_other _ (audited.apart q kept)
  · rw [loopCount, loopCount, filled, stands]
    rfl

theorem put_none {content : Content} (stands : w.loopContent? = some content) : Writes w (w.put none) [] [] 1 := by
  obtain ⟨q, kept, takes⟩ := audited.begun
  have off := takes.off stands (audited.apart q kept)
  have gone : (w.put none).loopContent? = none := put_vacant stands
  refine ⟨⟨⟨q, kept, takes.erase off⟩, audited.apart.put _, audited.handsOff, audited.undisturbed⟩, rfl, ?_,
    (List.append_nil _).symm, ?_⟩
  · rw [Remark.written_nil, Content.append_empty]
    refine journalContent_congr rfl rfl fun q kept => ?_
    simp only [put, content?, node?_erase_other _ (audited.apart q kept)]
  · rw [loopCount, loopCount, gone, stands]
    rfl

end Audited

/-- A step whose lines tell just what is done, in the course of which the agent gets to see these blocks. -/
def Faithful (blocks : List String) (before after : World) : Prop :=
  before.Audited → ∃ lines asked gone, Writes before after lines asked gone ∧ Told lines asked blocks gone

namespace Faithful

variable {blocks more : List String}

theorem of_audited (step : w.Audited → Faithful blocks w w') : Faithful blocks w w' :=
  fun audited => step audited audited

theorem refl (w : World) : Faithful [] w w :=
  fun audited => ⟨[], [], 0, audited.hidden _ _ _ _ _, .nothing⟩

theorem trans (first : Faithful blocks w w') (second : Faithful more w' later) :
    Faithful (blocks ++ more) w later := by
  intro audited
  obtain ⟨lines, asked, gone, writes, told⟩ := first audited
  obtain ⟨lines', asked', gone', writes', told'⟩ := second writes.audited
  exact ⟨_, _, _, writes.trans writes', told.append told'⟩

theorem hidden (w : World) (sampler : Sampler) (stopped : NameSet) (pressure : Roster PressureCounters)
    (context : Roster ContextMemory) (compaction : Roster CompactionMemory) :
    Faithful [] w { w with sampler, stopped, pressure, context, compaction } :=
  fun audited => ⟨[], [], 0, audited.hidden _ _ _ _ _, .nothing⟩

variable (w) (hook : String) (stage : Stage) (event session : String)

theorem line {reason : String} (plain : reason ∉ Remark.telling) :
    Faithful [] w (w.remark (.on hook stage reason event session)) :=
  fun audited => ⟨_, _, _, audited.remark _, .plain hook stage event session plain⟩

theorem reminded (reason : String) {heading block : String} (known : Remark.headings.lookup reason = some heading)
    (other : reason ∉ "continuation_sent" :: "compaction_requested" :: Remark.endings)
    (headed : ∃ rest, block = heading ++ rest) :
    Faithful [block] w (w.remark (.on hook stage reason event session)) :=
  fun audited => ⟨_, _, _, audited.remark _, .reminded hook stage event session known other headed⟩

theorem prompted (text : String) :
    Faithful [] w ({ w with host := w.host.push (.sendPrompt session text) }.remark
      (.on hook stage "continuation_sent" event session)) := by
  intro audited
  have sent := audited.push (.sendPrompt session text)
  exact ⟨_, _, _, sent.trans (sent.audited.remark _), .prompted hook stage event session text⟩

theorem summarized :
    Faithful [] w ({ w with host := w.host.push (.summarize session) }.remark
      (.on hook stage "compaction_requested" event session)) := by
  intro audited
  have sent := audited.push (.summarize session)
  exact ⟨_, _, _, sent.trans (sent.audited.remark _), .summarized hook stage event session⟩

/-- The loop's own hook takes the file away and says why. -/
theorem ended {content : Content} {reason : String} (stands : w.loopContent? = some content) (known : reason ∈ Remark.endings) :
    Faithful [] w ((w.put none).remark (.on ContinuationPolicy.id stage reason event session)) := by
  intro audited
  have cut := audited.put_none stands
  exact ⟨_, _, _, cut.trans (cut.audited.remark _), .ended stage event session known⟩

theorem put_some {content : Content} (stands : w.loopContent? = some content) (l : Loop) :
    Faithful [] w (w.put (some l)) :=
  fun audited => ⟨[], [], 0, audited.put_some stands l, .nothing⟩

theorem notify (title message : String) (level : NoticeLevel) :
    Faithful [] w (w.notify session title message level) := by
  intro audited
  simp only [World.notify, ContinuationPolicy.request_eq audited.handsOff audited.undisturbed]
  split
  · exact refl w audited
  · exact ⟨_, _, _, audited.push _, .noticed _⟩

end Faithful

/-- A faithful step of a tool's result and the world, the blocks being what is put behind the result. -/
def Reminds (before after : ToolResult × World) : Prop :=
  ∃ blocks, after.1 = blocks.foldl ToolResult.appendReminder before.1 ∧ Faithful blocks before.2 after.2

namespace Reminds

variable {x y z : ToolResult × World}

theorem of_faithful (same : y.1 = x.1) (faithful : Faithful [] x.2 y.2) : Reminds x y :=
  ⟨[], same, faithful⟩

theorem refl (x : ToolResult × World) : Reminds x x :=
  of_faithful rfl (.refl x.2)

theorem trans (first : Reminds x y) (second : Reminds y z) : Reminds x z := by
  obtain ⟨blocks, output, faithful⟩ := first
  obtain ⟨more, output', faithful'⟩ := second
  refine ⟨blocks ++ more, ?_, faithful.trans faithful'⟩
  rw [output', output, List.foldl_append]

end Reminds

end World

end AgentHooks
