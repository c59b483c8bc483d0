import AgentHooks.Contract.Envelope
import AgentHooks.Contract.Lifecycle
import AgentHooks.Journal
import AgentHooks.Proofs.Loop.Record
import AgentHooks.Proofs.Wire.Stable

/-! Every record of the contract and every record that is kept on disk, read and written. However a host writes
a record, with fields under other names, left out or in an array, the record is written in one form, and that
form says the same. -/

namespace AgentHooks

open Codec AgentHooks.Field

/-! Names. -/

theorem Channel.codec_stable : Channel.codec.Stable :=
  fun _ c _ => variantBy_keeps (by cases c <;> rfl)

theorem NoticeLevel.codecBy_keeps (passage : Passage) (l : NoticeLevel) : (codecBy passage).Keeps l :=
  variantBy_keeps (by cases l <;> rfl)

theorem Stage.codec_stable : Stage.codec.Stable :=
  fun _ s _ => variantBy_keeps (by cases s <;> rfl)

/-! Fields of the usual kinds. -/

section Fields

variable (name : String)

theorem textField_stable : (required name string).Stable :=
  required_stable string_stable

theorem textFieldOr_stable (absent : String) : (defaulted name string absent).Stable :=
  defaulted_stable string_stable (string_keeps absent)

theorem textFieldIfAny_stable : (optional name string).Stable :=
  optional_stable string_stable (by simp [string])

theorem rawField_stable : (defaulted name json .null).Stable :=
  defaulted_stable json_stable rfl

theorem listField_stable {α : Type} {item : Codec α} (stable : item.Stable) :
    (defaulted name (list item) []).Stable :=
  defaulted_stable (list_stable stable) rfl

end Fields

/-! What the host announces. -/

theorem LifecycleEvent.codec_stable : LifecycleEvent.codec.Stable :=
  record_stable _ (fun _ => rfl) (by decide) ⟨textField_stable _, rawField_stable _, trivial⟩

theorem ToolCall.codec_stable : ToolCall.codec.Stable :=
  record_stable _ (fun _ => rfl) (by decide)
    ⟨textField_stable _, orNamed_stable _ (textField_stable _), orNamed_stable _ (textFieldOr_stable _ _),
      trivial⟩

theorem ToolArguments.codec_stable : ToolArguments.codec.Stable :=
  record_stable _ (fun _ => rfl) (by decide) ⟨rawField_stable _, trivial⟩

theorem ToolResult.codec_stable : ToolResult.codec.Stable :=
  record_stable _ (fun _ => rfl) (by decide)
    ⟨textFieldOr_stable _ _, textFieldOr_stable _ _, rawField_stable _, trivial⟩

theorem CommandCall.codec_stable : CommandCall.codec.Stable :=
  record_stable _ (fun _ => rfl) (by decide)
    ⟨textField_stable _, orNamed_stable _ (textFieldOr_stable _ _), textFieldOr_stable _ _, trivial⟩

theorem ChatTurn.codec_stable : ChatTurn.codec.Stable :=
  record_stable _ (fun _ => rfl) (by decide)
    ⟨orNamed_stable _ (textField_stable _), textFieldIfAny_stable _,
      orNamed_stable _ (textFieldIfAny_stable _), trivial⟩

theorem HistoryRequest.codec_stable : HistoryRequest.codec.Stable :=
  openRecord_stable _ (fun _ _ => rfl) (fun _ _ => rfl) (by decide) trivial

/-! Messages. -/

theorem Part.codec_stable : Part.codec.Stable :=
  openRecord_stable _ (fun _ _ => rfl) (fun _ _ => rfl) (by decide)
    ⟨textField_stable _, textFieldIfAny_stable _, trivial⟩

theorem Composition.codec_stable (name : String) : (Composition.codec name).Stable :=
  record_stable _ (fun _ => rfl) (by decide) ⟨listField_stable _ Part.codec_stable, trivial⟩

theorem MessageInfo.codec_stable : MessageInfo.codec.Stable :=
  record_stable _ (fun _ => rfl) (by decide)
    ⟨textFieldOr_stable _ _, textFieldOr_stable _ _, orNamed_stable _ (textFieldOr_stable _ _), trivial⟩

theorem Message.codec_stable : Message.codec.Stable :=
  record_stable _ (fun _ => rfl) (by decide)
    ⟨required_stable MessageInfo.codec_stable, listField_stable _ Part.codec_stable, trivial⟩

theorem History.codec_stable : History.codec.Stable :=
  record_stable _ (fun _ => rfl) (by decide) ⟨listField_stable _ Message.codec_stable, trivial⟩

theorem Todo.codec_stable : Todo.codec.Stable :=
  record_stable _ (fun _ => rfl) (by decide)
    ⟨textField_stable _, textField_stable _, textFieldIfAny_stable _, trivial⟩

/-! What is asked of the host. -/

theorem Notice.codecBy_keeps (passage : Passage) (n : Notice) : (Notice.codecBy passage).Keeps n := by
  refine recordBy_keeps passage _ rfl (by cases passage <;> decide) ⟨?_, string_keeps _, string_keeps _,
    NoticeLevel.codecBy_keeps passage _, trivial⟩
  cases n.session with
  | none => exact rfl
  | some session => exact optional_keeps (string_keeps session) (by simp [string])
namespace Action

theorem splitKind_cons (kind : Json) {members : List (String × Json)}
    (others : ∀ m ∈ members, m.1 ≠ "kind") :
    splitKind (("kind", kind) :: members) = .ok (some kind, members) := by
  have unnamed : splitKind members = .ok (none, members) := by
    induction members with
    | nil => rfl
    | cons member rest ih =>
      obtain ⟨own, later⟩ := List.forall_mem_cons.1 others
      simp only [splitKind, ih later, bind, Except.bind, if_neg own]
  simp only [splitKind, unnamed, bind, Except.bind, if_true, Option.isSome_none, Bool.false_eq_true, if_false]

theorem read_tagged {τ : Type} {s : Schema τ} (unnamed : "kind" ∉ s.names) (kind : String) (a : τ) :
    read (.object (("kind", .string kind) :: s.writeMembers a)) =
      readKind (fun _ r => r.readMembers (s.writeMembers a)) (.string kind) := by
  have others : ∀ m ∈ s.writeMembers a, m.1 ≠ "kind" :=
    fun m written same => unnamed (same ▸ Schema.names_of_mem_writeMembers written)
  simp only [read, splitKind_cons _ others, bind, Except.bind]

theorem codec_keeps (a : Action) : codec.Keeps a := by
  change read (write a) = .ok a
  cases a with
  | sendPrompt session text =>
    have again := Schema.readMembers_writeMembers (s := promptSchema) (a := (session, text, ())) (by decide)
      ⟨string_keeps session, string_keeps text, trivial⟩
    rw [write, read_tagged (by decide), readKind, again]
    rfl
  | summarize session =>
    have again := Schema.readMembers_writeMembers (s := summarizeSchema) (a := (session, ())) (by decide)
      ⟨string_keeps session, trivial⟩
    rw [write, read_tagged (by decide), readKind, again]
    rfl
  | notify notice =>
    have again := Schema.readMembers_writeMembers (s := notifySchema) (a := (notice, ())) (by decide)
      ⟨Notice.codecBy_keeps .setAside notice, trivial⟩
    rw [write, read_tagged (by decide), readKind, again]
    rfl

end Action

/-! Envelopes. -/

theorem Snapshot.codec_stable : Snapshot.codec.Stable :=
  record_stable _ (fun _ => rfl) (by decide)
    ⟨listField_stable _ Message.codec_stable, listField_stable _ Todo.codec_stable, trivial⟩

theorem Context.codec_stable : Context.codec.Stable :=
  record_stable _ (fun _ => rfl) (by decide)
    ⟨defaulted_stable (table_stable Snapshot.codec_stable) rfl, trivial⟩

theorem Request.codec_stable : Request.codec.Stable :=
  record_stable _ (fun _ => rfl) (by decide)
    ⟨required_stable (below_stable _ _), required_stable Channel.codec_stable, rawField_stable _,
      rawField_stable _, defaulted_stable Context.codec_stable rfl, trivial⟩

theorem Refusal.codec_stable : Refusal.codec.Stable :=
  record_stable _ (fun _ => rfl) (by decide)
    ⟨textField_stable _, textFieldIfAny_stable _, textField_stable _, trivial⟩

theorem Response.codec_stable : Response.codec.Stable :=
  record_stable _ (fun _ => rfl) (by decide)
    ⟨required_stable (below_stable _ _), required_stable bool_stable, rawField_stable _,
      optional_stable Refusal.codec_stable (fun _ => by simp [Refusal.codec, record, recordBy]),
      listField_stable _ (fun _ a _ => Action.codec_keeps a), trivial⟩

/-! What is kept on disk. -/

theorem Entry.codec_stable : Entry.codec.Stable :=
  record_stable _ (fun _ => rfl) (by decide)
    ⟨required_stable timestamp_stable, textField_stable _, required_stable Stage.codec_stable,
      textField_stable _, textFieldIfAny_stable _, textFieldIfAny_stable _, trivial⟩

inductive RecordKind where
  | channel
  | lifecycleEvent
  | toolCall
  | toolArguments
  | toolResult
  | commandCall
  | commandOutput
  | chatTurn
  | chatOutput
  | historyRequest
  | history
  | part
  | messageInfo
  | message
  | todo
  | noticeLevel
  | notice
  | action
  | snapshot
  | context
  | request
  | refusal
  | response
  | completionMode
  | loop
  | stage
  | entry

namespace RecordKind

def Value : RecordKind → Type
  | channel => Channel
  | lifecycleEvent => LifecycleEvent
  | toolCall => ToolCall
  | toolArguments => ToolArguments
  | toolResult => ToolResult
  | commandCall => CommandCall
  | commandOutput => Composition
  | chatTurn => ChatTurn
  | chatOutput => Composition
  | historyRequest => HistoryRequest
  | history => History
  | part => Part
  | messageInfo => MessageInfo
  | message => Message
  | todo => Todo
  | noticeLevel => NoticeLevel
  | notice => Notice
  | action => Action
  | snapshot => Snapshot
  | context => Context
  | request => Request
  | refusal => Refusal
  | response => Response
  | completionMode => CompletionMode
  | loop => Loop
  | stage => Stage
  | entry => Entry

/-- How the record is read and written. Only a loop may be read differently at another time. -/
def codec (now : Timestamp) : (kind : RecordKind) → Codec kind.Value
  | channel => Channel.codec
  | lifecycleEvent => LifecycleEvent.codec
  | toolCall => ToolCall.codec
  | toolArguments => ToolArguments.codec
  | toolResult => ToolResult.codec
  | commandCall => CommandCall.codec
  | commandOutput => Composition.commandCodec
  | chatTurn => ChatTurn.codec
  | chatOutput => Composition.chatCodec
  | historyRequest => HistoryRequest.codec
  | history => History.codec
  | part => Part.codec
  | messageInfo => MessageInfo.codec
  | message => Message.codec
  | todo => Todo.codec
  | noticeLevel => NoticeLevel.codec
  | notice => Notice.codec
  | action => Action.codec
  | snapshot => Snapshot.codec
  | context => Context.codec
  | request => Request.codec
  | refusal => Refusal.codec
  | response => Response.codec
  | completionMode => CompletionMode.codec
  | loop => Loop.codec now
  | stage => Stage.codec
  | entry => Entry.codec

theorem codec_keeps {now : Timestamp} (instant : now.Valid) (kind : RecordKind) {j : Json} {a : kind.Value}
    (read : (kind.codec now).read j = .ok a) (later : Timestamp) : (kind.codec later).Keeps a := by
  cases kind with
  | channel => exact Channel.codec_stable j a read
  | lifecycleEvent => exact LifecycleEvent.codec_stable j a read
  | toolCall => exact ToolCall.codec_stable j a read
  | toolArguments => exact ToolArguments.codec_stable j a read
  | toolResult => exact ToolResult.codec_stable j a read
  | commandCall => exact CommandCall.codec_stable j a read
  | commandOutput => exact Composition.codec_stable _ j a read
  | chatTurn => exact ChatTurn.codec_stable j a read
  | chatOutput => exact Composition.codec_stable _ j a read
  | historyRequest => exact HistoryRequest.codec_stable j a read
  | history => exact History.codec_stable j a read
  | part => exact Part.codec_stable j a read
  | messageInfo => exact MessageInfo.codec_stable j a read
  | message => exact Message.codec_stable j a read
  | todo => exact Todo.codec_stable j a read
  | noticeLevel => exact NoticeLevel.codecBy_keeps .direct a
  | notice => exact Notice.codecBy_keeps .direct a
  | action => exact Action.codec_keeps a
  | snapshot => exact Snapshot.codec_stable j a read
  | context => exact Context.codec_stable j a read
  | request => exact Request.codec_stable j a read
  | refusal => exact Refusal.codec_stable j a read
  | response => exact Response.codec_stable j a read
  | completionMode => exact CompletionMode.codec_keeps a
  | loop => exact Loop.codec_keeps (Loop.codec_reads instant read) later
  | stage => exact Stage.codec_stable j a read
  | entry => exact Entry.codec_stable j a read

end RecordKind

/-- Whatever document a record is read from, the document that it is written as says the same at any time: the
record is read from it again, and writing it once more changes nothing. -/
theorem written_records_read_back {now : Timestamp} (instant : now.Valid) (kind : RecordKind) (j : Json) :
    (∀ a, (kind.codec now).read j = .ok a →
      ∀ later, (kind.codec later).read ((kind.codec now).write a) = .ok a) ∧
    ∀ v, (kind.codec now).recode j = .ok v → ∀ later, (kind.codec later).recode v = .ok v := by
  have samely : ∀ later a, (kind.codec now).write a = (kind.codec later).write a := by
    intro later a
    cases kind <;> rfl
  have again : ∀ a, (kind.codec now).read j = .ok a →
      ∀ later, (kind.codec later).read ((kind.codec now).write a) = .ok a := by
    intro a read later
    rw [samely later]
    exact RecordKind.codec_keeps instant kind read later
  refine ⟨again, fun v written later => ?_⟩
  obtain ⟨a, read, rfl⟩ := map_eq_ok.1 written
  rw [Codec.recode, again a read later, samely later]
  rfl

/-- A history from a host that names the session in its own way, gives a part's members in any order, and
writes null for a text that is not there. -/
theorem written_records_read_back_host :
    let now : Timestamp := ⟨2024, 5, 1, 12, 0, 0, 0⟩
    let part (extra : List (String × Json)) (text : List (String × Json)) : Json :=
      .object (("type", .string "tool") :: text ++ extra)
    let told : Json := .object [("messages", .array [.object
      [("parts", .array [part [("z", .int 1), ("a", .object [("c", .null), ("b", .float 1.5)])]
        [("text", .null)]]),
        ("info", .object [("sessionId", .string "s")])]])]
    let written : Json := .object [("messages", .array [.object
      [("info", .object [("id", .string ""), ("role", .string ""), ("sessionID", .string "s")]),
        ("parts", .array [part [("a", .object [("b", .float 1.5), ("c", .null)]), ("z", .int 1)] []])]])]
    now.Valid ∧ History.codec.recode told = .ok written ∧ History.codec.recode written = .ok written := by
  intro now part told written
  have instant : now.Valid := by
    refine ⟨?_, ?_, ?_, ?_, ?_, ?_, ?_⟩ <;> decide
  have recoded : History.codec.recode told = .ok written := by rfl
  exact ⟨instant, recoded, (written_records_read_back instant .history told).2 written recoded now⟩

end AgentHooks
