import AgentHooks.Proofs.Contract.Returns
import AgentHooks.Proofs.Service.Advice

/-! What becomes of an output that no hook changes. The host gets back what the contract names, under the
contract's names; members that the contract does not name come back in the parts of messages only. -/

namespace AgentHooks

inductive Json.Step where
  | member (name : String)
  | item (index : Nat)

namespace Json

def at? : Json → List Step → Option Json
  | j, [] => some j
  | j, .member name :: place => (j.member? name).bind (·.at? place)
  | j, .item index :: place => (j.items?.bind (·[index]?)).bind (·.at? place)

/-- Every member of the document, at every depth, stands in the other one, with the same value. -/
def Retains (sent back : Json) : Prop :=
  ∀ place name value, sent.at? (place ++ [.member name]) = some value →
    back.at? (place ++ [.member name]) = some value

end Json

namespace Service

theorem dispatch_output (settings : Settings) {e : Event} (elsewhere : ∀ call, e ≠ .toolAfter call)
    (out : e.Output) (w : World) : ((dispatcher settings).dispatch e out w).output = out := by
  rw [dispatch_eq_visits]
  exact visits_output (fun _ active => mem_of_active active) elsewhere _

theorem handle_of_unchanged {settings : Settings} {r : Request} {a : Announcement} {w : World}
    (current : r.version = protocolVersion) (announced : announcement r = .ok a)
    (unchanged : ((dispatcher settings).dispatch a.event a.output (w.loadContext r.context)).output = a.output) :
    let response := (handle (dispatcher settings) r w).1
    response.ok = true ∧ response.output = a.event.writeOutput a.output := by
  intro response
  obtain ⟨allowed, -⟩ := dispatch_extends settings a.event a.output (w.loadContext r.context)
  simp only [response, handle, if_neg (not_not_intro current), announced, allowed, unchanged]
  exact ⟨rfl, rfl⟩

/-- An output that the hooks leave as it is goes back with everything in it that the contract names, and with
all of each part. -/
theorem unchanged_output_returns (settings : Settings) {document : Json} {r : Request} {a : Announcement}
    (w : World) (read : Request.codec.read document = .ok r) (current : r.version = protocolVersion)
    (announced : announcement r = .ok a)
    (unchanged : ((dispatcher settings).dispatch a.event a.output (w.loadContext r.context)).output = a.output) :
    let response := (handle (dispatcher settings) r w).1
    response.ok = true ∧ r.channel.back r.output response.output := by
  obtain ⟨ok, written⟩ := handle_of_unchanged current announced unchanged
  refine ⟨ok, ?_⟩
  rw [written]
  exact Announcement.decode_returns (Request.output_isValue read) announced

/-- A chat turn with a file in it: the part comes back with its address, without a text. -/
theorem unchanged_output_returns_file :
    let part : Json := .object [("text", .null), ("type", .string "file"), ("url", .string "file:///a")]
    let r : Request := ⟨1, .chatMessage, .object [("sessionID", .string "s")],
      .object [("parts", .array [part])], .blank⟩
    let a : Announcement := ⟨.chatMessage ⟨"s", none, none⟩, ⟨[⟨"file", none, [("url", .string "file:///a")]⟩]⟩⟩
    let w := World.start {} ⟨"/project"⟩ .empty ⟨2024, 5, 1, 12, 0, 0, 0⟩ ⟨[], 0⟩
    Request.codec.read (Request.codec.write r) = .ok r ∧ r.version = protocolVersion ∧
      announcement r = .ok a ∧
      ((dispatcher {}).dispatch a.event a.output (w.loadContext r.context)).output = a.output ∧
      ∃ back, (handle (dispatcher {}) r w).1.output.member? "parts" = some (.array [back]) ∧
        back.member? "url" = some (.string "file:///a") ∧ back.member? "text" = none := by
  intro part r a w
  have read : Request.codec.Keeps r :=
    Request.codec_keeps (by decide) ⟨rfl, rfl⟩ ⟨rfl, rfl⟩ rfl
  have announced : announcement r = .ok a := by rfl
  have unchanged := dispatch_output {} (e := a.event) (by simp [a]) a.output (w.loadContext r.context)
  obtain ⟨-, returned⟩ := unchanged_output_returns {} w read rfl announced unchanged
  obtain ⟨_, found, _, _, same, rfl, each⟩ := returned 0 _ (.array [part]) rfl ⟨"parts", by decide, rfl⟩
  cases same
  cases each with
  | cons first others =>
    cases others
    obtain ⟨fields, extra⟩ := first
    have noText := fields 1 _ .null rfl ⟨"text", by decide, rfl⟩
    exact ⟨read, rfl, announced, unchanged, _, found, extra "url" _ (by decide) rfl, noText⟩

/-- What a host adds to messages on its own account does not come back: here when a message was made, a remark
beside its parts and one beside the messages. A session comes back under the contract's name for it, a message
that is sent as an array comes back as an object, and a text that is null is left out. -/
theorem unnamed_members_do_not_return :
    let output : Json := .object [
      ("messages", .array [
        .object [
          ("info", .object [("id", .string "msg_1"), ("role", .string "user"), ("sessionId", .string "ses_1"),
            ("time", .object [("created", .int 1705314600)])]),
          ("note", .string "x"),
          ("parts", .array [.object [("text", .null), ("type", .string "text")]])],
        .array [.object [("id", .string "msg_2")]]]),
      ("next", .string "y")]
    let r : Request := ⟨1, .messagesTransform, .object [], output, .blank⟩
    let w := World.start {} ⟨"/project"⟩ .empty ⟨2024, 5, 1, 12, 0, 0, 0⟩ ⟨[], 0⟩
    let response := (handle (dispatcher {}) r w).1
    let first := [Json.Step.member "messages", .item 0]
    let lost := [[.member "next"], first ++ [.member "note"],
      first ++ [.member "info", .member "time", .member "created"], first ++ [.member "info", .member "sessionId"],
      first ++ [.member "parts", .item 0, .member "text"],
      [.member "messages", .item 1, .item 0, .member "id"]]
    Request.codec.read (Request.codec.write r) = .ok r ∧ r.version = protocolVersion ∧
      (∃ a, announcement r = .ok a ∧
        ((dispatcher {}).dispatch a.event a.output (w.loadContext r.context)).output = a.output) ∧
      (∀ place ∈ lost, (r.output.at? place).isSome = true ∧ (response.output.at? place).isNone = true) ∧
      ¬r.output.Retains response.output := by
  intro output r w response first lost
  let a : Announcement := ⟨.messagesTransform ⟨[]⟩,
    ⟨[⟨⟨"msg_1", "user", "ses_1"⟩, [⟨"text", none, []⟩]⟩, ⟨⟨"msg_2", "", ""⟩, []⟩]⟩⟩
  have read : Request.codec.Keeps r :=
    Request.codec_keeps (by decide) ⟨rfl, rfl⟩ ⟨rfl, rfl⟩ rfl
  have announced : announcement r = .ok a := by rfl
  have unchanged := dispatch_output {} (e := a.event) (by simp [a]) a.output (w.loadContext r.context)
  obtain ⟨-, written⟩ := handle_of_unchanged rfl announced unchanged
  have absent : ∀ place ∈ lost, (r.output.at? place).isSome = true ∧ (response.output.at? place).isNone = true := by
    simp only [response, written]
    decide
  refine ⟨read, rfl, ⟨a, announced, unchanged⟩, absent, fun retains => ?_⟩
  have kept := retains [] "next" (.string "y") rfl
  obtain ⟨-, gone⟩ := absent [.member "next"] (by simp [lost])
  rw [List.nil_append] at kept
  rw [kept] at gone
  cases gone

end Service

end AgentHooks
