import AgentHooks.Hook.Announcement
import AgentHooks.Proofs.Contract.RoundTrip
import AgentHooks.Proofs.Wire.Returns

/-! What comes back of the output that a host sends when no hook changes it: what the contract names, and of a
part everything. -/

namespace AgentHooks

open Codec AgentHooks.Field

def ToolArguments.back : Return :=
  .record [.always "args" .whole]

def ToolResult.back : Return :=
  .record [.always "title" .whole, .always "output" .whole, .always "metadata" .whole]

def Part.back : Return :=
  .openRecord [.always "type" .whole, .unlessNull "text" .whole]

def Composition.back : Return :=
  .record [.always "parts" (.list Part.back)]

def MessageInfo.back : Return :=
  .record [.always "id" .whole, .always "role" .whole, .orNamed (.always "sessionID" .whole) "sessionId"]

def Message.back : Return :=
  .record [.always "info" MessageInfo.back, .always "parts" (.list Part.back)]

def History.back : Return :=
  .record [.always "messages" (.list Message.back)]

def Channel.back : Channel → Return
  | event => fun _ back => back = .null
  | toolBefore => ToolArguments.back
  | toolAfter => ToolResult.back
  | commandBefore | chatMessage => Composition.back
  | messagesTransform => History.back

theorem ToolArguments.codec_returns : ToolArguments.codec.Returns back :=
  record_returns _ (fun _ => rfl) (by decide) ⟨defaulted_returns _ _ json_returns, trivial⟩

theorem ToolResult.codec_returns : ToolResult.codec.Returns back :=
  record_returns _ (fun _ => rfl) (by decide)
    ⟨defaulted_returns _ _ string_returns, defaulted_returns _ _ string_returns,
      defaulted_returns _ _ json_returns, trivial⟩

theorem Part.codec_returns : Part.codec.Returns back :=
  openRecord_returns _ (fun _ _ => rfl) (fun _ _ => rfl) (by decide)
    ⟨required_returns _ string_returns, optional_returns _ string_returns, trivial⟩

theorem Composition.codec_returns (name : String) : (Composition.codec name).Returns back :=
  record_returns _ (fun _ => rfl) (by decide)
    ⟨defaulted_returns _ _ (list_returns Part.codec_returns), trivial⟩

theorem MessageInfo.codec_returns : MessageInfo.codec.Returns back :=
  record_returns _ (fun _ => rfl) (by decide)
    ⟨defaulted_returns _ _ string_returns, defaulted_returns _ _ string_returns,
      orNamed_returns _ (defaulted_returns _ _ string_returns), trivial⟩

theorem Message.codec_returns : Message.codec.Returns back :=
  record_returns _ (fun _ => rfl) (by decide)
    ⟨required_returns _ MessageInfo.codec_returns,
      defaulted_returns _ _ (list_returns Part.codec_returns), trivial⟩

theorem History.codec_returns : History.codec.Returns back :=
  record_returns _ (fun _ => rfl) (by decide)
    ⟨defaulted_returns _ _ (list_returns Message.codec_returns), trivial⟩

namespace Return

theorem record_null (members : List Member) (back : Json) : record members .null back :=
  fun _ _ _ _ said => said.elim

end Return

namespace Announcement

theorem payloadOr_returns {α : Type} {codec : Codec α} {members : List Return.Member} {blank a : α}
    {what : String} {sent : Json} (returns : codec.Returns (.record members)) (value : sent.IsValue)
    (decoded : payloadOr blank codec what sent = .ok a) : Return.record members sent (codec.write a) := by
  cases sent with
  | null => exact Return.record_null members _
  | _ =>
    simp only [payloadOr, Json.isNull, Bool.false_eq_true, if_false, payload] at decoded
    refine returns _ a value ?_
    cases read : codec.read _ with
    | error e =>
      rw [read] at decoded
      cases decoded
    | ok b =>
      rw [read] at decoded
      cases decoded
      rfl

/-- What a host sends as an output comes back from what is written of it. -/
theorem decode_returns {channel : Channel} {input output : Json} {a : Announcement} (value : output.IsValue)
    (decoded : decode channel input output = .ok a) :
    channel.back output (a.event.writeOutput a.output) := by
  cases channel with
  | event =>
    obtain ⟨e, -, same⟩ := bind_eq_ok.1 decoded
    cases same
    rfl
  | toolBefore =>
    obtain ⟨_, -, decoded⟩ := bind_eq_ok.1 decoded
    obtain ⟨_, read, same⟩ := bind_eq_ok.1 decoded
    cases same
    exact payloadOr_returns ToolArguments.codec_returns value read
  | toolAfter =>
    obtain ⟨_, -, decoded⟩ := bind_eq_ok.1 decoded
    obtain ⟨_, read, same⟩ := bind_eq_ok.1 decoded
    cases same
    exact payloadOr_returns ToolResult.codec_returns value read
  | commandBefore =>
    obtain ⟨_, -, decoded⟩ := bind_eq_ok.1 decoded
    obtain ⟨_, read, same⟩ := bind_eq_ok.1 decoded
    cases same
    exact payloadOr_returns (Composition.codec_returns _) value read
  | chatMessage =>
    obtain ⟨_, -, decoded⟩ := bind_eq_ok.1 decoded
    obtain ⟨_, read, same⟩ := bind_eq_ok.1 decoded
    cases same
    exact payloadOr_returns (Composition.codec_returns _) value read
  | messagesTransform =>
    obtain ⟨_, -, decoded⟩ := bind_eq_ok.1 decoded
    obtain ⟨_, read, same⟩ := bind_eq_ok.1 decoded
    cases same
    exact payloadOr_returns History.codec_returns value read

end Announcement

theorem Request.codec_keeps {r : Request} (version : r.version < Nat.pow 2 32) (input : r.input.IsValue)
    (output : r.output.IsValue) (context : Context.codec.Keeps r.context) : Request.codec.Keeps r :=
  record_keeps _ rfl (by decide)
    ⟨required_keeps _ (below_keeps "u32" version), required_keeps _ (variantBy_keeps (by cases r.channel <;> rfl)),
      defaulted_keeps _ _ (json_keeps input), defaulted_keeps _ _ (json_keeps output),
      defaulted_keeps _ _ context, trivial⟩

theorem Request.output_isValue {document : Json} {r : Request} (read : Request.codec.read document = .ok r) :
    r.output.IsValue := by
  obtain ⟨⟨_, _, _, output, _⟩, gives, rfl⟩ := record_gives read
  obtain ⟨-, -, -, given, -⟩ := gives
  rcases given with ⟨sent, taken⟩ | unsaid
  · simp only [Field.defaulted, json] at taken
    split at taken
    next readable =>
      cases taken
      exact Json.isValue_canonical readable
    · cases taken
  · cases unsaid
    exact ⟨rfl, rfl⟩

end AgentHooks
