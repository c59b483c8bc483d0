import AgentHooks.CommandLine.Run
import AgentHooks.Proofs.Json.Compact
import AgentHooks.Proofs.Service.Conversation
import AgentHooks.Proofs.Text.Lines

/-! The service on lines of text. Every line that is not blank is answered with one line, whatever texts the answer
carries; a line that holds no request is answered and then forgotten. What is left is the conversation of the requests
that the lines hold. -/

namespace AgentHooks

/-! Responses as lines. -/

namespace Json

theorem cut_restated {j : Json} {level : Nat} (writable : j.IsWritable) (room : level + j.nesting ≤ maxDepth) :
    j.restated.cut level = j := by
  rw [restated_of_writable j writable, cut_of_room j level room]

end Json

open Json

theorem Action.writable_write (a : Action) : a.write.IsWritable ∧ a.write.nesting ≤ 2 := by
  cases a with
  | sendPrompt session text => exact ⟨⟨trivial, trivial, trivial, trivial⟩, Nat.le_succ 1⟩
  | summarize session => exact ⟨⟨trivial, trivial, trivial⟩, Nat.le_succ 1⟩
  | notify notice =>
    obtain ⟨session, title, message, level⟩ := notice
    cases session with
    | none => exact ⟨⟨trivial, ⟨trivial, trivial, trivial, trivial⟩, trivial⟩, Nat.le_refl 2⟩
    | some session => exact ⟨⟨trivial, ⟨trivial, trivial, trivial, trivial, trivial⟩, trivial⟩, Nat.le_refl 2⟩

theorem Action.writable_list (effects : List Action) :
    AreWritable (effects.map codec.write) ∧ itemNesting (effects.map codec.write) ≤ 2 := by
  induction effects with
  | nil => exact ⟨trivial, Nat.zero_le 2⟩
  | cons a rest ih =>
    obtain ⟨own, shallow⟩ := a.writable_write
    exact ⟨⟨own, ih.1⟩, Nat.max_le.2 ⟨shallow, ih.2⟩⟩

theorem Refusal.writable_write (e : Refusal) :
    (codec.write e).IsWritable ∧ (codec.write e).nesting ≤ 1 := by
  obtain ⟨kind, hook, message⟩ := e
  cases hook with
  | none => exact ⟨⟨trivial, trivial, trivial⟩, Nat.le_refl 1⟩
  | some hook => exact ⟨⟨trivial, trivial, trivial, trivial⟩, Nat.le_refl 1⟩

namespace Serving

open Service

theorem fits_version : Numeral.Fits protocolVersion := by
  constructor <;> decide

/-- A response's line is the response as a document. Only the output, which may be anything, can come to say something
else: its doubles as they are read. -/
theorem document?_render {r : Response} (current : r.version = protocolVersion) :
    document? (render r) = some (Response.codec.write { r with output := r.output.restated.cut 1 }) := by
  obtain ⟨version, ok, output, error, effects⟩ := r
  cases current
  have version : (Json.ofNat protocolVersion).restated.cut 1 = .ofNat protocolVersion :=
    cut_restated fits_version (by decide)
  have effects' : (Json.array (effects.map Action.codec.write)).restated.cut 1 =
      .array (effects.map Action.codec.write) := by
    obtain ⟨writable, shallow⟩ := Action.writable_list effects
    refine cut_restated writable ?_
    simp only [nesting, maxDepth]
    omega
  rw [render, document?_compact]
  cases error with
  | none =>
    change some (object [("version", (Json.ofNat protocolVersion).restated.cut 1), ("ok", .bool ok),
      ("output", output.restated.cut 1),
      ("effects", (Json.array (effects.map Action.codec.write)).restated.cut 1)]) = _
    rw [version, effects']
    rfl
  | some e =>
    have error : (Refusal.codec.write e).restated.cut 1 = Refusal.codec.write e := by
      obtain ⟨writable, shallow⟩ := e.writable_write
      exact cut_restated writable (by simp only [maxDepth]; omega)
    change some (object [("version", (Json.ofNat protocolVersion).restated.cut 1), ("ok", .bool ok),
      ("output", output.restated.cut 1), ("error", (Refusal.codec.write e).restated.cut 1),
      ("effects", (Json.array (effects.map Action.codec.write)).restated.cut 1)]) = _
    rw [version, error, effects']
    rfl

theorem plain_render (r : Response) : ∀ c ∈ (render r).toList, 0x20 ≤ c.toNat := by
  rw [render, compact, String.toList_ofList]
  exact plain_printCompact _

/-! Lines and responses. -/

def respond (d : Dispatcher World) (line : String) (w : World) : Response × World :=
  match readLine line with
  | .error reason => (rejection reason, w)
  | .ok request => handle d request w

/-- The lines that are not blank, each with the response to it. -/
def exchanges (d : Dispatcher World) : List String → World → List (String × Response)
  | [], _ => []
  | line :: rest, w =>
    if isBlankLine line then exchanges d rest w
    else (line, (respond d line w).1) :: exchanges d rest (respond d line w).2

/-- The request that a line holds, if it holds one: a document that is a request, with nothing but blanks around it. -/
def request? (line : String) : Option Request :=
  if isBlankLine line then none
  else (document? line).bind fun document => (Request.codec.read document).toOption

def isRequest (line : String) : Bool :=
  (request? line).isSome

variable {d : Dispatcher World} {w : World} {line : String} {lines : List String} {r : Request}

theorem request?_of_blank (blank : isBlankLine line = true) : request? line = none :=
  if_pos blank

theorem request?_of_filled (filled : isBlankLine line = false) : request? line = (readLine line).toOption := by
  rw [request?, if_neg (Bool.eq_false_iff.1 filled), readLine]
  cases document? line with
  | none => rfl
  | some document =>
    dsimp only [Option.bind_some]
    cases Request.codec.read document <;> rfl

theorem request?_eq_some : request? line = some r ↔
    isBlankLine line = false ∧ ∃ document, document? line = some document ∧ Request.codec.read document = .ok r := by
  cases blank : isBlankLine line with
  | true => simp [request?_of_blank blank]
  | false =>
    have read : ∀ document, (Request.codec.read document).toOption = some r ↔ Request.codec.read document = .ok r := by
      intro document
      cases Request.codec.read document <;> simp [Except.toOption]
    simp [request?, blank, Option.bind_eq_some_iff, read]

theorem answer_of_blank (blank : isBlankLine line = true) (d : Dispatcher World) (w : World) :
    answer d line w = (none, w) :=
  if_pos blank

theorem answer_of_filled (filled : isBlankLine line = false) (d : Dispatcher World) (w : World) :
    answer d line w = (some (render (respond d line w).1), (respond d line w).2) := by
  rw [answer, if_neg (Bool.eq_false_iff.1 filled), respond]
  cases readLine line with
  | error reason => rfl
  | ok r => rfl

theorem serve_responses (d : Dispatcher World) (lines : List String) (w : World) :
    (serve d lines w).1 = (exchanges d lines w).map fun x => render x.2 := by
  induction lines generalizing w with
  | nil => rfl
  | cons line rest ih =>
    cases blank : isBlankLine line with
    | true => simp [serve, answer_of_blank blank, exchanges, blank, ih]
    | false => simp [serve, answer_of_filled blank, exchanges, blank, ih]

theorem exchanges_lines (d : Dispatcher World) (lines : List String) (w : World) :
    (exchanges d lines w).map (·.1) = lines.filter fun line => !isBlankLine line := by
  induction lines generalizing w with
  | nil => rfl
  | cons line rest ih =>
    cases blank : isBlankLine line with
    | true => simp [exchanges, blank, ih]
    | false => simp [exchanges, blank, ih]

theorem mem_exchanges {x : String × Response} (member : x ∈ exchanges d lines w) :
    ∃ w', isBlankLine x.1 = false ∧ x.2 = (respond d x.1 w').1 := by
  induction lines generalizing w with
  | nil => cases member
  | cons line rest ih =>
    simp only [exchanges] at member
    split at member
    · exact ih member
    next filled =>
      rcases List.mem_cons.1 member with rfl | later
      · exact ⟨w, Bool.eq_false_iff.2 filled, rfl⟩
      · exact ih later

theorem handle_version (d : Dispatcher World) (r : Request) (w : World) :
    (handle d r w).1.version = protocolVersion := by
  unfold handle
  split
  · rfl
  · dsimp only
    split
    · rfl
    · split
      · rfl
      · rfl

theorem respond_version (d : Dispatcher World) (line : String) (w : World) :
    (respond d line w).1.version = protocolVersion := by
  unfold respond
  split
  · rfl
  · exact handle_version d _ w

theorem respond_of_request (held : request? line = some r) (d : Dispatcher World) (w : World) :
    respond d line w = handle d r w := by
  have filled := (request?_eq_some.1 held).1
  rw [request?_of_filled filled] at held
  unfold respond
  cases read : readLine line with
  | error reason =>
    rw [read] at held
    cases held
  | ok r' =>
    rw [read] at held
    cases held
    rfl

theorem respond_of_no_request (filled : isBlankLine line = false) (lacking : request? line = none)
    (d : Dispatcher World) (w : World) : ∃ reason, respond d line w = (rejection reason, w) := by
  rw [request?_of_filled filled] at lacking
  unfold respond
  cases read : readLine line with
  | error reason => exact ⟨reason, rfl⟩
  | ok r =>
    rw [read] at lacking
    cases lacking

/-- Without the lines that hold no request, the others are answered as before. -/
theorem serve_requests (d : Dispatcher World) (lines : List String) (w : World) :
    exchanges d (lines.filter isRequest) w = (exchanges d lines w).filter (fun x => isRequest x.1) ∧
      (serve d (lines.filter isRequest) w).2 = (serve d lines w).2 := by
  induction lines generalizing w with
  | nil => exact ⟨rfl, rfl⟩
  | cons line rest ih =>
    cases blank : isBlankLine line with
    | true =>
      have dropped : isRequest line = false := by rw [isRequest, request?_of_blank blank, Option.isSome_none]
      simp only [List.filter_cons, dropped, exchanges, blank, serve, answer_of_blank blank]
      exact ih w
    | false =>
      cases held : request? line with
      | some r =>
        have kept : isRequest line = true := by rw [isRequest, held, Option.isSome_some]
        obtain ⟨others, last⟩ := ih (respond d line w).2
        simp only [List.filter_cons, kept, exchanges, blank, serve, answer_of_filled blank, others, last, if_true,
          Bool.false_eq_true, if_false, and_self]
      | none =>
        have dropped : isRequest line = false := by rw [isRequest, held, Option.isSome_none]
        obtain ⟨reason, rejected⟩ := respond_of_no_request blank held d w
        simp only [List.filter_cons, dropped, exchanges, blank, serve, answer_of_filled blank, rejected,
          Bool.false_eq_true, if_false]
        exact ih w

/-- The lines that hold requests are a conversation: each of them gets the response to its request. -/
theorem exchanges_converse (d : Dispatcher World) (lines : List String) (w : World) :
    let talk := converse d w ((lines.filterMap request?).map .request)
    (exchanges d lines w).filterMap (fun x => (request? x.1).map (·, x.2)) = talk.2 ∧ (serve d lines w).2 = talk.1 := by
  induction lines generalizing w with
  | nil => exact ⟨rfl, rfl⟩
  | cons line rest ih =>
    cases blank : isBlankLine line with
    | true =>
      have lacking := request?_of_blank blank
      simp only [List.filterMap_cons, lacking, exchanges, blank, serve, answer_of_blank blank, if_true]
      exact ih w
    | false =>
      cases held : request? line with
      | some r =>
        obtain ⟨others, last⟩ := ih (respond d line w).2
        simp only [exchanges, blank, serve, answer_of_filled blank, Bool.false_eq_true, if_false,
          List.filterMap_cons, held, Option.map_some, List.map_cons, converse, meet]
        rw [others, last, respond_of_request held]
        exact ⟨rfl, rfl⟩
      | none =>
        obtain ⟨reason, rejected⟩ := respond_of_no_request blank held d w
        simp only [exchanges, blank, serve, answer_of_filled blank, rejected, Bool.false_eq_true, if_false,
          List.filterMap_cons, held, Option.map_none]
        exact ih w

end Serving

namespace CommandLine

open Serving Service

theorem toList_unlines (texts : List String) :
    (unlines texts).toList = texts.flatMap fun text => text.toList ++ ['\n'] := by
  induction texts with
  | nil => rfl
  | cons text rest ih =>
    simp only [unlines, List.map_cons, String.join_cons, String.toList_append, List.flatMap_cons] at ih ⊢
    rw [ih]
    rfl

/-- Texts without control characters are the lines of what is printed of them. -/
theorem lines_unlines {texts : List String} (plain : ∀ text ∈ texts, ∀ c ∈ text.toList, 0x20 ≤ c.toNat) :
    (Text.lines (unlines texts).toList).map String.ofList = texts := by
  rw [toList_unlines]
  induction texts with
  | nil => rfl
  | cons text rest ih =>
    obtain ⟨own, others⟩ := List.forall_mem_cons.1 plain
    have feeds : '\n' ∉ text.toList := fun inside => absurd (own '\n' inside) (by decide)
    have returns : '\r' ∉ text.toList := fun inside => absurd (own '\r' inside) (by decide)
    rw [List.flatMap_cons, List.append_assoc, List.singleton_append, Text.lines_line feeds,
      Text.dropReturn_of_not_mem returns, List.map_cons, ih others, String.ofList_toList]

/-- The framing of the service. The output has one line for each input line that is not blank, in their order; it is
the response to that line, whole and readable, on a line of its own. A line holds a request if it is a document that can
be read as one, and gets the response to it, as in the conversation of all requests that the lines hold. A line that
holds no request gets a response that says so, with no output and nothing asked of the host, and the service goes on.
Without the lines that are blank or hold no request the other lines get the same responses, and the files end up the
same. -/
theorem serve_framing (settings : Settings) (project : Path) (files : FileTree) (now : Timestamp) (sampler : Sampler)
    (input : String) :
    let start := World.start settings project files now sampler
    let linesOf (text : String) := (Text.lines text.toList).map String.ofList
    let done (input : String) := serveAll settings project files now sampler input
    let heard (input : String) := exchanges (dispatcher settings) (linesOf input) start
    let out := unlines ((heard input).map fun x => render x.2)
    let kept := String.ofList (Text.keepLines (fun line => isRequest (String.ofList line)) input.toList)
    let talk := converse (dispatcher settings) start (((linesOf input).filterMap request?).map .request)
    (done input).result = .ok out ∧
      linesOf out = (heard input).map (fun x => render x.2) ∧
      (heard input).map (·.1) = (linesOf input).filter (fun line => !isBlankLine line) ∧
      (∀ x ∈ heard input, (∀ c ∈ (render x.2).toList, 0x20 ≤ c.toNat) ∧
        document? (render x.2) =
          some (Response.codec.write { x.2 with output := x.2.output.restated.cut 1 })) ∧
      (∀ line r, request? line = some r ↔ isBlankLine line = false ∧
        ∃ document, document? line = some document ∧ Request.codec.read document = .ok r) ∧
      (heard input).filterMap (fun x => (request? x.1).map (·, x.2)) = talk.2 ∧ (done input).files = talk.1.files ∧
      (∀ x ∈ heard input, isRequest x.1 = false → x.2.ok = false ∧ x.2.output = .null ∧ x.2.effects = []) ∧
      linesOf kept = (linesOf input).filter isRequest ∧
      heard kept = (heard input).filter (fun x => isRequest x.1) ∧
      (done kept).files = (done input).files := by
  intro start linesOf done heard out kept talk
  have responses : (done input).result = .ok out :=
    congrArg (fun lines => Except.ok (unlines lines)) (serve_responses (dispatcher settings) (linesOf input) start)
  have left : linesOf kept = (linesOf input).filter isRequest := by
    simp only [linesOf, kept, String.toList_ofList, Text.lines_keepLines, List.filter_map, Function.comp_def]
  have ended : ∀ input, (done input).files = (serve (dispatcher settings) (linesOf input) start).2.files :=
    fun _ => rfl
  obtain ⟨others, last⟩ := serve_requests (dispatcher settings) (linesOf input) start
  obtain ⟨told, final⟩ := exchanges_converse (dispatcher settings) (linesOf input) start
  refine ⟨responses, lines_unlines fun text member => ?_, exchanges_lines _ _ _,
    fun x member => ⟨plain_render x.2, ?_⟩, fun _ _ => request?_eq_some, told, by rw [ended, final],
    fun x member lacking => ?_, left, ?_, ?_⟩
  · obtain ⟨x, -, rfl⟩ := List.mem_map.1 member
    exact plain_render x.2
  · obtain ⟨w, -, answered⟩ := mem_exchanges member
    have current : x.2.version = protocolVersion := by rw [answered, respond_version]
    exact document?_render current
  · obtain ⟨w, filled, answered⟩ := mem_exchanges member
    have none' : request? x.1 = none := by simpa [isRequest] using lacking
    obtain ⟨reason, rejected⟩ := respond_of_no_request filled none' (dispatcher settings) w
    rw [answered, rejected]
    exact ⟨rfl, rfl, rfl⟩
  · simp only [heard, left, others]
  · rw [ended, ended, left, last]

theorem serve_framing_mixed :
    let request : Request := ⟨1, .event, .object [("type", .string "session.idle")], .null, .blank⟩
    let document := object [("version", .int 1), ("channel", .string "event"), ("input", request.input)]
    let idle := document.compact
    let input := "\r\n" ++ idle ++ "\r\nno request\n \n[]"
    let lines := (Text.lines input.toList).map String.ofList
    let start := World.start {} ⟨"/project"⟩ .empty ⟨2024, 5, 1, 12, 0, 0, 0⟩ ⟨[], 0⟩
    let heard := exchanges (dispatcher {}) lines start
    lines = ["", idle, "no request", " ", "[]"] ∧ lines.filterMap request? = [request] ∧
      heard.map (·.1) = [idle, "no request", "[]"] ∧
      heard.filterMap (fun x => (request? x.1).map (·, x.2)) = [(request, (handle (dispatcher {}) request start).1)] ∧
      ∀ x ∈ heard, x.1 ≠ idle → x.2.ok = false ∧ x.2.output = .null ∧ x.2.effects = [] := by
  intro request document idle input lines start heard
  have split : lines = ["", idle, "no request", " ", "[]"] := by decide +kernel
  have writable : document.IsWritable := ⟨by constructor <;> decide, trivial, ⟨trivial, trivial⟩, trivial⟩
  have read : document? idle = some document := by
    rw [document?_compact, cut_restated writable (by decide)]
  have held : request? idle = some request := request?_eq_some.2 ⟨by decide +kernel, document, read, rfl⟩
  have lacking : ∀ line ∈ ["", " ", "no request", "[]"], isRequest line = false := by decide +kernel
  have requests : lines.filterMap request? = [request] := by
    have none' : ∀ line ∈ ["", " ", "no request", "[]"], request? line = none := fun line member => by
      simpa [isRequest] using lacking line member
    simp [split, held, none']
  have filled : lines.filter (fun line => !isBlankLine line) = [idle, "no request", "[]"] := by
    rw [split]
    decide +kernel
  obtain ⟨-, -, named, -, -, told, -, rejected, -⟩ :=
    serve_framing {} ⟨"/project"⟩ .empty ⟨2024, 5, 1, 12, 0, 0, 0⟩ ⟨[], 0⟩ input
  change heard.map (·.1) = lines.filter _ at named
  change _ = (converse _ _ ((lines.filterMap request?).map _)).2 at told
  rw [filled] at named
  rw [requests] at told
  refine ⟨split, requests, named, told, fun x member other => rejected x member (lacking x.1 ?_)⟩
  have among : x.1 ∈ [idle, "no request", "[]"] := named ▸ List.mem_map_of_mem member
  exact List.mem_cons_of_mem _ (List.mem_cons_of_mem _ ((List.mem_cons.1 among).resolve_left other))

end CommandLine

end AgentHooks
