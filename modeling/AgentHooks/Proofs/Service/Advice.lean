import AgentHooks.Proofs.Service.Hooks

/-! The hooks only advise. None of them refuses an action, and all that any of them does to an output is to
put more text behind what a finished tool call returned. -/

namespace AgentHooks

structure ToolResult.Extends (before after : ToolResult) : Prop where
  title : after.title = before.title
  metadata : after.metadata = before.metadata
  output : ∃ more, after.output = before.output ++ more

/-- What advice can make of an event's output. -/
def Event.Extends : (e : Event) → e.Output → e.Output → Prop
  | .toolAfter _, before, after => before.Extends after
  | .lifecycle _, before, after => after = before
  | .toolBefore _, before, after => after = before
  | .commandBefore _, before, after => after = before
  | .chatMessage _, before, after => after = before
  | .messagesTransform _, before, after => after = before

namespace ToolResult

variable {out out' later : ToolResult}

theorem Extends.refl (out : ToolResult) : out.Extends out :=
  ⟨rfl, rfl, "", String.append_empty.symm⟩

theorem Extends.trans (first : out.Extends out') (second : out'.Extends later) : out.Extends later := by
  obtain ⟨more, longer⟩ := first.output
  obtain ⟨more', longer'⟩ := second.output
  refine ⟨second.title.trans first.title, second.metadata.trans first.metadata, more ++ more', ?_⟩
  rw [longer', longer, String.append_assoc]

theorem appendReminder_extends (out : ToolResult) (text : String) : out.Extends (out.appendReminder text) := by
  refine ⟨rfl, rfl, ?_⟩
  unfold appendReminder
  split
  next blank => exact ⟨text, by rw [blank, String.empty_append]⟩
  · exact ⟨"\n\n" ++ text, String.append_assoc ..⟩

end ToolResult

namespace Event.Extends

variable {e : Event} {out out' later : e.Output}

theorem of_eq (same : out' = out) : e.Extends out out' := by
  subst same
  cases e with
  | toolAfter call => exact ToolResult.Extends.refl out'
  | _ => rfl

theorem trans (first : e.Extends out out') (second : e.Extends out' later) : e.Extends out later := by
  cases e with
  | toolAfter call => exact ToolResult.Extends.trans first second
  | _ => exact Eq.trans second first

end Event.Extends

namespace ContextPolicy

theorem onToolAfter_extends (s : ContextSettings) (session : String) (out : ToolResult) (w : World) :
    out.Extends (onToolAfter s session out w).1 := by
  unfold onToolAfter
  split
  · exact .refl out
  · dsimp only
    split
    · exact out.appendReminder_extends _
    · exact .refl out

end ContextPolicy

namespace PressurePolicy

theorem remind_extends (s : PressureSettings) (session : String) (sample : Sample) (level : PressureLevel)
    (due : Bool) (scene : Scene) : scene.1.Extends (remind s session sample level due scene).1 := by
  obtain ⟨out, w⟩ := scene
  unfold remind
  dsimp only
  split
  · exact .refl out
  · cases level with
    | normal => exact .refl out
    | warning => exact out.appendReminder_extends _
    | critical => exact out.appendReminder_extends _

theorem pause_extends (session : String) (sample : Sample) (scene : Scene) :
    scene.1.Extends (pause session sample scene).1 := by
  obtain ⟨out, w⟩ := scene
  unfold pause
  dsimp only
  split
  · exact .refl out
  · split
    · exact .refl out
    · exact out.appendReminder_extends _

theorem escalate_extends (s : PressureSettings) (session : String) (events : Nat) (scene : Scene) :
    scene.1.Extends (escalate s session events scene).1 :=
  scene.1.appendReminder_extends _

theorem respond_extends (s : PressureSettings) (session : String) (sample : Sample) (scene : Scene) :
    scene.1.Extends (respond s session sample scene).1 := by
  obtain ⟨out, w⟩ := scene
  unfold respond
  dsimp only
  -- The reminder, the pause and the escalation add to the output in this order.
  generalize reminded : remind s session sample _ _ _ = scene
  have start : out.Extends scene.1 := by
    rw [← reminded]
    exact remind_extends s session sample _ _ (out, _)
  have paused : ∀ due : Bool,
      out.Extends (if due = true then pause session sample scene else scene).1 := by
    intro due
    split
    · exact start.trans (pause_extends session sample scene)
    · exact start
  split
  · exact (paused _).trans (escalate_extends s session _ _)
  · exact paused _

theorem onToolAfter_extends (s : PressureSettings) (session : String) (out : ToolResult) (w : World) :
    out.Extends (onToolAfter s session out w).1 := by
  unfold onToolAfter
  split
  · exact .refl out
  · dsimp only
    split
    · exact .refl out
    · split
      · exact .refl out
      · exact respond_extends s session _ (out, _)

end PressurePolicy

namespace Service

variable {settings : Settings} {h : Hook World}

theorem visit_extends (member : h ∈ allHooks settings) (e : Event) (x : e.Output × World) :
    e.Extends x.1 ((dispatcher settings).visit e x h).1 := by
  cases e with
  | toolAfter call =>
    rcases mem_allHooks.1 member with rfl | rfl | rfl | rfl | rfl
    · exact ToolResult.Extends.refl x.1
    · exact ToolResult.Extends.refl x.1
    · exact PressurePolicy.onToolAfter_extends settings.pressure call.session x.1 x.2
    · exact ContextPolicy.onToolAfter_extends settings.context call.session x.1 x.2
    · exact ToolResult.Extends.refl x.1
  | _ => exact .of_eq (visit_output member x (by simp))

/-- Whatever state the service is in, a dispatch ends without a refusal and at most extends the output. -/
theorem dispatch_extends (settings : Settings) (e : Event) (out : e.Output) (w : World) :
    ((dispatcher settings).dispatch e out w).fault = none ∧
      e.Extends out ((dispatcher settings).dispatch e out w).output := by
  rw [dispatch_eq_visits]
  refine ⟨rfl, ?_⟩
  refine Dispatcher.visits_keep (P := fun y => e.Extends out y.1) _ (fun h active y extended => ?_)
    (Event.Extends.of_eq rfl)
  exact extended.trans (visit_extends (mem_of_active active) e y)

/-- The service is advisory. A request of our version that can be decoded is never refused, whatever state
the service is in, and its output goes back as it was decoded; only what a finished tool call returned may
have more text at its end. -/
theorem handle_advises (settings : Settings) {r : Request} {a : Announcement} (w : World)
    (current : r.version = protocolVersion) (announced : announcement r = .ok a) :
    let response := (handle (dispatcher settings) r w).1
    response.ok = true ∧ response.error = none ∧
      ∃ out, a.event.Extends a.output out ∧ response.output = a.event.writeOutput out := by
  intro response
  obtain ⟨allowed, extended⟩ := dispatch_extends settings a.event a.output (w.loadContext r.context)
  simp only [response, handle, if_neg (not_not_intro current), announced, allowed]
  exact ⟨rfl, rfl, _, extended, rfl⟩

/-- A tool call is over, and its result goes back with its own text in front. -/
theorem handle_advises_toolAfter :
    let r : Request := ⟨1, .toolAfter, .object [("tool", .string "bash"), ("sessionId", .string "s")],
      .object [("output", .string "ok")], .blank⟩
    let w := World.start {} ⟨"/project"⟩ .empty ⟨2024, 5, 1, 12, 0, 0, 0⟩ ⟨[.ok ⟨20000, 3⟩], 0⟩
    let a : Announcement := ⟨.toolAfter ⟨"bash", "s", ""⟩, ⟨"", "ok", .null⟩⟩
    let response := (handle (dispatcher {}) r w).1
    r.version = protocolVersion ∧ announcement r = .ok a ∧ response.ok = true ∧
      ∃ more, response.output =
        .object [("title", .string ""), ("output", .string ("ok" ++ more)), ("metadata", .null)] := by
  intro r w a response
  have announced : announcement r = .ok a := by rfl
  obtain ⟨ok, -, out, ⟨title, metadata, more, longer⟩, written⟩ := handle_advises {} w rfl announced
  refine ⟨rfl, announced, ok, more, written.trans ?_⟩
  change ToolResult.codec.write out = _
  obtain ⟨_, _, _⟩ := out
  cases title
  cases metadata
  cases longer
  rfl

end Service

end AgentHooks
