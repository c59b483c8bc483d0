import AgentHooks.Proofs.Service.Run

/-! Conversations: what a host sends to the service, what it hears from it, and what happens besides. A request
that is turned away, for its version or because it cannot be decoded, is answered and leaves nothing behind
but the context that came with it, and that nothing reads before the next request brings its own. -/

namespace AgentHooks

/-- A request comes in; or time passes, another process puts something in the place of the loop's file, or the
operator stops a session or lets it go on. -/
inductive Incident where
  | request (r : Request)
  | clock (now : Timestamp)
  | rewrite (node : Option Node)
  | stop (session : String)
  | resume (session : String)

theorem World.loadContext_self (w : World) : w.loadContext w.host.context = w :=
  rfl

theorem World.takeEffects_of_nil {w : World} (nothing : w.host.effects = []) : w.takeEffects = (w, []) := by
  have same : { w.host with effects := [] } = w.host := by rw [← nothing]
  rw [World.takeEffects, same, nothing]

namespace Service

open World

/-- A request of another version, or one whose input or output is not what its channel asks for. -/
def isRejected (r : Request) : Bool :=
  r.version != protocolVersion || !(announcement r).isOk

/-- The world after an incident, and the request with its response, if it is one. -/
def meet (d : Dispatcher World) (w : World) : Incident → World × List (Request × Response)
  | .request r => ((handle d r w).2, [(r, (handle d r w).1)])
  | .clock now => ({ w with now }, [])
  | .rewrite node => (w.replaceLoop node, [])
  | .stop session => (w.stop session, [])
  | .resume session => (w.clearStop session, [])

def converse (d : Dispatcher World) (w : World) : List Incident → World × List (Request × Response)
  | [] => (w, [])
  | i :: rest =>
    let next := meet d w i
    let later := converse d next.1 rest
    (later.1, next.2 ++ later.2)

/-- The same conversation without the requests that are turned away. -/
def accepted (run : List Incident) : List Incident :=
  run.filter fun
    | .request r => !isRejected r
    | _ => true

variable {d : Dispatcher World} {w : World} {r : Request}

theorem handle_of_version (stale : r.version ≠ protocolVersion) (w : World) :
    handle d r w = (failure r.output (.protocolVersion r.version protocolVersion) [], w) := by
  simp only [handle, if_pos stale]

theorem handle_of_payload {e : PayloadError} (current : r.version = protocolVersion)
    (undecoded : announcement r = .error e) (w : World) :
    handle d r w =
      answer (w.loadContext r.context) (failure r.output (.invalidPayload e.message)) := by
  simp only [handle, if_neg (not_not_intro current), undecoded]

theorem isRejected_iff :
    isRejected r = true ↔
      r.version ≠ protocolVersion ∨ r.version = protocolVersion ∧ ∃ e, announcement r = .error e := by
  simp only [isRejected, Bool.or_eq_true, bne_iff_ne, Bool.not_eq_true']
  by_cases current : r.version = protocolVersion
  · cases announcement r with
    | error e => simp [current, Except.isOk, Except.toBool]
    | ok a => simp [current, Except.isOk, Except.toBool]
  · simp [current]

/-- A rejection is no refusal: it names no hook, and nothing has been asked of the host. -/
theorem handle_of_rejected (settled : Settled w) (rejected : isRejected r = true) :
    ∃ message context,
      handle d r w = (⟨protocolVersion, false, r.output, some ⟨"error", none, message⟩, []⟩,
        w.loadContext context) := by
  rcases isRejected_iff.1 rejected with stale | ⟨current, e, undecoded⟩
  · rw [handle_of_version stale]
    exact ⟨_, w.host.context, rfl⟩
  · have settled' : (w.loadContext r.context).host.effects = [] := settled
    rw [handle_of_payload current undecoded, answer, takeEffects_of_nil settled']
    exact ⟨_, r.context, rfl⟩

theorem handle_loadContext (d : Dispatcher World) (r : Request) (w : World) (context : Context) :
    (handle d r (w.loadContext context)).1 = (handle d r w).1 ∧
      ∃ context', (handle d r (w.loadContext context)).2 = (handle d r w).2.loadContext context' := by
  by_cases current : r.version = protocolVersion
  · have same : handle d r (w.loadContext context) = handle d r w := by
      simp only [handle, if_neg (not_not_intro current), loadContext]
    rw [same]
    exact ⟨rfl, _, (loadContext_self _).symm⟩
  · rw [handle_of_version current, handle_of_version current]
    exact ⟨rfl, context, rfl⟩

theorem meet_loadContext (d : Dispatcher World) (w : World) (context : Context) (i : Incident) :
    (meet d (w.loadContext context) i).2 = (meet d w i).2 ∧
      ∃ context', (meet d (w.loadContext context) i).1 = (meet d w i).1.loadContext context' := by
  cases i with
  | request r =>
    obtain ⟨same, left⟩ := handle_loadContext d r w context
    exact ⟨congrArg (fun response => [(r, response)]) same, left⟩
  | clock now => exact ⟨rfl, context, rfl⟩
  | rewrite node => exact ⟨rfl, context, by simp only [meet, replaceLoop, loadContext]⟩
  | stop session => exact ⟨rfl, context, rfl⟩
  | resume session => exact ⟨rfl, context, rfl⟩

theorem converse_loadContext (d : Dispatcher World) (w : World) (context : Context) (run : List Incident) :
    (converse d (w.loadContext context) run).2 = (converse d w run).2 ∧
      ∃ context', (converse d (w.loadContext context) run).1 =
        (converse d w run).1.loadContext context' := by
  induction run generalizing w context with
  | nil => exact ⟨rfl, context, rfl⟩
  | cons i rest ih =>
    obtain ⟨same, next, left⟩ := meet_loadContext d w context i
    obtain ⟨others, last⟩ := ih (meet d w i).1 next
    simp only [converse, same, left, others]
    exact ⟨trivial, last⟩

theorem handle_settled (settled : Settled w) (d : Dispatcher World) (r : Request) :
    Settled (handle d r w).2 := by
  by_cases current : r.version = protocolVersion
  · simp only [handle, if_neg (not_not_intro current)]
    split
    · rfl
    · split
      · rfl
      · rfl
  · rw [handle_of_version current]
    exact settled

theorem meet_settled (settled : Settled w) (d : Dispatcher World) (i : Incident) : Settled (meet d w i).1 := by
  cases i with
  | request r => exact handle_settled settled d r
  | clock now => exact settled
  | rewrite node => exact settled
  | stop session => exact settled
  | resume session => exact settled

theorem converse_settled (settled : Settled w) (d : Dispatcher World) (run : List Incident) :
    Settled (converse d w run).1 := by
  induction run generalizing w with
  | nil => exact settled
  | cons i rest ih => exact ih (meet_settled settled d i)

/-- Leaving out the requests that are turned away leaves all other responses, and the world but for the host's
context. -/
theorem converse_accepted (settled : Settled w) (d : Dispatcher World) (run : List Incident) :
    (converse d w (accepted run)).2 = (converse d w run).2.filter (fun x => !isRejected x.1) ∧
      ∃ context, (converse d w run).1 = (converse d w (accepted run)).1.loadContext context := by
  induction run generalizing w with
  | nil => exact ⟨rfl, w.host.context, rfl⟩
  | cons i rest ih =>
    -- An incident without a response is met alike in both conversations.
    have passing : ∀ j, meet d w i = (j, []) → Settled j → accepted (i :: rest) = i :: accepted rest →
        (converse d w (accepted (i :: rest))).2 =
            (converse d w (i :: rest)).2.filter (fun x => !isRejected x.1) ∧
          ∃ context, (converse d w (i :: rest)).1 =
            (converse d w (accepted (i :: rest))).1.loadContext context := by
      intro j met unasked kept
      rw [kept]
      simp only [converse, met, List.nil_append]
      exact ih unasked
    cases i with
    | request r =>
      cases rejected : isRejected r with
      | true =>
        have dropped : accepted (.request r :: rest) = accepted rest := by simp [accepted, rejected]
        obtain ⟨message, context, handled⟩ := handle_of_rejected (d := d) settled rejected
        -- The context of the request stays behind, but the next request brings its own.
        obtain ⟨same, after, left⟩ := converse_loadContext d w context rest
        obtain ⟨others, last, final⟩ := ih settled
        rw [dropped]
        simp only [converse, meet, handled, same, left, List.singleton_append, List.filter_cons, rejected,
          Bool.not_true, Bool.false_eq_true, if_false]
        exact ⟨others, after, by rw [final]; rfl⟩
      | false =>
        have kept : accepted (.request r :: rest) = .request r :: accepted rest := by
          simp [accepted, rejected]
        obtain ⟨others, last⟩ := ih (handle_settled settled d r)
        rw [kept]
        simp only [converse, meet, List.singleton_append, List.filter_cons, rejected, Bool.not_false,
          if_true, others]
        exact ⟨trivial, last⟩
    | clock now => exact passing _ rfl settled rfl
    | rewrite node => exact passing _ rfl settled rfl
    | stop session => exact passing _ rfl settled rfl
    | resume session => exact passing _ rfl settled rfl

/-- Requests that are turned away leave no trace, however the service came to be in its state. The output goes
back as it came, with an error that blames no hook and nothing asked of the host, and the world stays as it
was: files, latch and everything remembered about sessions. So a conversation without these requests gets
the same responses to all others and ends in the same world. -/
theorem rejected_leave_no_trace (settings : Settings) (project : Path) (files : FileTree) (now : Timestamp)
    (sampler : Sampler) (before : List Incident) :
    let d := dispatcher settings
    let w := (converse d (World.start settings project files now sampler) before).1
    (∀ r, isRejected r = true →
      let response := (handle d r w).1
      response.ok = false ∧ response.output = r.output ∧ response.effects = [] ∧
        (∃ message, response.error = some ⟨"error", none, message⟩) ∧
        ∃ context, (handle d r w).2 = w.loadContext context) ∧
    ∀ run : List Incident,
      (converse d w (accepted run)).2 = (converse d w run).2.filter (fun x => !isRejected x.1) ∧
        ∃ context, (converse d w run).1 = (converse d w (accepted run)).1.loadContext context := by
  intro d w
  have settled : Settled w := converse_settled (start_settled settings project files now sampler) d before
  refine ⟨fun r rejected => ?_, converse_accepted settled d⟩
  obtain ⟨message, context, handled⟩ := handle_of_rejected (d := d) settled rejected
  simp only [handled]
  exact ⟨trivial, trivial, trivial, ⟨message, rfl⟩, context, rfl⟩

theorem rejected_leave_no_trace_between :
    let idle : Request := ⟨1, .event,
      .object [("type", .string "session.idle"), ("properties", .object [("sessionID", .string "s")])], .null,
      ⟨[("s", .blank)]⟩⟩
    let stale : Request := { idle with version := 2, output := .bool true }
    let undecoded : Request := ⟨1, .toolAfter, .null, .string "done", .blank⟩
    let d := dispatcher {}
    let w := (converse d (World.start {} ⟨"/project"⟩ .empty ⟨2024, 5, 1, 12, 0, 0, 0⟩ ⟨[], 0⟩) [.request idle]).1
    let run : List Incident := [.request stale, .request idle, .request undecoded]
    isRejected stale = true ∧ isRejected undecoded = true ∧ isRejected idle = false ∧
      (handle d stale w).1.output = .bool true ∧ (∃ context, (handle d stale w).2 = w.loadContext context) ∧
      (handle d undecoded w).1.output = .string "done" ∧
      (∃ context, (handle d undecoded w).2 = w.loadContext context) ∧
      (converse d w [.request idle]).2 = (converse d w run).2.filter (fun x => !isRejected x.1) ∧
      ∃ context, (converse d w run).1 = (converse d w [.request idle]).1.loadContext context := by
  intro idle stale undecoded d w run
  have old : isRejected stale = true := by decide +kernel
  have odd : isRejected undecoded = true := by decide +kernel
  have good : isRejected idle = false := by decide +kernel
  obtain ⟨alone, among⟩ := rejected_leave_no_trace {} ⟨"/project"⟩ .empty ⟨2024, 5, 1, 12, 0, 0, 0⟩ ⟨[], 0⟩
    [.request idle]
  obtain ⟨-, back, -, -, same⟩ := alone stale old
  obtain ⟨-, back', -, -, same'⟩ := alone undecoded odd
  have left : accepted run = [.request idle] := by simp [run, accepted, old, odd, good]
  have others := among run
  rw [left] at others
  exact ⟨old, odd, good, back, same, back', same', others⟩

end Service

end AgentHooks
