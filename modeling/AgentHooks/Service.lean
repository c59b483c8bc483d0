import AgentHooks.Hook.Announcement
import AgentHooks.Hook.Dispatch
import AgentHooks.Policy.Compaction
import AgentHooks.Policy.Context
import AgentHooks.Policy.Continuation
import AgentHooks.Policy.Pressure
import AgentHooks.Policy.Stop

/-!
The service: one request in, one response out, with everything that the hooks asked of the host while
the request was handled.
-/

namespace AgentHooks.Service

def allHooks (settings : Settings) : List (Hook World) :=
  [StopPolicy.hook settings, ContinuationPolicy.hook settings, PressurePolicy.hook settings,
    ContextPolicy.hook settings, CompactionPolicy.hook settings]

def enabledHooks (settings : Settings) : List (Hook World) :=
  let switches := [settings.stopGuard.enabled, settings.autopilot.enabled, settings.pressure.enabled,
    settings.context.enabled, settings.compaction.enabled]
  ((allHooks settings).zip switches).filterMap fun (hook, on) => if on then some hook else none

def dispatcher (settings : Settings) : Dispatcher World :=
  .ofHooks (enabledHooks settings) settings World.remark

/-- A lifecycle event may come wrapped in an object under the name `event`. -/
def unwrapEvent (input : Json) : Json :=
  match input.member? "type", input.member? "event" with
  | none, some inner => inner
  | _, _ => input

def announcement (r : Request) : Except PayloadError Announcement :=
  Announcement.decode r.channel (if r.channel = .event then unwrapEvent r.input else r.input) r.output

/-- The response to a request that failed: its output goes back as it came. -/
def failure (output : Json) (fault : Fault) (effects : List Action) : Response where
  version := protocolVersion
  ok := false
  output := output
  error := match fault with
    | .blocked hook message => some ⟨"blocked", some hook, message⟩
    | other => some ⟨"error", none, other.message⟩
  effects := effects

def success (output : Json) (effects : List Action) : Response :=
  ⟨protocolVersion, true, output, none, effects⟩

def answer (w : World) (respond : List Action → Response) : Response × World :=
  let (w, effects) := w.takeEffects
  (respond effects, w)

/-- Handles a request. A version other than ours is turned away before anything else happens. -/
def handle (d : Dispatcher World) (r : Request) (w : World) : Response × World :=
  if r.version ≠ protocolVersion then
    (failure r.output (.protocolVersion r.version protocolVersion) [], w)
  else
    let w := w.loadContext r.context
    match announcement r with
    | .error e => answer w (failure r.output (.invalidPayload e.message))
    | .ok a =>
      let handled := d.dispatch a.event a.output w
      match handled.fault with
      | some fault => answer handled.state (failure r.output fault)
      | none => answer handled.state (success (a.event.writeOutput handled.output))

end AgentHooks.Service
