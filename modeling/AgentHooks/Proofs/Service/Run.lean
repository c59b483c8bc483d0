import AgentHooks.Proofs.Service.Hooks

/-! Runs. Between one dispatch and the next the host may tell more about its sessions, time passes, and
another process may put something in the place of the loop's file. What the hooks ask for during a
dispatch is handed over at its end. -/

namespace AgentHooks

/-- How things go elsewhere during one dispatch: which calls the host refuses, and what another process
makes of the loop's file while the host works on them. -/
structure Conduct where
  refuses : HostCall → Bool
  rewrites : HostCall → Option (Option Node)

namespace Conduct

/-- A host that takes everything, and nobody else at the file. -/
def calm : Conduct :=
  ⟨fun _ => false, fun _ => none⟩

def disturbance (conduct : Conduct) (c : HostCall) : Disturbance :=
  ⟨none, conduct.rewrites c, conduct.refuses c⟩

end Conduct

inductive Occurrence where
  | dispatch (a : Announcement) (conduct : Conduct)
  | tell (context : Context)
  | rewrite (node : Option Node)
  | clock (now : Timestamp)

namespace Service

open World

def opening (a : Announcement) (conduct : Conduct) (w : World) : World :=
  { w with disturbance := conduct.disturbance }.remark
    (.on Dispatcher.journalId .dispatch "dispatched" a.event.kind a.event.session)

def dispatch (settings : Settings) (a : Announcement) (conduct : Conduct) (w : World) :
    Handled World a.event :=
  (dispatcher settings).dispatch a.event a.output { w with disturbance := conduct.disturbance }

/-- The world after an occurrence, and what was handed over to the host. -/
def occur (settings : Settings) (w : World) : Occurrence → World × List Action
  | .dispatch a conduct => (dispatch settings a conduct w).state.takeEffects
  | .tell context => (w.loadContext context, [])
  | .rewrite node => (w.replaceLoop node, [])
  | .clock now => ({ w with now }, [])

def after (settings : Settings) (w : World) (run : List Occurrence) : World :=
  run.foldl (fun w o => (occur settings w o).1) w

def emitted (settings : Settings) (w : World) : List Occurrence → List Action
  | [] => []
  | o :: rest => (occur settings w o).2 ++ emitted settings (occur settings w o).1 rest

def prompts (settings : Settings) (w : World) (session : String) (run : List Occurrence) : List String :=
  promptsTo session (emitted settings w run)

variable {settings : Settings} {w : World}

theorem opening_quiet (a : Announcement) (conduct : Conduct) (w : World) :
    Quiet { w with disturbance := conduct.disturbance } (opening a conduct w) :=
  .remark _ _

theorem dispatch_state (settings : Settings) (a : Announcement) (conduct : Conduct) (w : World) :
    (dispatch settings a conduct w).state =
      ((dispatcher settings).visits a.event (dispatcher settings).hooks
        (a.output, opening a conduct w)).2 := by
  rw [dispatch, dispatch_eq_visits]
  rfl

theorem after_append (settings : Settings) (w : World) (run more : List Occurrence) :
    after settings w (run ++ more) = after settings (after settings w run) more :=
  List.foldl_append

theorem after_concat (settings : Settings) (w : World) (run : List Occurrence) (o : Occurrence) :
    after settings w (run ++ [o]) = (occur settings (after settings w run) o).1 :=
  after_append settings w run [o]

theorem prompts_cons (settings : Settings) (w : World) (session : String) (o : Occurrence)
    (rest : List Occurrence) :
    prompts settings w session (o :: rest) =
      promptsTo session (occur settings w o).2 ++
        prompts settings (occur settings w o).1 session rest := by
  simp only [prompts, emitted, promptsTo, List.filterMap_append]

/-- A request from a host that takes everything is a run: the host tells what it knows, and then it
announces the event. -/
theorem handle_eq_run {r : Request} {a : Announcement} (current : r.version = protocolVersion)
    (announced : announcement r = .ok a) (calm : w.disturbance = Conduct.calm.disturbance) :
    let run := [.tell r.context, .dispatch a .calm]
    (handle (dispatcher settings) r w).2 = after settings w run ∧
      (handle (dispatcher settings) r w).1.effects = emitted settings w run := by
  have same : { w.loadContext r.context with disturbance := Conduct.calm.disturbance } =
      w.loadContext r.context := by
    rw [← calm]
    rfl
  have dispatched : dispatch settings a .calm (w.loadContext r.context) =
      (dispatcher settings).dispatch a.event a.output (w.loadContext r.context) := by
    rw [dispatch, same]
  simp only [handle, if_neg (not_not_intro current), announced, after, List.foldl, emitted, occur,
    dispatched, List.nil_append, List.append_nil]
  split
  · exact ⟨rfl, rfl⟩
  · exact ⟨rfl, rfl⟩

def Settled (w : World) : Prop :=
  w.host.effects = []

theorem start_settled (settings : Settings) (project : Path) (files : FileTree) (now : Timestamp)
    (sampler : Sampler) : Settled (World.start settings project files now sampler) :=
  rfl

theorem start_apart {settings : Settings} (unaudited : settings.audit.enabled = false) (project : Path)
    (files : FileTree) (now : Timestamp) (sampler : Sampler) :
    (World.start settings project files now sampler).Apart := by
  intro p kept
  simp [World.start, unaudited] at kept

theorem occur_settled (settings : Settings) (settled : Settled w) (o : Occurrence) :
    Settled (occur settings w o).1 := by
  cases o with
  | dispatch a conduct => rfl
  | tell context => exact settled
  | rewrite node => exact settled
  | clock now => exact settled

theorem after_keeps {P : World → Prop} {run : List Occurrence}
    (keeps : ∀ o ∈ run, ∀ w, P w → P (occur settings w o).1) (holds : P w) :
    P (after settings w run) := by
  induction run generalizing w with
  | nil => exact holds
  | cons o rest ih =>
    exact ih (fun o' later => keeps o' (List.mem_cons_of_mem o later)) (keeps o (by simp) w holds)

theorem after_settled (settings : Settings) (settled : Settled w) (run : List Occurrence) :
    Settled (after settings w run) :=
  after_keeps (fun o _ _ settled => occur_settled settings settled o) settled

theorem occur_apart (settings : Settings) (apart : w.Apart) (o : Occurrence) :
    (occur settings w o).1.Apart := by
  cases o with
  | dispatch a conduct =>
    have opens : (opening a conduct w).Apart := (opening_quiet a conduct w).apart apart
    change (dispatch settings a conduct w).state.Apart
    rw [dispatch_state]
    exact Dispatcher.visits_keep (P := fun x => x.2.Apart) (x := (a.output, opening a conduct w)) _
      (fun h turn x apart => visit_apart (mem_of_active turn) a.event x apart) opens
  | tell context => exact apart
  | rewrite node =>
    have places : ∀ p, (w.files.overwrite w.loopFile node).placeOf p = w.files.placeOf p :=
      FileTree.placeOf_eq (FileTree.overwrite_here w.files w.loopFile node)
    intro p kept
    simp only [occur, replaceLoop, World.loopPlace, places]
    exact apart p kept
  | clock now => exact apart

theorem after_apart (settings : Settings) (apart : w.Apart) (run : List Occurrence) :
    (after settings w run).Apart :=
  after_keeps (fun o _ _ apart => occur_apart settings apart o) apart

end Service

end AgentHooks
