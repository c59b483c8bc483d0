import AgentHooks.Proofs.Files.Course
import AgentHooks.Proofs.Policy.Frame
import AgentHooks.Proofs.Service.Alike

/-! The journal as a side channel. No line in it, and no directory made for it, is ever seen by a hook, as long as
the loop's file can be reached without it: a path may lead to a file through a directory that only the journal
has made. -/

namespace AgentHooks

def Settings.audited (s : Settings) (on : Bool) : Settings :=
  { s with audit := { s.audit with enabled := on } }

namespace FileTree

/-- The loop's file at `p` and the journal are at different places, the file holds `held` or is not there, and
if it is there, its path leads to it. -/
structure Reached (p : Path) (j : Journal) (held : Option Content) (t : FileTree) : Prop where
  apart : ∀ q ∈ j.path, t.placeOf q ≠ t.placeOf p
  content : t.content? (t.placeOf p) = held
  resolves : ∀ content, held = some content → t.resolve p = .ok (t.placeOf p)

variable {p : Path} {j k : Journal} {held : Option Content} {t t' s : FileTree}

namespace Reached

theorem of_spares (reached : Reached p j held t) (spared : Spares (t.placeOf p) t t') :
    Reached p j held t' := by
  have places : ∀ q, t'.placeOf q = t.placeOf q := placeOf_eq spared.here
  refine ⟨fun q kept => ?_, ?_, fun content stands => ?_⟩
  · rw [places, places]
    exact reached.apart q kept
  · rw [places, spared.content, reached.content]
  · rw [places]
    exact spared.toGrows.resolve (reached.resolves content stands)

theorem record (reached : Reached p j held t) (e : Entry) : Reached p j held (j.record e t) :=
  reached.of_spares (j.record_spares e t reached.apart)

theorem fetch (reached : Reached p j held t) :
    (∃ content, held = some content ∧ t.fetch p = .ok content) ∨ held = none ∧ ∃ e, t.fetch p = .error e := by
  cases stands : held with
  | some content =>
    refine .inl ⟨content, rfl, fetch_of_content (reached.resolves content stands) ?_⟩
    rw [reached.content, stands]
  | none =>
    refine .inr ⟨rfl, fetch_of_absent ?_⟩
    rw [reached.content, stands]

theorem set (reached : Reached p j held t) {content : Content} (found : t.fetch p = .ok content) (next : Content) :
    Reached p j (some next) (t.set (t.placeOf p) (.file next)) := by
  have stands := content?_eq_some.1 (content_of_fetch found)
  have free : t.node? (t.placeOf p) ≠ some .directory := by simp [stands]
  have grows := grows_set (.file next) free
  have places : ∀ q, (t.set (t.placeOf p) (.file next)).placeOf q = t.placeOf q := placeOf_eq grows.here
  refine ⟨fun q kept => ?_, ?_, fun _ _ => ?_⟩
  · rw [places, places]
    exact reached.apart q kept
  · rw [places]
    exact content?_set_self free
  · rw [places]
    exact grows.resolve (placeOf_of_fetch found)

theorem erase (reached : Reached p j held t) {content : Content} (found : t.fetch p = .ok content) :
    Reached p j none (t.erase (t.placeOf p)) := by
  have stands := content?_eq_some.1 (content_of_fetch found)
  have free : t.node? (t.placeOf p) ≠ some .directory := by simp [stands]
  have inside : t.placeOf p ≠ [] := inside_of_node?_ne free
  have places : ∀ q, (t.erase (t.placeOf p)).placeOf q = t.placeOf q := placeOf_eq rfl
  refine ⟨fun q kept => ?_, ?_, fun _ impossible => ?_⟩
  · rw [places, places]
    exact reached.apart q kept
  · simp only [places, content?, node?_erase_self inside]
  · cases impossible

end Reached

/-- Trees with the same loop, each with a journal of its own. -/
def SameLoop (p : Path) (j k : Journal) (t s : FileTree) : Prop :=
  ∃ held, Reached p j held t ∧ Reached p k held s

theorem sameLoop_overlooked (p : Path) (j k : Journal) : Overlooked p j k (SameLoop p j k) where
  record := by
    rintro t s ⟨held, reached, reached'⟩ e
    exact ⟨held, reached.record e, reached'.record e⟩
  read := by
    rintro t s ⟨held, reached, reached'⟩
    rcases reached.fetch with ⟨content, rfl, found⟩ | ⟨rfl, unread⟩
    · rcases reached'.fetch with ⟨_, ⟨⟩, found'⟩ | ⟨impossible, -⟩
      · exact .inl (found.trans found'.symm)
      · cases impossible
    · rcases reached'.fetch with ⟨_, impossible, -⟩ | ⟨-, unread'⟩
      · cases impossible
      · exact .inr ⟨⟨unread, unread'⟩, fun e => ⟨none, reached.record e, reached'⟩,
          fun e => ⟨none, reached, reached'.record e⟩, fun e e' => ⟨none, reached.record e, reached'.record e'⟩⟩
  set := by
    rintro t s content ⟨held, reached, reached'⟩ found found' next
    exact ⟨some next, reached.set found next, reached'.set found' next⟩
  erase := by
    rintro t s content ⟨held, reached, reached'⟩ found found'
    exact ⟨none, reached.erase found, reached'.erase found'⟩

end FileTree

namespace Service

open World FileTree

theorem loopContent?_of_sameLoop {p : Path} {j k : Journal} {u v : World}
    (alike : Alike p j k (SameLoop p j k) u v) : v.loopContent? = u.loopContent? := by
  obtain ⟨held, here, here'⟩ := alike.files
  rw [World.loopContent?, World.loopContent?, World.loopPlace, World.loopPlace, alike.loopFile, alike.loopFile',
    here.content, here'.content]

/-- Auditing is a side channel. Two services that differ only in whether they keep a journal, at a place of its
own, give the same responses in the same conversation, whatever the project's directory holds, and end with the
same loop file and, but for the journal and the files, in the same world: with the same latch and the same
memory of every session. A file that stands in the place of the loop's has to be within reach from the
start, not only after directories were made for the journal. -/
theorem audit_is_side_channel (settings : Settings) (project : Path) (files : FileTree) (now : Timestamp)
    (sampler : Sampler) (run : List Incident)
    (apart : files.placeOf (project.join settings.audit.path) ≠
      files.placeOf (project.join settings.autopilot.stateFile))
    (reached : ∀ content, files.content? (files.placeOf (project.join settings.autopilot.stateFile)) = some content →
      files.fetch (project.join settings.autopilot.stateFile) = .ok content)
    (untouched : ∀ node, .rewrite node ∉ run) :
    let outcome (on : Bool) :=
      converse (dispatcher (settings.audited on)) (World.start (settings.audited on) project files now sampler) run
    (outcome true).2 = (outcome false).2 ∧
      (outcome true).1.loopContent? = (outcome false).1.loopContent? ∧
      (outcome true).1.stopped = (outcome false).1.stopped ∧
      ∃ journal files, (outcome true).1 = { (outcome false).1 with journal, files } := by
  intro outcome
  let start (on : Bool) := World.start (settings.audited on) project files now sampler
  let p := project.join settings.autopilot.stateFile
  have stands : ∀ on, Reached p (start on).journal (files.content? (files.placeOf p)) files := by
    intro on
    refine ⟨fun q kept => ?_, rfl, fun content stands => placeOf_of_fetch (reached content stands)⟩
    have audit : q = project.join settings.audit.path := by
      cases on with
      | false => cases kept
      | true => exact (Option.mem_some.1 kept).symm
    rw [audit]
    exact apart
  have alike : Alike p (start false).journal (start true).journal
      (SameLoop p (start false).journal (start true).journal) (start false) (start true) :=
    ⟨rfl, rfl, rfl, fun _ => rfl, ⟨_, stands false, stands true⟩⟩
  have treated : ∀ r a, .request r ∈ run → announcement r = .ok a →
      TreatAlike p _ _ (SameLoop p (start false).journal (start true).journal) (dispatcher settings)
        (dispatcher settings) a :=
    fun _ a _ _ => treatAlike_self (sameLoop_overlooked _ _ _) settings a
  obtain ⟨same, last⟩ := converse_alike untouched treated alike
  exact ⟨same, loopContent?_of_sameLoop last, last.stopped, _, _, last.rest⟩

/-- A journal that cannot be written, as a directory stands in its place. -/
theorem audit_is_side_channel_unwritable :
    let audit : Path := ⟨"/project/.hookgate/audit.jsonl"⟩
    let state : Path := ⟨"/project/.hookgate/autopilot-state.json"⟩
    let held : Content := .text "\x7b\"active\": true, \"sessionId\": \"s\"\x7d"
    let files : FileTree := ⟨["project"], [(["project"], .directory), (["project", ".hookgate"], .directory),
      (["project", ".hookgate", "audit.jsonl"], .directory),
      (["project", ".hookgate", "autopilot-state.json"], .file held)]⟩
    let idle : Request := ⟨protocolVersion, .event,
      .object [("type", .string "session.idle"), ("properties", .object [("sessionID", .string "s")])], .null,
      ⟨[("s", .blank)]⟩⟩
    let outcome (on : Bool) := converse (dispatcher (Settings.audited {} on))
      (World.start (Settings.audited {} on) ⟨"/project"⟩ files ⟨2024, 5, 1, 12, 0, 0, 0⟩ ⟨[], 0⟩) [.request idle]
    files.placeOf audit ≠ files.placeOf state ∧ files.fetch state = .ok held ∧
      (outcome true).2 = (outcome false).2 ∧ (outcome true).1.loopContent? = (outcome false).1.loopContent? := by
  intro audit state held files idle outcome
  have apart : files.placeOf audit ≠ files.placeOf state := by decide +kernel
  have found : files.fetch state = .ok held := fetch_of_seen (by decide +kernel)
  have reached : ∀ content, files.content? (files.placeOf state) = some content → files.fetch state = .ok content := by
    intro content stands
    rw [content_of_fetch found] at stands
    cases stands
    exact found
  have untouched : ∀ node, Incident.rewrite node ∉ [Incident.request idle] := by simp
  obtain ⟨same, content', -⟩ := audit_is_side_channel {} ⟨"/project"⟩ files ⟨2024, 5, 1, 12, 0, 0, 0⟩ ⟨[], 0⟩
    [.request idle] apart reached untouched
  exact ⟨apart, found, same, content'⟩

/-- The loop's path leads through a directory that only the journal makes: with the journal the loop's session is
prompted, without it nothing is asked of the host. -/
theorem audit_opens_way :
    let settings : Settings :=
      { audit := { path := "logs/audit.jsonl" }, autopilot := { stateFile := "logs/../state.json" } }
    let files : FileTree := ⟨["project"], [(["project"], .directory),
      (["project", "state.json"], .file "\x7b\"active\": true, \"sessionId\": \"s\"\x7d")]⟩
    let idle : Request := ⟨protocolVersion, .event,
      .object [("type", .string "session.idle"), ("properties", .object [("sessionID", .string "s")])], .null,
      ⟨[("s", .blank)]⟩⟩
    let outcome (on : Bool) := converse (dispatcher (settings.audited on))
      (World.start (settings.audited on) ⟨"/project"⟩ files ⟨2024, 5, 1, 12, 0, 0, 0⟩ ⟨[], 0⟩) [.request idle]
    files.placeOf ⟨"/project/logs/audit.jsonl"⟩ ≠ files.placeOf ⟨"/project/logs/../state.json"⟩ ∧
      (outcome true).2.map (·.2.effects.length) = [1] ∧ (outcome false).2.map (·.2.effects.length) = [0] := by
  intro settings files idle outcome
  refine ⟨by decide +kernel, ?_, ?_⟩
  · change (converse _ _ _).2.map _ = _
    rw [dispatcher_of_unordered rfl rfl]
    decide +kernel
  · change (converse _ _ _).2.map _ = _
    rw [dispatcher_of_unordered rfl rfl]
    decide +kernel

end Service

end AgentHooks
