import AgentHooks.Proofs.Loop.Access
import AgentHooks.Proofs.World.Quiet

/-! Worlds that the hooks cannot tell apart. Their journals and files may differ, but not in a way that a reader of
the loop's file would notice, neither now nor after both have taken the same step. -/

namespace AgentHooks

/-- A relation between trees, one with the journal `j` and one with the journal `k`, whose differences do not
show in the loop's file at `p`: the same is found there or nothing, and lines in the journals and what is done
to that file keep the trees related. Where nothing is found for different reasons, a line may be due in one tree
and not in the other, or another line there; these keep them related too. -/
structure Overlooked (p : Path) (j k : Journal) (F : FileTree → FileTree → Prop) : Prop where
  record : ∀ {t s}, F t s → ∀ e, F (j.record e t) (k.record e s)
  read : ∀ {t s}, F t s → t.fetch p = s.fetch p ∨
    ((∃ e, t.fetch p = .error e) ∧ ∃ e, s.fetch p = .error e) ∧
      (∀ e, F (j.record e t) s) ∧ (∀ e, F t (k.record e s)) ∧ ∀ e e', F (j.record e t) (k.record e' s)
  set : ∀ {t s content}, F t s → t.fetch p = .ok content → s.fetch p = .ok content →
    ∀ next, F (t.set (t.placeOf p) (.file next)) (s.set (s.placeOf p) (.file next))
  erase : ∀ {t s content}, F t s → t.fetch p = .ok content → s.fetch p = .ok content →
    F (t.erase (t.placeOf p)) (s.erase (s.placeOf p))

/-- Worlds that differ in nothing but their journals and trees, and in these only as `F` has it. No other
process touches the loop's file. -/
structure Alike (p : Path) (j k : Journal) (F : FileTree → FileTree → Prop) (u v : World) : Prop where
  rest : v = { u with journal := k, files := v.files }
  loopFile : u.loopFile = p
  journal : u.journal = j
  alone : u.Undisturbed
  files : F u.files v.files

namespace World

def note (w : World) : Option Remark → World
  | some r => w.remark r
  | none => w

def stoppedAfter (w : World) (c : HostCall) : NameSet :=
  match (w.disturbance c).stops with
  | some session => w.stopped.insert session
  | none => w.stopped

def refusal (w : World) (c : HostCall) : Option Fault :=
  if (w.disturbance c).refuses then some (.host (c.name ++ " unavailable")) else none

theorem call_of_alone {w : World} (alone : w.Undisturbed) (c : HostCall) :
    w.call c = ({ w with stopped := w.stoppedAfter c }, w.refusal c) := by
  simp only [call, disturb, alone c, stoppedAfter, refusal]
  cases (w.disturbance c).stops <;> rfl

end World

namespace Alike

open World

variable {p : Path} {j k : Journal} {F : FileTree → FileTree → Prop} {u v : World}

theorem map (alike : Alike p j k F u v) {g : World → World}
    (blind : ∀ w journal files, g { w with journal, files } = { g w with journal, files })
    (files : (g u).files = u.files) (journal : (g u).journal = u.journal)
    (loopFile : (g u).loopFile = u.loopFile) (disturbance : (g u).disturbance = u.disturbance) :
    Alike p j k F (g u) (g v) := by
  have rest : g v = { g u with journal := k, files := v.files } := by
    rw [← blind, ← alike.rest]
  have kept : (g v).files = v.files := by rw [rest]
  refine ⟨by rw [kept, rest], loopFile.trans alike.loopFile, journal.trans alike.journal, fun c => ?_, ?_⟩
  · rw [disturbance]
    exact alike.alone c
  · rw [files, kept]
    exact alike.files

section

variable (alike : Alike p j k F u v)

include alike

theorem now : v.now = u.now := by rw [alike.rest]

theorem host : v.host = u.host := by rw [alike.rest]

theorem sampler : v.sampler = u.sampler := by rw [alike.rest]

theorem stopped : v.stopped = u.stopped := by rw [alike.rest]

theorem pressure : v.pressure = u.pressure := by rw [alike.rest]

theorem context : v.context = u.context := by rw [alike.rest]

theorem compaction : v.compaction = u.compaction := by rw [alike.rest]

theorem disturbance : v.disturbance = u.disturbance := by rw [alike.rest]

theorem loopFile' : v.loopFile = p := by rw [alike.rest, alike.loopFile]

theorem journal' : v.journal = k := by rw [alike.rest]

theorem cell : v.cell = u.cell := by rw [World.cell, World.cell, alike.now, alike.loopFile', alike.loopFile]

theorem alone' : v.Undisturbed := by
  intro c
  rw [alike.disturbance]
  exact alike.alone c

theorem isStopped (session : String) : v.isStopped session = u.isStopped session := by
  rw [World.isStopped, World.isStopped, alike.stopped]

end

theorem of_files (alike : Alike p j k F u v) {G : FileTree → FileTree → Prop} {t s : FileTree} (related : G t s) :
    Alike p j k G { u with files := t } { v with files := s } := by
  refine ⟨?_, alike.loopFile, alike.journal, alike.alone, related⟩
  rw [alike.rest]

theorem remark_of_record (alike : Alike p j k F u v) {G : FileTree → FileTree → Prop}
    (recorded : ∀ e, G (j.record e u.files) (k.record e v.files)) (r : Remark) :
    Alike p j k G (u.remark r) (v.remark r) := by
  have recorded := recorded ⟨u.now, r⟩
  rw [← alike.journal, ← alike.journal'] at recorded
  have same : v.remark r = { v with files := v.journal.record ⟨u.now, r⟩ v.files } := by
    rw [World.remark, alike.now]
  rw [same]
  exact alike.of_files recorded

theorem symm (alike : Alike p j k F u v) {G : FileTree → FileTree → Prop} (related : G v.files u.files) :
    Alike p k j G v u := by
  refine ⟨?_, alike.loopFile', alike.journal', alike.alone', related⟩
  rw [alike.rest, ← alike.journal]

theorem trans {l : Journal} {G H : FileTree → FileTree → Prop} {w : World} (first : Alike p j k F u v)
    (second : Alike p k l G v w) (related : H u.files w.files) : Alike p j l H u w := by
  refine ⟨?_, first.loopFile, first.journal, first.alone, related⟩
  rw [second.rest, first.rest]

variable (o : Overlooked p j k F)

include o

theorem remark (alike : Alike p j k F u v) (r : Remark) : Alike p j k F (u.remark r) (v.remark r) :=
  alike.remark_of_record (o.record alike.files) r

theorem note (alike : Alike p j k F u v) (r : Option Remark) : Alike p j k F (u.note r) (v.note r) := by
  cases r with
  | none => exact alike
  | some r => exact alike.remark o r

theorem reading (alike : Alike p j k F u v) :
    (∃ content, u.files.fetch u.cell.path = .ok content ∧ v.files.fetch u.cell.path = .ok content) ∨
      ∃ e e', u.files.fetch u.cell.path = .error e ∧ v.files.fetch u.cell.path = .error e' := by
  have path : u.cell.path = p := alike.loopFile
  rw [path]
  rcases o.read alike.files with same | ⟨⟨⟨e, unread⟩, e', unread'⟩, -⟩
  · cases found : u.files.fetch p with
    | ok content => exact .inl ⟨content, rfl, same.symm.trans found⟩
    | error e => exact .inr ⟨e, e, rfl, same.symm.trans found⟩
  · exact .inr ⟨e, e', unread, unread'⟩

theorem set (alike : Alike p j k F u v) {content : Content} (found : u.files.fetch u.cell.path = .ok content)
    (found' : v.files.fetch u.cell.path = .ok content) (next : String) :
    Alike p j k F { u with files := u.files.set (u.files.placeOf u.cell.path) (.file next) }
      { v with files := v.files.set (v.files.placeOf u.cell.path) (.file next) } := by
  have path : u.cell.path = p := alike.loopFile
  rw [path] at found found' ⊢
  exact alike.of_files (o.set alike.files found found' next)

theorem erase (alike : Alike p j k F u v) {content : Content} (found : u.files.fetch u.cell.path = .ok content)
    (found' : v.files.fetch u.cell.path = .ok content) :
    Alike p j k F { u with files := u.files.erase (u.files.placeOf u.cell.path) }
      { v with files := v.files.erase (v.files.placeOf u.cell.path) } := by
  have path : u.cell.path = p := alike.loopFile
  rw [path] at found found' ⊢
  exact alike.of_files (o.erase alike.files found found')

/-- What is noted about a file that cannot be read may depend on the reason. -/
theorem note_of_unread (alike : Alike p j k F u v) {e e' : FileError}
    (unread : u.files.fetch u.cell.path = .error e) (unread' : v.files.fetch u.cell.path = .error e')
    (say : FileError → Option Remark) :
    Alike p j k F (u.note (say e)) (v.note (say e')) := by
  have path : u.cell.path = p := alike.loopFile
  rw [path] at unread unread'
  have noted : ∀ r, v.remark r = { v with files := k.record ⟨u.now, r⟩ v.files } := by
    intro r
    rw [World.remark, alike.now, alike.journal']
  have noted' : ∀ r, u.remark r = { u with files := j.record ⟨u.now, r⟩ u.files } := by
    intro r
    rw [World.remark, alike.journal]
  rcases o.read alike.files with same | ⟨-, left, right, both⟩
  · rw [unread, unread'] at same
    cases same
    exact alike.note o _
  · cases say e with
    | none =>
      cases say e' with
      | none => exact alike
      | some r' =>
        rw [World.note, World.note, noted]
        exact alike.of_files (right _)
    | some r =>
      cases say e' with
      | none =>
        rw [World.note, World.note, noted']
        exact alike.of_files (left _)
      | some r' =>
        rw [World.note, World.note, noted, noted']
        exact alike.of_files (both _ _)

omit o

/-! The host. -/

theorem call (alike : Alike p j k F u v) (c : HostCall) :
    (v.call c).2 = (u.call c).2 ∧ Alike p j k F (u.call c).1 (v.call c).1 := by
  have refused : v.refusal c = u.refusal c := by rw [refusal, refusal, alike.disturbance]
  have latched : v.stoppedAfter c = u.stoppedAfter c := by
    rw [stoppedAfter, stoppedAfter, alike.disturbance, alike.stopped]
  rw [call_of_alone alike.alone, call_of_alone alike.alone', refused, latched]
  exact ⟨rfl, alike.map (g := fun w => { w with stopped := u.stoppedAfter c })
    (fun _ _ _ => rfl) rfl rfl rfl rfl⟩

theorem ask {α : Type} (alike : Alike p j k F u v) (c : HostCall) (session : String)
    (field : Snapshot → α) :
    (v.ask c session field).2 = (u.ask c session field).2 ∧
      Alike p j k F (u.ask c session field).1 (v.ask c session field).1 := by
  obtain ⟨same, called⟩ := alike.call c
  unfold World.ask
  generalize u.call c = left at same called ⊢
  generalize v.call c = right at same called ⊢
  obtain ⟨u', fault⟩ := left
  obtain ⟨v', fault'⟩ := right
  cases same
  cases fault with
  | some fault => exact ⟨rfl, called⟩
  | none =>
    have told : v'.host = u'.host := called.host
    exact ⟨by simp only [told], called⟩

theorem request (alike : Alike p j k F u v) (c : HostCall) (a : Action) :
    (v.request c a).2 = (u.request c a).2 ∧ Alike p j k F (u.request c a).1 (v.request c a).1 := by
  obtain ⟨same, called⟩ := alike.call c
  unfold World.request
  generalize u.call c = left at same called ⊢
  generalize v.call c = right at same called ⊢
  obtain ⟨u', fault⟩ := left
  obtain ⟨v', fault'⟩ := right
  cases same
  cases fault with
  | some fault => exact ⟨rfl, called⟩
  | none =>
    exact ⟨rfl, called.map (g := fun w => { w with host := w.host.push a }) (fun _ _ _ => rfl) rfl rfl rfl rfl⟩

theorem notify (alike : Alike p j k F u v) (session title message : String) (level : NoticeLevel) :
    Alike p j k F (u.notify session title message level) (v.notify session title message level) :=
  (alike.request .notify _).2

theorem sample (alike : Alike p j k F u v) :
    v.sample.2 = u.sample.2 ∧ Alike p j k F u.sample.1 v.sample.1 := by
  refine ⟨?_, alike.map (g := fun w => w.sample.1) (fun _ _ _ => rfl) rfl rfl rfl rfl⟩
  simp only [World.sample, alike.sampler]

end Alike

end AgentHooks
