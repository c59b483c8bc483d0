import AgentHooks.Proofs.Policy.Usage

/-! Rosters that follow the usage of sessions. The context monitor and preemptive compaction keep theirs in the same
way: who is heard of has an entry, which changes with the session's usage, starts over after a compaction, and ends with
the session. They differ in what they write down when usage changes. -/

namespace AgentHooks

def Tidings.session? : Tidings → Option String
  | .output session _ => some session
  | .report r => some r.session
  | .compacted session => some session
  | .deleted session => some session
  | .nothing => none

theorem LifecycleEvent.filled_of_session? {e : LifecycleEvent} {session : String}
    (named : e.session? = some session) : session ≠ "" := by
  simpa using (Option.filter_eq_some_iff.1 named).2

theorem Event.session_of_tidings {e : Event} {out : e.Output} {session : String}
    (about : (e.tidings out).session? = some session) : e.session = session ∧ session ≠ "" := by
  cases e with
  | toolAfter call =>
    simp only [tidings] at about
    split at about
    · cases about
    next named =>
      cases about
      exact ⟨rfl, named⟩
  | lifecycle e =>
    have named : e.session? = some session := by
      simp only [tidings, LifecycleEvent.tidings] at about
      split at about
      next report heard =>
        cases about
        exact (UsageReport.ofEvent?_eq_some heard).1
      · split at about
        · cases about
        next owner named =>
          split at about
          · cases about
            exact named
          · split at about
            · cases about
              exact named
            · cases about
    exact ⟨by rw [Event.session, named, Option.getD_some], LifecycleEvent.filled_of_session? named⟩
  | toolBefore call => cases about
  | commandBefore command => cases about
  | chatMessage turn => cases about
  | messagesTransform request => cases about

/-- How a roster follows the usage of sessions: where an entry starts, what a change of usage makes of it, at a call of
the session or by a report, and what a compaction makes of it. -/
structure Follower (α : Type) where
  start : α
  take : Bool → (Usage → Usage) → α → α
  compacted : α → α

namespace Follower

variable {α : Type} (F : Follower α) (r : Roster α)

def note (session : String) (own : Bool) (f : Usage → Usage) : Roster α :=
  (r.enroll session F.start).modify session fun _ => F.take own f ((r.get? session).getD F.start)

def follow : Tidings → Roster α
  | .output session text => F.note r session true (·.addOutput text)
  | .report p => F.note r p.session false (·.addReport p)
  | .compacted session => r.modify session F.compacted
  | .deleted session => r.remove session
  | .nothing => r

variable {F r} {r' : Roster α} {session : String} {t : Tidings}

theorem get?_note_self (own : Bool) (f : Usage → Usage) :
    (F.note r session own f).get? session = some (F.take own f ((r.get? session).getD F.start)) :=
  Roster.get?_enter_self _ _ _ _

theorem note_tidy (tidy : r.Tidy) (session : String) (own : Bool) (f : Usage → Usage) :
    (F.note r session own f).Tidy := by
  rw [note]
  exact (tidy.enroll session F.start).modify session _

theorem follow_tidy (tidy : r.Tidy) (t : Tidings) : (F.follow r t).Tidy := by
  cases t with
  | output session text => exact note_tidy tidy session true _
  | report p => exact note_tidy tidy p.session false _
  | compacted session => exact tidy.modify session F.compacted
  | deleted session => exact tidy.remove session
  | nothing => exact tidy

theorem get?_follow_congr (same : r.get? session = r'.get? session) (about : ∀ s ∈ t.session?, s = session) :
    (F.follow r t).get? session = (F.follow r' t).get? session := by
  cases t with
  | output owner text =>
    obtain rfl := about owner rfl
    rw [follow, follow, get?_note_self, get?_note_self, same]
  | report p =>
    obtain rfl := about p.session rfl
    rw [follow, follow, get?_note_self, get?_note_self, same]
  | compacted owner =>
    obtain rfl := about owner rfl
    rw [follow, follow, Roster.get?_modify_self, Roster.get?_modify_self, same]
  | deleted owner =>
    obtain rfl := about owner rfl
    rw [follow, follow, Roster.get?_remove_self, Roster.get?_remove_self]
  | nothing => exact same

section Fits

variable {known : List String} (fits : r.Fits known) (among : ∀ s ∈ t.session?, s ∈ known)

include fits among

theorem follow_fits : (F.follow r t).Fits known := by
  have noted : ∀ session own f, session ∈ known → (F.note r session own f).Fits known := by
    intro session own f member
    rw [note]
    exact (fits.enroll member F.start).modify session _
  cases t with
  | output session text => exact noted session _ _ (among session rfl)
  | report p => exact noted p.session _ _ (among p.session rfl)
  | compacted session => exact fits.modify session F.compacted
  | deleted session => exact fits.remove session
  | nothing => exact fits

/-- Where there is room for all, what is heard of one session does not matter to the others. -/
theorem get?_follow_other (other : t.session? ≠ some session) :
    (F.follow r t).get? session = r.get? session := by
  have noted : ∀ owner own f, owner ∈ known → owner ≠ session →
      (F.note r owner own f).get? session = r.get? session := by
    intro owner own f member apart
    rw [note, Roster.get?_modify_other (Ne.symm apart), fits.get?_enroll member (Ne.symm apart)]
  cases t with
  | output owner text => exact noted owner _ _ (among owner rfl) fun same => other (congrArg some same)
  | report p => exact noted p.session _ _ (among p.session rfl) fun same => other (congrArg some same)
  | compacted owner => exact Roster.get?_modify_other (fun same => other (congrArg some same.symm)) _ _
  | deleted owner => exact Roster.get?_remove_other (fun same => other (congrArg some same.symm)) _
  | nothing => rfl

end Fits

end Follower

namespace ContextPolicy

def follower (s : ContextSettings) : Follower ContextMemory :=
  ⟨.start, fun own f m => m.take s own f, ContextMemory.compacted⟩

variable {w : World}

theorem handle_follows (tidy : w.context.Tidy) (s : ContextSettings) (e : Event) (out : e.Output) :
    (handle s e out w).state.context = (follower s).follow w.context (e.tidings out) := by
  rw [handle_context]
  cases e.tidings out with
  | report r =>
    have entered := Roster.get?_enroll_self w.context r.session ContextMemory.start
    exact (tidy.enroll r.session .start).modify_eq entered _
  | _ => rfl

end ContextPolicy

namespace CompactionPolicy

def follower (s : CompactionSettings) (refuses : Bool) : Follower CompactionMemory :=
  ⟨.start, fun _ f m => m.take s refuses f, CompactionMemory.compacted⟩

theorem observe_compaction (s : CompactionSettings) (w : World) (session event : String) (own : Bool)
    (f : Usage → Usage) :
    (observe s w session event f).compaction =
      (follower s (w.disturbance .summarize).refuses).note w.compaction session own f := by
  have recalled : ((w.compaction.enroll session .start).get? session).getD .start = memory session w := by
    rw [Roster.get?_enroll_self]
    rfl
  obtain ⟨asked, taken⟩ := (memory session w).observe_eq s (w.disturbance .summarize).refuses f
  change _ = (w.compaction.enroll session .start).modify session fun _ =>
    (memory session w).take s (w.disturbance .summarize).refuses f
  rw [taken]
  simp only [observe, recalled]
  split
  next due =>
    rw [compact_compaction, ← asked, due, Bool.true_and]
    -- The latch is released in the entry that has just been written.
    split
    · exact Roster.modify_modify _ _ _ _
    · rfl
  next idle => rw [← asked, Bool.eq_false_iff.2 idle]; rfl

theorem handle_follows (s : CompactionSettings) (e : Event) (out : e.Output) (w : World) :
    (handle s e out w).state.compaction =
      (follower s (w.disturbance .summarize).refuses).follow w.compaction (e.tidings out) := by
  rw [handle_eq]
  cases e.tidings out with
  | output session text => exact observe_compaction s w session _ true _
  | report r => exact observe_compaction s w r.session _ false _
  | _ => rfl

end CompactionPolicy

end AgentHooks
