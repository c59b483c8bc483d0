import AgentHooks.Proofs.Policy.Follow
import Mathlib.Data.List.Forall2

/-! Rosters that agree. Two rosters to which the same sessions come in the same order forget the same ones, and what
they remember of each goes together if it does so at the start and with every change. The context monitor and preemptive
compaction hear the same of a session but for what was put behind a tool's output in between, so they agree on all that
does not come from the text of outputs. -/

namespace AgentHooks

namespace Roster

variable {α β : Type} {R : String → α → β → Prop} {r : Roster α} {r' : Roster β} {session : String}
  {values : List (String × α)} {values' : List (String × β)}

abbrev Paired (R : String → α → β → Prop) : List (String × α) → List (String × β) → Prop :=
  List.Forall₂ fun x y => x.1 = y.1 ∧ R x.1 x.2 y.2

/-- Two rosters have room for as many sessions and list the same ones in the same order, with values that go
together. -/
structure Agree (R : String → α → β → Prop) (r : Roster α) (r' : Roster β) : Prop where
  capacity : r.capacity = r'.capacity
  arrivals : r.arrivals = r'.arrivals
  values : Paired R r.values r'.values

theorem empty_agree (R : String → α → β → Prop) (capacity : Nat) : Agree R (empty capacity) (empty capacity) :=
  ⟨rfl, rfl, .nil⟩

theorem Paired.lookup (paired : Paired R values values') (session : String) :
    Option.Rel (R session) (values.lookup session) (values'.lookup session) := by
  induction paired with
  | nil => exact .none
  | @cons x y rest rest' both _ ih =>
    obtain ⟨key, value⟩ := x
    obtain ⟨key', value'⟩ := y
    obtain ⟨rfl, related⟩ := both
    rw [List.lookup_cons, List.lookup_cons]
    cases same : session == key with
    | true =>
      obtain rfl := beq_iff_eq.1 same
      exact .some related
    | false => exact ih

theorem Paired.without (paired : Paired R values values') (session : String) :
    Paired R (Roster.without session values) (Roster.without session values') := by
  induction paired with
  | nil => exact .nil
  | @cons x y rest rest' both _ ih =>
    simp only [Roster.without, List.filter_cons, ← both.1] at ih ⊢
    split
    · exact .cons both ih
    · exact ih

theorem Paired.makeRoom (capacity : Nat) (arrivals : List String) (paired : Paired R values values') :
    (Roster.makeRoom capacity arrivals values).1 = (Roster.makeRoom capacity arrivals values').1 ∧
      Paired R (Roster.makeRoom capacity arrivals values).2 (Roster.makeRoom capacity arrivals values').2 := by
  induction arrivals generalizing values values' with
  | nil => exact ⟨rfl, paired⟩
  | cons oldest rest ih =>
    rw [Roster.makeRoom, Roster.makeRoom, ← paired.length_eq]
    split
    · exact ⟨rfl, paired⟩
    · exact ih (paired.without oldest)

namespace Agree

variable (agree : Agree R r r')

include agree

theorem get? (session : String) : Option.Rel (R session) (r.get? session) (r'.get? session) :=
  agree.values.lookup session

theorem contains (session : String) : r.contains session = r'.contains session := by
  have both := agree.get? session
  unfold Roster.contains
  generalize r.get? session = x, r'.get? session = y at both
  cases both <;> rfl

theorem getD {start : α} {start' : β} (fresh : R session start start') :
    R session ((r.get? session).getD start) ((r'.get? session).getD start') := by
  have both := agree.get? session
  generalize r.get? session = x, r'.get? session = y at both
  cases both with
  | some related => exact related
  | none => exact fresh

theorem map_get? {γ : Type} {f : α → γ} {g : β → γ} (same : ∀ x y, R session x y → f x = g y) :
    (r.get? session).map f = (r'.get? session).map g := by
  have both := agree.get? session
  generalize r.get? session = x, r'.get? session = y at both
  cases both with
  | some related => exact congrArg some (same _ _ related)
  | none => rfl

theorem exists_get? {x : α} (found : r.get? session = some x) : ∃ y, r'.get? session = some y ∧ R session x y := by
  have both := agree.get? session
  rw [found] at both
  generalize r'.get? session = y at both
  cases both with
  | some related => exact ⟨_, rfl, related⟩

theorem enroll {start : α} {start' : β} (fresh : R session start start') :
    Agree R (r.enroll session start) (r'.enroll session start') := by
  unfold Roster.enroll
  rw [← agree.contains session]
  split
  · exact agree
  · obtain ⟨first, paired⟩ := agree.values.makeRoom r.capacity r.arrivals
    rw [← agree.capacity, ← agree.arrivals]
    exact ⟨rfl, congrArg (· ++ [session]) first, .cons ⟨rfl, fresh⟩ paired⟩

theorem modify {f : α → α} {g : β → β} (keeps : ∀ x y, R session x y → R session (f x) (g y)) :
    Agree R (r.modify session f) (r'.modify session g) := by
  refine ⟨agree.capacity, agree.arrivals, ?_⟩
  simp only [Roster.modify]
  rw [Paired, List.forall₂_map_left_iff, List.forall₂_map_right_iff]
  refine agree.values.imp fun x y both => ?_
  obtain ⟨key, value⟩ := x
  obtain ⟨key', value'⟩ := y
  obtain ⟨rfl, related⟩ := both
  split
  next own =>
    obtain rfl := own
    exact ⟨rfl, keeps _ _ related⟩
  next => exact ⟨rfl, related⟩

theorem remove (session : String) : Agree R (r.remove session) (r'.remove session) := by
  unfold Roster.remove
  rw [← agree.contains session]
  split
  · exact ⟨agree.capacity, congrArg (List.filter _) agree.arrivals, agree.values.without session⟩
  · exact agree

end Agree

end Roster

/-- What two sides know of a session's usage is the same, but for the estimate; that too is the same if it is exact. -/
structure Usage.Agree (exact : Prop) (u v : Usage) : Prop where
  reported : u.reported = v.reported
  limit : u.limit = v.limit
  toolCalls : u.toolCalls = v.toolCalls
  estimated : exact → u.estimated = v.estimated

namespace Usage.Agree

variable {exact : Prop} {u v : Usage} (agree : u.Agree exact v)

theorem refl (exact : Prop) (u : Usage) : u.Agree exact u :=
  ⟨rfl, rfl, rfl, fun _ => rfl⟩

include agree

theorem addOutput {text text' : String} (same : exact → text = text') :
    (u.addOutput text).Agree exact (v.addOutput text') := by
  refine ⟨agree.reported, agree.limit, congrArg (· + 1) agree.toolCalls, fun known => ?_⟩
  rw [Usage.addOutput, Usage.addOutput, agree.estimated known, same known]

theorem addReport (r : UsageReport) : (u.addReport r).Agree exact (v.addReport r) :=
  ⟨rfl, congrArg r.limit.or agree.limit, agree.toolCalls, agree.estimated⟩

theorem reset : u.reset.Agree exact v.reset :=
  ⟨rfl, agree.limit, agree.toolCalls, fun _ => rfl⟩

/-- What the host has reported counts before any estimate. -/
theorem used_of_reported (told : u.reported ≠ .none) : u.used = v.used := by
  unfold used
  rw [← agree.reported]
  cases known : u.reported with
  | none => exact absurd known told
  | some tokens => rfl

theorem eq (known : exact) : u = v := by
  cases u
  cases v
  obtain ⟨rfl, rfl, rfl, estimated⟩ := agree
  obtain rfl := estimated known
  rfl

end Usage.Agree

/-- The context monitor and preemptive compaction agree, on the sessions of `exact` in all that they know of usage. -/
def UsageAgree (exact : String → Prop) : Roster ContextMemory → Roster CompactionMemory → Prop :=
  Roster.Agree fun session m n => m.usage.Agree (exact session) n.usage

/-- Rosters that agree go on agreeing if what is heard of the sessions of `exact` is the same. -/
theorem UsageAgree.follow {exact : String → Prop} {r : Roster ContextMemory} {r' : Roster CompactionMemory}
    (agree : UsageAgree exact r r') (s : ContextSettings) (s' : CompactionSettings) (refuses : Bool) {e : Event}
    {out out' : e.Output} (same : ∀ session, exact session → e.isCallOf session = true → out = out') :
    UsageAgree exact ((ContextPolicy.follower s).follow r (e.tidings out))
      ((CompactionPolicy.follower s' refuses).follow r' (e.tidings out')) := by
  -- Whatever is heard changes the entries of one session in both rosters, so it is enough to compare these.
  have noted : ∀ session own own' f f',
      (∀ u v, Usage.Agree (exact session) u v → Usage.Agree (exact session) (f u) (f' v)) →
        UsageAgree exact ((ContextPolicy.follower s).note r session own f)
          ((CompactionPolicy.follower s' refuses).note r' session own' f') := by
    intro session own own' f f' keeps
    have fresh : Usage.Agree (exact session) ContextMemory.start.usage CompactionMemory.start.usage := .refl _ _
    refine (Roster.Agree.enroll agree fresh).modify fun _ _ _ => ?_
    have recalled := Roster.Agree.getD agree fresh
    simp only [ContextPolicy.follower, CompactionPolicy.follower, (ContextMemory.take_fields _ _ _ _).1,
      (CompactionMemory.take_fields _ _ _ _).1]
    exact keeps _ _ recalled
  cases e with
  | toolAfter call =>
    simp only [Event.tidings]
    split
    · exact agree
    next named =>
      refine noted call.session _ _ _ _ fun _ _ known => known.addOutput fun exactly => ?_
      exact congrArg ToolResult.output (same call.session exactly (by simp [Event.isCallOf, named]))
  | lifecycle e =>
    simp only [Event.tidings]
    cases e.tidings with
    | output session text => exact noted session _ _ _ _ fun _ _ known => known.addOutput fun _ => rfl
    | report p => exact noted p.session _ _ _ _ fun _ _ known => known.addReport p
    | compacted session => exact Roster.Agree.modify agree fun _ _ known => known.reset
    | deleted session => exact Roster.Agree.remove agree session
    | nothing => exact agree
  | toolBefore call => exact agree
  | commandBefore command => exact agree
  | chatMessage turn => exact agree
  | messagesTransform request => exact agree

end AgentHooks
