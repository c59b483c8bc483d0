import AgentHooks.Proofs.Service.Turn

/-! Episodes. As long as a session is neither deleted nor has to make room for others, what a monitor remembers about it
counts its tool calls one by one, and a cooldown holds off what comes too few of them after the last time. -/

namespace AgentHooks

namespace Occurrence

def isCallOf (session : String) : Occurrence → Bool
  | .dispatch a _ => a.event.isCallOf session
  | _ => false

def refuses (c : HostCall) : Occurrence → Bool
  | .dispatch _ conduct => conduct.refuses c
  | _ => false

end Occurrence

namespace Service

open World

variable {settings : Settings} {session : String} {w : World} {run more : List Occurrence} {o : Occurrence}

def calls (session : String) (run : List Occurrence) : Nat :=
  run.countP (·.isCallOf session)

theorem calls_append (session : String) (run more : List Occurrence) :
    calls session (run ++ more) = calls session run + calls session more :=
  List.countP_append

theorem calls_concat (session : String) (run : List Occurrence) (o : Occurrence) :
    calls session (run ++ [o]) = calls session run + (o.isCallOf session).toNat := by
  rw [calls_append]
  refine congrArg (calls session run + ·) ?_
  rw [calls, List.countP_singleton]
  cases o.isCallOf session <;> rfl

/-- What holds wherever a list is cut at one of its elements holds at the last one and, with that behind the cut, at those
before it. -/
theorem forall_cut_concat {α : Type} {P : List α → α → List α → Prop} {xs : List α} {x : α} :
    (∀ before y later, xs ++ [x] = before ++ y :: later → P before y later) ↔
      P xs x [] ∧ ∀ before y later, xs = before ++ y :: later → P before y (later ++ [x]) := by
  constructor
  · refine fun all => ⟨all xs x [] rfl, fun before y later split => all before y (later ++ [x]) ?_⟩
    rw [split, List.append_assoc, List.cons_append]
  · rintro ⟨last, earlier⟩ before y later split
    rcases List.eq_nil_or_concat later with rfl | ⟨later, z, rfl⟩
    · obtain ⟨rfl, same⟩ := List.append_inj' split rfl
      obtain rfl := List.singleton_inj.1 same
      exact last
    · have longer : xs ++ [x] = (before ++ y :: later) ++ [z] := by simpa using split
      obtain ⟨shorter, same⟩ := List.append_inj' longer rfl
      obtain rfl := List.singleton_inj.1 same
      rw [List.concat_eq_append]
      exact earlier before y later shorter

section Stays

variable {α : Type} {roster : World → Roster α}

def Stays (settings : Settings) (roster : World → Roster α) (session : String) : World → List Occurrence → Prop
  | _, [] => True
  | w, o :: rest =>
    ((roster w).contains session = true → (roster (occur settings w o).1).contains session = true) ∧
      Stays settings roster session (occur settings w o).1 rest

theorem stays_append : Stays settings roster session w (run ++ more) ↔
    Stays settings roster session w run ∧ Stays settings roster session (after settings w run) more := by
  induction run generalizing w with
  | nil => exact ⟨fun stays => ⟨trivial, stays⟩, And.right⟩
  | cons o rest ih =>
    simp only [List.cons_append, Stays, ih, and_assoc]
    rfl

theorem Stays.get? (stays : Stays settings roster session w (o :: run))
    (kept : (roster (occur settings w o).1).get? session = (roster w).get? session ∨
      (roster (occur settings w o).1).get? session = none) :
    (roster (occur settings w o).1).get? session = (roster w).get? session := by
  rcases kept with same | gone
  · exact same
  · cases before : (roster w).get? session with
    | none => exact gone
    | some value =>
      have there := stays.1 (by simp [Roster.contains, before])
      simp [Roster.contains, gone] at there

end Stays

/-! Cooldowns. -/

/-- What is remembered of something that happens at some of the occurrences of a run: the number of tool calls at the
last time, or `before` if it has not happened, as far as cooldowns are concerned. The session had made `start` calls
before the run. -/
def Remembers (settings : Settings) (session : String) (happens : World → Occurrence → Prop) (start : Nat)
    (before : Option Nat) (w : World) (run : List Occurrence) (last : Option Nat) : Prop :=
  ∀ now cooldown, start + calls session run ≤ now →
    (cooledDown last now cooldown = true ↔ cooledDown before now cooldown = true ∧
      ∀ first o rest, run = first ++ o :: rest → happens (after settings w first) o →
        cooldown ≤ now - (start + calls session (first ++ [o])))

namespace Remembers

variable {happens : World → Occurrence → Prop} {start : Nat} {before last : Option Nat}

theorem nil (settings : Settings) (session : String) (happens : World → Occurrence → Prop) (start : Nat)
    (before : Option Nat) (w : World) : Remembers settings session happens start before w [] before := by
  intro now cooldown _
  refine ⟨fun cooled => ⟨cooled, fun first o rest nothing => ?_⟩, And.left⟩
  simp at nothing

theorem skip (remembers : Remembers settings session happens start before w run last)
    (idle : ¬happens (after settings w run) o) :
    Remembers settings session happens start before w (run ++ [o]) last := by
  intro now cooldown late
  rw [calls_concat] at late
  rw [remembers now cooldown (by omega)]
  refine and_congr_right fun _ => ?_
  rw [forall_cut_concat (P := fun first o' _ => happens (after settings w first) o' →
    cooldown ≤ now - (start + calls session (first ++ [o'])))]
  exact (and_iff_right fun busy => absurd busy idle).symm

theorem mark (happening : happens (after settings w run) o) (past : ∀ m ∈ before, m ≤ start) :
    Remembers settings session happens start before w (run ++ [o])
      (some (start + calls session (run ++ [o]))) := by
  intro now cooldown late
  simp only [cooledDown, decide_eq_true_eq]
  refine ⟨fun cooled => ⟨?_, fun first o' rest split _ => ?_⟩, fun all => all.2 run o [] rfl happening⟩
  · cases before with
    | none => rfl
    | some m =>
      have earlier := past m rfl
      exact decide_eq_true (by omega)
  · -- The number of calls never falls, so what is far enough from the last time is far enough from the earlier ones.
    have whole : run ++ [o] = (first ++ [o']) ++ rest := by rw [split, List.append_assoc, List.singleton_append]
    rw [whole, calls_append] at cooled
    omega

/-- What every occurrence counts and remembers while a session stays is counted and remembered over a run. -/
theorem of_steps {α : Type} {roster : World → Roster α} (happens : World → Occurrence → Prop) (count : World → Nat)
    (last : World → Option Nat)
    (steps : ∀ v o, Stays settings roster session v [o] →
      count (occur settings v o).1 = count v + (o.isCallOf session).toNat ∧
        (happens v o → last (occur settings v o).1 = some (count (occur settings v o).1)) ∧
        (¬happens v o → last (occur settings v o).1 = last v))
    (past : ∀ m ∈ last w, m ≤ count w) (stays : Stays settings roster session w run) :
    count (after settings w run) = count w + calls session run ∧
      Remembers settings session happens (count w) (last w) w run (last (after settings w run)) := by
  -- From the end of the run, because `last` tells only what the last occurrence has made of it.
  induction run using List.reverseRecOn with
  | nil => exact ⟨rfl, .nil _ _ _ _ _ _⟩
  | append_singleton run o ih =>
    obtain ⟨stayed, here⟩ := stays_append.1 stays
    obtain ⟨number, remembers⟩ := ih stayed
    obtain ⟨counted, marked, kept⟩ := steps _ o here
    have number' : count (occur settings (after settings w run) o).1 = count w + calls session (run ++ [o]) := by
      rw [counted, number, calls_concat, Nat.add_assoc]
    rw [after_concat]
    refine ⟨number', ?_⟩
    by_cases happening : happens (after settings w run) o
    · rw [marked happening, number']
      exact .mark happening past
    · rw [kept happening]
      exact remembers.skip happening

/-- At a session's first call and later, the cooldown is over if the last time, and so every time, is far enough away. -/
theorem cooled_iff (remembers : Remembers settings session happens 0 none w run last) (o : Occurrence)
    (cooldown : Nat) :
    cooledDown last (calls session (run ++ [o])) cooldown = true ↔
      ∀ first p rest, run = first ++ p :: rest → happens (after settings w first) p →
        cooldown ≤ calls session (run ++ [o]) - calls session (first ++ [p]) := by
  rw [remembers _ cooldown (by rw [calls_concat]; omega)]
  simp only [cooledDown, true_and, Nat.zero_add]

theorem apart (remembers : Remembers settings session happens start (some start) w run last) {cooldown : Nat}
    (cooled : cooledDown last (start + calls session (run ++ [o])) cooldown = true) :
    cooldown ≤ calls session (run ++ [o]) := by
  have apart := ((remembers _ cooldown (by rw [calls_concat]; omega)).1 cooled).1
  rw [cooledDown, decide_eq_true_eq] at apart
  omega

end Remembers

end Service

end AgentHooks
