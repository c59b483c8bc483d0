import AgentHooks.Proofs.Session.Roster

/-! A roster is a queue with a bounded number of places. Whatever is done with it, it answers as a list of pairs would
that is kept in the order in which the sessions came, and from which the first pair goes when a new session finds the
list full. -/

namespace AgentHooks.Roster

variable {α : Type} {r : Roster α}

/-- What can be done with a roster. Whoever enters a session, which makes an entry for it if there is none, or updates it,
gets to see what is remembered and may change it. -/
inductive Use (α : Type) where
  | enter (session : String) (initial : α) (change : α → α)
  | update (session : String) (change : α → α)
  | get (session : String)
  | ask (session : String)
  | remove (session : String)

inductive Reply (α : Type) where
  | value (found : Option α)
  | known (yes : Bool)

def perform (r : Roster α) : Use α → Reply α × Roster α
  | .enter session initial change =>
    (.value ((r.enroll session initial).get? session), (r.enroll session initial).modify session change)
  | .update session change => (.value (r.get? session), r.modify session change)
  | .get session => (.value (r.get? session), r)
  | .ask session => (.known (r.contains session), r)
  | .remove session => (.value (r.get? session), r.remove session)

/-! The plain list. -/

abbrev Queue (α : Type) := List (String × α)

namespace Queue

def change (session : String) (f : α → α) (q : Queue α) : Queue α :=
  q.map fun entry => if entry.1 = session then (entry.1, f entry.2) else entry

/-- A new pair comes last; if the list is full, the first pair goes. -/
def enter (places : Nat) (session : String) (initial : α) (q : Queue α) : Queue α :=
  if (q.lookup session).isSome then q
  else (if q.length < places then q else q.tail) ++ [(session, initial)]

def perform (places : Nat) (q : Queue α) : Use α → Reply α × Queue α
  | .enter session initial f =>
    (.value ((q.enter places session initial).lookup session), change session f (q.enter places session initial))
  | .update session f => (.value (q.lookup session), change session f q)
  | .get session => (.value (q.lookup session), q)
  | .ask session => (.known (q.lookup session).isSome, q)
  | .remove session => (.value (q.lookup session), q.filter (·.1 ≠ session))

end Queue

def play {σ : Type} (step : σ → Use α → Reply α × σ) (start : σ) : List (Use α) → List (Reply α) × σ
  | [] => ([], start)
  | use :: rest =>
    let later := play step (step start use).2 rest
    ((step start use).1 :: later.1, later.2)

/-! The pairs of a roster. -/

theorem lookup_filterMap (find : String → Option α) (session : String) (sessions : List String) :
    (sessions.filterMap fun other => (find other).map (other, ·)).lookup session =
      if session ∈ sessions then find session else none := by
  induction sessions with
  | nil => rfl
  | cons first rest ih =>
    by_cases same : session = first
    · subst same
      rw [if_pos List.mem_cons_self]
      cases found : find session with
      | none =>
        rw [List.filterMap_cons_none (by rw [found]; rfl), ih, found]
        exact ite_self none
      | some value =>
        rw [List.filterMap_cons_some (by rw [found]; rfl)]
        exact List.lookup_cons_self
    · have listed : session ∈ first :: rest ↔ session ∈ rest := by simp [same]
      rw [← if_congr listed rfl rfl] at ih
      cases found : find first with
      | none => rw [List.filterMap_cons_none (by rw [found]; rfl), ih]
      | some value =>
        rw [List.filterMap_cons_some (by rw [found]; rfl), List.lookup_cons, beq_false_of_ne same, ih]

theorem Tidy.lookup_toList (tidy : r.Tidy) (session : String) : r.toList.lookup session = r.get? session := by
  rw [toList, lookup_filterMap]
  split
  · rfl
  next absent =>
    exact (Option.not_isSome_iff_eq_none.1 fun known => absent (tidy.mem_arrivals.2 known)).symm

theorem Tidy.keys_toList (tidy : r.Tidy) : r.toList.map Prod.fst = r.arrivals := by
  have named : ∀ session ∈ r.arrivals, ((r.get? session).map (session, ·)).map Prod.fst = some session := by
    intro session listed
    obtain ⟨value, found⟩ := Option.isSome_iff_exists.1 (tidy.mem_arrivals.1 listed)
    rw [found]
    rfl
  rw [toList, List.map_filterMap, List.filterMap_congr named, List.filterMap_some]

theorem Tidy.length_toList (tidy : r.Tidy) : r.toList.length = r.size := by
  rw [tidy.size_eq, ← tidy.keys_toList, List.length_map]

theorem toList_modify (r : Roster α) (session : String) (f : α → α) :
    (r.modify session f).toList = Queue.change session f r.toList := by
  rw [toList, Queue.change, toList, List.map_filterMap]
  refine List.filterMap_congr fun other _ => ?_
  by_cases own : other = session
  · subst own
    rw [get?_modify_self, Option.map_map, Option.map_map]
    refine congrArg (Option.map · (r.get? other)) (funext fun value => ?_)
    simp
  · rw [get?_modify_other own, Option.map_map]
    refine congrArg (Option.map · (r.get? other)) (funext fun value => ?_)
    simp [own]

/-- A new session comes last. The one that came first has to go if there is no room, and no other. -/
theorem Tidy.enroll_new (tidy : r.Tidy) (new : ¬r.contains session = true) (initial : α) :
    ∃ gone kept, r.arrivals = gone ++ kept ∧ (r.enroll session initial).arrivals = kept ++ [session] ∧
      gone.length = (if r.size < r.capacity then 0 else 1) ∧
      ∀ other ∈ kept, (r.enroll session initial).get? other = r.get? other := by
  have apart : ∀ other ∈ r.arrivals, other ≠ session := fun other member same =>
    new (tidy.mem_arrivals.1 (same ▸ member))
  have left : r.enroll session initial =
      { r with
        values := (session, initial) :: (makeRoom r.capacity r.arrivals r.values).2
        arrivals := (makeRoom r.capacity r.arrivals r.values).1 ++ [session] } := by
    rw [Roster.enroll, if_neg new]
  by_cases room : r.size < r.capacity
  · rw [left, makeRoom_of_room room, if_pos room]
    refine ⟨[], r.arrivals, rfl, rfl, rfl, fun other member => ?_⟩
    simp only [get?, List.lookup_cons, beq_false_of_ne (apart other member)]
  · obtain ⟨oldest, rest, came⟩ : ∃ oldest rest, r.arrivals = oldest :: rest := by
      refine List.exists_cons_of_ne_nil fun nobody => room ?_
      rw [tidy.size_eq, nobody]
      exact tidy.room
    have keys := tidy.keys
    have once := tidy.once
    rw [came] at keys once
    -- There are no more sessions than places, so it is enough that one goes.
    have room' : (without oldest r.values).length < r.capacity := by
      have fewer := (keys_without_first once keys).length_eq
      have bounded := tidy.bounded
      rw [tidy.size_eq, came, List.length_cons] at bounded
      rw [List.length_map] at fewer
      omega
    have made : makeRoom r.capacity r.arrivals r.values = (rest, without oldest r.values) := by
      have full : ¬r.values.length < r.capacity := room
      rw [came, makeRoom, if_neg full, makeRoom_of_room room']
    rw [left, made, if_neg room]
    refine ⟨[oldest], rest, came, rfl, rfl, fun other member => ?_⟩
    have stays : other ≠ oldest := fun same => (List.nodup_cons.1 once).1 (same ▸ member)
    have member' : other ∈ r.arrivals := by
      rw [came]
      exact List.mem_cons_of_mem oldest member
    simp only [get?, List.lookup_cons, beq_false_of_ne (apart other member'), lookup_without stays]

theorem Tidy.toList_enroll (tidy : r.Tidy) (session : String) (initial : α) :
    (r.enroll session initial).toList = Queue.enter r.capacity session initial r.toList := by
  rw [Queue.enter, tidy.lookup_toList, tidy.length_toList]
  change _ = if r.contains session = true then _ else _
  by_cases known : r.contains session = true
  · rw [if_pos known, Roster.enroll, if_pos known]
  · obtain ⟨gone, kept, came, stand, count, same⟩ := tidy.enroll_new known initial
    have last : (r.enroll session initial).get? session = some initial := by
      rw [get?_enroll_self, Option.not_isSome_iff_eq_none.1 known, Option.getD_none]
    have pairs : (r.enroll session initial).toList =
        kept.filterMap (fun other => (r.get? other).map (other, ·)) ++ [(session, initial)] := by
      rw [toList, stand, List.filterMap_append, List.filterMap_cons_some (by rw [last]; rfl), List.filterMap_nil]
      refine congrArg (· ++ [(session, initial)]) (List.filterMap_congr fun other member => ?_)
      rw [same other member]
    rw [if_neg known, pairs, toList, came]
    split at count
    next room =>
      rw [List.length_eq_zero_iff.1 count, List.nil_append, if_pos room]
    next full =>
      obtain ⟨oldest, rfl⟩ := List.length_eq_one_iff.1 count
      have first : oldest ∈ r.arrivals := by
        rw [came]
        exact List.mem_cons_self
      obtain ⟨value, found⟩ := Option.isSome_iff_exists.1 (tidy.mem_arrivals.1 first)
      rw [if_neg full, List.singleton_append, List.filterMap_cons_some (by rw [found]; rfl), List.tail_cons]

/-! One use. -/

theorem Tidy.perform (tidy : r.Tidy) (use : Use α) : (r.perform use).2.Tidy := by
  cases use with
  | enter session initial f => exact (tidy.enroll session initial).modify session f
  | update session f => exact tidy.modify session f
  | get session => exact tidy
  | ask session => exact tidy
  | remove session => exact tidy.remove session

theorem capacity_enroll (r : Roster α) (session : String) (initial : α) :
    (r.enroll session initial).capacity = r.capacity := by
  unfold Roster.enroll
  split <;> rfl

theorem capacity_perform (r : Roster α) (use : Use α) : (r.perform use).2.capacity = r.capacity := by
  cases use with
  | enter session initial f => exact capacity_enroll r session initial
  | update session f => rfl
  | get session => rfl
  | ask session => rfl
  | remove session =>
    change (r.remove session).capacity = r.capacity
    unfold Roster.remove
    split <;> rfl

/-- A use of a roster in order is the same use of its pairs. -/
theorem Tidy.perform_eq (tidy : r.Tidy) (use : Use α) :
    Queue.perform r.capacity r.toList use = ((r.perform use).1, (r.perform use).2.toList) := by
  cases use with
  | enter session initial f =>
    simp only [Roster.perform, Queue.perform, ← tidy.toList_enroll, (tidy.enroll session initial).lookup_toList,
      toList_modify]
  | update session f => simp only [Roster.perform, Queue.perform, tidy.lookup_toList, toList_modify]
  | get session => simp only [Roster.perform, Queue.perform, tidy.lookup_toList]
  | ask session =>
    simp only [Roster.perform, Queue.perform, tidy.lookup_toList]
    rfl
  | remove session =>
    simp only [Roster.perform, Queue.perform, tidy.lookup_toList, (tidy.remove_forgets session).toList]

/-! Who came when. -/

def newcomer (r : Roster α) : Use α → Option String
  | .enter session _ _ => if r.contains session then none else some session
  | _ => none

def newcomers (r : Roster α) : List (Use α) → List String
  | [] => []
  | use :: rest => (r.newcomer use).toList ++ newcomers (r.perform use).2 rest

/-- All of the sessions came, and each came last after the ones before it did. -/
structure InOrder (came sessions : List String) : Prop where
  seen : ∀ session ∈ sessions, session ∈ came
  later : sessions.Pairwise fun first second => came.reverse.idxOf second < came.reverse.idxOf first

theorem InOrder.sublist {came sessions fewer : List String} (order : InOrder came sessions)
    (part : fewer.Sublist sessions) : InOrder came fewer :=
  ⟨fun session member => order.seen session (part.subset member), order.later.sublist part⟩

theorem InOrder.snoc {came sessions : List String} (order : InOrder came sessions) (new : session ∉ sessions) :
    InOrder (came ++ [session]) (sessions ++ [session]) := by
  have place : ∀ other ∈ sessions,
      (came ++ [session]).reverse.idxOf other = came.reverse.idxOf other + 1 := by
    intro other member
    have apart : session ≠ other := fun same => new (same ▸ member)
    rw [List.reverse_append, List.reverse_singleton, List.singleton_append, List.idxOf_cons_ne _ apart]
  refine ⟨fun other member => ?_, List.pairwise_append.2 ⟨?_, List.pairwise_singleton _ _, ?_⟩⟩
  · rcases List.mem_append.1 member with member | own
    · exact List.mem_append_left _ (order.seen other member)
    · exact List.mem_append_right _ own
  · refine order.later.imp_of_mem fun first second earlier => ?_
    rw [place _ first, place _ second]
    exact Nat.succ_lt_succ earlier
  · intro other member last own
    rw [List.mem_singleton.1 own, place other member]
    simp

theorem Tidy.perform_inOrder (tidy : r.Tidy) {came : List String} (order : InOrder came r.arrivals) (use : Use α) :
    InOrder (came ++ (r.newcomer use).toList) (r.perform use).2.arrivals := by
  have still : came ++ (none : Option String).toList = came := List.append_nil came
  cases use with
  | enter session initial f =>
    change InOrder _ (r.enroll session initial).arrivals
    by_cases known : r.contains session = true
    · rw [newcomer, if_pos known, still, Roster.enroll, if_pos known]
      exact order
    · obtain ⟨gone, kept, before, stand, -⟩ := tidy.enroll_new known initial
      have kept' : kept.Sublist r.arrivals := before ▸ List.sublist_append_right gone kept
      rw [newcomer, if_neg known, stand]
      exact (order.sublist kept').snoc fun member => known (tidy.mem_arrivals.1 (kept'.subset member))
  | update session f => exact still.symm ▸ order
  | get session => exact still.symm ▸ order
  | ask session => exact still.symm ▸ order
  | remove session =>
    change InOrder (came ++ (none : Option String).toList) (r.remove session).arrivals
    rw [still, (tidy.remove_forgets session).arrivals]
    exact order.sublist List.filter_sublist

/-! A run. -/

theorem Tidy.play (tidy : r.Tidy) (uses : List (Use α)) :
    (Roster.play Roster.perform r uses).2.Tidy ∧ (Roster.play Roster.perform r uses).2.capacity = r.capacity := by
  induction uses generalizing r with
  | nil => exact ⟨tidy, rfl⟩
  | cons use rest ih =>
    obtain ⟨tidy', capacity⟩ := ih (tidy.perform use)
    exact ⟨tidy', capacity.trans (capacity_perform r use)⟩

theorem Tidy.play_eq (tidy : r.Tidy) (uses : List (Use α)) :
    Roster.play (Queue.perform r.capacity) r.toList uses =
      ((Roster.play Roster.perform r uses).1, (Roster.play Roster.perform r uses).2.toList) := by
  induction uses generalizing r with
  | nil => rfl
  | cons use rest ih =>
    have later := ih (tidy.perform use)
    rw [capacity_perform] at later
    simp only [Roster.play, tidy.perform_eq, later]

theorem Tidy.play_inOrder (tidy : r.Tidy) {came : List String} (order : InOrder came r.arrivals)
    (uses : List (Use α)) :
    InOrder (came ++ newcomers r uses) (Roster.play Roster.perform r uses).2.arrivals := by
  induction uses generalizing r came with
  | nil => rwa [newcomers, List.append_nil]
  | cons use rest ih =>
    rw [newcomers, ← List.append_assoc]
    exact ih (tidy.perform use) (tidy.perform_inOrder order use)

/-- However a roster is used, it answers as the plain list does and holds the same pairs. Its queue names those who have
a value, each once, in the order in which they came last, and there are never more than there are places. So an entry
that is there keeps its place and everyone theirs, whether it is entered again or updated; a new one takes the last
place, and the one that came first goes if there was no place left, and no other. -/
theorem used_as_bounded_queue (capacity : Nat) (uses : List (Use α)) :
    let run := play perform (empty capacity) uses
    let plain := play (Queue.perform (max 1 capacity)) ([] : Queue α) uses
    let r := run.2
    (run.1 = plain.1 ∧ r.toList = plain.2) ∧
      (r.arrivals = plain.2.map Prod.fst ∧ r.arrivals.Nodup ∧ (r.values.map Prod.fst).Perm r.arrivals ∧
        InOrder (newcomers (empty capacity : Roster α) uses) r.arrivals ∧ r.size ≤ max 1 capacity) ∧
      ∀ session initial f,
        (r.perform (.update session f)).2.arrivals = r.arrivals ∧
        (r.contains session = true → (r.perform (.enter session initial f)).2.arrivals = r.arrivals) ∧
        (r.contains session = false → ∃ gone kept, r.arrivals = gone ++ kept ∧ session ∉ gone ∧
          (r.perform (.enter session initial f)).2.arrivals = kept ++ [session] ∧
          gone.length = if r.size < max 1 capacity then 0 else 1) := by
  intro run plain r
  have fresh : (empty capacity : Roster α).Tidy := empty_tidy capacity
  obtain ⟨tidy, places⟩ := fresh.play uses
  change r.Tidy at tidy
  change r.capacity = max 1 capacity at places
  have same : plain = (run.1, r.toList) := fresh.play_eq uses
  have order : InOrder ([] ++ newcomers (empty capacity) uses) r.arrivals :=
    fresh.play_inOrder ⟨List.forall_mem_nil _, List.Pairwise.nil⟩ uses
  refine ⟨⟨by rw [same], by rw [same]⟩, ⟨?_, tidy.once, tidy.keys, order, places ▸ tidy.bounded⟩, ?_⟩
  · rw [same, tidy.keys_toList]
  · refine fun session initial f => ⟨rfl, fun known => ?_, fun new => ?_⟩
    · change (r.enroll session initial).arrivals = r.arrivals
      rw [Roster.enroll, if_pos known]
    · have new' : ¬r.contains session = true := by simp [new]
      obtain ⟨gone, kept, came, stand, count, -⟩ := tidy.enroll_new new' initial
      rw [places] at count
      refine ⟨gone, kept, came, fun member => new' (tidy.mem_arrivals.1 ?_), stand, count⟩
      rw [came]
      exact List.mem_append_left kept member

-- A session that comes back comes last, and touching it does not change that.
example :
    let enter (session : String) : Use Nat := .enter session 0 (· + 1)
    (play perform (empty 2) [enter "a", enter "b", .remove "a", enter "a", enter "b", enter "c"]).2.toList =
      [("a", 1), ("c", 1)] := by
  decide +kernel

end AgentHooks.Roster
