import AgentHooks.Session.Roster
import Mathlib.Data.List.Nodup
import Mathlib.Data.List.Infix
import Mathlib.Data.List.Perm.Subperm

/-! Rosters in order. Who is listed has a value, and is listed once; a roster that starts empty never gets out of
order, whatever is done with it, and never holds more sessions than it has room for. -/

namespace AgentHooks.Roster

variable {α : Type} {r r' : Roster α} {session other : String} {values : List (String × α)}

structure Tidy (r : Roster α) : Prop where
  once : r.arrivals.Nodup
  keys : (r.values.map Prod.fst).Perm r.arrivals
  room : 1 ≤ r.capacity
  bounded : r.size ≤ r.capacity

/-- A roster for at most `limit` sessions: it is in order, and all that is remembered is as it should be. -/
structure Sound (limit : Nat) (good : α → Prop) (r : Roster α) : Prop extends Tidy r where
  sized : r.capacity = max 1 limit
  kept : ∀ entry ∈ r.values, good entry.2

/-- A session is forgotten: it has no value and no place in the order, and nobody else notices. -/
structure Forgets (session : String) (r r' : Roster α) : Prop where
  gone : r'.get? session = none
  others : ∀ other, other ≠ session → r'.get? other = r.get? other
  arrivals : r'.arrivals = r.arrivals.filter (· ≠ session)
  capacity : r'.capacity = r.capacity

/-! Values by session. -/

theorem lookup_isSome : (values.lookup session).isSome = true ↔ session ∈ values.map Prod.fst := by
  rw [Option.isSome_iff_ne_none, ne_eq, List.lookup_eq_none_iff, List.mem_map]
  simp only [bne_iff_ne, ne_eq, not_forall, not_not, exists_prop]
  exact ⟨fun ⟨entry, member, same⟩ => ⟨entry, member, same.symm⟩, fun ⟨entry, member, same⟩ =>
    ⟨entry, member, same.symm⟩⟩

theorem contains_iff : r.contains session = true ↔ session ∈ r.values.map Prod.fst :=
  lookup_isSome

theorem keys_without (session : String) (values : List (String × α)) :
    (without session values).map Prod.fst = (values.map Prod.fst).filter (· ≠ session) := by
  rw [without, List.filter_map]
  rfl

theorem lookup_without_self (session : String) (values : List (String × α)) :
    (without session values).lookup session = none := by
  refine Option.not_isSome_iff_eq_none.1 fun there => ?_
  rw [lookup_isSome, keys_without, List.mem_filter] at there
  simp at there

theorem lookup_without (apart : other ≠ session) (values : List (String × α)) :
    (without session values).lookup other = values.lookup other := by
  induction values with
  | nil => rfl
  | cons entry rest ih =>
    obtain ⟨key, value⟩ := entry
    simp only [without, List.filter_cons] at ih ⊢
    split
    · rw [List.lookup_cons, List.lookup_cons, ih]
    next dropped =>
      have same : key = session := by simpa using dropped
      rw [ih, List.lookup_cons, same, beq_eq_false_iff_ne.2 apart]

/-! Order. -/

theorem Tidy.mem_arrivals (tidy : r.Tidy) : session ∈ r.arrivals ↔ r.contains session = true := by
  rw [contains_iff, tidy.keys.mem_iff]

theorem Tidy.size_eq (tidy : r.Tidy) : r.size = r.arrivals.length := by
  rw [← tidy.keys.length_eq, List.length_map]
  rfl

theorem empty_tidy (capacity : Nat) : (empty capacity : Roster α).Tidy :=
  ⟨List.nodup_nil, .nil, Nat.le_max_left 1 capacity, Nat.zero_le _⟩

theorem keys_without_first {oldest : String} {rest : List String} (once : (oldest :: rest).Nodup)
    (keys : (values.map Prod.fst).Perm (oldest :: rest)) : ((without oldest values).map Prod.fst).Perm rest := by
  have others : (oldest :: rest).filter (· ≠ oldest) = rest := by
    rw [List.filter_cons, if_neg (by simp), List.filter_eq_self]
    intro other member
    simpa using fun same : other = oldest => (List.nodup_cons.1 once).1 (same ▸ member)
  rw [keys_without, ← others]
  exact keys.filter _

/-- Those who have to go are the first ones who came, and afterwards there is room for one more. -/
theorem makeRoom_spec (capacity : Nat) {arrivals : List String} (once : arrivals.Nodup)
    (keys : (values.map Prod.fst).Perm arrivals) :
    let left := makeRoom capacity arrivals values
    left.1.Nodup ∧ (left.2.map Prod.fst).Perm left.1 ∧ left.1 <:+ arrivals ∧
      (1 ≤ capacity → left.2.length < capacity) := by
  induction arrivals generalizing values with
  | nil =>
    have nobody : values = [] := List.map_eq_nil_iff.1 (List.perm_nil.1 keys)
    subst nobody
    exact ⟨once, keys, List.suffix_rfl, fun room => room⟩
  | cons oldest rest ih =>
    simp only [makeRoom]
    split
    next room => exact ⟨once, keys, List.suffix_rfl, fun _ => room⟩
    · obtain ⟨once', keys', suffix, room⟩ := ih (List.nodup_cons.1 once).2 (keys_without_first once keys)
      exact ⟨once', keys', suffix.trans (List.suffix_cons oldest rest), room⟩

theorem Tidy.enroll (tidy : r.Tidy) (session : String) (initial : α) : (r.enroll session initial).Tidy := by
  unfold Roster.enroll
  split
  · exact tidy
  next new =>
    obtain ⟨once, keys, suffix, room⟩ := makeRoom_spec r.capacity tidy.once tidy.keys
    have absent : session ∉ (makeRoom r.capacity r.arrivals r.values).1 :=
      fun member => new (tidy.mem_arrivals.1 (suffix.subset member))
    refine ⟨?_, ?_, tidy.room, room tidy.room⟩
    · rw [List.nodup_append]
      refine ⟨once, List.nodup_singleton session, ?_⟩
      rintro other member new' itself rfl
      rw [List.mem_singleton] at itself
      exact absent (itself ▸ member)
    · rw [List.map_cons]
      exact (keys.cons session).trans (List.perm_append_singleton _ _).symm

theorem modify_keys (r : Roster α) (session : String) (f : α → α) :
    (r.modify session f).values.map Prod.fst = r.values.map Prod.fst := by
  rw [modify, List.map_map]
  refine List.map_congr_left fun entry _ => ?_
  rw [Function.comp_apply]
  split <;> rfl

theorem Tidy.modify (tidy : r.Tidy) (session : String) (f : α → α) : (r.modify session f).Tidy := by
  refine ⟨tidy.once, ?_, tidy.room, ?_⟩
  · rw [modify_keys]
    exact tidy.keys
  · rw [size, Roster.modify, List.length_map]
    exact tidy.bounded

theorem Tidy.remove (tidy : r.Tidy) (session : String) : (r.remove session).Tidy := by
  unfold Roster.remove
  split
  · refine ⟨tidy.once.filter _, ?_, tidy.room, ?_⟩
    · rw [keys_without]
      exact tidy.keys.filter _
    · exact (List.length_filter_le _ _).trans tidy.bounded
  · exact tidy

/-! What is remembered. -/

theorem mem_values_of_get? {value : α} (found : r.get? session = some value) : (session, value) ∈ r.values := by
  obtain ⟨before, after, split, -⟩ := List.lookup_eq_some_iff.1 found
  rw [split]
  exact List.mem_append_right _ List.mem_cons_self

theorem get?_enroll_self (r : Roster α) (session : String) (initial : α) :
    (r.enroll session initial).get? session = some ((r.get? session).getD initial) := by
  unfold Roster.enroll
  split
  next known =>
    obtain ⟨value, found⟩ := Option.isSome_iff_exists.1 known
    rw [found, Option.getD_some]
  next new =>
    have absent : r.get? session = none := Option.not_isSome_iff_eq_none.1 new
    rw [absent, Option.getD_none]
    exact List.lookup_cons_self

theorem get?_modify_self (r : Roster α) (session : String) (f : α → α) :
    (r.modify session f).get? session = (r.get? session).map f := by
  simp only [Roster.get?, Roster.modify]
  induction r.values with
  | nil => rfl
  | cons entry rest ih =>
    obtain ⟨key, value⟩ := entry
    by_cases same : key = session
    · subst same
      simp
    · have apart : (session == key) = false := beq_false_of_ne (Ne.symm same)
      simpa [same, List.lookup_cons, apart] using ih

theorem get?_remove_self (r : Roster α) (session : String) : (r.remove session).get? session = none := by
  unfold Roster.remove
  split
  · exact lookup_without_self session r.values
  next absent => exact Option.not_isSome_iff_eq_none.1 absent

theorem get?_remove_other (apart : other ≠ session) (r : Roster α) :
    (r.remove session).get? other = r.get? other := by
  unfold Roster.remove
  split
  · exact lookup_without apart r.values
  · rfl

theorem get?_modify_other (apart : other ≠ session) (r : Roster α) (f : α → α) :
    (r.modify session f).get? other = r.get? other := by
  simp only [Roster.get?, Roster.modify]
  induction r.values with
  | nil => rfl
  | cons entry rest ih =>
    obtain ⟨key, value⟩ := entry
    rw [List.map_cons, List.lookup_cons, ih, List.lookup_cons]
    by_cases same : key = session
    · simp only [same, if_true, beq_false_of_ne apart]
    · simp only [if_neg same]

theorem modify_modify (r : Roster α) (session : String) (f g : α → α) :
    (r.modify session f).modify session g = r.modify session (g ∘ f) := by
  simp only [Roster.modify, List.map_map]
  refine congrArg (Roster.mk r.capacity · r.arrivals) (List.map_congr_left fun entry _ => ?_)
  by_cases own : entry.1 = session
  · simp [own]
  · simp [own]

/-- A session has one entry, and a change of it is a change of what is recalled. -/
theorem Tidy.modify_eq (tidy : r.Tidy) {value : α} (found : r.get? session = some value) (f : α → α) :
    r.modify session f = r.modify session fun _ => f value := by
  have once : (r.values.map Prod.fst).Nodup := tidy.keys.nodup_iff.2 tidy.once
  refine congrArg (Roster.mk r.capacity · r.arrivals) (List.map_congr_left fun entry member => ?_)
  split
  next own =>
    have only : entry = (session, value) := List.inj_on_of_nodup_map once member (mem_values_of_get? found) own
    rw [only]
  next => rfl

theorem lookup_makeRoom (capacity : Nat) (arrivals : List String) (values : List (String × α)) (session : String) :
    (makeRoom capacity arrivals values).2.lookup session = values.lookup session ∨
      (makeRoom capacity arrivals values).2.lookup session = none := by
  induction arrivals generalizing values with
  | nil => exact .inl rfl
  | cons oldest rest ih =>
    rw [makeRoom]
    split
    · exact .inl rfl
    · by_cases same : session = oldest
      · subst same
        have gone := lookup_without_self session values
        exact .inr ((ih (without session values)).elim (·.trans gone) id)
      · rw [← lookup_without same values]
        exact ih (without oldest values)

/-- A session that comes may take another one's place, and that is all it means to the other one. -/
theorem get?_enroll_other (apart : other ≠ session) (r : Roster α) (initial : α) :
    (r.enroll session initial).get? other = r.get? other ∨ (r.enroll session initial).get? other = none := by
  unfold Roster.enroll
  split
  · exact .inl rfl
  · simp only [Roster.get?, List.lookup_cons, beq_false_of_ne apart]
    exact lookup_makeRoom r.capacity r.arrivals r.values other

theorem get?_enter_self (r : Roster α) (session : String) (initial : α) (f : α → α) :
    ((r.enroll session initial).modify session f).get? session = some (f ((r.get? session).getD initial)) := by
  rw [get?_modify_self, get?_enroll_self, Option.map_some]

theorem get?_enter_other (apart : other ≠ session) (r : Roster α) (initial : α) (f : α → α) :
    ((r.enroll session initial).modify session f).get? other = r.get? other ∨
      ((r.enroll session initial).modify session f).get? other = none := by
  rw [get?_modify_other apart]
  exact get?_enroll_other apart r initial

/-- Whoever is forgotten, a session is remembered as before or is itself forgotten. -/
theorem get?_remove (r : Roster α) (session other : String) :
    (r.remove session).get? other = r.get? other ∨ (r.remove session).get? other = none := by
  by_cases same : other = session
  · subst same
    exact .inr (get?_remove_self r other)
  · exact .inl (get?_remove_other same r)

theorem makeRoom_sublist (capacity : Nat) (arrivals : List String) (values : List (String × α)) :
    (makeRoom capacity arrivals values).2.Sublist values := by
  induction arrivals generalizing values with
  | nil => exact .refl values
  | cons oldest rest ih =>
    rw [makeRoom]
    split
    · exact .refl values
    · exact (ih _).trans List.filter_sublist

section Sound

variable {limit : Nat} {good : α → Prop} (sound : r.Sound limit good)

theorem empty_sound (limit : Nat) (good : α → Prop) : (empty limit).Sound limit good :=
  ⟨empty_tidy limit, rfl, fun _ member => nomatch member⟩

include sound

theorem Sound.enroll (session : String) (initial : α) (fresh : good initial) :
    (r.enroll session initial).Sound limit good := by
  refine ⟨sound.toTidy.enroll session initial, ?_, fun entry member => ?_⟩
  · unfold Roster.enroll
    split
    · exact sound.sized
    · exact sound.sized
  · unfold Roster.enroll at member
    split at member
    · exact sound.kept entry member
    · rcases List.mem_cons.1 member with rfl | member
      · exact fresh
      · exact sound.kept entry ((makeRoom_sublist _ _ _).subset member)

theorem Sound.modify (session : String) (f : α → α) (keeps : ∀ value, good value → good (f value)) :
    (r.modify session f).Sound limit good := by
  refine ⟨sound.toTidy.modify session f, sound.sized, fun entry member => ?_⟩
  obtain ⟨before, there, rfl⟩ := List.mem_map.1 member
  split
  · exact keeps _ (sound.kept before there)
  · exact sound.kept before there

theorem Sound.remove (session : String) : (r.remove session).Sound limit good := by
  refine ⟨sound.toTidy.remove session, ?_, fun entry member => ?_⟩
  · unfold Roster.remove
    split
    · exact sound.sized
    · exact sound.sized
  · unfold Roster.remove at member
    split at member
    · exact sound.kept entry (List.mem_filter.1 member).1
    · exact sound.kept entry member

theorem Sound.get? {value : α} (found : r.get? session = some value) : good value :=
  sound.kept _ (mem_values_of_get? found)

theorem Sound.recalled (session : String) (initial : α) (fresh : good initial) :
    good ((r.get? session).getD initial) := by
  cases found : r.get? session with
  | none => exact fresh
  | some value => exact sound.get? found

theorem Sound.size_le (positive : 1 ≤ limit) : r.size ≤ limit := by
  have bounded := sound.bounded
  rwa [sound.sized, Nat.max_eq_right positive] at bounded

end Sound

/-! Rosters with room for all the sessions that come. -/

/-- A roster in order, with room for all of the known sessions and none but these on it. -/
structure Fits (known : List String) (r : Roster α) : Prop extends Tidy r where
  within : r.arrivals ⊆ known
  few : known.length ≤ r.capacity

section Fits

variable {known : List String} (fits : r.Fits known)

theorem empty_fits {capacity : Nat} (few : known.length ≤ capacity) : (empty capacity : Roster α).Fits known :=
  ⟨empty_tidy capacity, List.nil_subset known, few.trans (Nat.le_max_right 1 capacity)⟩

theorem makeRoom_of_room {capacity : Nat} (room : values.length < capacity) (arrivals : List String) :
    makeRoom capacity arrivals values = (arrivals, values) := by
  cases arrivals with
  | nil => rfl
  | cons oldest rest => exact if_pos room

include fits

theorem Fits.size_lt (member : session ∈ known) (new : ¬r.contains session = true) : r.size < r.capacity := by
  have listed := fits.toTidy.size_eq
  have apart : (session :: r.arrivals).Nodup :=
    List.nodup_cons.2 ⟨fun there => new (fits.toTidy.mem_arrivals.1 there), fits.once⟩
  have counted := (List.subperm_of_subset apart (List.cons_subset.2 ⟨member, fits.within⟩)).length_le
  rw [List.length_cons, ← listed] at counted
  exact Nat.lt_of_succ_le (counted.trans fits.few)

theorem Fits.get?_enroll (member : session ∈ known) (apart : other ≠ session) (initial : α) :
    (r.enroll session initial).get? other = r.get? other := by
  unfold Roster.enroll
  split
  · rfl
  next new =>
    rw [makeRoom_of_room (fits.size_lt member new)]
    simp only [Roster.get?, List.lookup_cons, beq_false_of_ne apart]

theorem Fits.enroll (member : session ∈ known) (initial : α) : (r.enroll session initial).Fits known := by
  refine ⟨fits.toTidy.enroll session initial, ?_, ?_⟩
  · unfold Roster.enroll
    split
    · exact fits.within
    next new =>
      rw [makeRoom_of_room (fits.size_lt member new)]
      exact List.append_subset.2 ⟨fits.within, List.cons_subset.2 ⟨member, List.nil_subset known⟩⟩
  · unfold Roster.enroll
    split
    · exact fits.few
    · exact fits.few

theorem Fits.modify (session : String) (f : α → α) : (r.modify session f).Fits known :=
  ⟨fits.toTidy.modify session f, fits.within, fits.few⟩

theorem Fits.remove (session : String) : (r.remove session).Fits known := by
  refine ⟨fits.toTidy.remove session, ?_, ?_⟩
  · unfold Roster.remove
    split
    · exact fun other member => fits.within (List.mem_filter.1 member).1
    · exact fits.within
  · unfold Roster.remove
    split
    · exact fits.few
    · exact fits.few

end Fits

theorem Tidy.remove_forgets (tidy : r.Tidy) (session : String) : Forgets session r (r.remove session) := by
  unfold Roster.remove
  split
  · exact ⟨lookup_without_self session r.values, fun other apart => lookup_without apart r.values, rfl, rfl⟩
  next absent =>
    refine ⟨Option.not_isSome_iff_eq_none.1 absent, fun _ _ => rfl, ?_, rfl⟩
    refine (List.filter_eq_self.2 fun other member => ?_).symm
    simpa using fun same : other = session => absent (tidy.mem_arrivals.1 (same ▸ member))

theorem Forgets.toList (forgets : Forgets session r r') : r'.toList = r.toList.filter (·.1 ≠ session) := by
  rw [Roster.toList, forgets.arrivals, Roster.toList, List.filterMap_filter, List.filter_filterMap]
  refine List.filterMap_congr fun other _ => ?_
  by_cases same : other = session
  · subst same
    cases r.get? other <;> simp [Option.filter]
  · rw [forgets.others other same]
    cases r.get? other <;> simp [Option.filter, same]

end AgentHooks.Roster
