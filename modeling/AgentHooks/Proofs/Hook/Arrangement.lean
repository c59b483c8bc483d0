import AgentHooks.Proofs.Hook.Dispatch
import AgentHooks.Proofs.Text.CodeUnits
import Mathlib.Data.List.GetD
import Mathlib.Data.List.Permutation
import Mathlib.Logic.Relation

/-! The order in which hooks run, without a word about sorting. Settings and priority give every hook a rank; the hooks
that are switched on run from the lowest rank to the highest, those of one rank as they came, and this leaves no
choice. -/

namespace AgentHooks

namespace Hook

variable {σ : Type}

/-- What decides when a hook runs: where the settings list it first, or else its priority and its name. -/
inductive Rank where
  | listed (position : Nat)
  | other (priority : Int) (name : String)
  deriving DecidableEq

namespace Rank

def isListed : Rank → Bool
  | listed _ => true
  | other _ _ => false

def name (order : List String) : Rank → String
  | listed position => order.getD position ""
  | other _ name => name

def le : Rank → Rank → Prop
  | listed i, listed j => i ≤ j
  | listed _, other _ _ => True
  | other _ _, listed _ => False
  | other p name, other q name' => p < q ∨ p = q ∧ Text.codeUnits name ≤ Text.codeUnits name'

instance : LE Rank :=
  ⟨le⟩

theorem other_le_iff {p q : Int} {name name' : String} :
    other p name ≤ other q name' ↔ p < q ∨ p = q ∧ name ≤ name' := by
  rw [Text.le_iff_codeUnits_le]
  exact Iff.rfl

theorem le_refl (a : Rank) : a ≤ a := by
  cases a with
  | listed i => exact Nat.le_refl i
  | other p name => exact other_le_iff.2 (.inr ⟨rfl, String.le_refl name⟩)

theorem le_antisymm {a b : Rank} (before : a ≤ b) (after : b ≤ a) : a = b := by
  cases a with
  | listed i =>
    cases b with
    | listed j =>
      have positions : i = j := Nat.le_antisymm before after
      rw [positions]
    | other q name' => exact after.elim
  | other p name =>
    cases b with
    | listed j => exact before.elim
    | other q name' =>
      rw [other_le_iff] at before after
      rcases before with lower | ⟨same, first⟩
      · rcases after with higher | ⟨same', -⟩ <;> omega
      · rcases after with higher | ⟨-, second⟩
        · omega
        · rw [same, String.le_antisymm first second]

end Rank

def rank (order : List String) (h : Hook σ) : Rank :=
  if h.id ∈ order then .listed (order.idxOf h.id) else .other h.priority h.id

structure Arranged (order : List String) (disabled : NameSet) (hooks placed : List (Hook σ)) : Prop where
  /-- All those that are switched on, each as often as it is there. -/
  members : placed.Perm (hooks.filter fun h => !disabled.contains h.id)
  /-- Lower ranks first. -/
  sorted : placed.Pairwise fun a b => a.rank order ≤ b.rank order
  /-- Those of one rank as they came. -/
  stable : ∀ r, (placed.filter fun h => h.rank order = r) =
    (hooks.filter fun h => !disabled.contains h.id).filter fun h => h.rank order = r

/-- Sorted lists are the same when the elements of each rank are. -/
theorem eq_of_ranks {order : List String} {xs ys : List (Hook σ)}
    (sorted : xs.Pairwise fun a b => a.rank order ≤ b.rank order)
    (sorted' : ys.Pairwise fun a b => a.rank order ≤ b.rank order)
    (same : ∀ r, (xs.filter fun h => h.rank order = r) = ys.filter fun h => h.rank order = r) : xs = ys := by
  induction xs generalizing ys with
  | nil =>
    cases ys with
    | nil => rfl
    | cons y ys => exact absurd (same (y.rank order)) (by simp)
  | cons x xs ih =>
    have inside : ∀ {z}, z ∈ x :: xs ↔ z ∈ ys := by
      intro z
      have members := congrArg (z ∈ ·) (same (z.rank order))
      simpa only [List.mem_filter, decide_true, and_true, eq_iff_iff] using members
    cases ys with
    | nil => exact absurd (inside.1 (List.mem_cons_self)) List.not_mem_nil
    | cons y ys =>
      -- Each of the two stands somewhere in the other list, where nothing has a lower rank than the first one.
      have ranks : x.rank order = y.rank order := by
        rcases List.mem_cons.1 (inside.1 List.mem_cons_self) with rfl | later
        · rfl
        · rcases List.mem_cons.1 (inside.2 List.mem_cons_self) with rfl | later'
          · rfl
          · exact Rank.le_antisymm ((List.pairwise_cons.1 sorted).1 y later') ((List.pairwise_cons.1 sorted').1 x later)
      have heads : x = y := by
        have tied := same (x.rank order)
        rw [List.filter_cons_of_pos (by simp), List.filter_cons_of_pos (by simp [ranks])] at tied
        exact (List.cons.inj tied).1
      subst heads
      have rest : xs = ys := by
        apply ih (List.pairwise_cons.1 sorted).2 (List.pairwise_cons.1 sorted').2
        intro r
        have tied := same r
        by_cases this : x.rank order = r
        · rw [List.filter_cons_of_pos (by simp [this]), List.filter_cons_of_pos (by simp [this])] at tied
          exact (List.cons.inj tied).2
        · rwa [List.filter_cons_of_neg (by simp [this]), List.filter_cons_of_neg (by simp [this])] at tied
      rw [rest]

theorem rank_of_mem {order : List String} {h : Hook σ} (listed : h.id ∈ order) :
    h.rank order = .listed (order.idxOf h.id) :=
  if_pos listed

theorem rank_of_not_mem {order : List String} {h : Hook σ} (other : h.id ∉ order) :
    h.rank order = .other h.priority h.id :=
  if_neg other

theorem isListed_rank (order : List String) (h : Hook σ) : (h.rank order).isListed = order.contains h.id := by
  by_cases listed : h.id ∈ order
  · rw [rank_of_mem listed, List.contains_iff_mem.2 listed]
    rfl
  · rw [rank_of_not_mem listed, Bool.eq_false_iff.2 (fun inside => listed (List.contains_iff_mem.1 inside))]
    rfl

theorem name_rank (order : List String) (h : Hook σ) : (h.rank order).name order = h.id := by
  by_cases listed : h.id ∈ order
  · rw [rank_of_mem listed, Rank.name, List.getD_eq_getElem _ _ (List.idxOf_lt_length_of_mem listed),
      List.getElem_idxOf]
  · rw [rank_of_not_mem listed, Rank.name]

theorem id_of_rank {order : List String} {a b : Hook σ} (same : a.rank order = b.rank order) : a.id = b.id := by
  rw [← name_rank order a, same, name_rank]

theorem listedBefore_iff {order : List String} {a b : Hook σ} :
    listedBefore order a b = true ↔ order.idxOf a.id ≤ order.idxOf b.id := by
  simp [listedBefore]

theorem rankedBefore_iff {a b : Hook σ} :
    rankedBefore a b = true ↔ a.priority < b.priority ∨ a.priority = b.priority ∧ a.id ≤ b.id := by
  simp [rankedBefore]

theorem listedBefore_trans (order : List String) (a b c : Hook σ) (first : listedBefore order a b = true)
    (second : listedBefore order b c = true) : listedBefore order a c = true := by
  rw [listedBefore_iff] at first second ⊢
  exact Nat.le_trans first second

theorem listedBefore_total (order : List String) (a b : Hook σ) :
    (listedBefore order a b || listedBefore order b a) = true := by
  rw [Bool.or_eq_true, listedBefore_iff, listedBefore_iff]
  exact Nat.le_total _ _

theorem rankedBefore_trans (a b c : Hook σ) (first : rankedBefore a b = true)
    (second : rankedBefore b c = true) : rankedBefore a c = true := by
  rw [rankedBefore_iff] at first second ⊢
  rcases first with lower | ⟨same, before⟩
  · rcases second with lower' | ⟨same', -⟩
    · exact .inl (Int.lt_trans lower lower')
    · exact .inl (same' ▸ lower)
  · rcases second with lower' | ⟨same', before'⟩
    · exact .inl (same ▸ lower')
    · exact .inr ⟨same.trans same', String.le_trans before before'⟩

theorem rankedBefore_total (a b : Hook σ) : (rankedBefore a b || rankedBefore b a) = true := by
  rw [Bool.or_eq_true, rankedBefore_iff, rankedBefore_iff]
  rcases Int.lt_trichotomy a.priority b.priority with lower | same | higher
  · exact .inl (.inl lower)
  · rcases String.le_total a.id b.id with before | after
    · exact .inl (.inr ⟨same, before⟩)
    · exact .inr (.inr ⟨same.symm, after⟩)
  · exact .inr (.inl higher)

/-- Sorting leaves elements that do not tell their order as they stood. -/
theorem filter_mergeSort {α : Type} {le : α → α → Bool} (trans : ∀ a b c, le a b = true → le b c = true → le a c = true)
    (total : ∀ a b, (le a b || le b a) = true) {xs : List α} {p : α → Bool}
    (tied : ∀ a ∈ xs, ∀ b ∈ xs, p a = true → p b = true → le a b = true) :
    (xs.mergeSort le).filter p = xs.filter p := by
  have sorted : (xs.filter p).Pairwise fun a b => le a b = true := by
    apply List.pairwise_of_forall_mem_list
    intro a kept b kept'
    rw [List.mem_filter] at kept kept'
    exact tied a kept.1 b kept'.1 kept.2 kept'.2
  have inside : (xs.filter p).Sublist (xs.mergeSort le) := List.sublist_mergeSort trans total sorted List.filter_sublist
  have kept : (xs.filter p).Sublist ((xs.mergeSort le).filter p) := by
    have twice := inside.filter p
    rwa [List.filter_filter, show (fun a => p a && p a) = p from funext fun a => Bool.and_self _] at twice
  have lengths : (xs.filter p).length = ((xs.mergeSort le).filter p).length :=
    ((List.mergeSort_perm xs le).filter p).length_eq.symm
  exact (kept.eq_of_length lengths).symm

theorem filter_parts {α : Type} {p q : α → Bool} {xs : List α} (side : Bool)
    (decides : ∀ a ∈ xs, p a = true → q a = side) :
    (xs.filter q).filter p ++ (xs.filter fun a => !q a).filter p = xs.filter p := by
  have wanted : ∀ part : α → Bool, (∀ a ∈ xs, p a = true → part a = true) → (xs.filter part).filter p = xs.filter p := by
    intro part holds
    rw [List.filter_filter]
    apply List.filter_congr
    intro a member
    cases kept : p a with
    | false => rfl
    | true => rw [holds a member kept, Bool.and_self]
  have unwanted : ∀ part : α → Bool, (∀ a ∈ xs, p a = true → part a = false) → (xs.filter part).filter p = [] := by
    intro part fails
    rw [List.filter_filter, List.filter_eq_nil_iff]
    intro a member both
    rw [Bool.and_eq_true] at both
    rw [fails a member both.1] at both
    exact absurd both.2 Bool.false_ne_true
  cases side with
  | true =>
    rw [wanted q decides, unwanted _ fun a member kept => by rw [decides a member kept]; rfl, List.append_nil]
  | false =>
    rw [unwanted q decides, wanted _ fun a member kept => by rw [decides a member kept]; rfl, List.nil_append]

theorem arranged (hooks : List (Hook σ)) (order : List String) (disabled : NameSet) :
    Arranged order disabled hooks (arrange hooks order disabled) := by
  let active := hooks.filter fun h => !disabled.contains h.id
  let listed := active.filter fun h => order.contains h.id
  let others := active.filter fun h => !order.contains h.id
  have split : arrange hooks order disabled = listed.mergeSort (listedBefore order) ++ others.mergeSort rankedBefore := by
    rw [arrange, List.partition_eq_filter_filter]
    rfl
  have place : ∀ h ∈ listed, h.rank order = .listed (order.idxOf h.id) := by
    intro h member
    exact rank_of_mem (by simpa using (List.mem_filter.1 member).2)
  have place' : ∀ h ∈ others, h.rank order = .other h.priority h.id := by
    intro h member
    exact rank_of_not_mem (by simpa using (List.mem_filter.1 member).2)
  have first : (listed.mergeSort (listedBefore order)).Pairwise fun a b => a.rank order ≤ b.rank order := by
    apply (List.pairwise_mergeSort (listedBefore_trans order) (listedBefore_total order) listed).imp_of_mem
    intro a b member member' before
    rw [place a ((List.mergeSort_perm _ _).mem_iff.1 member), place b ((List.mergeSort_perm _ _).mem_iff.1 member')]
    exact listedBefore_iff.1 before
  have second : (others.mergeSort rankedBefore).Pairwise fun a b => a.rank order ≤ b.rank order := by
    apply (List.pairwise_mergeSort rankedBefore_trans rankedBefore_total others).imp_of_mem
    intro a b member member' before
    rw [place' a ((List.mergeSort_perm _ _).mem_iff.1 member), place' b ((List.mergeSort_perm _ _).mem_iff.1 member')]
    exact Rank.other_le_iff.2 (rankedBefore_iff.1 before)
  constructor
  case members => exact arrange_perm hooks order disabled
  case sorted =>
    rw [split, List.pairwise_append]
    refine ⟨first, second, ?_⟩
    intro a member b member'
    rw [place a ((List.mergeSort_perm _ _).mem_iff.1 member), place' b ((List.mergeSort_perm _ _).mem_iff.1 member')]
    exact trivial
  case stable =>
    -- All hooks of a rank are in the same part, and sorting it leaves them as they stood.
    intro r
    rw [split, List.filter_append]
    have kept : ((listed.mergeSort (listedBefore order)).filter fun h => h.rank order = r) =
        listed.filter fun h => h.rank order = r := by
      apply filter_mergeSort (listedBefore_trans order) (listedBefore_total order)
      intro a member b member' tied tied'
      have ranks := (of_decide_eq_true tied).trans (of_decide_eq_true tied').symm
      rw [listedBefore_iff, id_of_rank ranks]
    have kept' : ((others.mergeSort rankedBefore).filter fun h => h.rank order = r) =
        others.filter fun h => h.rank order = r := by
      apply filter_mergeSort rankedBefore_trans rankedBefore_total
      intro a member b member' tied tied'
      have ranks := (of_decide_eq_true tied).trans (of_decide_eq_true tied').symm
      rw [place' a member, place' b member'] at ranks
      rw [rankedBefore_iff]
      exact .inr ⟨(Rank.other.inj ranks).1, le_of_eq (Rank.other.inj ranks).2⟩
    rw [kept, kept']
    apply filter_parts r.isListed
    intro h _ tied
    rw [← of_decide_eq_true tied]
    exact (isListed_rank order h).symm

/-- There is only one order in which hooks should run. -/
theorem Arranged.unique {order : List String} {disabled : NameSet} {hooks placed placed' : List (Hook σ)}
    (one : Arranged order disabled hooks placed) (other : Arranged order disabled hooks placed') : placed = placed' := by
  apply eq_of_ranks one.sorted other.sorted
  intro r
  rw [one.stable, other.stable]

/-- However the hooks come, they run in the order of their names in which they always run. -/
theorem ids_arrange_of_perm {hooks hooks' : List (Hook σ)} (shuffled : hooks.Perm hooks') (order : List String)
    (disabled : NameSet) :
    (arrange hooks' order disabled).map (·.id) = (arrange hooks order disabled).map (·.id) := by
  have one := arranged hooks order disabled
  have other := arranged hooks' order disabled
  have ranks : (arrange hooks' order disabled).map (rank order) = (arrange hooks order disabled).map (rank order) := by
    have perm := (other.members.trans (shuffled.symm.filter _)).trans one.members.symm
    apply (perm.map (rank order)).eq_of_pairwise
    · intro a b _ _ before after
      exact Rank.le_antisymm before after
    · exact List.pairwise_map.2 other.sorted
    · exact List.pairwise_map.2 one.sorted
  have names := congrArg (List.map (Rank.name order)) ranks
  simpa only [List.map_map, Function.comp_def, name_rank] using names

/-- The list of the settings without one of its names that says nothing: it has stood there before, or none of the hooks
that are switched on has it. -/
def Trim (hooks : List (Hook σ)) (disabled : NameSet) (order shorter : List String) : Prop :=
  ∃ before name after, order = before ++ name :: after ∧ shorter = before ++ after ∧
    (name ∈ before ∨ ∀ h ∈ hooks, disabled.contains h.id = false → h.id ≠ name)

theorem idxOf_of_trim {before after : List String} {name other : String} (said : other = name → name ∈ before) :
    (before ++ name :: after).idxOf other =
      if (before ++ after).idxOf other < before.length then (before ++ after).idxOf other
      else (before ++ after).idxOf other + 1 := by
  rw [List.idxOf_append, List.idxOf_append]
  by_cases early : other ∈ before
  · rw [if_pos early, if_pos early, if_pos (List.idxOf_lt_length_of_mem early)]
  · have apart : name ≠ other := fun same => early (same ▸ said same.symm)
    rw [if_neg early, if_neg early, List.idxOf_cons_ne _ apart, if_neg (by omega)]
    omega

theorem rank_le_of_trim {before after : List String} {name : String} {a b : Hook σ}
    (said : a.id = name → name ∈ before) (said' : b.id = name → name ∈ before) :
    a.rank (before ++ name :: after) ≤ b.rank (before ++ name :: after) ↔
      a.rank (before ++ after) ≤ b.rank (before ++ after) := by
  have inside : ∀ h : Hook σ, (h.id = name → name ∈ before) →
      (h.id ∈ before ++ name :: after ↔ h.id ∈ before ++ after) := by
    intro h said
    simp only [List.mem_append, List.mem_cons]
    constructor
    · rintro (early | same | late)
      · exact .inl early
      · exact .inl (same ▸ said same)
      · exact .inr late
    · rintro (early | late)
      · exact .inl early
      · exact .inr (.inr late)
  unfold rank
  simp only [inside a said, inside b said', idxOf_of_trim said, idxOf_of_trim said']
  by_cases listed : a.id ∈ before ++ after
  · by_cases listed' : b.id ∈ before ++ after
    · simp only [if_pos listed, if_pos listed']
      show (_ : Nat) ≤ _ ↔ (_ : Nat) ≤ _
      split <;> split <;> omega
    · simp only [if_pos listed, if_neg listed']
      exact Iff.rfl
  · by_cases listed' : b.id ∈ before ++ after
    · simp only [if_neg listed, if_pos listed']
      exact Iff.rfl
    · simp only [if_neg listed, if_neg listed']

/-- Lists under which no two hooks change places put the hooks in the same order. -/
theorem Arranged.of_alike {order order' : List String} {disabled : NameSet} {hooks placed : List (Hook σ)}
    (alike : ∀ a ∈ hooks.filter fun h => !disabled.contains h.id, ∀ b ∈ hooks.filter fun h => !disabled.contains h.id,
      (a.rank order ≤ b.rank order ↔ a.rank order' ≤ b.rank order'))
    (one : Arranged order disabled hooks placed) : Arranged order' disabled hooks placed := by
  have ties : ∀ a ∈ hooks.filter fun h => !disabled.contains h.id,
      ∀ b ∈ hooks.filter fun h => !disabled.contains h.id, (a.rank order' = b.rank order' ↔ a.rank order = b.rank order) := by
    intro a member b member'
    constructor
    · intro same
      exact Rank.le_antisymm ((alike a member b member').2 (same ▸ Rank.le_refl _))
        ((alike b member' a member).2 (same ▸ Rank.le_refl _))
    · intro same
      exact Rank.le_antisymm ((alike a member b member').1 (same ▸ Rank.le_refl _))
        ((alike b member' a member).1 (same ▸ Rank.le_refl _))
  constructor
  case members => exact one.members
  case sorted =>
    apply one.sorted.imp_of_mem
    intro a b member member' before
    exact (alike a (one.members.mem_iff.1 member) b (one.members.mem_iff.1 member')).1 before
  case stable =>
    intro r
    by_cases taken : ∃ h ∈ hooks.filter fun h => !disabled.contains h.id, h.rank order' = r
    · obtain ⟨h, member, rfl⟩ := taken
      have same : ∀ k ∈ hooks.filter fun h => !disabled.contains h.id,
          decide (k.rank order' = h.rank order') = decide (k.rank order = h.rank order) := by
        intro k member'
        rw [decide_eq_decide]
        exact ties k member' h member
      rw [List.filter_congr same, List.filter_congr fun k inside => same k (one.members.mem_iff.1 inside)]
      exact one.stable (h.rank order)
    · have free : ∀ k ∈ hooks.filter fun h => !disabled.contains h.id, ¬decide (k.rank order' = r) = true := by
        intro k member tied
        exact taken ⟨k, member, of_decide_eq_true tied⟩
      rw [List.filter_eq_nil_iff.2 free, List.filter_eq_nil_iff.2 fun k inside => free k (one.members.mem_iff.1 inside)]

theorem arrange_of_trim {hooks : List (Hook σ)} {disabled : NameSet} {order shorter : List String}
    (trim : Trim hooks disabled order shorter) : arrange hooks shorter disabled = arrange hooks order disabled := by
  obtain ⟨before, name, after, rfl, rfl, idle⟩ := trim
  have said : ∀ h ∈ hooks.filter fun h => !disabled.contains h.id, h.id = name → name ∈ before := by
    intro h member same
    rw [List.mem_filter, Bool.not_eq_true'] at member
    rcases idle with early | unknown
    · exact early
    · exact absurd same (unknown h member.1 member.2)
  have fits : Arranged (before ++ name :: after) disabled hooks (arrange hooks (before ++ after) disabled) := by
    apply Arranged.of_alike _ (arranged hooks (before ++ after) disabled)
    intro a member b member'
    exact (rank_le_of_trim (said a member) (said b member')).symm
  exact fits.unique (arranged hooks _ disabled)

/-- The hooks run in the one order in which they should. Neither the order in which they come makes a difference to the
names, nor do names in the settings that say nothing. -/
theorem arrange_resolves (hooks : List (Hook σ)) (order : List String) (disabled : NameSet) :
    (∀ placed, Arranged order disabled hooks placed ↔ placed = arrange hooks order disabled) ∧
    (∀ hooks', hooks.Perm hooks' →
      (arrange hooks' order disabled).map (·.id) = (arrange hooks order disabled).map (·.id)) ∧
    ∀ shorter, Relation.ReflTransGen (Trim hooks disabled) order shorter →
      arrange hooks shorter disabled = arrange hooks order disabled := by
  refine ⟨?_, ?_, ?_⟩
  · intro placed
    constructor
    · intro fits
      exact fits.unique (arranged hooks order disabled)
    · intro same
      rw [same]
      exact arranged hooks order disabled
  · intro hooks' shuffled
    exact ids_arrange_of_perm shuffled order disabled
  · intro shorter trims
    induction trims with
    | refl => rfl
    | tail _ trim ih => rw [arrange_of_trim trim, ih]

def still (id : String) (priority : Int) : Hook Unit :=
  ⟨id, priority, .lenient, fun _ output state => .pass output state⟩

/-- Five hooks, two of one name and one of them switched off, under a list with a repetition and an unknown name. -/
theorem arrange_resolves_still :
    let hooks := [still "b" 2, still "c" 9, still "B" 2, still "c" 0, still "a" 1, still "d" 0]
    let order := ["c", "x", "a", "c"]
    (arrange hooks order ⟨["d"]⟩).map (fun h => (h.id, h.priority)) = [("c", 9), ("c", 0), ("a", 1), ("B", 2), ("b", 2)] ∧
    (arrange hooks.reverse order ⟨["d"]⟩).map (·.id) = (arrange hooks order ⟨["d"]⟩).map (·.id) ∧
    arrange hooks ["c", "a"] ⟨["d"]⟩ = arrange hooks order ⟨["d"]⟩ := by
  intro hooks order
  have facts := arrange_resolves hooks order ⟨["d"]⟩
  refine ⟨by cbv, facts.2.1 _ (List.reverse_perm hooks).symm, facts.2.2 _ ?_⟩
  have unknown : Trim hooks ⟨["d"]⟩ order ["c", "a", "c"] :=
    ⟨["c"], "x", ["a", "c"], rfl, rfl, .inr (by simp [hooks, still])⟩
  have repeated : Trim hooks ⟨["d"]⟩ ["c", "a", "c"] ["c", "a"] :=
    ⟨["c", "a"], "c", [], rfl, rfl, .inl (by simp)⟩
  exact .tail (.single unknown) repeated

end Hook

end AgentHooks
