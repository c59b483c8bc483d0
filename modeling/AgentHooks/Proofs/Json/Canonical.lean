import Mathlib.Data.String.Basic
import AgentHooks.Wire.Codec

/-! Tables sorted by name, and the canonical form of documents, which is made of them. Sorting what is sorted
changes nothing, so the canonical form of a canonical document is that document. -/

namespace AgentHooks

variable {α : Type}

def Ascending (entries : List (String × α)) : Prop :=
  entries.Pairwise fun a b => a.1 < b.1

theorem mem_of_lookup {entries : List (String × α)} {name : String} {value : α}
    (found : entries.lookup name = some value) : (name, value) ∈ entries := by
  obtain ⟨before, after, rfl, -⟩ := List.lookup_eq_some_iff.1 found
  exact List.mem_append_right before List.mem_cons_self

theorem Ascending.lookup {entries : List (String × α)} (ascending : Ascending entries) {name : String}
    {value : α} (member : (name, value) ∈ entries) : entries.lookup name = some value := by
  obtain ⟨before, after, rfl⟩ := List.append_of_mem member
  have below : ∀ e ∈ before, e.1 < name :=
    fun e early => (List.pairwise_append.1 ascending).2.2 e early (name, value) List.mem_cons_self
  refine List.lookup_eq_some_iff.2 ⟨before, after, rfl, fun e early => ?_⟩
  exact bne_iff_ne.2 (ne_of_lt (below e early)).symm

namespace Codec

variable {name : String} {value : α} {entries : List (String × α)}

theorem mem_putEntry {entry : String × α} (member : entry ∈ putEntry name value entries) :
    entry = (name, value) ∨ entry ∈ entries := by
  induction entries with
  | nil => exact .inl (List.mem_singleton.1 member)
  | cons first rest ih =>
    obtain ⟨other, old⟩ := first
    simp only [putEntry] at member
    split at member
    · exact (List.mem_cons.1 member).imp_right id
    · split at member
      · exact (List.mem_cons.1 member).imp_right (List.mem_cons_of_mem _)
      · rcases List.mem_cons.1 member with rfl | later
        · exact .inr List.mem_cons_self
        · exact (ih later).imp_right (List.mem_cons_of_mem _)

theorem ascending_putEntry (name : String) (value : α) (ascending : Ascending entries) :
    Ascending (putEntry name value entries) := by
  induction entries with
  | nil => exact List.pairwise_singleton _ _
  | cons first rest ih =>
    obtain ⟨other, old⟩ := first
    obtain ⟨above, sorted⟩ := List.pairwise_cons.1 ascending
    simp only [putEntry]
    split
    next before =>
      refine List.pairwise_cons.2 ⟨fun entry member => ?_, ascending⟩
      rcases List.mem_cons.1 member with rfl | later
      · exact before
      · exact String.lt_trans before (above entry later)
    next notBefore =>
      split
      next same =>
        subst same
        exact List.pairwise_cons.2 ⟨above, sorted⟩
      next differs =>
        have after : other < name := lt_of_le_of_ne (not_lt.1 notBefore) (Ne.symm differs)
        refine List.pairwise_cons.2 ⟨fun entry member => ?_, ih sorted⟩
        rcases mem_putEntry member with rfl | later
        · exact after
        · exact above entry later

theorem putEntry_last (above : ∀ entry ∈ entries, entry.1 < name) :
    putEntry name value entries = entries ++ [(name, value)] := by
  induction entries with
  | nil => rfl
  | cons first rest ih =>
    obtain ⟨other, old⟩ := first
    obtain ⟨after, others⟩ := List.forall_mem_cons.1 above
    have notBefore : ¬name < other := String.lt_asymm after
    have differs : ¬name = other := (ne_of_lt after).symm
    simp only [putEntry, if_neg notBefore, if_neg differs, ih others, List.cons_append]

def sortEntries (entries : List (String × α)) : List (String × α) :=
  entries.foldl (fun sorted entry => putEntry entry.1 entry.2 sorted) []

theorem mem_of_mem_sortEntries {entry : String × α} (member : entry ∈ sortEntries entries) :
    entry ∈ entries := by
  have spread : ∀ (more sorted : List (String × α)),
      entry ∈ more.foldl (fun sorted entry => putEntry entry.1 entry.2 sorted) sorted →
        entry ∈ sorted ∨ entry ∈ more := by
    intro more
    induction more with
    | nil => exact fun _ => .inl
    | cons first rest ih =>
      intro sorted found
      rcases ih _ found with early | late
      · rcases mem_putEntry early with rfl | old
        · exact .inr List.mem_cons_self
        · exact .inl old
      · exact .inr (List.mem_cons_of_mem first late)
  exact (spread entries [] member).resolve_left List.not_mem_nil

theorem ascending_sortEntries (entries : List (String × α)) : Ascending (sortEntries entries) := by
  have kept : ∀ (more sorted : List (String × α)), Ascending sorted →
      Ascending (more.foldl (fun sorted entry => putEntry entry.1 entry.2 sorted) sorted) := by
    intro more
    induction more with
    | nil => exact fun _ => id
    | cons first rest ih => exact fun sorted ascending => ih _ (ascending_putEntry _ _ ascending)
  exact kept entries [] List.Pairwise.nil

theorem sortEntries_of_ascending (ascending : Ascending entries) : sortEntries entries = entries := by
  have onwards : ∀ more sorted : List (String × α), Ascending (sorted ++ more) →
      more.foldl (fun sorted entry => putEntry entry.1 entry.2 sorted) sorted = sorted ++ more := by
    intro more
    induction more with
    | nil => exact fun sorted _ => (List.append_nil sorted).symm
    | cons first rest ih =>
      intro sorted ascending
      have above : ∀ entry ∈ sorted, entry.1 < first.1 :=
        fun entry member => (List.pairwise_append.1 ascending).2.2 entry member first List.mem_cons_self
      rw [List.foldl_cons, putEntry_last above, ih, List.append_assoc, List.singleton_append]
      rwa [List.append_assoc, List.singleton_append]
  exact onwards entries [] ascending

end Codec

namespace Json

theorem put_eq_putEntry (name : String) (value : Json) (members : List (String × Json)) :
    put name value members = Codec.putEntry name value members := by
  induction members with
  | nil => rfl
  | cons member rest ih => simp only [put, Codec.putEntry, ih]

theorem sortMembers_eq (members : List (String × Json)) :
    sortMembers members = Codec.sortEntries members := by
  simp only [sortMembers, Codec.sortEntries, put_eq_putEntry]

theorem canonicalItems_eq (items : List Json) : canonicalItems items = items.map canonical := by
  induction items with
  | nil => rfl
  | cons item rest ih => rw [canonicalItems, ih, List.map_cons]

theorem canonicalMembers_eq (members : List (String × Json)) :
    canonicalMembers members = members.map fun m => (m.1, m.2.canonical) := by
  induction members with
  | nil => rfl
  | cons member rest ih => rw [canonicalMembers, ih, List.map_cons]

theorem readableMembers_iff {members : List (String × Json)} :
    readableMembers members = true ↔ ∀ m ∈ members, m.2.readable = true := by
  induction members with
  | nil => simp [readableMembers]
  | cons member rest ih => simp [readableMembers, ih]

theorem readableItems_iff {items : List Json} :
    readableItems items = true ↔ ∀ j ∈ items, j.readable = true := by
  induction items with
  | nil => simp [readableItems]
  | cons item rest ih => simp [readableItems, ih]

def tidyMembers (members : List (String × Json)) : List (String × Json) :=
  sortMembers (canonicalMembers members)

theorem mem_of_mem_tidyMembers {members : List (String × Json)} {m : String × Json}
    (member : m ∈ tidyMembers members) : ∃ value, (m.1, value) ∈ members ∧ m.2 = value.canonical := by
  rw [tidyMembers, sortMembers_eq, canonicalMembers_eq] at member
  obtain ⟨⟨name, value⟩, stands, rfl⟩ := List.mem_map.1 (Codec.mem_of_mem_sortEntries member)
  exact ⟨value, stands, rfl⟩

theorem tidyMembers_of_ascending {members : List (String × Json)} (ascending : Ascending members)
    (settled : ∀ m ∈ members, m.2.canonical = m.2) : tidyMembers members = members := by
  have same : canonicalMembers members = members := by
    have stays : ∀ m ∈ members, (m.1, m.2.canonical) = id m := fun m member => Prod.ext rfl (settled m member)
    rw [canonicalMembers_eq, List.map_congr_left stays, List.map_id]
  rw [tidyMembers, same, sortMembers_eq, Codec.sortEntries_of_ascending ascending]

theorem ascending_tidyMembers (members : List (String × Json)) : Ascending (tidyMembers members) := by
  rw [tidyMembers, sortMembers_eq]
  exact Codec.ascending_sortEntries _

/-- A canonical document is its own canonical form. -/
theorem canonical_canonical (j : Json) : j.canonical.canonical = j.canonical := by
  cases j with
  | array items =>
    simp only [canonical, canonicalItems_eq, List.map_map]
    refine congrArg array (List.map_congr_left fun item member => ?_)
    exact canonical_canonical item
  | object members =>
    refine congrArg object (tidyMembers_of_ascending (ascending_tidyMembers members) fun m member => ?_)
    obtain ⟨value, stands, same⟩ := mem_of_mem_tidyMembers member
    rw [same]
    exact canonical_canonical value
  | null | bool _ | int _ | float _ | string _ | unreadable => rfl
termination_by sizeOf j
decreasing_by
  · have smaller := List.sizeOf_lt_of_mem member
    simp only [array.sizeOf_spec]
    omega
  · have smaller := List.sizeOf_lt_of_mem stands
    simp only [Prod.mk.sizeOf_spec, object.sizeOf_spec] at smaller ⊢
    omega

theorem tidyMembers_tidyMembers (members : List (String × Json)) :
    tidyMembers (tidyMembers members) = tidyMembers members := by
  refine tidyMembers_of_ascending (ascending_tidyMembers members) fun m member => ?_
  obtain ⟨value, -, same⟩ := mem_of_mem_tidyMembers member
  rw [same, canonical_canonical]

mutual

/-- A document whose parts all have values has a canonical form of that kind. -/
theorem readable_canonical (j : Json) (readable : j.readable = true) : j.canonical.readable = true := by
  match j with
  | array items =>
    simp only [canonical, Json.readable, canonicalItems_eq, readableItems_iff] at readable ⊢
    intro item member
    obtain ⟨old, stands, rfl⟩ := List.mem_map.1 member
    exact readable_of_mem_items items readable old stands
  | object members =>
    simp only [canonical, Json.readable, readableMembers_iff] at readable ⊢
    intro m member
    obtain ⟨value, stands, same⟩ := mem_of_mem_tidyMembers member
    rw [same]
    exact readable_of_mem_members members readable (m.1, value) stands
  | null | bool _ | int _ | float _ | string _ => rfl
  | unreadable => cases readable

theorem readable_of_mem_items (items : List Json) (readable : ∀ j ∈ items, j.readable = true)
    (item : Json) (member : item ∈ items) : item.canonical.readable = true := by
  match items with
  | [] => cases member
  | first :: rest =>
    obtain ⟨own, others⟩ := List.forall_mem_cons.1 readable
    rcases List.mem_cons.1 member with same | later
    · rw [same]
      exact readable_canonical first own
    · exact readable_of_mem_items rest others item later

theorem readable_of_mem_members (members : List (String × Json))
    (readable : ∀ m ∈ members, m.2.readable = true) (m : String × Json) (member : m ∈ members) :
    m.2.canonical.readable = true := by
  match members with
  | [] => cases member
  | (name, value) :: rest =>
    obtain ⟨own, others⟩ := List.forall_mem_cons.1 readable
    rcases List.mem_cons.1 member with same | later
    · rw [same]
      exact readable_canonical value own
    · exact readable_of_mem_members rest others m later

end

theorem readable_tidyMembers {members : List (String × Json)} (readable : readableMembers members = true) :
    readableMembers (tidyMembers members) = true := by
  rw [readableMembers_iff] at readable ⊢
  intro m member
  obtain ⟨value, stands, same⟩ := mem_of_mem_tidyMembers member
  rw [same]
  exact readable_canonical value (readable (m.1, value) stands)

/-- A document that is kept as it is: every part of it has a value, and it is its own canonical form. -/
structure IsValue (j : Json) : Prop where
  readable : j.readable = true
  canonical : j.canonical = j

theorem isValue_canonical {j : Json} (readable : j.readable = true) : j.canonical.IsValue :=
  ⟨readable_canonical j readable, canonical_canonical j⟩

namespace IsValue

variable {items : List Json} {members : List (String × Json)}

theorem item (value : (array items).IsValue) : ∀ j ∈ items, j.IsValue := by
  intro j member
  have same : items.map Json.canonical = items.map id := by
    rw [← canonicalItems_eq, List.map_id]
    exact array.inj value.canonical
  exact ⟨readableItems_iff.1 value.readable j member, List.map_inj_left.1 same j member⟩

theorem tidy (value : (object members).IsValue) : tidyMembers members = members :=
  object.inj value.canonical

theorem ascending (value : (object members).IsValue) : Ascending members := by
  rw [← value.tidy]
  exact ascending_tidyMembers members

theorem member (value : (object members).IsValue) : ∀ m ∈ members, m.2.IsValue := by
  intro m member
  refine ⟨readableMembers_iff.1 value.readable m member, ?_⟩
  rw [← value.tidy] at member
  obtain ⟨written, -, same⟩ := mem_of_mem_tidyMembers member
  rw [same, canonical_canonical]

end IsValue

end Json

end AgentHooks
