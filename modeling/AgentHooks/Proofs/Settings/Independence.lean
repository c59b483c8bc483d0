import AgentHooks.Proofs.Settings.Slots
import Mathlib.Data.List.Nodup

/-! The leaves of a document are read independently of each other. What a document has at one leaf makes no difference
to what it means at the others, except where two of them are judged as a pair; and a value that a leaf cannot hold is
no better than no value. -/

namespace AgentHooks

namespace Settings

open Leaf

/-- Two documents that are the same except, maybe, at one place: each may have anything there, or nothing. -/
def Place.Only (raw raw' : Json) : Place → Prop
  | top key => ∀ other, other ≠ key → raw.member? other = raw'.member? other
  | inside record key =>
    (∀ other, other ≠ record → raw.member? other = raw'.member? other) ∧
      ∀ other, other ≠ key → (part raw record).member? other = (part raw' record).member? other

/-- Leaves that are judged together: a leaf and itself, or the two of a pair. -/
def Slot.Tied (slot other : Slot) : Prop :=
  slot = other ∨ ∃ pair ∈ pairs, (slot = pair.1 ∨ slot = pair.2) ∧ (other = pair.1 ∨ other = pair.2)

def Place.Known : Place → Prop
  | top key => key ∈ ["enabled", "disabled", "order"]
  | inside record _ => record ∉ ["enabled", "disabled", "order"]

instance (place : Place) : Decidable place.Known :=
  match place with
  | .top key => inferInstanceAs (Decidable (key ∈ _))
  | .inside record _ => inferInstanceAs (Decidable (record ∉ _))

theorem known_of_mem_slots : ∀ slot ∈ slots, slot.place.Known := by
  decide

theorem places_nodup : (slots.map (·.place)).Nodup := by
  decide +kernel

theorem Place.at?_of_only {raw raw' : Json} {place other : Place} (only : place.Only raw raw') (known : place.Known)
    (known' : other.Known) (apart : other ≠ place) : other.at? raw = other.at? raw' := by
  cases place with
  | top key =>
    cases other with
    | top key' =>
      apply only key'
      intro same
      exact apart (congrArg top same)
    | inside record key' =>
      have others : record ≠ key := fun same => known' (same ▸ known)
      rw [at?, at?, part, part, only record others]
  | inside record key =>
    cases other with
    | top key' =>
      apply only.1 key'
      intro same
      exact known (same ▸ known')
    | inside record' key' =>
      by_cases same : record' = record
      · subst same
        apply only.2 key'
        intro same
        exact apart (congrArg (inside record') same)
      · rw [at?, at?, part, part, only.1 record' same]

/-- A leaf is read alike when it is, and the pair it may be in, leaf by leaf. -/
theorem Slot.settled_congr {raw raw' : Json} {slot : Slot} (own : slot.alone raw = slot.alone raw')
    (partners : ∀ pair ∈ pairs, slot = pair.1 ∨ slot = pair.2 →
      pair.1.alone raw = pair.1.alone raw' ∧ pair.2.alone raw = pair.2.alone raw') :
    slot.settled raw = slot.settled raw' := by
  have judged : slot.isSwapped raw = slot.isSwapped raw' := by
    rw [Bool.eq_iff_iff, isSwapped, isSwapped, List.any_eq_true, List.any_eq_true]
    apply exists_congr
    intro pair
    apply and_congr_right
    intro member
    simp only [Bool.and_eq_true, Bool.or_eq_true, beq_iff_eq]
    apply and_congr_right
    intro inside
    have both := partners pair member inside
    rw [amount, amount, amount, amount, both.1, both.2]
  rw [settled, settled, judged, own]

/-- Documents that differ at one leaf mean the same at all other leaves but the one it makes a pair with; and if one of
them has a value there that the leaf cannot hold, and the other none, they mean the same. -/
theorem leaves_independent {leaf : Slot} (member : leaf ∈ slots) {raw raw' : Json} (only : leaf.place.Only raw raw') :
    (∀ other ∈ slots, ¬leaf.Tied other →
      other.place.at? (Settings.ofJson raw).toJson = other.place.at? (Settings.ofJson raw').toJson) ∧
    ∀ value, leaf.place.at? raw = some value → leaf.kind.Malformed value → leaf.place.at? raw' = none →
      Settings.ofJson raw = Settings.ofJson raw' := by
  have elsewhere : ∀ other ∈ slots, other ≠ leaf → other.alone raw = other.alone raw' := by
    intro other member' apart
    have same : other.place.at? raw = other.place.at? raw' := by
      apply Place.at?_of_only only (known_of_mem_slots leaf member) (known_of_mem_slots other member')
      intro place
      exact apart (List.inj_on_of_nodup_map places_nodup member' member place)
    rw [Slot.alone, Slot.alone, same]
  constructor
  · intro other member' untied
    have apart : ∀ slot, leaf.Tied slot → other ≠ slot := fun slot tied same => untied (same ▸ tied)
    rw [at?_ofJson raw other member', at?_ofJson raw' other member']
    have settled : other.settled raw = other.settled raw' := by
      apply Slot.settled_congr (elsewhere other member' (apart leaf (.inl rfl)))
      intro pair inPairs inside
      have known := pair_mem_slots pair inPairs
      constructor
      · apply elsewhere pair.1 known.1
        intro same
        exact untied (.inr ⟨pair, inPairs, .inl same.symm, inside⟩)
      · apply elsewhere pair.2 known.2
        intro same
        exact untied (.inr ⟨pair, inPairs, .inr same.symm, inside⟩)
    rw [settled]
  · intro value here malformed nothing
    -- The malformed leaf reads as an absent one, so the documents say the same at every leaf.
    have everywhere : ∀ slot ∈ slots, slot.alone raw = slot.alone raw' := by
      intro slot member'
      by_cases same : slot = leaf
      · rw [same, Slot.alone, Slot.alone, here, nothing, Option.bind_some, Kind.read_eq_none_iff.2 malformed]
        rfl
      · exact elsewhere slot member' same
    apply eq_of_slots
    intro slot member'
    have settled : slot.settled raw = slot.settled raw' := by
      apply Slot.settled_congr (everywhere slot member')
      intro pair inPairs _
      have known := pair_mem_slots pair inPairs
      exact ⟨everywhere pair.1 known.1, everywhere pair.2 known.2⟩
    rw [at?_ofJson raw slot member', at?_ofJson raw' slot member', settled]

def limits (warning : Json) : Json × Json :=
  (.object [("enabled", .bool false), ("processPressure", .object [("criticalMaxRssMb", .int 15000),
      ("warningMaxRssMb", warning)])],
    .object [("enabled", .bool false), ("processPressure", .object [("criticalMaxRssMb", .int 15000)])])

/-- A limit of zero is no limit, and no other leaf is affected. -/
theorem leaves_independent_zero :
    (∀ other ∈ slots, ¬warningMemory.Tied other →
      other.place.at? (Settings.ofJson (limits (.int 0)).1).toJson =
        other.place.at? (Settings.ofJson (limits (.int 0)).2).toJson) ∧
    Settings.ofJson (limits (.int 0)).1 = Settings.ofJson (limits (.int 0)).2 := by
  have known : warningMemory ∈ slots := by decide
  have only : warningMemory.place.Only (limits (.int 0)).1 (limits (.int 0)).2 := by
    constructor
    · intro other apart
      have elsewhere : (other == "processPressure") = false := beq_eq_false_iff_ne.2 apart
      simp [limits, Json.member?, List.lookup_cons, elsewhere]
    · intro other apart
      have elsewhere : (other == "warningMaxRssMb") = false := beq_eq_false_iff_ne.2 apart
      simp [limits, Json.ofOption, part, Json.member?, List.lookup_cons, elsewhere]
  have facts := leaves_independent known only
  refine ⟨facts.1, facts.2 (.int 0) (by rfl) ?_ (by rfl)⟩
  intro n above same
  cases n with
  | zero => exact absurd above (Nat.lt_irrefl 0)
  | succ n => cases same

/-- A limit above the other takes both of them back. -/
example : (Settings.ofJson (limits (.int 20000)).1).pressure.criticalMaxRssMb = 10240 ∧
    (Settings.ofJson (limits (.int 20000)).2).pressure.criticalMaxRssMb = 15000 := by
  decide

end Settings

end AgentHooks
