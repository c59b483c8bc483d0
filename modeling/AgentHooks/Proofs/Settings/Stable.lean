import AgentHooks.Proofs.Settings.Slots
import Mathlib.Tactic.FinCases

/-! Settings say what they mean. Written out as a document and read again they are the same settings, since every value
that they keep at a leaf is one that they keep as it is, and a pair put in order is in order. -/

namespace AgentHooks

namespace Settings

theorem read_default : ∀ slot ∈ slots, slot.kind.read slot.default = some slot.default := by
  intro slot member
  fin_cases member <;> rfl

theorem default_amounts : ∀ pair ∈ pairs, (pair.1.default.nat?).getD 0 ≤ (pair.2.default.nat?).getD 0 := by
  intro pair member
  fin_cases member <;> decide

theorem read_settled (raw : Json) {slot : Slot} (member : slot ∈ slots) :
    slot.kind.read (slot.settled raw) = some (slot.settled raw) := by
  rw [Slot.settled]
  split
  next swapped => exact read_default slot member
  next straight =>
    rw [Slot.alone]
    cases kept : (slot.place.at? raw).bind slot.kind.read with
    | none => exact read_default slot member
    | some value =>
      obtain ⟨j, -, read⟩ := Option.bind_eq_some_iff.1 kept
      exact Kind.read_of_read read

theorem alone_toJson (raw : Json) {slot : Slot} (member : slot ∈ slots) :
    slot.alone (Settings.ofJson raw).toJson = slot.settled raw := by
  rw [Slot.alone, at?_ofJson raw slot member, Option.bind_some, read_settled raw member, Option.getD_some]

/-- Settings have no pair the wrong way round. -/
theorem isSwapped_toJson (raw : Json) (slot : Slot) : slot.isSwapped (Settings.ofJson raw).toJson = false := by
  rw [Slot.isSwapped, List.any_eq_false]
  intro pair member
  have known := pair_mem_slots pair member
  have judged := isSwapped_of_pair raw pair member
  have ordered : ¬pair.2.amount (Settings.ofJson raw).toJson < pair.1.amount (Settings.ofJson raw).toJson := by
    rw [Slot.amount, Slot.amount, alone_toJson raw known.1, alone_toJson raw known.2, Slot.settled, Slot.settled,
      judged.1, judged.2]
    by_cases swapped : pair.2.amount raw < pair.1.amount raw
    · rw [if_pos (decide_eq_true swapped), if_pos (decide_eq_true swapped)]
      exact Nat.not_lt.2 (default_amounts pair member)
    · rw [if_neg (by simpa using swapped), if_neg (by simpa using swapped)]
      exact swapped
  simp [ordered]

/-- Settings are what they say they are: written out and read again, by whatever document they were made, they are the
same in every field. -/
theorem ofJson_toJson_ofJson (raw : Json) : Settings.ofJson (Settings.ofJson raw).toJson = Settings.ofJson raw := by
  apply eq_of_slots
  intro slot member
  have straight := isSwapped_toJson raw slot
  rw [at?_ofJson _ slot member, at?_ofJson raw slot member, Slot.settled, straight, alone_toJson raw member]
  rfl

end Settings

end AgentHooks
