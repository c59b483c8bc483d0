import Mathlib.Data.String.Basic

/-! The bytes of a text. Comparing two texts character by character is comparing them byte by byte, since a character's
bytes grow with it and none is the beginning of another's. -/

namespace AgentHooks

namespace Text

def codeUnits (s : String) : List UInt8 :=
  s.toUTF8.data.toList

theorem codeUnits_eq (s : String) : codeUnits s = s.toList.flatMap String.utf8EncodeChar := by
  rw [codeUnits, String.toUTF8_eq_toByteArray, ← String.utf8Encode_toList]
  simp [List.utf8Encode]

theorem unit_lt_iff {m n : Nat} (small : m < 256) (small' : n < 256) :
    UInt8.ofNat m < UInt8.ofNat n ↔ m < n := by
  rw [UInt8.lt_iff_toNat_lt, UInt8.toNat_ofNat', UInt8.toNat_ofNat', Nat.mod_eq_of_lt small, Nat.mod_eq_of_lt small']

theorem unit_eq_iff {m n : Nat} (small : m < 256) (small' : n < 256) :
    UInt8.ofNat m = UInt8.ofNat n ↔ m = n := by
  rw [← UInt8.toNat_inj, UInt8.toNat_ofNat', UInt8.toNat_ofNat', Nat.mod_eq_of_lt small, Nat.mod_eq_of_lt small']

theorem sixes (v : Nat) : v / 4096 = v / 64 / 64 ∧ v / 262144 = v / 64 / 64 / 64 := by
  omega

/-- Whatever follows, a smaller character's bytes come first. -/
theorem encoded_lt {a b : Char} (smaller : a < b) (rest rest' : List UInt8) :
    String.utf8EncodeChar a ++ rest < String.utf8EncodeChar b ++ rest' := by
  have below : a.val.toNat < b.val.toNat := UInt32.lt_iff_toNat_lt.1 (Char.lt_def.1 smaller)
  have last : b.val.toNat < 0x110000 := by
    have valid := b.valid
    simp only [UInt32.isValidChar, Nat.isValidChar] at valid
    omega
  simp only [String.utf8EncodeChar, (sixes _).1, (sixes _).2]
  -- Whatever the lengths, the first byte that differs is the larger one on the right.
  repeat' split
  all_goals
    simp (disch := omega) only [List.cons_append, List.nil_append, List.cons_lt_cons_iff, unit_lt_iff, unit_eq_iff]
    omega

theorem codeUnits_lt {s t : String} (smaller : s < t) : codeUnits s < codeUnits t := by
  rw [codeUnits_eq, codeUnits_eq]
  have chars : s.toList < t.toList := String.lt_iff.1 smaller
  revert chars
  generalize s.toList = cs
  generalize t.toList = ds
  intro chars
  induction cs generalizing ds with
  | nil =>
    cases ds with
    | nil => exact absurd chars (List.not_lt_nil _)
    | cons d ds =>
      rw [List.flatMap_nil, List.flatMap_cons]
      cases bytes : String.utf8EncodeChar d with
      | nil => exact absurd bytes String.utf8EncodeChar_ne_nil
      | cons byte more => exact List.nil_lt_cons _ _
  | cons c cs ih =>
    cases ds with
    | nil => exact absurd chars (List.not_lt_nil _)
    | cons d ds =>
      rw [List.flatMap_cons, List.flatMap_cons]
      rcases List.cons_lt_cons_iff.1 chars with smaller | ⟨rfl, later⟩
      · exact encoded_lt smaller _ _
      · exact List.append_left_lt (ih ds later)

/-- Texts are in the order of their code units. -/
theorem le_iff_codeUnits_le {s t : String} : s ≤ t ↔ codeUnits s ≤ codeUnits t := by
  constructor
  · intro before after
    rcases trichotomous_of (· < ·) s t with smaller | rfl | larger
    · exact List.lt_irrefl _ (List.lt_trans (codeUnits_lt smaller) after)
    · exact List.lt_irrefl _ after
    · exact String.not_le.2 larger before
  · intro before after
    exact before (codeUnits_lt after)

end Text

end AgentHooks
