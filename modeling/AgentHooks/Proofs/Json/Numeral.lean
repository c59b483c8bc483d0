import AgentHooks.Json.Numeral
import AgentHooks.Json.Printer

/-! Integers as they are printed and read. A printed integer has no leading zero, and the reader takes its
digits in as long as the number fits into a word. -/

namespace AgentHooks.Json

def digitValue (c : Char) : Nat :=
  c.toNat - '0'.toNat

theorem digit?_of_isDigit {c : Char} (digit : c.isDigit = true) : digit? c = some (digitValue c) := by
  simp only [digit?, digit, if_true, digitValue]

theorem digitRun_append {digits rest : List Char} (all : ∀ c ∈ digits, c.isDigit = true)
    (ends : ∀ c ∈ rest.head?, c.isDigit = false) : digitRun (digits ++ rest) = (digits.map digitValue, rest) := by
  induction digits with
  | nil =>
    cases rest with
    | nil => rfl
    | cons c more =>
      have stop : digit? c = none := by simp [digit?, ends c rfl]
      simp only [List.nil_append, digitRun, stop, List.map_nil]
  | cons c more ih =>
    have others := ih fun d member => all d (List.mem_cons_of_mem c member)
    simp only [List.cons_append, digitRun, digit?_of_isDigit (all c (by simp)), others, List.map_cons]

theorem digitRun_of_digits {digits : List Char} (all : ∀ c ∈ digits, c.isDigit = true) :
    digitRun digits = (digits.map digitValue, []) := by
  have run : digitRun (digits ++ []) = (digits.map digitValue, []) := digitRun_append all (by simp)
  rwa [List.append_nil] at run

theorem isDigit_of_mem_toDigits {n : Nat} {c : Char} (member : c ∈ Nat.toDigits 10 n) :
    c.isDigit = true :=
  Nat.isDigit_of_mem_toDigits (by decide) (by decide) member

theorem toDigits_ten (n : Nat) : Nat.toDigits 10 n =
    if n < 10 then [n.digitChar] else Nat.toDigits 10 (n / 10) ++ [(n % 10).digitChar] :=
  Nat.toDigits_eq_if (by decide)

theorem toDigits_head (n : Nat) (positive : 0 < n) :
    ∃ d rest, Nat.toDigits 10 n = Nat.digitChar d :: rest ∧ 0 < d ∧ d < 10 := by
  induction n using Nat.strongRecOn with
  | ind n ih =>
    rw [toDigits_ten n]
    by_cases small : n < 10
    · rw [if_pos small]
      exact ⟨n, [], rfl, positive, small⟩
    · rw [if_neg small]
      obtain ⟨d, rest, front, nonzero, digit⟩ := ih (n / 10) (by omega) (by omega)
      exact ⟨d, rest ++ [(n % 10).digitChar], by rw [front, List.cons_append], nonzero, digit⟩

theorem digitValue_digitChar {d : Nat} (digit : d < 10) : digitValue d.digitChar = d :=
  Nat.toNat_digitChar_sub_48_of_lt_ten digit

theorem ofDigits_toDigits (n : Nat) :
    Numeral.ofDigits ((Nat.toDigits 10 n).map digitValue) = n := by
  have same := Nat.ofDigitChars_toDigits (b := 10) (n := n) (by decide) (by decide)
  simp only [Nat.ofDigitChars_eq_foldl, Nat.mul_comm 10] at same
  simp only [Numeral.ofDigits, List.foldl_map, digitValue]
  exact same

namespace Numeral

theorem le_foldl_digits (digits : List Nat) (n : Nat) :
    n ≤ digits.foldl (fun n d => n * 10 + d) n := by
  induction digits generalizing n with
  | nil => exact Nat.le_refl n
  | cons d rest ih =>
    have step := ih (n * 10 + d)
    simp only [List.foldl_cons]
    omega

/-- Digits are taken in until the number would no longer fit into a word. -/
theorem absorb_of_le {digits : List Nat} {n : Nat}
    (fits : digits.foldl (fun n d => n * 10 + d) n ≤ maxInt) :
    absorb n digits = (digits.foldl (fun n d => n * 10 + d) n, []) := by
  induction digits generalizing n with
  | nil => rfl
  | cons d rest ih =>
    simp only [List.foldl_cons] at fits ⊢
    have small : ¬maxInt < n * 10 + d := by
      have grown := le_foldl_digits rest (n * 10 + d)
      omega
    rw [absorb, if_neg small]
    exact ih fits

theorem wholeDigits?_toDigits (n : Nat) :
    wholeDigits? (Nat.toDigits 10 n) = some ((Nat.toDigits 10 n).map digitValue, []) := by
  unfold wholeDigits?
  rw [digitRun_of_digits fun c member => isDigit_of_mem_toDigits member]
  by_cases zero : n = 0
  · subst zero
    rfl
  · obtain ⟨d, rest, front, nonzero, digit⟩ := toDigits_head n (Nat.pos_of_ne_zero zero)
    rw [front, List.map_cons, digitValue_digitChar digit]
    obtain ⟨m, rfl⟩ : ∃ m, d = m + 1 := ⟨d - 1, by omega⟩
    rfl

def ofWhole (negative : Bool) (n : Nat) : Numeral :=
  ⟨negative, (Nat.toDigits 10 n).map digitValue, none, none⟩

theorem ofChars?_printInt (n : Int) :
    ofChars? (printInt n) = some (ofWhole (decide (n < 0)) n.natAbs) := by
  cases n with
  | ofNat n =>
    have unsigned : ∀ cs, Nat.toDigits 10 n ≠ '-' :: cs := by
      intro cs same
      have digit := isDigit_of_mem_toDigits (n := n) (c := '-') (by simp [same])
      simp at digit
    have positive : ¬Int.ofNat n < 0 := by simp
    simp only [ofChars?, printInt, wholeDigits?_toDigits, Option.bind_eq_bind, Option.bind_some,
      fraction?, exponent?, List.isEmpty_nil, if_true, ofWhole, decide_eq_false positive]
    rfl
  | negSucc n =>
    have negative : Int.negSucc n < 0 := Int.negSucc_lt_zero n
    simp only [ofChars?, printInt, wholeDigits?_toDigits, Option.bind_eq_bind, Option.bind_some,
      fraction?, exponent?, List.isEmpty_nil, if_true, ofWhole, decide_eq_true negative]
    rfl

def Fits (n : Int) : Prop :=
  -(Nat.pow 2 63 : Int) ≤ n ∧ n ≤ maxInt

theorem value_ofWhole {n : Int} (fits : Fits n) : (ofWhole (decide (n < 0)) n.natAbs).value = int n := by
  obtain ⟨low, high⟩ := fits
  have bounds : Nat.pow 2 63 ≤ maxInt := by decide
  have taken : absorb 0 ((Nat.toDigits 10 n.natAbs).map digitValue) = (n.natAbs, []) := by
    have same := ofDigits_toDigits n.natAbs
    rw [ofDigits] at same
    rw [absorb_of_le (by rw [same]; omega), same]
  simp only [value, ofWhole, taken, List.isEmpty_nil, Option.isNone_none, Bool.and_true, if_true]
  by_cases negative : n < 0
  · have inside : ¬(decide (n.natAbs = 0) || decide (Nat.pow 2 63 < n.natAbs)) = true := by
      simp only [Bool.or_eq_true, decide_eq_true_eq]
      omega
    simp only [decide_eq_true negative, Bool.not_true, Bool.false_eq_true, if_false]
    rw [if_neg inside]
    congr 1
    omega
  · simp only [decide_eq_false negative, Bool.not_false, if_true]
    congr 1
    omega

end Numeral

end AgentHooks.Json
