import AgentHooks.Json.Token
import AgentHooks.Proofs.Json.Numeral

/-! Doubles as they are printed. Whatever digits a double comes to, its layout is a number of the grammar that the
reader knows: digits without an idle zero in front, then digits behind a point, then an exponent with its sign. -/

namespace AgentHooks

namespace Json

def AreDigits (cs : List Char) : Prop :=
  cs ≠ [] ∧ ∀ c ∈ cs, c.isDigit = true

theorem areDigits_toDigits (n : Nat) : AreDigits (Nat.toDigits 10 n) :=
  ⟨Nat.toDigits_ne_nil, fun _ member => isDigit_of_mem_toDigits member⟩

theorem AreDigits.append {cs ds : List Char} (first : AreDigits cs) (second : ∀ c ∈ ds, c.isDigit = true) :
    AreDigits (cs ++ ds) :=
  ⟨fun none => first.1 (List.append_eq_nil_iff.1 none).1, fun c member =>
    (List.mem_append.1 member).elim (first.2 c) (second c)⟩

structure Written where
  whole : List Char
  fraction : Option (List Char)
  exponent : Option (Bool × List Char)

namespace Written

def fractionChars (n : Written) : List Char :=
  n.fraction.elim [] fun digits => '.' :: digits

def exponentChars (n : Written) : List Char :=
  n.exponent.elim [] fun (negative, digits) => 'e' :: (if negative then '-' else '+') :: digits

def chars (n : Written) : List Char :=
  n.whole ++ (n.fractionChars ++ n.exponentChars)

structure Proper (n : Written) : Prop where
  whole : AreDigits n.whole
  front : ∀ c rest, n.whole = c :: rest → digitValue c = 0 → rest = []
  fraction : ∀ digits ∈ n.fraction, AreDigits digits
  exponent : ∀ e ∈ n.exponent, AreDigits e.2

variable {n : Written}

theorem exponentChars_head (n : Written) : ∀ c ∈ n.exponentChars.head?, c = 'e' := by
  obtain ⟨whole, fraction, exponent⟩ := n
  cases exponent with
  | none => simp [exponentChars]
  | some e => simp [exponentChars]

theorem tail_head (n : Written) : ∀ c ∈ (n.fractionChars ++ n.exponentChars).head?, c.isDigit = false := by
  intro c first
  obtain ⟨whole, fraction, exponent⟩ := n
  cases fraction with
  | none =>
    rw [exponentChars_head ⟨whole, none, exponent⟩ c first]
    rfl
  | some digits =>
    have point : '.' = c := by simpa [fractionChars] using first
    rw [← point]
    rfl

theorem wholeDigits?_chars (proper : n.Proper) :
    Numeral.wholeDigits? n.chars = some (n.whole.map digitValue, n.fractionChars ++ n.exponentChars) := by
  obtain ⟨filled, digits⟩ := proper.whole
  unfold Numeral.wholeDigits? chars
  rw [digitRun_append digits n.tail_head]
  cases written : n.whole with
  | nil => exact absurd written filled
  | cons first rest =>
    simp only [List.map_cons]
    cases leads : digitValue first with
    | zero =>
      have alone : rest = [] := proper.front first rest written leads
      subst alone
      rfl
    | succ m => rfl

theorem fraction?_chars (proper : n.Proper) :
    Numeral.fraction? (n.fractionChars ++ n.exponentChars) =
      some (n.fraction.map (·.map digitValue), n.exponentChars) := by
  obtain ⟨whole, fraction, exponent⟩ := n
  cases fraction with
  | none =>
    cases exponent with
    | none => rfl
    | some e => rfl
  | some ds =>
    obtain ⟨filled, digits⟩ := proper.fraction ds rfl
    have ends : ∀ c ∈ (exponentChars ⟨whole, some ds, exponent⟩).head?, c.isDigit = false := by
      intro c first
      rw [exponentChars_head _ c first]
      rfl
    simp only [fractionChars, Option.elim_some, List.cons_append, Numeral.fraction?, digitRun_append digits ends]
    cases ds with
    | nil => exact absurd rfl filled
    | cons d more => rfl

theorem exponentDigits?_digits {digits : List Char} (areDigits : AreDigits digits) (negative : Bool) :
    Numeral.exponentDigits? negative digits = some (some (negative, digits.map digitValue), []) := by
  obtain ⟨filled, all⟩ := areDigits
  unfold Numeral.exponentDigits?
  rw [digitRun_of_digits all]
  cases digits with
  | nil => exact absurd rfl filled
  | cons d more => rfl

theorem exponent?_chars (proper : n.Proper) :
    Numeral.exponent? n.exponentChars = some (n.exponent.map fun e => (e.1, e.2.map digitValue), []) := by
  obtain ⟨whole, fraction, exponent⟩ := n
  cases exponent with
  | none => rfl
  | some e =>
    obtain ⟨negative, digits⟩ := e
    have read := exponentDigits?_digits (proper.exponent (negative, digits) rfl) negative
    cases negative with
    | true => exact read
    | false => exact read

def numeral (n : Written) (negative : Bool) : Numeral :=
  ⟨negative, n.whole.map digitValue, n.fraction.map (·.map digitValue),
    n.exponent.map fun e => (e.1, e.2.map digitValue)⟩

def signed (n : Written) (negative : Bool) : List Char :=
  if negative then '-' :: n.chars else n.chars

theorem ofChars?_signed (proper : n.Proper) (negative : Bool) :
    Numeral.ofChars? (n.signed negative) = some (n.numeral negative) := by
  have unsigned : ∀ rest, n.chars ≠ '-' :: rest := by
    intro rest same
    obtain ⟨filled, digits⟩ := proper.whole
    cases written : n.whole with
    | nil => exact filled written
    | cons first more =>
      rw [chars, written] at same
      have minus : first = '-' := (List.cons.inj same).1
      have digit := digits first (by simp [written])
      rw [minus] at digit
      exact absurd digit (by decide)
  cases negative with
  | true =>
    simp only [Numeral.ofChars?, signed, if_true, wholeDigits?_chars proper, fraction?_chars proper,
      exponent?_chars proper, Option.bind_eq_bind, Option.bind_some, List.isEmpty_nil, numeral]
  | false =>
    simp only [Numeral.ofChars?, signed, Bool.false_eq_true, if_false, wholeDigits?_chars proper,
      fraction?_chars proper, exponent?_chars proper, Option.bind_eq_bind, Option.bind_some, List.isEmpty_nil,
      if_true, numeral]

theorem isNumeralChar_of_mem_signed (proper : n.Proper) {negative : Bool} {c : Char} (member : c ∈ n.signed negative) :
    isNumeralChar c = true := by
  have digit : c.isDigit = true → isNumeralChar c = true := by
    intro digit
    simp only [isNumeralChar, digit, Bool.true_or]
  have unsigned : c ∈ n.chars → isNumeralChar c = true := by
    intro inside
    obtain ⟨-, whole⟩ := proper.whole
    obtain ⟨-, -, fraction, exponent⟩ := proper
    obtain ⟨front, behind, power⟩ := n
    simp only [chars, List.mem_append] at inside
    rcases inside with early | middle | late
    · exact digit (whole c early)
    · cases behind with
      | none => cases middle
      | some digits =>
        rcases List.mem_cons.1 middle with rfl | later
        · rfl
        · exact digit ((fraction digits rfl).2 c later)
    · cases power with
      | none => cases late
      | some e =>
        obtain ⟨minus, digits⟩ := e
        simp only [exponentChars, Option.elim_some, List.mem_cons] at late
        rcases late with rfl | rfl | later
        · rfl
        · cases minus <;> rfl
        · exact digit ((exponent (minus, digits) rfl).2 c later)
  cases negative with
  | false => exact unsigned member
  | true =>
    rcases List.mem_cons.1 member with rfl | later
    · rfl
    · exact unsigned later

theorem signed_head (proper : n.Proper) (negative : Bool) :
    ∃ c rest, n.signed negative = c :: rest ∧ (c.isDigit || c == '-') = true := by
  cases negative with
  | true => exact ⟨'-', n.chars, rfl, rfl⟩
  | false =>
    obtain ⟨filled, digits⟩ := proper.whole
    cases written : n.whole with
    | nil => exact absurd written filled
    | cons first more =>
      have digit := digits first (by simp [written])
      have begins : n.signed false = first :: (more ++ (n.fractionChars ++ n.exponentChars)) := by
        simp only [signed, chars, written, Bool.false_eq_true, if_false, List.cons_append]
      exact ⟨first, _, begins, by simp only [digit, Bool.true_or]⟩

end Written

end Json

namespace Decimal

open Json

theorem exponentText_eq (e : Int) :
    exponentText e = 'e' :: (if decide (e < 0) then '-' else '+') :: Nat.toDigits 10 e.natAbs := by
  cases e with
  | ofNat n =>
    have sign : (0 : Int) ≤ Int.ofNat n := Int.natCast_nonneg n
    have positive : ¬Int.ofNat n < 0 := by simp
    have text : (toString (Int.ofNat n)).toList = Nat.toDigits 10 n := String.toList_ofList
    simp only [exponentText, if_pos sign, decide_eq_false positive, text]
    rfl
  | negSucc n =>
    have sign : ¬(0 : Int) ≤ Int.negSucc n := by omega
    have negative : Int.negSucc n < 0 := Int.negSucc_lt_zero n
    have text : (toString (Int.negSucc n)).toList = '-' :: Nat.toDigits 10 (n + 1) := by
      change ("-" ++ Nat.repr (n + 1)).toList = _
      simp only [Nat.repr, String.toList_append, String.toList_ofList]
      rfl
    simp only [exponentText, if_neg sign, decide_eq_true negative, text]
    rfl

theorem le_divHalfEven (numerator denominator : Nat) : numerator / denominator ≤ divHalfEven numerator denominator := by
  unfold divHalfEven
  dsimp only
  split
  · exact Nat.le_refl _
  · split
    · exact Nat.le_succ _
    · exact Nat.le_add_right _ _

theorem onGrid?_positive {d : Dyadic} {grid : Int} {hit : Scientific} (found : d.onGrid? grid = some hit) :
    0 < hit.digits := by
  simp only [Dyadic.onGrid?] at found
  generalize 4 * d.significand * (Nat.pow 2 (d.exponent - 2).toNat * Nat.pow 10 (-grid).toNat) = value at found
  generalize Nat.pow 2 (2 - d.exponent).toNat * Nat.pow 10 grid.toNat = unit at found
  have filled : ∀ b : Bool, (b && (value / unit) != 0) = true → 0 < value / unit := by
    intro b below
    have nonzero := (Bool.and_eq_true_iff.1 below).2
    exact Nat.pos_of_ne_zero (bne_iff_ne.1 nonzero)
  split at found
  · cases found
  next below _ =>
    cases found
    exact filled _ below
  · cases found
    exact Nat.succ_pos _
  next below _ =>
    cases found
    exact Nat.lt_of_lt_of_le (filled _ below) (le_divHalfEven value unit)

/-- A search for digits that fails leaves a plain zero. -/
theorem shortest_exponent (d : Dyadic) (none : d.shortest.digits = 0) : d.shortest.exponent = 0 := by
  simp only [Dyadic.shortest] at none ⊢
  generalize searched : (List.range 25).findSome? _ = hit at none ⊢
  cases hit with
  | none => rfl
  | some hit =>
    obtain ⟨i, -, found⟩ := List.exists_of_findSome?_eq_some searched
    have positive := onGrid?_positive found
    rw [Option.getD_some] at none
    omega

theorem written_point {whole fraction : List Char} (before : AreDigits whole) (behind : AreDigits fraction)
    (front : ∀ c rest, whole = c :: rest → digitValue c = 0 → rest = []) :
    ∃ n : Written, n.Proper ∧ whole ++ '.' :: fraction = n.chars := by
  refine ⟨⟨whole, some fraction, none⟩, ⟨before, front, ?_, ?_⟩, ?_⟩
  · rintro digits ⟨⟩
    exact behind
  · rintro e ⟨⟩
  · simp only [Written.chars, Written.fractionChars, Written.exponentChars, Option.elim_some, Option.elim_none,
      List.append_nil]

theorem written_exponent (digits : List Char) (e : Int) : AreDigits digits →
    ∃ n : Written, n.Proper ∧ (match digits with
      | first :: second :: rest => first :: '.' :: second :: rest
      | short => short) ++ exponentText e = n.chars := by
  rintro ⟨filled, all⟩
  have power : ∀ e' ∈ some (decide (e < 0), Nat.toDigits 10 e.natAbs), AreDigits e'.2 := by
    rintro e' ⟨⟩
    exact areDigits_toDigits e.natAbs
  cases digits with
  | nil => exact absurd rfl filled
  | cons first rest =>
    have lead : AreDigits [first] :=
      ⟨List.cons_ne_nil _ _, fun c member => all c (List.mem_cons.2 (.inl (List.mem_singleton.1 member)))⟩
    have front : ∀ c more, [first] = c :: more → digitValue c = 0 → more = [] :=
      fun c more same _ => (List.cons.inj same).2.symm
    cases rest with
    | nil =>
      refine ⟨⟨[first], none, some (decide (e < 0), Nat.toDigits 10 e.natAbs)⟩, ⟨lead, front, ?_, power⟩, ?_⟩
      · rintro digits ⟨⟩
      · rw [exponentText_eq]
        rfl
    | cons second rest =>
      refine ⟨⟨[first], some (second :: rest), some (decide (e < 0), Nat.toDigits 10 e.natAbs)⟩,
        ⟨lead, front, ?_, power⟩, ?_⟩
      · rintro digits ⟨⟩
        exact ⟨List.cons_ne_nil _ _, fun c member => all c (List.mem_cons_of_mem first member)⟩
      · rw [exponentText_eq]
        simp only [Written.chars, Written.fractionChars, Written.exponentChars, Option.elim_some, List.cons_append,
          List.nil_append]

theorem layout_written {d : Scientific} (zero : d.digits = 0 → d.exponent = 0) :
    ∃ n : Written, n.Proper ∧ d.layout = n.chars := by
  have digits := areDigits_toDigits d.digits
  -- A leading zero can only be the whole number, which is then written with nothing behind it.
  have front : ∀ c rest, Nat.toDigits 10 d.digits = c :: rest → digitValue c = 0 → d.digits = 0 := by
    intro c rest begins leads
    rcases Nat.eq_zero_or_pos d.digits with none | positive
    · exact none
    · obtain ⟨first, others, same, nonzero, digit⟩ := toDigits_head d.digits positive
      rw [same] at begins
      rw [← (List.cons.inj begins).1, digitValue_digitChar digit] at leads
      omega
  simp only [Scientific.layout, Bool.and_eq_true, decide_eq_true_eq]
  split
  next whole =>
    refine written_point (digits.append fun c member => ?_) ⟨by simp, by simp⟩ fun c rest begins leads => ?_
    · rw [(List.mem_replicate.1 member).2]
      rfl
    · have none : d.digits = 0 := by
        cases written : Nat.toDigits 10 d.digits with
        | nil => exact absurd written digits.1
        | cons first more =>
          rw [written] at begins
          exact front first more written ((List.cons.inj begins).1 ▸ leads)
      rw [none, zero none] at begins
      exact (List.cons.inj begins).2.symm
  next broken =>
    split
    next within =>
      generalize places : ((Nat.toDigits 10 d.digits).length + d.exponent).toNat = k
      have inside : 0 < k ∧ k < (Nat.toDigits 10 d.digits).length := by omega
      refine written_point ⟨?_, fun c member => digits.2 c (List.mem_of_mem_take member)⟩
        ⟨?_, fun c member => digits.2 c (List.mem_of_mem_drop member)⟩ fun c rest begins leads => ?_
      · intro none
        have length := congrArg List.length none
        simp only [List.length_take, List.length_nil] at length
        omega
      · intro none
        have length := congrArg List.length none
        simp only [List.length_drop, List.length_nil] at length
        omega
      · have none : d.digits = 0 := by
          cases written : Nat.toDigits 10 d.digits with
          | nil => exact absurd written digits.1
          | cons first more =>
            obtain ⟨m, same⟩ : ∃ m, k = m + 1 := ⟨k - 1, by omega⟩
            rw [written, same, List.take_succ_cons] at begins
            exact front first more written ((List.cons.inj begins).1 ▸ leads)
        have whole := zero none
        omega
    next =>
      split
      next near =>
        have unit : AreDigits ['0'] := ⟨by simp, by simp⟩
        refine written_point unit ?_ fun c rest begins _ => (List.cons.inj begins).2.symm
        refine ⟨fun none => digits.1 (List.append_eq_nil_iff.1 none).2, fun c member => ?_⟩
        rcases List.mem_append.1 member with early | late
        · rw [(List.mem_replicate.1 early).2]
          rfl
        · exact digits.2 c late
      next far => exact written_exponent _ _ digits

theorem floatText_written (x : Float) :
    ∃ (n : Written) (negative : Bool), n.Proper ∧ (floatText x).toList = n.signed negative := by
  have zero : ∃ n : Written, n.Proper ∧ ['0', '.', '0'] = n.chars := layout_written (d := ⟨0, 0⟩) fun _ => rfl
  have size : ∃ n : Written, n.Proper ∧ (if (Dyadic.ofFloat x).significand = 0 then ['0', '.', '0']
      else (Dyadic.ofFloat x).shortest.layout) = n.chars := by
    split
    · exact zero
    · exact layout_written (shortest_exponent _)
  obtain ⟨n, proper, same⟩ := size
  refine ⟨n, (Dyadic.ofFloat x).negative, proper, ?_⟩
  simp only [floatText, String.toList_ofList, same, Written.signed]

end Decimal

end AgentHooks
