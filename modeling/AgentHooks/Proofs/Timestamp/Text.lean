import AgentHooks.Timestamp.Reader

/-! Instants as they are written and read. Each written field ends where its last digit does, since no
digit follows it. -/

namespace AgentHooks.Timestamp

structure Valid (t : Timestamp) : Prop where
  year : isYear t.year = true
  month : 1 ≤ t.month ∧ t.month ≤ 12
  day : 1 ≤ t.day ∧ t.day ≤ Calendar.monthLength t.year t.month
  hour : t.hour ≤ 23
  minute : t.minute ≤ 59
  second : t.second ≤ 60
  nanos : t.nanos < 1000000000

/-! Digits. -/

structure Run (digits rest : List Char) : Prop where
  filled : digits ≠ []
  digits : ∀ c ∈ digits, c.isDigit = true
  ends : ∃ c more, rest = c :: more ∧ c.isDigit = false

theorem isBlank_of_isDigit {c : Char} (digit : c.isDigit = true) : Text.isBlank c = false := by
  simp only [Char.isDigit, Bool.and_eq_true, decide_eq_true_eq] at digit
  have low : 48 ≤ c.toNat := digit.1
  have high : c.toNat ≤ 57 := digit.2
  simp only [Text.isBlank, Bool.or_eq_false_iff, Bool.and_eq_false_iff, decide_eq_false_iff_not,
    beq_eq_false_iff_ne]
  omega

theorem padded_digits {width n : Nat} {c : Char} (member : c ∈ padded width n) : c.isDigit = true := by
  rcases List.mem_append.1 member with zero | digit
  · rw [(List.mem_replicate.1 zero).2]
    rfl
  · exact Nat.isDigit_of_mem_toDigits (by decide) (by decide) digit

theorem padded_ne_nil (width n : Nat) : padded width n ≠ [] := by
  simp [padded]

theorem padded_length {width n : Nat} (positive : 0 < width) (fits : n < Nat.pow 10 width) :
    (padded width n).length = width := by
  have short : (Nat.toDigits 10 n).length ≤ width :=
    (Nat.length_toDigits_le_iff (by decide) positive).2 fits
  simp only [padded, List.length_append, List.length_replicate]
  omega

theorem valueOf_eq (digits : List Char) : valueOf digits = Nat.ofDigitChars 10 digits 0 := by
  simp only [valueOf, Nat.ofDigitChars_eq_foldl, Nat.mul_comm]

theorem valueOf_padded (width n : Nat) : valueOf (padded width n) = n := by
  rw [valueOf_eq, padded, Nat.ofDigitChars_append, Nat.ofDigitChars_replicate_zero, Nat.mul_zero]
  exact Nat.ofDigitChars_toDigits (by decide) (by decide)

theorem padded_run (width n : Nat) {c : Char} (ends : c.isDigit = false) (more : List Char) :
    Run (padded width n) (c :: more) :=
  ⟨padded_ne_nil width n, fun _ member => padded_digits member, c, more, rfl, ends⟩

theorem digitsUpTo_run {digits rest : List Char} (run : Run digits rest) {most : Nat}
    (short : digits.length ≤ most) : digitsUpTo most (digits ++ rest) = (digits, rest) := by
  obtain ⟨c, more, rfl, ends⟩ := run.ends
  have front : ((digits ++ c :: more).take most).takeWhile Char.isDigit = digits := by
    rw [List.take_append, List.take_of_length_le short, List.takeWhile_append_of_pos run.digits]
    cases most - digits.length with
    | zero => simp
    | succ n => simp [ends]
  simp only [digitsUpTo, front, List.drop_left]

theorem number_run {digits rest : List Char} (run : Run digits rest) {most : Nat}
    (short : digits.length ≤ most) (fits : valueOf digits < Nat.pow 2 63) :
    number most (digits ++ rest) = .ok (valueOf digits, rest) := by
  unfold number
  rw [digitsUpTo_run run short]
  obtain ⟨c, others, rfl⟩ := List.exists_cons_of_ne_nil run.filled
  exact if_pos fits

theorem skipBlanks_run {digits rest : List Char} (run : Run digits rest) :
    skipBlanks (digits ++ rest) = digits ++ rest := by
  obtain ⟨c, others, rfl⟩ := List.exists_cons_of_ne_nil run.filled
  have solid := isBlank_of_isDigit (run.digits c (by simp))
  simp only [skipBlanks, List.cons_append, List.dropWhile_cons, solid, Bool.false_eq_true, if_false]

/-! Fields. -/

theorem field_padded {low high n : Nat} (inside : low ≤ n ∧ n ≤ high) (two : n < 100) {c : Char}
    (ends : c.isDigit = false) (more : List Char) :
    field low high (padded 2 n ++ c :: more) = .ok (n, c :: more) := by
  have run := padded_run 2 n ends more
  have length : (padded 2 n).length = 2 := padded_length (by decide) two
  have word : n < Nat.pow 2 63 := Nat.lt_trans two (by decide)
  simp only [field, skipBlanks_run run, bind, Except.bind]
  have value : valueOf (padded 2 n) < Nat.pow 2 63 := by
    rw [valueOf_padded]
    exact word
  have most : (padded 2 n).length ≤ 2 := Nat.le_of_eq length
  rw [number_run run most value, valueOf_padded]
  exact if_pos inside

theorem literal_self {c : Char} (solid : Text.isBlank c = false) (rest : List Char) :
    literal c (c :: rest) = .ok rest := by
  simp only [literal, skipBlanks, List.dropWhile_cons, solid, Bool.false_eq_true, if_false, if_true]

theorem number_padded {most n : Nat} (word : n < Nat.pow 2 63) (width : Nat)
    (short : (padded width n).length ≤ most) {c : Char} (ends : c.isDigit = false) (more : List Char) :
    number most (padded width n ++ c :: more) = .ok (n, c :: more) := by
  rw [number_run (padded_run width n ends more) short (by rw [valueOf_padded]; exact word), valueOf_padded]

theorem yearField_yearText {year : Int} (possible : isYear year = true) (more : List Char) :
    yearField (yearText year ++ '-' :: more) = .ok (year, '-' :: more) := by
  simp only [isYear, Bool.and_eq_true, decide_eq_true_eq] at possible
  have bounds : (Nat.pow 2 31 : Int) = 2147483648 ∧ Nat.pow 2 63 = 9223372036854775808 := by decide
  have inside : -(Nat.pow 2 31 : Int) ≤ year ∧ year < Nat.pow 2 31 := by omega
  have noDigit : '-'.isDigit = false := by decide
  have signed : ∀ n, n < Nat.pow 2 63 →
      number (padded 4 n ++ '-' :: more).length (padded 4 n ++ '-' :: more) = .ok (n, '-' :: more) :=
    fun n word => number_padded word 4 (by simp) noDigit more
  cases year with
  | ofNat n =>
    have word : n < Nat.pow 2 63 := by
      simp only [Int.ofNat_eq_natCast] at possible
      omega
    by_cases short : n < 10000
    · have length : (padded 4 n).length ≤ 4 := Nat.le_of_eq (padded_length (by decide) short)
      obtain ⟨c, others, front⟩ := List.exists_cons_of_ne_nil (padded_ne_nil 4 n)
      have written : c ∈ padded 4 n := by simp [front]
      have digit : c.isDigit = true := padded_digits written
      have run := padded_run 4 n noDigit more
      have plus : c ≠ '+' := by
        rintro rfl
        cases digit
      have minus : c ≠ '-' := by
        rintro rfl
        cases digit
      have read := number_padded word 4 length noDigit more
      simp only [yearField, yearText, if_pos short, skipBlanks_run run]
      split
      next sign => exact absurd (List.cons.inj ((front ▸ sign :))).1 minus
      next sign => exact absurd (List.cons.inj ((front ▸ sign :))).1 plus
      next =>
        simp only [read, Except.map, bind, Except.bind]
        exact if_pos inside
    · have skipped : skipBlanks ('+' :: (padded 4 n ++ '-' :: more)) = '+' :: (padded 4 n ++ '-' :: more) :=
        rfl
      simp only [yearField, yearText, if_neg short, List.cons_append, skipped, signed n word, Except.map,
        bind, Except.bind]
      exact if_pos inside
  | negSucc n =>
    have word : n + 1 < Nat.pow 2 63 := by omega
    have skipped : skipBlanks ('-' :: (padded 4 (n + 1) ++ '-' :: more)) =
        '-' :: (padded 4 (n + 1) ++ '-' :: more) := rfl
    simp only [yearField, yearText, List.cons_append, skipped, signed (n + 1) word, Except.map, bind,
      Except.bind]
    exact if_pos inside

/-! The fraction and the zone. -/

theorem fraction_padded {width n : Nat} (positive : 0 < width) (nine : width ≤ 9)
    (fits : n < Nat.pow 10 width) :
    fraction ('.' :: padded width n ++ ['Z']) = .ok (n * Nat.pow 10 (9 - width), ['Z']) := by
  have length : (padded width n).length = width := padded_length positive fits
  have run := padded_run width n (c := 'Z') (by decide) []
  have word : n < Nat.pow 2 63 :=
    Nat.lt_of_lt_of_le fits (Nat.le_trans (Nat.pow_le_pow_right (by decide) nine) (by decide))
  have short : (padded width n).length ≤ 9 := by omega
  simp only [fraction, List.cons_append, bind, Except.bind]
  rw [number_padded word width short (by decide) [], digitsUpTo_run run short]
  simp only [valueOf_padded, length]
  rfl

theorem fraction_fractionText {nanos : Nat} (small : nanos < 1000000000) :
    fraction (fractionText nanos ++ ['Z']) = .ok (nanos, ['Z']) := by
  unfold fractionText
  split
  next none' =>
    subst none'
    rfl
  · split
    next millis =>
      rw [fraction_padded (by decide) (by decide) (by change _ < 1000; omega)]
      have whole : nanos / 1000000 * Nat.pow 10 (9 - 3) = nanos := by
        change nanos / 1000000 * 1000000 = nanos
        omega
      rw [whole]
    · split
      next micros =>
        rw [fraction_padded (by decide) (by decide) (by change _ < 1000000; omega)]
        have whole : nanos / 1000 * Nat.pow 10 (9 - 6) = nanos := by
          change nanos / 1000 * 1000 = nanos
          omega
        rw [whole]
      next =>
        rw [fraction_padded (by decide) (by decide) small]
        exact congrArg (fun n => Except.ok (n, ['Z'])) (Nat.mul_one nanos)

theorem fractionText_head (nanos : Nat) :
    ∃ c more, fractionText nanos ++ ['Z'] = c :: more ∧ c.isDigit = false := by
  unfold fractionText
  split
  · exact ⟨'Z', [], rfl, by decide⟩
  · split
    · exact ⟨'.', _, rfl, by decide⟩
    · split
      · exact ⟨'.', _, rfl, by decide⟩
      · exact ⟨'.', _, rfl, by decide⟩

theorem universal_zero {t : Timestamp} (possible : isYear t.year = true) : universal t 0 = .ok t := by
  have near : ¬((0 : Int) ≤ -1440 ∨ (1440 : Int) ≤ 0) := by decide
  simp only [universal, if_neg near, if_true, possible]

theorem monthLength_le (year : Int) (month : Nat) : Calendar.monthLength year month ≤ 31 := by
  unfold Calendar.monthLength
  split
  · split <;> omega
  · split <;> omega

/-- A written instant is read back as it was. -/
theorem ofText?_text {t : Timestamp} (valid : t.Valid) : ofText? t.text = .ok t := by
  obtain ⟨year, month, day, hour, minute, second, nanos⟩ := valid
  have dayBound : t.day ≤ 31 := Nat.le_trans day.2 (monthLength_le _ _)
  obtain ⟨e, more, tail, ends⟩ := fractionText_head t.nanos
  have broken := fraction_fractionText nanos
  rw [tail] at broken
  have dash : ∀ rest, literal '-' ('-' :: rest) = .ok rest := literal_self (by decide)
  have colon : ∀ rest, literal ':' (':' :: rest) = .ok rest := literal_self (by decide)
  simp only [ofText?, text, dateText, timeText, String.toList_ofList, List.append_assoc, List.cons_append,
    tail]
  rw [yearField_yearText year]
  simp only [bind, Except.bind, dash]
  rw [field_padded month (by omega) (by decide)]
  simp only [dash]
  rw [field_padded ⟨day.1, dayBound⟩ (by omega) (by decide)]
  simp only [true_or, if_true]
  rw [field_padded ⟨Nat.zero_le _, hour⟩ (by omega) (by decide)]
  simp only [colon]
  rw [field_padded ⟨Nat.zero_le _, minute⟩ (by omega) (by decide)]
  simp only [colon]
  rw [field_padded ⟨Nat.zero_le _, second⟩ (by omega) ends]
  simp only [broken]
  have closed : zone (skipBlanks ['Z']) = .ok (0, []) := rfl
  have inside : ¬Calendar.monthLength t.year t.month < t.day := Nat.not_lt.2 day.2
  have whole : ¬(!(skipBlanks []).isEmpty) = true := by decide
  simp only [closed, if_neg whole, decide_eq_false inside, year, Bool.not_true, Bool.or_self,
    Bool.false_eq_true, if_false]
  exact universal_zero year

end AgentHooks.Timestamp
