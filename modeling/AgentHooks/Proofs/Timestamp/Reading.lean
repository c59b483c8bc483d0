import Mathlib.Algebra.Group.Nat.Defs
import AgentHooks.Proofs.Timestamp.Text

/-! Whatever text an instant is read from, an actual instant is read: every field is within its bounds, and
stays so when the clock of another zone is set right. -/

namespace AgentHooks

theorem bind_eq_ok {ε α β : Type} {x : Except ε α} {f : α → Except ε β} {b : β} :
    (x >>= f) = .ok b ↔ ∃ a, x = .ok a ∧ f a = .ok b := by
  cases x with
  | error e => simp [bind, Except.bind]
  | ok a => simp [bind, Except.bind]

namespace Calendar

structure IsDate (year : Int) (month day : Nat) : Prop where
  inYear : 1 ≤ month ∧ month ≤ 12
  inMonth : 1 ≤ day ∧ day ≤ monthLength year month

theorem monthLength_pos (year : Int) (month : Nat) : 1 ≤ monthLength year month := by
  unfold monthLength
  split
  · split <;> decide
  · split <;> decide

theorem IsDate.tomorrow {year : Int} {month day : Nat} (date : IsDate year month day) :
    let next := Calendar.tomorrow year month day
    IsDate next.1 next.2.1 next.2.2 := by
  obtain ⟨months, days⟩ := date
  unfold Calendar.tomorrow
  split
  next more => exact ⟨months, Nat.le_add_left 1 day, more⟩
  · split
    next more =>
      have following : 1 ≤ month + 1 ∧ month + 1 ≤ 12 := by omega
      exact ⟨following, Nat.le_refl 1, monthLength_pos year (month + 1)⟩
    · have january : 1 ≤ 1 ∧ 1 ≤ 12 := by decide
      exact ⟨january, Nat.le_refl 1, monthLength_pos (year + 1) 1⟩

theorem IsDate.yesterday {year : Int} {month day : Nat} (date : IsDate year month day) :
    let next := Calendar.yesterday year month day
    IsDate next.1 next.2.1 next.2.2 := by
  obtain ⟨months, days⟩ := date
  unfold Calendar.yesterday
  split
  next earlier =>
    have before : 1 ≤ day - 1 ∧ day - 1 ≤ monthLength year month := by omega
    exact ⟨months, before⟩
  · split
    next earlier =>
      have before : 1 ≤ month - 1 ∧ month - 1 ≤ 12 := by omega
      exact ⟨before, monthLength_pos year (month - 1), Nat.le_refl _⟩
    · have december : 1 ≤ 12 ∧ 12 ≤ 12 := by decide
      have lastDay : 1 ≤ 31 ∧ 31 ≤ monthLength (year - 1) 12 := ⟨by decide, Nat.le_refl 31⟩
      exact ⟨december, lastDay⟩

end Calendar

namespace Timestamp

open Calendar

structure InBounds (t : Timestamp) : Prop where
  date : IsDate t.year t.month t.day
  hour : t.hour ≤ 23
  minute : t.minute ≤ 59
  second : t.second ≤ 60
  nanos : t.nanos < 1000000000

theorem InBounds.valid {t : Timestamp} (bounds : t.InBounds) (possible : isYear t.year = true) : t.Valid :=
  ⟨possible, bounds.date.inYear, bounds.date.inMonth, bounds.hour, bounds.minute, bounds.second, bounds.nanos⟩

theorem InBounds.addMinutes {t : Timestamp} (bounds : t.InBounds) (minutes : Int) :
    (t.addMinutes minutes).InBounds := by
  have moved :
      IsDate (t.addMinutes minutes).year (t.addMinutes minutes).month (t.addMinutes minutes).day := by
    unfold Timestamp.addMinutes
    dsimp only
    split
    · exact bounds.date.yesterday
    · split
      · exact bounds.date.tomorrow
      · exact bounds.date
  refine ⟨moved, ?_, ?_, bounds.second, bounds.nanos⟩
  · change ((t.hour * 60 + t.minute + minutes) % 1440).toNat / 60 ≤ 23
    omega
  · change ((t.hour * 60 + t.minute + minutes) % 1440).toNat % 60 ≤ 59
    omega

theorem InBounds.universal {shown t : Timestamp} (bounds : shown.InBounds) {ahead : Int}
    (read : Timestamp.universal shown ahead = .ok t) : t.Valid := by
  have moved : (if ahead = 0 then shown else shown.addMinutes (-ahead)).InBounds := by
    split
    · exact bounds
    · exact bounds.addMinutes (-ahead)
  unfold Timestamp.universal at read
  split at read
  · cases read
  · dsimp only at read
    generalize (if ahead = 0 then shown else shown.addMinutes (-ahead)) = set at moved read
    split at read
    next possible =>
      cases read
      exact moved.valid possible
    · cases read

theorem field_bounds {low high n : Nat} {cs rest : List Char} (read : field low high cs = .ok (n, rest)) :
    low ≤ n ∧ n ≤ high := by
  obtain ⟨⟨m, others⟩, -, judged⟩ := bind_eq_ok.1 read
  dsimp only at judged
  split at judged
  next inside =>
    cases judged
    exact inside
  · cases judged

theorem foldl_digits_lt {digits : List Char} (all : ∀ c ∈ digits, c.isDigit = true) (n : Nat) :
    digits.foldl (fun n c => n * 10 + (c.toNat - '0'.toNat)) n < (n + 1) * 10 ^ digits.length := by
  induction digits generalizing n with
  | nil => simp
  | cons c rest ih =>
    obtain ⟨first, others⟩ := List.forall_mem_cons.1 all
    have digit : c.toNat - '0'.toNat ≤ 9 := by
      simp only [Char.isDigit, Bool.and_eq_true, decide_eq_true_eq] at first
      have high : c.toNat ≤ 57 := first.2
      change c.toNat - 48 ≤ 9
      omega
    calc
      _ < (n * 10 + (c.toNat - '0'.toNat) + 1) * 10 ^ rest.length := ih others _
      _ ≤ (n + 1) * 10 * 10 ^ rest.length := Nat.mul_le_mul_right _ (by omega)
      _ = (n + 1) * 10 ^ (rest.length + 1) := by rw [Nat.mul_assoc, Nat.pow_succ, Nat.mul_comm 10]

theorem valueOf_lt {digits : List Char} (all : ∀ c ∈ digits, c.isDigit = true) :
    valueOf digits < 10 ^ digits.length := by
  have bound := foldl_digits_lt all 0
  rwa [Nat.zero_add, Nat.one_mul] at bound

theorem fraction_lt {n : Nat} {cs rest : List Char} (read : fraction cs = .ok (n, rest)) :
    n < 1000000000 := by
  unfold fraction at read
  split at read
  next cs =>
    obtain ⟨_, -, same⟩ := bind_eq_ok.1 read
    cases same
    let digits := (cs.take 9).takeWhile Char.isDigit
    have all : ∀ c ∈ digits, c.isDigit = true := List.all_eq_true.1 List.all_takeWhile
    have nine : digits.length ≤ 9 :=
      Nat.le_trans (List.takeWhile_sublist _).length_le (List.length_take_le 9 cs)
    calc
      valueOf digits * 10 ^ (9 - digits.length) < 10 ^ digits.length * 10 ^ (9 - digits.length) :=
        Nat.mul_lt_mul_of_pos_right (valueOf_lt all) (Nat.pow_pos (by decide))
      _ = 10 ^ 9 := by rw [← Nat.pow_add, Nat.add_sub_cancel' nine]
      _ = 1000000000 := rfl
  · cases read
    decide

theorem ofText?_valid {text : String} {t : Timestamp} (read : ofText? text = .ok t) : t.Valid := by
  unfold ofText? at read
  obtain ⟨⟨year, cs⟩, -, read⟩ := bind_eq_ok.1 read
  obtain ⟨cs, -, read⟩ := bind_eq_ok.1 read
  obtain ⟨⟨month, cs⟩, months, read⟩ := bind_eq_ok.1 read
  obtain ⟨cs, -, read⟩ := bind_eq_ok.1 read
  obtain ⟨⟨day, cs⟩, days, read⟩ := bind_eq_ok.1 read
  dsimp only at read
  split at read
  · cases read
  · split at read
    -- The letter between the date and the time is there, and the time follows.
    · obtain ⟨cs, -, read⟩ := bind_eq_ok.1 read
      obtain ⟨⟨hour, cs⟩, hours, read⟩ := bind_eq_ok.1 read
      obtain ⟨cs, -, read⟩ := bind_eq_ok.1 read
      obtain ⟨⟨minute, cs⟩, minutes, read⟩ := bind_eq_ok.1 read
      obtain ⟨cs, -, read⟩ := bind_eq_ok.1 read
      obtain ⟨⟨second, cs⟩, seconds, read⟩ := bind_eq_ok.1 read
      obtain ⟨⟨nanos, cs⟩, nanoseconds, read⟩ := bind_eq_ok.1 read
      obtain ⟨⟨ahead, cs⟩, -, read⟩ := bind_eq_ok.1 read
      dsimp only at read
      split at read
      · cases read
      · split at read
        · cases read
        next existing =>
          simp only [Bool.or_eq_true, decide_eq_true_eq, not_or, Nat.not_lt] at existing
          have date : IsDate year month day := ⟨field_bounds months, (field_bounds days).1, existing.1⟩
          have bounds : InBounds { year, month, day, hour, minute, second, nanos } :=
            ⟨date, (field_bounds hours).2, (field_bounds minutes).2, (field_bounds seconds).2,
              fraction_lt nanoseconds⟩
          exact bounds.universal read
    · cases read

end Timestamp

end AgentHooks
