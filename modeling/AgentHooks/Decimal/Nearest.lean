import AgentHooks.Decimal.Binary

/-!
From decimal to binary: the double nearest to a decimal number, computed on whole numbers so that it is
rounded once.
-/

namespace AgentHooks.Decimal

/-- `q · 2 ^ k` nearest to `numerator / denominator`, both positive: `q` has 53 digits, or fewer where
doubles have no smaller exponent. -/
def nearestRatio (numerator denominator : Nat) : Float :=
  let scaled (k : Int) : Nat × Nat :=
    (numerator * Nat.pow 2 (-k).toNat, denominator * Nat.pow 2 k.toNat)
  let high : Int := (numerator.log2 : Int) - denominator.log2 - 52
  let k := if (scaled high).1 < (scaled high).2 * Nat.pow 2 52 then high - 1 else high
  let k := max k (-1074)
  (Float.ofNat (divHalfEven (scaled k).1 (scaled k).2)).scaleB k

/-- The double nearest to `significand · 10 ^ exponent`, a half going to the even neighbour; infinity
when the number is beyond every double. -/
def nearest (significand : Nat) (exponent : Int) : Float :=
  let size := ((Nat.toDigits 10 significand).length : Int) + exponent
  if significand = 0 ∨ size < -330 then 0.0
  else if 310 < size then 1.0 / 0.0
  else nearestRatio (significand * Nat.pow 10 exponent.toNat) (Nat.pow 10 (-exponent).toNat)

end AgentHooks.Decimal
