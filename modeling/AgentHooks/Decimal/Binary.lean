/-!
A finite double as an exact dyadic number, the view from which decimal texts are computed.
-/

namespace AgentHooks.Decimal

/-- `± significand · 2 ^ exponent`; `narrow` says that the next double towards zero is only half as far
away as the next one outwards. -/
structure Dyadic where
  negative : Bool
  significand : Nat
  exponent : Int
  narrow : Bool

def Dyadic.ofFloat (x : Float) : Dyadic :=
  let bits := x.toBits.toNat
  let fraction : Nat := bits % Nat.pow 2 52
  let scale : Nat := bits / Nat.pow 2 52 % Nat.pow 2 11
  let negative := bits / Nat.pow 2 63 == 1
  if scale = 0 then ⟨negative, fraction, -1074, false⟩
  else ⟨negative, Nat.pow 2 52 + fraction, (scale : Int) - 1075, fraction == 0 && scale != 1⟩

/-- `numerator / denominator`, rounded to a whole number, a half going to the even neighbour. -/
def divHalfEven (numerator denominator : Nat) : Nat :=
  let floor := numerator / denominator
  let twice := 2 * (numerator % denominator)
  if twice < denominator then floor
  else if denominator < twice then floor + 1
  else floor + floor % 2

def Dyadic.whole (d : Dyadic) : Nat :=
  divHalfEven (d.significand * Nat.pow 2 d.exponent.toNat) (Nat.pow 2 (-d.exponent).toNat)

def wholeText (x : Float) : String :=
  toString (Dyadic.ofFloat x).whole

end AgentHooks.Decimal
