import AgentHooks.Decimal.Binary

/-!
The shortest decimal that reads back as a given double, and the layout in which a double is written:
positional with at least one fraction digit while the point stays within the digits or near them, with
an exponent otherwise.
-/

namespace AgentHooks.Decimal

/-- `digits · 10 ^ exponent`. -/
structure Scientific where
  digits : Nat
  exponent : Int

/-- The best multiple of `10 ^ grid` among those that round to the given positive number, if there is
any. The number, the multiples and the ends of the rounding interval are compared over one common
denominator; the ends belong to the interval exactly when the significand is even. -/
def Dyadic.onGrid? (d : Dyadic) (grid : Int) : Option Scientific :=
  let scale := Nat.pow 2 (d.exponent - 2).toNat * Nat.pow 10 (-grid).toNat
  let unit := Nat.pow 2 (2 - d.exponent).toNat * Nat.pow 10 grid.toNat
  let value := 4 * d.significand * scale
  let low := (4 * d.significand - if d.narrow then 1 else 2) * scale
  let high := (4 * d.significand + 2) * scale
  let inside (n : Nat) : Bool :=
    if d.significand % 2 = 0 then low ≤ n * unit && n * unit ≤ high
    else low < n * unit && n * unit < high
  let below := value / unit
  let above := below + 1
  match inside below && below != 0, inside above with
  | false, false => none
  | true, false => some ⟨below, grid⟩
  | false, true => some ⟨above, grid⟩
  | true, true => some ⟨divHalfEven value unit, grid⟩

/-- The decimal with the fewest digits that reads back as the given positive number, and of those the
nearest: the coarsest grid with a hit decides. The first grid tried is coarser than the number. -/
def Dyadic.shortest (d : Dyadic) : Scientific :=
  let start := (d.exponent + 54) * 30103 / 100000 + 1
  let hit := (List.range 25).findSome? fun (i : Nat) => d.onGrid? (start - i)
  hit.getD ⟨0, 0⟩

def zeros (n : Nat) : List Char :=
  List.replicate n '0'

def exponentText (exponent : Int) : List Char :=
  'e' :: (if 0 ≤ exponent then ['+'] else []) ++ (toString exponent).toList

/-- The layout of a positive decimal: an exponent is written from `10 ^ 16` on and below `10 ^ -5`. -/
def Scientific.layout (d : Scientific) : List Char :=
  let digits := Nat.toDigits 10 d.digits
  let count : Int := digits.length
  let point := count + d.exponent
  if 0 ≤ d.exponent && point ≤ 16 then
    digits ++ zeros d.exponent.toNat ++ ['.', '0']
  else if 0 < point && point ≤ 16 then
    digits.take point.toNat ++ '.' :: digits.drop point.toNat
  else if -5 < point && point ≤ 0 then
    '0' :: '.' :: zeros (-point).toNat ++ digits
  else
    let lead := match digits with
      | first :: second :: rest => first :: '.' :: second :: rest
      | short => short
    lead ++ exponentText (point - 1)

def floatText (x : Float) : String :=
  let d := Dyadic.ofFloat x
  let size := if d.significand = 0 then ['0', '.', '0'] else d.shortest.layout
  String.ofList (if d.negative then '-' :: size else size)

end AgentHooks.Decimal
