/-!
# Shortest decimals

A binary floating-point number is written with the fewest decimal digits that are read
back as the same number, and of those with the digits nearest to it.

## How they are found

A finite number is a significand times a power of two.  All reals nearer to it than to
its neighbours are read back as it; the ends of that stretch are, too, if the significand
is even.  For a number of digits, the decimals form a grid, and if one of them lies in the
stretch, then one of the two nearest to the number does.  So each grid is tried in turn,
from one digit on, in exact arithmetic.

* `Binary`: a significand times a power of two.
* `shortest`: the digits and the power of ten.
-/

namespace ScriptedChat
namespace Decimal

/-- The number `significand * 2 ^ exponent`. -/
structure Binary where
  significand : Nat
  exponent : Int
  /-- Whether the neighbour below is only half as far away as the one above. -/
  narrow : Bool
  deriving DecidableEq, Repr

/-- The absolute value of a finite float of 64 bits. -/
def Binary.ofBits (bits : UInt64) : Binary :=
  let n := bits.toNat
  let fraction := n % Nat.pow 2 52
  let e := n / Nat.pow 2 52 % Nat.pow 2 11
  if e = 0 then ⟨fraction, -1074, false⟩
  else ⟨Nat.pow 2 52 + fraction, Int.ofNat e - 1075, decide (fraction = 0) && decide (1 < e)⟩

/-- Digits times a power of ten. -/
structure Digits where
  digits : Nat
  exponent : Int
  deriving DecidableEq, Repr

/-- A quotient of natural numbers. -/
structure Ratio where
  num : Nat
  den : Nat

/-- `n * 2 ^ e` over `10 ^ p`, in quarters of the last place. -/
def Ratio.scaled (n : Nat) (e p : Int) : Ratio :=
  { num := n * Nat.pow 2 e.toNat * Nat.pow 10 (-p).toNat
    den := Nat.pow 2 (-e).toNat * Nat.pow 10 p.toNat }

/-- The decimal of the grid `10 ^ p` that is read back as `b`, if there is one: of two,
the nearer, and of two equally near the even one. -/
def onGrid? (b : Binary) (p : Int) : Option Nat :=
  let q := b.exponent - 2
  let v := Ratio.scaled (4 * b.significand) q p
  let lo := Ratio.scaled (4 * b.significand - (if b.narrow then 1 else 2)) q p
  let hi := Ratio.scaled (4 * b.significand + 2) q p
  let even := b.significand % 2 = 0
  let inside (k : Nat) : Bool :=
    if even then decide (lo.num ≤ k * lo.den) && decide (k * hi.den ≤ hi.num)
    else decide (lo.num < k * lo.den) && decide (k * hi.den < hi.num)
  let k := v.num / v.den
  let r := v.num % v.den
  let lower := inside k && k != 0
  let upper := inside (k + 1)
  if lower && upper then
    if 2 * r < v.den ∨ (2 * r = v.den ∧ k % 2 = 0) then some k else some (k + 1)
  else if lower then some k
  else if upper then some (k + 1)
  else none

/-- The power of ten of the first digit of `b`, or one too many. -/
def leading (b : Binary) : Int :=
  if 0 ≤ b.exponent then
    (Nat.toDigits 10 (b.significand * Nat.pow 2 b.exponent.toNat)).length
  else
    -- `n / 2 ^ k` is `n * 5 ^ k / 10 ^ k`
    let k := b.exponent.natAbs
    (Nat.toDigits 10 (b.significand * Nat.pow 5 k)).length - (k : Int)

/-- Tries the grids from the coarsest on, each time ten times finer. -/
def firstGrid (b : Binary) : Nat → Int → Digits
  | 0, p => ⟨0, p⟩
  | fuel + 1, p =>
    match onGrid? b p with
    | some k => ⟨k, p⟩
    | none => firstGrid b fuel (p - 1)

/-- The fewest digits that are read back as `b`.  Eighteen grids are more than enough:
seventeen digits tell all floats apart. -/
def shortest (b : Binary) : Digits :=
  if b.significand = 0 then ⟨0, 0⟩ else firstGrid b 18 (leading b)

end Decimal
end ScriptedChat
