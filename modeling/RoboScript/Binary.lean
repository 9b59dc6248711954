/-! Doubles as exact binary numbers. A finite double is `± significand · 2 ^ exponent`;
`Binary.nearest` goes the other way and rounds an exact ratio of naturals to the nearest
double, a tie going to the even significand. Every conversion that must be exact (integers to
doubles, quotients of integers, decimal literals, remainders) is one of these two steps.

Powers are written `Nat.pow` and `Int.pow`: the `^` of Mathlib's monoids elaborates to another
term, and these definitions are meant to be the same terms with or without it. -/

namespace RoboScript.Binary

/-- The exact value of a finite double: `± significand · 2 ^ exponent`. -/
structure Exact where
  negative : Bool
  significand : Nat
  exponent : Int
  deriving Repr, DecidableEq

/-- The sign bit of a double. -/
def signBit (x : Float) : Bool := x.toBits.toNat ≥ Nat.pow 2 63

/-- The biased exponent field of a double, `0` to `2047`. -/
def exponentField (x : Float) : Nat := x.toBits.toNat / Nat.pow 2 52 % Nat.pow 2 11

/-- The 52-bit fraction field of a double. -/
def fractionField (x : Float) : Nat := x.toBits.toNat % Nat.pow 2 52

/-- The exact value of a finite double, or `none` for an infinity or a NaN. -/
def finite? (x : Float) : Option Exact :=
  let field := exponentField x
  if field = 2047 then none
  else if field = 0 then some ⟨signBit x, fractionField x, -1074⟩
  else some ⟨signBit x, fractionField x + Nat.pow 2 52, (field : Int) - 1075⟩

/-- The double with the given sign whose other 63 bits are `body`. -/
def ofBody (negative : Bool) (body : Nat) : Float :=
  Float.ofBits (UInt64.ofNat ((if negative then Nat.pow 2 63 else 0) + body))

/-- Zero with the given sign. -/
def zero (negative : Bool) : Float := ofBody negative 0

/-- Infinity with the given sign. -/
def infinity (negative : Bool) : Float := ofBody negative (2047 * Nat.pow 2 52)

/-- The quotient `num / den` rounded to the nearest natural, a tie going to the even one. -/
def roundHalfEven (num den : Nat) : Nat :=
  let q := num / den
  let r := num % den
  if 2 * r > den ∨ (2 * r = den ∧ q % 2 = 1) then q + 1 else q

/-- Whether `num / den ≥ 2 ^ k`. -/
def atLeastPow2 (num den : Nat) (k : Int) : Bool :=
  if 0 ≤ k then decide (den * Nat.pow 2 k.toNat ≤ num)
  else decide (den ≤ num * Nat.pow 2 (-k).toNat)

/-- `⌊log₂ (num / den)⌋` for positive `num` and `den`. The two bit lengths fix it up to one. -/
def floorLog2Quot (num den : Nat) : Int :=
  let k : Int := (num.log2 : Int) - den.log2
  if atLeastPow2 num den k then k else k - 1

/-- `num · 2 ^ shift / den`, rounded half to even. -/
def scaledRound (num den : Nat) (shift : Int) : Nat :=
  if 0 ≤ shift then roundHalfEven (num * Nat.pow 2 shift.toNat) den
  else roundHalfEven num (den * Nat.pow 2 (-shift).toNat)

/-- The nearest double to `± num / den`, a tie going to the even significand; an infinity when
the magnitude rounds beyond the largest finite double. The significand is found at the scale
that gives it 53 bits, or at the scale of the subnormals when the value is below them. -/
def nearest (negative : Bool) (num den : Nat) : Float :=
  if num = 0 ∨ den = 0 then zero negative
  else
    let shift : Int := min (52 - floorLog2Quot num den) 1074
    let q := scaledRound num den shift
    let (q, shift) := if q = Nat.pow 2 53 then (Nat.pow 2 52, shift - 1) else (q, shift)
    if shift ≤ -972 then infinity negative
    else ofBody negative ((1074 - shift).toNat * Nat.pow 2 52 + q)

/-- The nearest double to an integer. -/
def ofInt (n : Int) : Float := nearest (n < 0) n.natAbs 1

/-- The nearest double to `n · 2 ^ e`. -/
def ofDyadic (n : Int) (e : Int) : Float :=
  if 0 ≤ e then nearest (n < 0) (n.natAbs * Nat.pow 2 e.toNat) 1
  else nearest (n < 0) n.natAbs (Nat.pow 2 (-e).toNat)

namespace Exact

/-- The signed integer `± significand`. -/
def signedSignificand (x : Exact) : Int :=
  if x.negative then -(x.significand : Int) else x.significand

/-- The integer part of the value, rounded toward zero. -/
def truncate (x : Exact) : Int :=
  let magnitude : Nat :=
    if 0 ≤ x.exponent then x.significand * Nat.pow 2 x.exponent.toNat
    else x.significand / Nat.pow 2 (-x.exponent).toNat
  if x.negative then -(magnitude : Int) else magnitude

/-- Compares an integer with the value exactly. -/
def compareInt (n : Int) (x : Exact) : Ordering :=
  if 0 ≤ x.exponent then compare n (x.signedSignificand * Int.pow 2 x.exponent.toNat)
  else compare (n * Int.pow 2 (-x.exponent).toNat) x.signedSignificand

/-- The remainder of the value by a positive integer, truncated: the result has the sign of the
value and a smaller magnitude than the divisor. It is exactly a double. -/
def truncRem (x : Exact) (divisor : Nat) : Float :=
  if 0 ≤ x.exponent then
    nearest x.negative (x.significand * Nat.pow 2 x.exponent.toNat % divisor) 1
  else
    let scale := Nat.pow 2 (-x.exponent).toNat
    nearest x.negative (x.significand % (divisor * scale)) scale

end Exact

end RoboScript.Binary
