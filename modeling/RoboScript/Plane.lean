import RoboScript.Value.Arith
import RoboScript.Value.Text

/-! Plane geometry on doubles: angles in degrees turned into radians, the cosine and sine of
an angle, and the length of a vector. The length is computed so that its square is summed
nearly without loss and then corrected once by a Newton step, which gives the correctly rounded
length in all but rare cases and never overflows for finite inputs; a vector shorter than
`2 ^ -1024` is measured in units of its longer coordinate instead. -/

namespace RoboScript.Plane

/-- The double nearest `π`. -/
def pi : Float := Float.ofBits 0x400921FB54442D18

/-- Degrees to radians: the value as a double times the double nearest `π / 180`. -/
def radians (degrees : Value) : Except Error Float := do
  let x ← degrees.toFloat
  return x * (pi / 180.0)

/-- The cosine; an infinity has none. -/
def cosine (x : Float) : Except Error Float :=
  if x.isInf then .error .mathDomain else .ok x.cos

/-- The sine; an infinity has none. -/
def sine (x : Float) : Except Error Float :=
  if x.isInf then .error .mathDomain else .ok x.sin

/-- A double split into a high part of 26 bits and the rest, so that products of parts are
exact. -/
def split (x : Float) : Float × Float :=
  let t := x * 134217729.0
  let hi := t - (t - x)
  (hi, x - hi)

/-- Adds `x` to a running sum kept as a total and the rounding errors of its additions: the
total must be the larger in magnitude, so that each error is exact. -/
def accumulate (acc : Float × Float) (x : Float) : Float × Float :=
  let (total, frac) := acc
  let sum := total + x
  (sum, frac + ((total - sum) + x))

/-- The exponent `e` with `m = f · 2 ^ e` and `1/2 ≤ f < 1`, for a positive finite double. -/
def binaryExponent (m : Float) : Int :=
  match Binary.finite? m with
  | some v => (v.significand.log2 : Int) + v.exponent + 1
  | none => 0

/-- The length of `(a, b)` for finite non-negative coordinates whose larger one, `m`, is at
least `2 ^ -1024`. Both are scaled by a power of two to below one and split into halves whose
squares and products are exact; their sum is kept as `1 + (total - 1) + frac`. One Newton step
on the square root, with the square of the first estimate taken out of the sum the same way,
corrects the estimate. -/
def normScaled (a b m : Float) : Float :=
  let scale := Binary.ofDyadic 1 (-binaryExponent m)
  let add (acc : Float × Float) (x : Float) : Float × Float :=
    let (hi, lo) := split (x * scale)
    let (total, frac) := accumulate (accumulate acc (hi * hi)) (2.0 * hi * lo)
    (total, frac + lo * lo)
  let acc := add (add (1.0, 0.0) a) b
  let h := Float.sqrt (acc.1 - 1.0 + acc.2)
  let (hi, lo) := split h
  let acc := accumulate (accumulate (accumulate acc (-hi * hi)) (-2.0 * hi * lo)) (-lo * lo)
  let x := acc.1 - 1.0 + acc.2
  (h + x / (2.0 * h)) / scale

/-- The length of `(a, b)` for non-negative coordinates whose larger one, `m`, is below
`2 ^ -1024`: both are divided by `m`, and the root of the sum of squares is scaled back. -/
def normTiny (a b m : Float) : Float :=
  let add (acc : Float × Float) (x : Float) : Float × Float :=
    let x := x / m
    accumulate acc (x * x)
  let acc := add (add (1.0, 0.0) a) b
  m * Float.sqrt (acc.1 - 1.0 + acc.2)

/-- The length of the vector `(x, y)`. An infinite coordinate gives an infinity even beside a
NaN; otherwise a NaN gives a NaN. -/
def hypot (x y : Float) : Float :=
  let a := x.abs
  let b := y.abs
  let m := if a > 0.0 then a else 0.0
  let m := if b > m then b else m
  if a.isInf || b.isInf then Binary.infinity false
  else if a.isNaN || b.isNaN then 0.0 / 0.0
  else if m == 0.0 then m
  else if binaryExponent m < -1023 then normTiny a b m
  else normScaled a b m

/-- A point of the plane. Its coordinates are values, as a program may set them to anything. -/
structure Point where
  x : Value
  y : Value

namespace Point

/-- The point written as a list, `[x, y]`. -/
def text (p : Point) : Except Error String := do
  return "[" ++ (← p.x.text) ++ ", " ++ (← p.y.text) ++ "]"

/-- The distance from `p` to `q`: the coordinates' differences as doubles, then `hypot`. -/
def distance (p q : Point) : Except Error Float := do
  let dx ← Value.ring .sub "-" q.x p.x
  let dy ← Value.ring .sub "-" q.y p.y
  return hypot (← dx.toFloat) (← dy.toFloat)

end Point

end RoboScript.Plane
