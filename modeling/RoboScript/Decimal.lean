import RoboScript.Binary

/-! Decimal text of doubles, both ways. Reading rounds the exact decimal once, to the nearest
double. Writing gives either a fixed number of places (the exact value rounded half to even) or
the shortest digits that read back to the same double, nearest the value when several do; a
`Layout` then decides between positional and exponent notation. All arithmetic is on naturals. -/

namespace RoboScript.Decimal

/-- The number of decimal digits of a natural (one for zero). -/
def digitCount (n : Nat) : Nat := (Nat.toDigits 10 n).length

/-- `count` zeros. -/
def zeros (count : Nat) : String := String.ofList (List.replicate count '0')

/-- The double nearest to `± digits · 10 ^ exponent`. Magnitudes far outside the range of
doubles are settled before any large power is formed. -/
def toFloat (negative : Bool) (digits : Nat) (exponent : Int) : Float :=
  if digits = 0 then Binary.zero negative
  else if exponent + digitCount digits > 310 then Binary.infinity negative
  else if exponent + digitCount digits < -330 then Binary.zero negative
  else if 0 ≤ exponent then Binary.nearest negative (digits * Nat.pow 10 exponent.toNat) 1
  else Binary.nearest negative digits (Nat.pow 10 (-exponent).toNat)

/-- The natural with these decimal digits, most significant first. -/
def ofDigitValues (digits : List Nat) : Nat := digits.foldl (fun acc d => 10 * acc + d) 0

/-- A positive decimal `digits · 10 ^ exponent`. -/
structure Scientific where
  digits : Nat
  exponent : Int
  deriving Repr, DecidableEq

/-- Moves trailing zeros of the digits into the exponent. -/
def Scientific.normalize (digits : Nat) (exponent : Int) : Scientific :=
  if h : digits ≠ 0 ∧ digits % 10 = 0 then Scientific.normalize (digits / 10) (exponent + 1)
  else ⟨digits, exponent⟩
termination_by digits
decreasing_by exact Nat.div_lt_self (Nat.pos_of_ne_zero h.1) (by decide)

/-- Compares `c · 10 ^ t` with `k · 2 ^ s` exactly. -/
def compareScaled (c : Nat) (t : Int) (k : Nat) (s : Int) : Ordering :=
  compare (c * Nat.pow 10 t.toNat * Nat.pow 2 (-s).toNat)
    (k * Nat.pow 2 s.toNat * Nat.pow 10 (-t).toNat)

/-- `⌊log₁₀ (m · 2 ^ e)⌋` for positive `m`: digit counts fix it up to one. -/
def floorLog10 (m : Nat) (e : Int) : Int :=
  let num := m * Nat.pow 2 e.toNat
  let den := Nat.pow 2 (-e).toNat
  let k : Int := (digitCount num : Int) - digitCount den
  let reaches : Bool :=
    if 0 ≤ k then decide (den * Nat.pow 10 k.toNat ≤ num)
    else decide (den ≤ num * Nat.pow 10 (-k).toNat)
  if reaches then k else k - 1

/-- Whether `c · 10 ^ t` reads back as the double `m · 2 ^ e` (`m > 0`): it lies between the
midpoints to the two neighbouring doubles, and on a midpoint only if `m` is even. Below a power
of two the lower neighbour is half as far, except among the subnormals. Ends are in units of
`2 ^ (e - 2)`. -/
def readsBack (m : Nat) (e : Int) (c : Nat) (t : Int) : Bool :=
  let low := if m = Nat.pow 2 52 ∧ e > -1074 then 4 * m - 1 else 4 * m - 2
  let high := 4 * m + 2
  let closed := m % 2 = 0
  let aboveLow := match compareScaled c t low (e - 2) with
    | .gt => true | .eq => closed | .lt => false
  let belowHigh := match compareScaled c t high (e - 2) with
    | .lt => true | .eq => closed | .gt => false
  aboveLow && belowHigh

/-- The digits of `m · 2 ^ e` at precision `precision`, if one of its two neighbours on that
decimal grid reads back: of two, the nearer, and of two equally near, the even one. -/
def atPrecision (m : Nat) (e : Int) (precision : Nat) : Option Scientific :=
  let t : Int := floorLog10 m e + 1 - precision
  let below :=
    m * Nat.pow 2 e.toNat * Nat.pow 10 (-t).toNat / (Nat.pow 2 (-e).toNat * Nat.pow 10 t.toNat)
  let above := below + 1
  match readsBack m e below t, readsBack m e above t with
  | true, true =>
    match compareScaled (2 * below + 1) t (8 * m) (e - 2) with
    | .gt => some (Scientific.normalize below t)
    | .lt => some (Scientific.normalize above t)
    | .eq => some (Scientific.normalize (if below % 2 = 0 then below else above) t)
  | true, false => some (Scientific.normalize below t)
  | false, true => some (Scientific.normalize above t)
  | false, false => none

/-- The shortest decimal that reads back as `m · 2 ^ e` (`m > 0`), nearest the value among the
shortest. Seventeen digits always suffice. -/
def shortest (m : Nat) (e : Int) : Scientific :=
  match (List.range 17).findSome? (fun i => atPrecision m e (i + 1)) with
  | some s => s
  | none => Scientific.normalize (m * Nat.pow 2 e.toNat) 0

/-- How a shortest decimal becomes text. The exponent of a value is that of its leading digit. -/
structure Layout where
  /-- Exponents written positionally run from `minPositional` to `maxPositional`. -/
  minPositional : Int
  maxPositional : Int
  /-- Written after a positional integer. -/
  integralSuffix : String
  /-- Separates digits and exponent in exponent notation. -/
  exponentMark : String
  /-- Least number of digits of an exponent, which always carries its sign. -/
  exponentDigits : Nat
  nan : String
  infinity : String

/-- The text of a positive decimal under a layout. -/
def Layout.scientific (layout : Layout) (s : Scientific) : String :=
  let ds := toString s.digits
  let n := ds.length
  let point : Int := n + s.exponent
  let lead := point - 1
  if layout.minPositional ≤ lead ∧ lead ≤ layout.maxPositional then
    if point ≤ 0 then "0." ++ zeros (-point).toNat ++ ds
    else if point < n then
      String.ofList (ds.toList.take point.toNat) ++ "." ++ String.ofList (ds.toList.drop point.toNat)
    else ds ++ zeros (point.toNat - n) ++ layout.integralSuffix
  else
    let mantissa :=
      if n = 1 then ds
      else String.ofList (ds.toList.take 1) ++ "." ++ String.ofList (ds.toList.drop 1)
    let expDigits := toString lead.natAbs
    mantissa ++ layout.exponentMark ++ (if lead < 0 then "-" else "+")
      ++ zeros (layout.exponentDigits - expDigits.length) ++ expDigits

/-- The shortest text of a double under a layout. Zero keeps its sign. -/
def Layout.render (layout : Layout) (x : Float) : String :=
  match Binary.finite? x with
  | none =>
    if x.isNaN then layout.nan
    else if Binary.signBit x then "-" ++ layout.infinity else layout.infinity
  | some v =>
    let sign := if v.negative then "-" else ""
    if v.significand = 0 then sign ++ "0" ++ layout.integralSuffix
    else sign ++ layout.scientific (shortest v.significand v.exponent)

/-- A double with `places` digits after the point: the exact value rounded half to even. The
sign of a negative value stays even when it rounds to zero. -/
def fixed (nan infinity : String) (places : Nat) (x : Float) : String :=
  match Binary.finite? x with
  | none => if x.isNaN then nan else if Binary.signBit x then "-" ++ infinity else infinity
  | some v =>
    let scaled :=
      Binary.roundHalfEven (v.significand * Nat.pow 2 v.exponent.toNat * Nat.pow 10 places)
        (Nat.pow 2 (-v.exponent).toNat)
    let ds := toString scaled
    let ds := zeros (places + 1 - ds.length) ++ ds
    let whole := String.ofList (ds.toList.take (ds.length - places))
    let frac := String.ofList (ds.toList.drop (ds.length - places))
    (if v.negative then "-" else "") ++ whole ++ (if places = 0 then "" else "." ++ frac)

/-- Decimal digit values of a run of ASCII digits. -/
def asciiDigits (cs : List Char) : Option (List Nat) :=
  cs.mapM fun c => if c.isDigit then some (c.toNat - '0'.toNat) else none

/-- Reads `[sign] digits [. digits] [e [sign] digits]`, or `nan`, `inf`, `infinity` in any case,
as a double. -/
def read? (text : String) : Option Float :=
  let cs := text.toList
  let (negative, cs) := match cs with
    | '-' :: r => (true, r)
    | '+' :: r => (false, r)
    | r => (false, r)
  let word := String.ofList (cs.map Char.toLower)
  if word = "nan" then some (0.0 / 0.0)
  else if word = "inf" ∨ word = "infinity" then some (Binary.infinity negative)
  else
    let (mantissa, exponentPart) := match cs.span (fun c => c ≠ 'e' ∧ c ≠ 'E') with
      | (m, []) => (m, none)
      | (m, _ :: r) => (m, some r)
    let (whole, frac) := match mantissa.span (· ≠ '.') with
      | (w, []) => (w, [])
      | (w, _ :: f) => (w, f)
    let exponent : Option Int := match exponentPart with
      | none => some 0
      | some ('-' :: r) => if r.isEmpty then none else (asciiDigits r).map fun ds => -(ofDigitValues ds : Int)
      | some ('+' :: r) => if r.isEmpty then none else (asciiDigits r).map fun ds => (ofDigitValues ds : Int)
      | some r => if r.isEmpty then none else (asciiDigits r).map fun ds => (ofDigitValues ds : Int)
    match asciiDigits whole, asciiDigits frac, exponent with
    | some w, some f, some e =>
      if w.isEmpty ∧ f.isEmpty then none
      else some (toFloat negative (ofDigitValues (w ++ f)) (e - f.length))
    | _, _, _ => none

end RoboScript.Decimal
