import RoboScript.Value
import RoboScript.Error
import RoboScript.Decimal
import RoboScript.Text.Printable

/-! The text of values: what printing a value shows. Doubles take the fewest digits that read
back, in the layout below; integers are written in full up to the digit limit; a fixed-point
format gives a number of places exactly. -/

namespace RoboScript

namespace Value

/-- Doubles are written positionally while the leading digit's exponent is from `-4` to `15`,
an integer with a trailing `.0`, otherwise as `d.ddde±XX` with at least two exponent digits. -/
def floatLayout : Decimal.Layout :=
  { minPositional := -4, maxPositional := 15, integralSuffix := ".0", exponentMark := "e",
    exponentDigits := 2, nan := "nan", infinity := "inf" }

/-- The shortest text of a double. -/
def floatText (x : Float) : String := floatLayout.render x

/-- The decimal text of an integer, refused past the digit limit. -/
def intText (n : Int) : Except Error String :=
  if Nat.pow 10 digitLimit ≤ n.natAbs then .error .digitLimitWrite else .ok (toString n)

/-- The text a value prints as. -/
def text : Value → Except Error String
  | .none => .ok "None"
  | .bool b => .ok (if b then "True" else "False")
  | .int n => intText n
  | .float x => .ok (floatText x)

/-- A number with `places` digits after the point, exact and rounded half to even; integers
are first rounded to doubles. -/
def fixedText (places : Nat) (v : Value) : Except Error String :=
  match v.num? with
  | some (.float x) => .ok (Decimal.fixed "nan" "inf" places x)
  | some (.int n) =>
    let x := Binary.ofInt n
    if x.isInf then .error .intTooLargeForFloat else .ok (Decimal.fixed "nan" "inf" places x)
  | Option.none => .error (.unsupportedFormat v.typeName)

end Value

/-- A string as a quoted literal: single quotes unless the text holds a single quote and no
double quote; backslashes and the quote escaped, tabs and line ends by letter, and every other
character that is not printable by its code in hexadecimal, in two, four or eight digits. -/
def quoteText (s : String) : String :=
  let quote := if s.contains '\'' && !s.contains '"' then '"' else '\''
  let hex (n : Nat) (width : Nat) : String :=
    let ds := Nat.toDigits 16 n
    String.ofList (List.replicate (width - ds.length) '0' ++ ds)
  let escape (c : Char) : String :=
    if c = quote then "\\" ++ c.toString
    else if c = '\\' then "\\\\"
    else if c = '\n' then "\\n"
    else if c = '\r' then "\\r"
    else if c = '\t' then "\\t"
    else if Text.isPrintable c then c.toString
    else if c.toNat < 0x100 then "\\x" ++ hex c.toNat 2
    else if c.toNat < 0x10000 then "\\u" ++ hex c.toNat 4
    else "\\U" ++ hex c.toNat 8
  quote.toString ++ String.join (s.toList.map escape) ++ quote.toString

end RoboScript
