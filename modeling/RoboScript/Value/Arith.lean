import RoboScript.Value
import RoboScript.Error
import RoboScript.Binary

/-! Arithmetic and comparison of values. Two integers stay exact; when a double takes part,
the integer is first rounded to the nearest double and the operation is that of doubles.
Dividing two integers rounds their exact quotient once. Comparisons between an integer and a
double are exact, and a NaN is unordered. Nothing takes part only in `==` and `!=`. -/

namespace RoboScript

/-- The nearest double to a number; an integer beyond the doubles fails. -/
def Num.toFloat : Num → Except Error Float
  | .int n =>
    let x := Binary.ofInt n
    if x.isInf then .error .intTooLargeForFloat else .ok x
  | .float x => .ok x

/-- The double a value stands for, as a trigonometric function needs it. -/
def Value.toFloat (v : Value) : Except Error Float :=
  match v.num? with
  | some n => n.toFloat
  | .none => .error (.notARealNumber v.typeName)

/-- The integer part of a value, rounded toward zero. -/
def Value.truncate (v : Value) : Except Error Int :=
  match v.num? with
  | some (.int n) => .ok n
  | some (.float x) =>
    match Binary.finite? x with
    | some e => .ok e.truncate
    | .none => .error (if x.isNaN then .nanToInteger else .infinityToInteger)
  | .none => .error (.notAnIntegerArgument v.typeName)

/-- The three ring operations. -/
inductive Ring where
  | add
  | sub
  | mul
  deriving DecidableEq

namespace Ring

/-- The operation on integers. -/
def onInt : Ring → Int → Int → Int
  | .add, a, b => a + b
  | .sub, a, b => a - b
  | .mul, a, b => a * b

/-- The operation on doubles. -/
def onFloat : Ring → Float → Float → Float
  | .add, x, y => x + y
  | .sub, x, y => x - y
  | .mul, x, y => x * y

end Ring

namespace Value

/-- A ring operation on values; `symbol` names the operator in a type error. -/
def ring (op : Ring) (symbol : String) (l r : Value) : Except Error Value :=
  match l.num?, r.num? with
  | some (.int a), some (.int b) => .ok (.int (op.onInt a b))
  | some a, some b => do
    let x ← a.toFloat
    let y ← b.toFloat
    .ok (.float (op.onFloat x y))
  | _, _ => .error (.unsupportedOperands symbol l.typeName r.typeName)

/-- The quotient of two integers, rounded once to the nearest double. -/
def intQuotient (a b : Int) : Except Error Float :=
  if b = 0 then .error .divisionByZero
  else
    let q := Binary.nearest ((a < 0) != (b < 0)) a.natAbs b.natAbs
    if q.isInf then .error .quotientTooLarge else .ok q

/-- True division: always a double. -/
def divide (symbol : String) (l r : Value) : Except Error Value :=
  match l.num?, r.num? with
  | some (.int a), some (.int b) => .float <$> intQuotient a b
  | some a, some b => do
    let x ← a.toFloat
    let y ← b.toFloat
    if y == 0.0 then .error .floatDivisionByZero else .ok (.float (x / y))
  | _, _ => .error (.unsupportedOperands symbol l.typeName r.typeName)

/-- The opposite of a number. -/
def negate (v : Value) : Except Error Value :=
  match v.num? with
  | some (.int n) => .ok (.int (-n))
  | some (.float x) => .ok (.float (-x))
  | .none => .error (.badUnaryOperand "-" v.typeName)

/-- The remainder on division by a positive natural, with the divisor's sign: integers by floor
division; doubles by the exact truncated remainder, moved up by the divisor when negative
(a rounded step) and `+0.0` when zero. Infinities and NaN give NaN. -/
def floorMod (symbol : String) (v : Value) (modulus : Nat) : Except Error Value :=
  match v.num? with
  | some (.int n) => .ok (.int (n % (modulus : Int)))
  | some (.float x) =>
    match Binary.finite? x with
    | .none => .ok (.float (0.0 / 0.0))
    | some e =>
      let r := e.truncRem modulus
      if r == 0.0 then .ok (.float 0.0)
      else if r < 0.0 then .ok (.float (r + Binary.ofInt modulus))
      else .ok (.float r)
  | .none => .error (.unsupportedOperands symbol v.typeName "int")

end Value

/-- The exact order of an integer and a double; `none` for a NaN. -/
def compareIntFloat (a : Int) (y : Float) : Option Ordering :=
  match Binary.finite? y with
  | some e => some (Binary.Exact.compareInt a e)
  | .none => if y.isNaN then none else if Binary.signBit y then some .gt else some .lt

/-- The exact order of two numbers; `none` when a NaN takes part. -/
def Num.compare? : Num → Num → Option Ordering
  | .int a, .int b => some (compare a b)
  | .float x, .float y =>
    if x.isNaN || y.isNaN then none
    else if x < y then some .lt else if x == y then some .eq else some .gt
  | .int a, .float y => compareIntFloat a y
  | .float x, .int b => (compareIntFloat b x).map Ordering.swap

/-- The six comparisons. -/
inductive Relation where
  | eq
  | ne
  | lt
  | le
  | gt
  | ge
  deriving DecidableEq

namespace Relation

/-- The operator's symbol. -/
def symbol : Relation → String
  | .eq => "=="
  | .ne => "!="
  | .lt => "<"
  | .le => "<="
  | .gt => ">"
  | .ge => ">="

/-- Whether the relation holds for an order, where `none` means unordered. -/
def holds : Relation → Option Ordering → Bool
  | .eq, o => o == some .eq
  | .ne, o => o != some .eq
  | .lt, o => o == some .lt
  | .le, o => o == some .lt || o == some .eq
  | .gt, o => o == some .gt
  | .ge, o => o == some .gt || o == some .eq

end Relation

/-- A comparison of two values. Nothing equals only nothing and has no order. -/
def Value.relate (rel : Relation) (l r : Value) : Except Error Value :=
  match l.num?, r.num? with
  | some a, some b => .ok (.bool (rel.holds (a.compare? b)))
  | _, _ =>
    let same := match l, r with
      | .none, .none => true
      | _, _ => false
    match rel with
    | .eq => .ok (.bool same)
    | .ne => .ok (.bool !same)
    | _ => .error (.unorderable rel.symbol l.typeName r.typeName)

end RoboScript
