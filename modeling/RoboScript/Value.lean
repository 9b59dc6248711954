/-! Values of the language: nothing, a truth value, an integer of any size or a double. A truth
value counts as the integer `0` or `1` in arithmetic and comparisons, as in the dynamic
languages this one is modelled on. -/

namespace RoboScript

/-- A value computed by a program. -/
inductive Value where
  | none
  | bool (b : Bool)
  | int (n : Int)
  | float (x : Float)
  deriving Inhabited

namespace Value

/-- The name of a value's type, as error messages give it. -/
def typeName : Value → String
  | .none => "NoneType"
  | .bool _ => "bool"
  | .int _ => "int"
  | .float _ => "float"

/-- Whether a value counts as true in a condition: nothing, `false`, `0` and `±0.0` do not. -/
def truthy : Value → Bool
  | .none => false
  | .bool b => b
  | .int n => n != 0
  | .float x => x != 0.0

end Value

/-- A number as arithmetic sees it: truth values are already integers. -/
inductive Num where
  | int (n : Int)
  | float (x : Float)

/-- The number a value stands for, if any. -/
def Value.num? : Value → Option Num
  | .none => Option.none
  | .bool b => some (.int (if b then 1 else 0))
  | .int n => some (.int n)
  | .float x => some (.float x)

/-- A number as a value. -/
def Num.toValue : Num → Value
  | .int n => .int n
  | .float x => .float x

end RoboScript
