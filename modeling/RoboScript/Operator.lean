import RoboScript.Value.Arith

/-! The binary operators of the language, their symbols and binding strength, and their meaning
on values. Both operands are computed before an operator applies: `&&` and `||` choose one of
the two computed values by truthiness, the first when it decides the answer. -/

namespace RoboScript

/-- A binary operator. -/
inductive BinOp where
  | add
  | sub
  | mul
  | div
  | eq
  | ne
  | lt
  | le
  | gt
  | ge
  | and
  | or
  deriving DecidableEq, Repr

namespace BinOp

/-- Every operator. -/
def all : List BinOp := [.add, .sub, .mul, .div, .eq, .ne, .lt, .le, .gt, .ge, .and, .or]

/-- The operator's symbol in program text. -/
def symbol : BinOp → String
  | .add => "+"
  | .sub => "-"
  | .mul => "*"
  | .div => "/"
  | .eq => "=="
  | .ne => "!="
  | .lt => "<"
  | .le => "<="
  | .gt => ">"
  | .ge => ">="
  | .and => "&&"
  | .or => "||"

/-- The operator with this symbol. -/
def ofSymbol? (s : String) : Option BinOp := all.find? (·.symbol == s)

/-- How tightly the operator binds, loosest first; all of them group to the left. -/
def precedence : BinOp → Nat
  | .or => 1
  | .and => 2
  | .eq | .ne => 3
  | .lt | .le | .gt | .ge => 4
  | .add | .sub => 5
  | .mul | .div => 6

/-- Whether the operator compares its two sides. -/
def compares : BinOp → Bool
  | .eq | .ne | .lt | .le | .gt | .ge => true
  | _ => false

/-- The value of `l op r` from the values of both sides. -/
def apply : BinOp → Value → Value → Except Error Value
  | .add, l, r => Value.ring .add "+" l r
  | .sub, l, r => Value.ring .sub "-" l r
  | .mul, l, r => Value.ring .mul "*" l r
  | .div, l, r => Value.divide "/" l r
  | .eq, l, r => Value.relate .eq l r
  | .ne, l, r => Value.relate .ne l r
  | .lt, l, r => Value.relate .lt l r
  | .le, l, r => Value.relate .le l r
  | .gt, l, r => Value.relate .gt l r
  | .ge, l, r => Value.relate .ge l r
  | .and, l, r => .ok (if l.truthy then r else l)
  | .or, l, r => .ok (if l.truthy then l else r)

end BinOp

theorem BinOp.ofSymbol?_symbol (op : BinOp) : BinOp.ofSymbol? op.symbol = some op := by
  cases op <;> rfl

/-- The binary operator written `symbol` applied to two values. -/
def Value.applyBinary (symbol : String) (l r : Value) : Except Error Value :=
  match BinOp.ofSymbol? symbol with
  | some op => op.apply l r
  | .none => .error (.unknownBinaryOperator symbol)

/-- An operator applied by its own symbol is the operator applied. -/
@[simp] theorem Value.applyBinary_symbol (op : BinOp) (l r : Value) :
    Value.applyBinary op.symbol l r = op.apply l r := by
  rw [Value.applyBinary, BinOp.ofSymbol?_symbol]

/-- The prefix operator written `symbol` applied to a value; `!` is the only one. -/
def Value.applyUnary (symbol : String) (v : Value) : Except Error Value :=
  if symbol = "!" then .ok (.bool !v.truthy) else .error (.unknownUnaryOperator symbol)

@[simp] theorem Value.applyUnary_not (v : Value) :
    Value.applyUnary "!" v = .ok (.bool !v.truthy) := if_pos rfl

end RoboScript
