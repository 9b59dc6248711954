import RoboScript.Token

/-! Programs: a list of function definitions, each a name and a body of statements. Statements
issue robot commands, branch, repeat, call functions and return values; expressions are
numbers, variables, calls, binary operations and negation. Functions take no parameters: a
call's arguments are written but never used. -/

namespace RoboScript

/-- An expression. -/
inductive Expr where
  | number (lit : Literal)
  | var (name : String)
  | call (name : String) (args : List Expr)
  | binary (op : BinOp) (lhs rhs : Expr)
  | not (operand : Expr)
  deriving Inhabited

/-- A statement. -/
inductive Stmt where
  /-- A robot command with its argument expressions. -/
  | command (cmd : Command) (args : List Expr)
  /-- A test with the statements for true and, if written, those for false. -/
  | ifThen (test : Expr) (thenBody : List Stmt) (elseBody : Option (List Stmt))
  /-- A body repeated a computed number of times. -/
  | repeatTimes (count : Expr) (body : List Stmt)
  /-- A function called for its effects. -/
  | call (name : String) (args : List Expr)
  /-- The end of the current function with a value. -/
  | returnWith (value : Expr)
  deriving Inhabited

/-- A function definition. -/
structure FunDef where
  name : String
  body : List Stmt
  deriving Inhabited

/-- A program. -/
structure Program where
  functions : List FunDef
  deriving Inhabited

end RoboScript
