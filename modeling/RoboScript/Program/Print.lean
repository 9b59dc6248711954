import RoboScript.Program

/-! Two printed forms of a program. `render` writes each node as its constructor with named
fields, lists in brackets. `outline` writes one node per line, indented two spaces per level;
it knows commands, conditionals, loops, calls, numbers and variables, and names any other node
by its class. -/

namespace RoboScript

/-- Items between brackets, separated by a comma and a space. -/
def bracketed (items : List String) : String := "[" ++ ", ".intercalate items ++ "]"

namespace Expr

/-- The constructor form of an expression. -/
def render : Expr → String
  | .number lit => "Number(value=" ++ lit.show ++ ")"
  | .var name => "Identifier(name=" ++ name ++ ")"
  | .call name args => "FunctionCall(name=" ++ name ++ ", args=" ++ bracketed (args.map render) ++ ")"
  | .binary op lhs rhs =>
    "BinaryOp(op=" ++ op.symbol ++ ", left=" ++ render lhs ++ ", right=" ++ render rhs ++ ")"
  | .not operand => "UnaryOp(op=!, operand=" ++ render operand ++ ")"

/-- The class name of an expression node. -/
def className : Expr → String
  | .number _ => "Number"
  | .var _ => "Identifier"
  | .call .. => "FunctionCall"
  | .binary .. => "BinaryOp"
  | .not _ => "UnaryOp"

end Expr

namespace Stmt

/-- The constructor form of a statement. -/
def render : Stmt → String
  | .command cmd args =>
    "Command(command=" ++ cmd.word ++ ", args=" ++ bracketed (args.map Expr.render) ++ ")"
  | .ifThen test thenBody elseBody =>
    "IfStatement(condition=" ++ test.render ++ ", if_body=" ++ bracketed (thenBody.map render)
      ++ ", else_body=" ++ (match elseBody with
        | some body => bracketed (body.map render)
        | none => "None") ++ ")"
  | .repeatTimes count body =>
    "RepeatLoop(times=" ++ count.render ++ ", body=" ++ bracketed (body.map render) ++ ")"
  | .call name args => "FunctionCall(name=" ++ name ++ ", args=" ++ bracketed (args.map Expr.render) ++ ")"
  | .returnWith value => "ReturnStatement(expression=" ++ value.render ++ ")"

end Stmt

/-- The constructor form of a function definition. -/
def FunDef.render (f : FunDef) : String :=
  "FunctionDef(name=" ++ f.name ++ ", body=" ++ bracketed (f.body.map Stmt.render) ++ ")"

/-- The constructor form of a program. -/
def Program.render (p : Program) : String :=
  "Program(functions=" ++ bracketed (p.functions.map FunDef.render) ++ ")"

/-- Two spaces per level. -/
def indent (level : Nat) : String := String.ofList (List.replicate (2 * level) ' ')

/-- The outline line of a node the outline does not know. -/
def unknownLine (level : Nat) (className : String) : String :=
  indent level ++ "Unknown node type: <class 'parser." ++ className ++ "'>\n"

/-- The outline of an expression at an indentation level. -/
def Expr.outline (level : Nat) : Expr → String
  | .number lit => indent level ++ "Number: " ++ lit.show ++ "\n"
  | .var name => indent level ++ "Identifier: " ++ name ++ "\n"
  | .call name args =>
    indent level ++ "FunctionCall: " ++ name ++ ", Args: " ++ bracketed (args.map Expr.render) ++ "\n"
  | e => unknownLine level e.className

mutual

/-- The outline of a statement at an indentation level. -/
def Stmt.outline (level : Nat) : Stmt → String
  | .command cmd args =>
    indent level ++ "Command: " ++ cmd.word ++ ", Args: " ++ bracketed (args.map Expr.render) ++ "\n"
  | .ifThen test thenBody elseBody =>
    indent level ++ "IfStatement:\n" ++ test.outline (level + 1)
      ++ indent level ++ "  If Body:\n" ++ Stmt.outlineAll (level + 2) thenBody
      ++ (match elseBody with
        | some (s :: rest) => indent level ++ "  Else Body:\n" ++ Stmt.outlineAll (level + 2) (s :: rest)
        | _ => "")
  | .repeatTimes count body =>
    indent level ++ "RepeatLoop: " ++ count.render ++ "\n" ++ Stmt.outlineAll (level + 1) body
  | .call name args =>
    indent level ++ "FunctionCall: " ++ name ++ ", Args: " ++ bracketed (args.map Expr.render) ++ "\n"
  | .returnWith _ => unknownLine level "ReturnStatement"

/-- The outlines of statements, one after another. -/
def Stmt.outlineAll (level : Nat) : List Stmt → String
  | [] => ""
  | s :: rest => s.outline level ++ Stmt.outlineAll level rest

end

/-- The outline of a program. -/
def Program.outline (p : Program) : String :=
  "Program\n" ++ String.join (p.functions.map fun f =>
    indent 1 ++ "FunctionDef: " ++ f.name ++ "\n" ++ Stmt.outlineAll 2 f.body)

end RoboScript
