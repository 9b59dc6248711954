import RoboScript.Error
import RoboScript.Program.Print

/-! How deeply the two printed forms of a program nest. A node's constructor form is written
by the node's own conversion method, which takes one level. A field that holds a double,
`None`, a node or a list goes through the general format call and a text conversion first,
two more levels; an integer field takes only the text conversion, and a name takes none. A list
then converts each item, one level above the list's text conversion, before the item's own
method. The outline takes one level per node it visits and one for writing each line.

A printed form is produced only when every level it enters fits in the room that is left. The
checks run in the order the levels are entered, so the first level that does not fit names the
failure. -/

namespace RoboScript

/-- The level `depth` steps above the current one fits in `room`; otherwise its kind is the
failure. -/
def fitting (room depth : Nat) (kind : Nesting) : Except Nesting Unit :=
  if depth ≤ room then pure () else throw kind

/-- The general format call and the text conversion that a non-integer field goes through. -/
def viaFormat (room : Nat) : Except Nesting Unit := do
  fitting room 1 .nativeCall
  fitting room 2 .text

/-- Writing a line of the outline: one level for the write of its text. -/
def printed (room : Nat) : Except Nesting Unit := fitting room 1 .nativeCall

/-- A literal field: an integer takes its text conversion only, a double the format call too. -/
def Literal.fits (room : Nat) : Literal → Except Nesting Unit
  | .int _ => fitting room 1 .text
  | .float _ => viaFormat room

mutual

/-- Writing an expression's constructor form fits in `room`. -/
def Expr.fits (room : Nat) : Expr → Except Nesting Unit
  | .number lit => do
    fitting room 1 .function
    lit.fits (room - 1)
  | .var _ => fitting room 1 .function
  | .call _ args => do
    fitting room 1 .function
    viaFormat (room - 1)
    Expr.fitsEach (room - 3) args
  | .binary _ lhs rhs => do
    fitting room 1 .function
    viaFormat (room - 1)
    lhs.fits (room - 3)
    viaFormat (room - 1)
    rhs.fits (room - 3)
  | .not operand => do
    fitting room 1 .function
    viaFormat (room - 1)
    operand.fits (room - 3)

/-- The items of a list of expressions, each converted one level above the list's text. -/
def Expr.fitsEach (room : Nat) : List Expr → Except Nesting Unit
  | [] => pure ()
  | e :: rest => do
    fitting room 1 .representation
    e.fits (room - 1)
    Expr.fitsEach room rest

end

mutual

/-- Writing a statement's constructor form fits in `room`. -/
def Stmt.fits (room : Nat) : Stmt → Except Nesting Unit
  | .command _ args => do
    fitting room 1 .function
    viaFormat (room - 1)
    Expr.fitsEach (room - 3) args
  | .ifThen test thenBody elseBody => do
    fitting room 1 .function
    viaFormat (room - 1)
    test.fits (room - 3)
    viaFormat (room - 1)
    Stmt.fitsEach (room - 3) thenBody
    viaFormat (room - 1)
    match elseBody with
    | some body => Stmt.fitsEach (room - 3) body
    | none => pure ()
  | .repeatTimes count body => do
    fitting room 1 .function
    viaFormat (room - 1)
    count.fits (room - 3)
    viaFormat (room - 1)
    Stmt.fitsEach (room - 3) body
  | .call _ args => do
    fitting room 1 .function
    viaFormat (room - 1)
    Expr.fitsEach (room - 3) args
  | .returnWith value => do
    fitting room 1 .function
    viaFormat (room - 1)
    value.fits (room - 3)

/-- The items of a list of statements, each converted one level above the list's text. -/
def Stmt.fitsEach (room : Nat) : List Stmt → Except Nesting Unit
  | [] => pure ()
  | s :: rest => do
    fitting room 1 .representation
    s.fits (room - 1)
    Stmt.fitsEach room rest

end

/-- Writing a function definition's constructor form fits in `room`. -/
def FunDef.fits (room : Nat) (f : FunDef) : Except Nesting Unit := do
  fitting room 1 .function
  viaFormat (room - 1)
  Stmt.fitsEach (room - 3) f.body

/-- Writing a program's constructor form fits in `room`. -/
def Program.fits (room : Nat) (p : Program) : Except Nesting Unit := do
  fitting room 1 .function
  viaFormat (room - 1)
  p.functions.forM fun f => do
    fitting (room - 3) 1 .representation
    f.fits (room - 4)

/-- Visiting an expression in the outline fits in `room`. Only numbers, variables and calls
have lines of their own; any other expression is named by its class, whose text takes the
format call and the text conversion. -/
def Expr.outlineFits (room : Nat) : Expr → Except Nesting Unit
  | .number lit => do
    fitting room 1 .function
    lit.fits (room - 1)
    printed (room - 1)
  | .var _ => do
    fitting room 1 .function
    printed (room - 1)
  | .call _ args => do
    fitting room 1 .function
    viaFormat (room - 1)
    Expr.fitsEach (room - 3) args
    printed (room - 1)
  | _ => do
    fitting room 1 .function
    viaFormat (room - 1)
    printed (room - 1)

mutual

/-- Visiting a statement in the outline fits in `room`. -/
def Stmt.outlineFits (room : Nat) : Stmt → Except Nesting Unit
  | .command _ args => do
    fitting room 1 .function
    viaFormat (room - 1)
    Expr.fitsEach (room - 3) args
    printed (room - 1)
  | .ifThen test thenBody elseBody => do
    fitting room 1 .function
    printed (room - 1)
    test.outlineFits (room - 1)
    printed (room - 1)
    Stmt.outlineEach (room - 1) thenBody
    match elseBody with
    | some (s :: rest) => do
      printed (room - 1)
      Stmt.outlineEach (room - 1) (s :: rest)
    | _ => pure ()
  | .repeatTimes count body => do
    fitting room 1 .function
    viaFormat (room - 1)
    count.fits (room - 3)
    printed (room - 1)
    Stmt.outlineEach (room - 1) body
  | .call _ args => do
    fitting room 1 .function
    viaFormat (room - 1)
    Expr.fitsEach (room - 3) args
    printed (room - 1)
  | .returnWith _ => do
    fitting room 1 .function
    viaFormat (room - 1)
    printed (room - 1)

/-- Visiting statements in the outline one after another, each in the same room. -/
def Stmt.outlineEach (room : Nat) : List Stmt → Except Nesting Unit
  | [] => pure ()
  | s :: rest => do
    s.outlineFits room
    Stmt.outlineEach room rest

end

/-- Visiting a program in the outline fits in `room`: its line, then each function's visit with
its line and its statements. -/
def Program.outlineFits (room : Nat) (p : Program) : Except Nesting Unit := do
  fitting room 1 .function
  printed (room - 1)
  p.functions.forM fun f => do
    fitting (room - 1) 1 .function
    printed (room - 2)
    Stmt.outlineEach (room - 2) f.body

/-- A printed form when its check passes, or the nesting failure it stops at. -/
def Nesting.guarded (check : Except Nesting Unit) (text : String) : Except Error String :=
  match check with
  | .ok () => .ok text
  | .error kind => .error (.recursionLimit kind)

/-- A program's constructor form, asked for from a level with `room` levels above it: the call
of the conversion and the conversion's own check take two levels before the program's method. -/
def Program.renderIn (room : Nat) (p : Program) : Except Error String :=
  Nesting.guarded (do
    fitting room 1 .nativeCall
    fitting room 2 .representation
    p.fits (room - 2)) p.render

/-- A program's outline, asked for from a level with `room` levels above it. -/
def Program.outlineIn (room : Nat) (p : Program) : Except Error String :=
  Nesting.guarded (p.outlineFits room) p.outline

end RoboScript
