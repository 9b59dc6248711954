import RoboScript.Machine

/-! Running programs. Expressions are evaluated left to right; a call's argument expressions are
never evaluated, as functions take no parameters; the built-in sensors `detectObstacle` and
`measureDistance` come before any function of the same name. A `return` ends its function,
however deeply it sits in conditionals and loops. A call restores the caller's scope when it
ends normally or by a `return`, but not when it fails.

Nesting is bounded. Each step below is given `room`, the levels still free when it starts, and
takes one for its own frame: evaluating an expression, applying an operator, calling a function,
running a block, a statement or a command, and gathering a command's arguments. Looking a name
up takes a level for each environment passed; building a call's scope or the signal of a `return` is a
native call and a frame below it; comparing two values and raising a failure of the program's
own are native steps a level down. Until evaluation, statements and operators are specialised
(see `Scene`), the type tests that choose a case and the matching of an operator's symbol are
such steps too. A run that needs more than its room fails with `Error.recursionLimit`. The bound
also makes every run finite: each nested step has less room, and walking a list of statements or
arguments shortens the list. -/

namespace RoboScript.Run

variable {ρ : Type} (controls : Controls ρ)

/-- Fails with one of the program's own failures, which is built by a native call first. -/
def raise {α : Type} (room : Nat) (e : Error) : Run ρ α := do
  reach room 1 .nativeCall
  fail e

/-- The value of a name in an environment: a frame for each environment passed, from the
innermost out to the global one, where an unbound name fails. -/
def lookupIn (name : String) : Nat → Scope → Run ρ Value
  | room, .global => do
    let room ← act (Act.frame room)
    match (← get).globals name with
    | some v => pure v
    | none => raise room (.undefinedVariable name)
  | room, .frame bindings parent => do
    let room ← act (Act.frame room)
    match bindings.lookup name with
    | some v => pure v
    | none => lookupIn name room parent

/-- The value of a name, looked up from the current environment. -/
def lookup (room : Nat) (name : String) : Run ρ Value := do
  lookupIn name room (← get).scope

/-- Enters evaluation or a statement with `room` free below it: the entry counts, and the type
tests that choose its case are calls of a built-in. -/
def typeTests (c : Code) (room : Nat) : Run ρ Unit := act (Act.entering c room .nativeCall)

/-- A built-in sensor call: it takes no arguments, and prints what it read. -/
def sensor (c : Code) (room : Nat) (name : String) (args : List Expr) (read : Nat → Act ρ Value) :
    Run ρ Value := do
  let f ← act (Act.enter c room)
  act (Act.builtin f .nativeCall)
  if !args.isEmpty then raise f.room (.takesNoArguments name)
  let v ← act (read f.room)
  let text ← act (Act.shown f.room v)
  say f (name ++ "() called, returning " ++ text)
  return v

/-- An operator applied to two values by its symbol, in a frame of its own. Before it is
specialised, matching the symbol is a comparison a level down, and an order comparison is one
always. -/
def applyBinary (room : Nat) (op : BinOp) (a b : Value) : Run ρ Value := do
  let f ← act (Act.enter .binary room)
  if op.compares || !f.warm then reach f.room 1 .comparison
  check (Value.applyBinary op.symbol a b)

/-- The prefix operator `!` applied to a value by its symbol, in a frame of its own. -/
def applyUnary (room : Nat) (a : Value) : Run ρ Value := do
  let f ← act (Act.enter .unary room)
  act (Act.builtin f .comparison)
  check (Value.applyUnary "!" a)

/-- The built-in obstacle sensor's name. -/
def detectName : String := "detectObstacle"

/-- The built-in distance sensor's name. -/
def measureName : String := "measureDistance"

mutual

/-- The value of an expression. -/
def evalExpr : Nat → Expr → Run ρ Value
  | 0, _ => fail (.recursionLimit .function)
  | r + 1, .number lit => do
    typeTests .expression r
    pure lit.toValue
  | r + 1, .var name => do
    typeTests .expression r
    lookup r name
  | r + 1, .binary op lhs rhs => do
    typeTests .expression r
    let a ← evalExpr r lhs
    let b ← evalExpr r rhs
    applyBinary r op a b
  | r + 1, .not operand => do
    typeTests .expression r
    let a ← evalExpr r operand
    applyUnary r a
  | r + 1, .call name args => do
    typeTests .expression r
    callFunction r name args
termination_by room => (room, 0)

/-- Calls a function by name: a built-in sensor, or a registered function, whose body runs in a
scope of its own and whose value is that of its `return`, or nothing. -/
def callFunction : Nat → String → List Expr → Run ρ Value
  | 0, _, _ => fail (.recursionLimit .function)
  | r + 1, name, args =>
    if name = detectName then sensor .detect r name args controls.detect
    else if name = measureName then sensor .measure r name args controls.measure
    else do
      match (← get).functions name with
      | none => raise r (.undefinedFunction name)
      | some f =>
        reach r 1 .nativeCall
        reach r 2 .function
        let caller := (← get).scope
        modify fun m => { m with scope := .call }
        let v ← tryCatch (do execBlock r f.body; pure Value.none) fun
          | .returned v => pure v
          | .failed e => throw (.failed e)
        modify fun m => { m with scope := caller }
        pure v
termination_by room => (room, 0)

/-- Runs a block of statements. -/
def execBlock : Nat → List Stmt → Run ρ Unit
  | 0, _ => fail (.recursionLimit .function)
  | r + 1, stmts => execEach r stmts
termination_by room => (room, 0)

/-- Runs statements one after another. -/
def execEach (room : Nat) : List Stmt → Run ρ Unit
  | [] => pure ()
  | s :: rest => do
    execStmt room s
    execEach room rest
termination_by stmts => (room, stmts.length)

/-- Runs a statement. A loop runs its body the count's integer part times, none if that is not
positive; each round it finishes jumps back in the statement's loop. -/
def execStmt : Nat → Stmt → Run ρ Unit
  | 0, _ => fail (.recursionLimit .function)
  | r + 1, .command cmd args => do
    typeTests .statement r
    execCommand r cmd args
  | r + 1, .ifThen test thenBody elseBody => do
    typeTests .statement r
    if (← evalExpr r test).truthy then execBlock r thenBody
    else
      match elseBody with
      | some body => execBlock r body
      | none => pure ()
  | r + 1, .repeatTimes count body => do
    typeTests .statement r
    let n ← check (← evalExpr r count).truncate
    times (do execBlock r body; act (Act.loop .statement)) n.toNat
  | r + 1, .call name args => do
    typeTests .statement r
    let _ ← callFunction r name args
  | r + 1, .returnWith value => do
    typeTests .statement r
    let v ← evalExpr r value
    reach r 1 .nativeCall
    reach r 2 .function
    throw (.returned v)
termination_by room => (room, 0)

/-- Runs a robot command on its arguments, which are gathered in a frame of their own. -/
def execCommand : Nat → Command → List Expr → Run ρ Unit
  | 0, _, _ => fail (.recursionLimit .function)
  | 1, _, _ => fail (.recursionLimit .function)
  | r + 2, cmd, args => do
    let vs ← evalArgs r args
    act (controls.command (r + 1) cmd vs)
termination_by room => (room, 0)

/-- The values of argument expressions, left to right. -/
def evalArgs (room : Nat) : List Expr → Run ρ (List Value)
  | [] => pure []
  | a :: rest => do
    let v ← evalExpr room a
    let vs ← evalArgs room rest
    pure (v :: vs)
termination_by args => (room, args.length)

end

/-- Runs a program: registers its functions, then calls `main`. -/
def interpret (room : Nat) (p : Program) : Run ρ Unit := do
  let room ← act (Act.frame room)
  modify (Machine.registerAll p)
  if ((← get).functions "main").isNone then raise room .missingMain
  let _ ← callFunction controls room "main" []

/-- Registers a program's functions, then calls one of them by name with no arguments. -/
def callNamed (room : Nat) (p : Program) (name : String) : Run ρ Value := do
  modify (Machine.registerAll p)
  callFunction controls room name []

/-- Runs the next waiting statement of `main`, if any; taking it off the queue is a call of a
built-in. -/
def executeNext (room : Nat) : Run ρ Unit := do
  let f ← act (Act.enter .next room)
  match (← get).pending with
  | [] => pure ()
  | s :: rest =>
    act (Act.builtin f .nativeCall)
    modify fun m => { m with pending := rest }
    execStmt controls f.room s


end RoboScript.Run
