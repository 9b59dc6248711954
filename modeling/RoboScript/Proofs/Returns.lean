import RoboScript.Proofs.Stepping

/-! A `return` ends exactly its own function. The interpreter carries a `return` as a signal that
passes out of every statement, loop and block around it until the call running the function
catches it. A second interpreter, with structured control, has no such signal: each of its
statements hands on where control goes, to the next statement or out of the function with a
value, and a block and a loop go on only while control goes to the next statement. A call runs
its function's body so and takes the value it leaves with, or nothing.

Both interpreters do the same on every program, from every machine and with any room: an
expression has the same value and effects, a statement ends as its structured run says, and a
call of a registered function is the structured run of its body, whatever its arguments, which
are never evaluated. So a `return` skips the rest of its function's body, the remaining rounds of
every loop around it included, and ends no function but its own. -/

namespace RoboScript.Run

/-- Where control goes after a statement: on to the next one, or out of the function with the
value of a `return`. -/
inductive Flow where
  | next
  | returned (v : Value)

namespace Flow

variable {ρ : Type}

/-- The value a function's body leaves its call with: a `return`'s value, or nothing. -/
def value : Flow → Value
  | .next => .none
  | .returned v => v

/-- Runs `first` and, when control goes on from it, `rest`. -/
def andThen (first rest : Run ρ Flow) : Run ρ Flow := do
  match ← first with
  | .next => rest
  | .returned v => pure (.returned v)

/-- Runs `body` up to `n` times, while control goes on from it. -/
def repeatFor (body : Run ρ Flow) : Nat → Run ρ Flow
  | 0 => pure .next
  | n + 1 => andThen body (repeatFor body n)

/-- The interpreter's signal for where control goes: none, or a `return`'s. -/
def signal : Flow → Run ρ Unit
  | .next => pure ()
  | .returned v => throw (.returned v)

end Flow

namespace Structured

variable {ρ : Type} (controls : Controls ρ)

mutual

/-- The value of an expression. -/
def evalExpr : Nat → Expr → Run ρ Value
  | 0, _ => fail (.recursionLimit .function)
  | r + 1, .number lit => do
    typeTests .expression r
    pure lit.toValue
  | r + 1, .var name => do
    typeTests .expression r
    lookup r name
  | r + 1, .binary op lhs rhs => do
    typeTests .expression r
    let a ← evalExpr r lhs
    let b ← evalExpr r rhs
    applyBinary r op a b
  | r + 1, .not operand => do
    typeTests .expression r
    let a ← evalExpr r operand
    applyUnary r a
  | r + 1, .call name args => do
    typeTests .expression r
    callFunction r name args
termination_by room => (room, 0)

/-- Calls a function by name: a built-in sensor, or a registered function. -/
def callFunction : Nat → String → List Expr → Run ρ Value
  | 0, _, _ => fail (.recursionLimit .function)
  | r + 1, name, args =>
    if name = detectName then sensor .detect r name args controls.detect
    else if name = measureName then sensor .measure r name args controls.measure
    else do
      match (← get).functions name with
      | none => raise r (.undefinedFunction name)
      | some f => call r f
termination_by room => (room, 0)

/-- Calls a registered function: its body runs in a scope of its own, and the value is that of
the `return` control left the body with, or nothing. -/
def call (room : Nat) (f : FunDef) : Run ρ Value := do
  reach room 1 .nativeCall
  reach room 2 .function
  let caller := (← get).scope
  modify fun m => { m with scope := .call }
  let flow ← execBlock room f.body
  modify fun m => { m with scope := caller }
  pure flow.value
termination_by (room, 1)

/-- Runs a block of statements. -/
def execBlock : Nat → List Stmt → Run ρ Flow
  | 0, _ => fail (.recursionLimit .function)
  | r + 1, stmts => execEach r stmts
termination_by room => (room, 0)

/-- Runs statements one after another while control goes on. -/
def execEach (room : Nat) : List Stmt → Run ρ Flow
  | [] => pure .next
  | s :: rest => Flow.andThen (execStmt room s) (execEach room rest)
termination_by stmts => (room, stmts.length)

/-- Runs a statement; a loop repeats its body while control goes on, and jumps back after each
round control went on from. -/
def execStmt : Nat → Stmt → Run ρ Flow
  | 0, _ => fail (.recursionLimit .function)
  | r + 1, .command cmd args => do
    typeTests .statement r
    execCommand r cmd args
    pure .next
  | r + 1, .ifThen test thenBody elseBody => do
    typeTests .statement r
    if (← evalExpr r test).truthy then execBlock r thenBody
    else
      match elseBody with
      | some body => execBlock r body
      | none => pure .next
  | r + 1, .repeatTimes count body => do
    typeTests .statement r
    let n ← check (← evalExpr r count).truncate
    Flow.repeatFor (Flow.andThen (execBlock r body) (do act (Act.loop .statement); pure .next))
      n.toNat
  | r + 1, .call name args => do
    typeTests .statement r
    let _ ← callFunction r name args
    pure .next
  | r + 1, .returnWith value => do
    typeTests .statement r
    let v ← evalExpr r value
    reach r 1 .nativeCall
    reach r 2 .function
    pure (.returned v)
termination_by room => (room, 0)

/-- Runs a robot command on its arguments. -/
def execCommand : Nat → Command → List Expr → Run ρ Unit
  | 0, _, _ => fail (.recursionLimit .function)
  | 1, _, _ => fail (.recursionLimit .function)
  | r + 2, cmd, args => do
    let vs ← evalArgs r args
    act (controls.command (r + 1) cmd vs)
termination_by room => (room, 0)

/-- The values of argument expressions, left to right. -/
def evalArgs (room : Nat) : List Expr → Run ρ (List Value)
  | [] => pure []
  | a :: rest => do
    let v ← evalExpr room a
    let vs ← evalArgs room rest
    pure (v :: vs)
termination_by args => (room, args.length)

end

/-! ### The structured interpreter never signals a `return` -/

theorem Flow.andThen_quiet {x y : Run ρ Flow} (first : Quiet x) (rest : Quiet y) :
    Quiet (Flow.andThen x y) :=
  Quiet.bind first fun flow => by
    cases flow with
    | next => exact rest
    | returned v => exact Quiet.pure _

theorem Flow.repeatFor_quiet {body : Run ρ Flow} (each : Quiet body) (n : Nat) :
    Quiet (Flow.repeatFor body n) := by
  induction n with
  | zero => exact Quiet.pure _
  | succ n ih => exact Flow.andThen_quiet each ih

mutual

theorem evalExpr_quiet (r : Nat) (e : Expr) : Quiet (evalExpr controls r e) := by
  cases r with
  | zero =>
    rw [evalExpr]
    exact Quiet.fail _
  | succ q =>
    have tests := typeTests_quiet (ρ := ρ) .expression q
    cases e with
    | number lit =>
      simp only [evalExpr]
      exact Quiet.bind tests fun _ => Quiet.pure _
    | var name =>
      simp only [evalExpr]
      exact Quiet.bind tests fun _ => lookup_quiet q name
    | binary op lhs rhs =>
      simp only [evalExpr]
      exact Quiet.bind tests fun _ => Quiet.bind (evalExpr_quiet q lhs) fun a =>
        Quiet.bind (evalExpr_quiet q rhs) fun b => applyBinary_quiet q op a b
    | not operand =>
      simp only [evalExpr]
      exact Quiet.bind tests fun _ => Quiet.bind (evalExpr_quiet q operand) fun a =>
        applyUnary_quiet q a
    | call name args =>
      simp only [evalExpr]
      exact Quiet.bind tests fun _ => callFunction_quiet q name args
termination_by (r, 0)

theorem callFunction_quiet (r : Nat) (name : String) (args : List Expr) :
    Quiet (callFunction controls r name args) := by
  cases r with
  | zero =>
    rw [callFunction]
    exact Quiet.fail _
  | succ q =>
    simp only [callFunction]
    refine Quiet.ite _ (sensor_quiet _ _ _ _ _) (Quiet.ite _ (sensor_quiet _ _ _ _ _)
      (Quiet.get_bind fun m => ?_))
    cases m.functions name with
    | none => exact Quiet.raise _ _
    | some f => exact call_quiet q f
termination_by (r, 0)

theorem call_quiet (room : Nat) (f : FunDef) : Quiet (call controls room f) := by
  unfold call
  exact Quiet.bind (Quiet.act _) fun _ => Quiet.bind (Quiet.act _) fun _ => Quiet.get_bind fun _ =>
    Quiet.bind (Quiet.modify _) fun _ => Quiet.bind (execBlock_quiet room f.body) fun _ =>
      Quiet.bind (Quiet.modify _) fun _ => Quiet.pure _
termination_by (room, 1)

theorem execBlock_quiet (r : Nat) (stmts : List Stmt) : Quiet (execBlock controls r stmts) := by
  cases r with
  | zero =>
    rw [execBlock]
    exact Quiet.fail _
  | succ q =>
    simp only [execBlock]
    exact execEach_quiet q stmts
termination_by (r, 0)

theorem execEach_quiet (room : Nat) (stmts : List Stmt) : Quiet (execEach controls room stmts) := by
  cases stmts with
  | nil =>
    simp only [execEach]
    exact Quiet.pure _
  | cons s rest =>
    simp only [execEach]
    exact Flow.andThen_quiet (execStmt_quiet room s) (execEach_quiet room rest)
termination_by (room, stmts.length)

theorem execStmt_quiet (r : Nat) (s : Stmt) : Quiet (execStmt controls r s) := by
  cases r with
  | zero =>
    rw [execStmt]
    exact Quiet.fail _
  | succ q =>
    have tests := typeTests_quiet (ρ := ρ) .statement q
    cases s with
    | command cmd args =>
      simp only [execStmt]
      exact Quiet.bind tests fun _ => Quiet.bind (execCommand_quiet q cmd args) fun _ =>
        Quiet.pure _
    | ifThen test thenBody elseBody =>
      cases elseBody with
      | none =>
        simp only [execStmt]
        exact Quiet.bind tests fun _ => Quiet.bind (evalExpr_quiet q test) fun _ =>
          Quiet.ite _ (execBlock_quiet q thenBody) (Quiet.pure _)
      | some body =>
        simp only [execStmt]
        exact Quiet.bind tests fun _ => Quiet.bind (evalExpr_quiet q test) fun _ =>
          Quiet.ite _ (execBlock_quiet q thenBody) (execBlock_quiet q body)
    | repeatTimes count body =>
      simp only [execStmt]
      have round := Flow.andThen_quiet (execBlock_quiet q body)
        (Quiet.bind (Quiet.act (Act.loop .statement)) fun _ => Quiet.pure .next)
      exact Quiet.bind tests fun _ => Quiet.bind (evalExpr_quiet q count) fun _ =>
        Quiet.bind (Quiet.check _) fun n => Flow.repeatFor_quiet round n.toNat
    | call name args =>
      simp only [execStmt]
      exact Quiet.bind tests fun _ => Quiet.bind (callFunction_quiet q name args) fun _ =>
        Quiet.pure _
    | returnWith value =>
      simp only [execStmt]
      exact Quiet.bind tests fun _ => Quiet.bind (evalExpr_quiet q value) fun _ =>
        Quiet.bind (Quiet.act _) fun _ => Quiet.bind (Quiet.act _) fun _ => Quiet.pure _
termination_by (r, 0)

theorem execCommand_quiet (r : Nat) (cmd : Command) (args : List Expr) :
    Quiet (execCommand controls r cmd args) := by
  cases r with
  | zero =>
    rw [execCommand]
    exact Quiet.fail _
  | succ r =>
    cases r with
    | zero =>
      rw [execCommand]
      exact Quiet.fail _
    | succ q =>
      simp only [execCommand]
      exact Quiet.bind (evalArgs_quiet q args) fun _ => Quiet.act _
termination_by (r, 0)

theorem evalArgs_quiet (room : Nat) (args : List Expr) : Quiet (evalArgs controls room args) := by
  cases args with
  | nil =>
    simp only [evalArgs]
    exact Quiet.pure []
  | cons a rest =>
    simp only [evalArgs]
    exact Quiet.bind (evalExpr_quiet room a) fun v => Quiet.bind (evalArgs_quiet room rest)
      fun vs =>
      Quiet.pure (v :: vs)
termination_by (room, args.length)

end

end Structured

/-! ### Both interpreters agree -/

section Agreement

variable {ρ α β : Type} {controls : Controls ρ}

theorem ext {x y : Run ρ α} (same : ∀ m, go x m = go y m) : x = y := funext same

theorem throw_bind (s : Signal) (f : α → Run ρ β) : (throw s >>= f : Run ρ β) = throw s :=
  ext fun m => go_bind_error (go_throw s m)

@[simp] theorem Flow.signal_next : (Flow.signal .next : Run ρ Unit) = pure () := rfl

@[simp] theorem Flow.signal_returned (v : Value) :
    (Flow.signal (.returned v) : Run ρ Unit) = throw (.returned v) := rfl

theorem Flow.signal_andThen (x y : Run ρ Flow) :
    (x >>= Flow.signal >>= fun _ => y >>= Flow.signal) = Flow.andThen x y >>= Flow.signal := by
  simp only [Flow.andThen, bind_assoc]
  congr 1
  funext flow
  cases flow with
  | next => simp
  | returned v => simp

theorem Flow.times_signal (x : Run ρ Flow) (n : Nat) :
    Run.times (x >>= Flow.signal) n = Flow.repeatFor x n >>= Flow.signal := by
  induction n with
  | zero => simp [Run.times, Flow.repeatFor]
  | succ n ih => rw [Run.times, ih, Flow.repeatFor, Flow.signal_andThen]

theorem Flow.round_signal (x : Run ρ Flow) (back : Run ρ Unit) :
    (x >>= fun flow => Flow.signal flow >>= fun _ => back) =
      Flow.andThen x (back >>= fun _ => pure .next) >>= Flow.signal := by
  rw [← Flow.signal_andThen]
  simp only [bind_assoc, pure_bind, Flow.signal_next, bind_pure_unit]

theorem Flow.tryCatch_signal {x : Run ρ Flow} (quiet : Quiet x) {h : Signal → Run ρ Value}
    (caught : ∀ v, h (.returned v) = pure v) (passed : ∀ e, h (.failed e) = throw (.failed e))
    (k : Value → Run ρ β) :
    (tryCatch (x >>= Flow.signal >>= fun _ => pure Value.none) h >>= k) =
      x >>= fun flow => k flow.value := by
  refine ext fun m => ?_
  have unreturned := quiet m
  rcases ran : go x m with ⟨(v | e) | flow, n⟩
  · rw [ran] at unreturned
    exact unreturned.elim
  · have failed : go (x >>= Flow.signal >>= fun _ => pure Value.none) m =
        (.error (.failed e), n) :=
      go_bind_error (go_bind_error ran)
    rw [go_bind, go_tryCatch_error failed, passed, go_bind_error ran]
    rfl
  · rw [go_bind_ok ran]
    cases flow with
    | next =>
      have signalled : go (x >>= Flow.signal) m = (.ok (), n) := by
        rw [go_bind_ok ran]
        rfl
      have body : go (x >>= Flow.signal >>= fun _ => pure Value.none) m = (.ok .none, n) := by
        rw [go_bind_ok signalled]
        rfl
      rw [go_bind_ok (go_tryCatch_ok body)]
      rfl
    | returned v =>
      have signalled : go (x >>= Flow.signal) m = (.error (.returned v), n) := by
        rw [go_bind_ok ran]
        rfl
      rw [go_bind, go_tryCatch_error (go_bind_error signalled), caught]
      rfl

mutual

theorem evalExpr_structured (r : Nat) (e : Expr) :
    evalExpr controls r e = Structured.evalExpr controls r e := by
  cases r with
  | zero => rw [evalExpr, Structured.evalExpr]
  | succ q =>
    cases e with
    | number lit => simp only [evalExpr, Structured.evalExpr]
    | var name => simp only [evalExpr, Structured.evalExpr]
    | binary op lhs rhs =>
      simp only [evalExpr, Structured.evalExpr, evalExpr_structured q lhs,
        evalExpr_structured q rhs]
    | not operand => simp only [evalExpr, Structured.evalExpr, evalExpr_structured q operand]
    | call name args => simp only [evalExpr, Structured.evalExpr,
      callFunction_structured q name args]
termination_by (r, 0)

theorem callFunction_structured (r : Nat) (name : String) (args : List Expr) :
    callFunction controls r name args = Structured.callFunction controls r name args := by
  cases r with
  | zero => rw [callFunction, Structured.callFunction]
  | succ q =>
    simp only [callFunction, Structured.callFunction, Structured.call]
    congr
    funext m
    cases m.functions name with
    | none => rfl
    | some f =>
      refine bind_congr fun _ => bind_congr fun _ => bind_congr fun _ => bind_congr fun _ => ?_
      rw [execBlock_structured q f.body]
      refine Flow.tryCatch_signal (Structured.execBlock_quiet _ _ _) ?_ ?_ _
      · exact fun _ => rfl
      · exact fun _ => rfl
termination_by (r, 0)

theorem execBlock_structured (r : Nat) (stmts : List Stmt) :
    execBlock controls r stmts = Structured.execBlock controls r stmts >>= Flow.signal := by
  cases r with
  | zero => simp only [execBlock, Structured.execBlock, fail, throw_bind]
  | succ q => simp only [execBlock, Structured.execBlock, execEach_structured q stmts]
termination_by (r, 0)

theorem execEach_structured (room : Nat) (stmts : List Stmt) :
    execEach controls room stmts = Structured.execEach controls room stmts >>= Flow.signal := by
  cases stmts with
  | nil => simp [execEach, Structured.execEach]
  | cons s rest =>
    simp only [execEach, Structured.execEach, execStmt_structured room s,
      execEach_structured room rest]
    exact Flow.signal_andThen _ _
termination_by (room, stmts.length)

theorem execStmt_structured (r : Nat) (s : Stmt) :
    execStmt controls r s = Structured.execStmt controls r s >>= Flow.signal := by
  cases r with
  | zero => simp only [execStmt, Structured.execStmt, fail, throw_bind]
  | succ q =>
    cases s with
    | command cmd args =>
      simp [execStmt, Structured.execStmt, execCommand_structured q cmd args]
    | ifThen test thenBody elseBody =>
      cases elseBody with
      | none =>
        simp only [execStmt, Structured.execStmt, evalExpr_structured q test, bind_assoc]
        refine bind_congr fun _ => bind_congr fun v => ?_
        by_cases truthy : v.truthy <;> simp [truthy, execBlock_structured q thenBody]
      | some body =>
        simp only [execStmt, Structured.execStmt, evalExpr_structured q test, bind_assoc]
        refine bind_congr fun _ => bind_congr fun v => ?_
        by_cases truthy : v.truthy <;>
          simp [truthy, execBlock_structured q thenBody, execBlock_structured q body]
    | repeatTimes count body =>
      simp only [execStmt, Structured.execStmt, evalExpr_structured q count,
        execBlock_structured q body, bind_assoc]
      simp only [Flow.round_signal, Flow.times_signal]
    | call name args =>
      simp [execStmt, Structured.execStmt, callFunction_structured q name args]
    | returnWith value =>
      simp [execStmt, Structured.execStmt, evalExpr_structured q value]
termination_by (r, 0)

theorem execCommand_structured (r : Nat) (cmd : Command) (args : List Expr) :
    execCommand controls r cmd args = Structured.execCommand controls r cmd args := by
  cases r with
  | zero => rw [execCommand, Structured.execCommand]
  | succ r =>
    cases r with
    | zero => rw [execCommand, Structured.execCommand]
    | succ q => simp only [execCommand, Structured.execCommand, evalArgs_structured q args]
termination_by (r, 0)

theorem evalArgs_structured (room : Nat) (args : List Expr) :
    evalArgs controls room args = Structured.evalArgs controls room args := by
  cases args with
  | nil => simp only [evalArgs, Structured.evalArgs]
  | cons a rest =>
    simp only [evalArgs, Structured.evalArgs, evalExpr_structured room a,
      evalArgs_structured room rest]
termination_by (room, args.length)

end

/-- A run that never ends normally: it fails or signals a `return`. -/
def Stops (x : Run ρ α) : Prop := ∀ m a, (go x m).1 ≠ .ok a

theorem Stops.throw (s : Signal) : Stops (throw s : Run ρ α) := by
  intro m a
  simp

theorem Stops.bind {x : Run ρ α} {f : α → Run ρ β} (rest : ∀ a, Stops (f a)) :
    Stops (x >>= f) := by
  intro m b
  rcases ran : go x m with ⟨(s | a), n⟩
  · rw [go_bind_error ran]
    nofun
  · rw [go_bind_ok ran]
    exact rest a n b

theorem Stops.bind_eq {x : Run ρ α} (stops : Stops x) (f g : α → Run ρ β) :
    x >>= f = x >>= g := by
  refine ext fun m => ?_
  rcases ran : go x m with ⟨(s | a), n⟩
  · rw [go_bind_error ran, go_bind_error ran]
  · exact absurd (congrArg Prod.fst ran) (stops m a)

theorem execStmt_returnWith_stops (room : Nat) (e : Expr) :
    Stops (execStmt controls room (.returnWith e)) := by
  cases room with
  | zero =>
    simp only [execStmt, fail]
    exact Stops.throw _
  | succ r =>
    simp only [execStmt]
    exact Stops.bind fun _ => Stops.bind fun _ => Stops.bind fun _ => Stops.bind fun _ =>
      Stops.throw _

/-- The statements after a `return` are never run. -/
theorem execEach_after_returnWith (room : Nat) (e : Expr) (rest : List Stmt) :
    execEach controls room (.returnWith e :: rest) = execEach controls room [.returnWith e] := by
  simp only [execEach]
  exact (execStmt_returnWith_stops room e).bind_eq _ _

theorem go_callFunction_registered (r : Nat) {name : String} (args : List Expr) {m : Machine ρ}
    {f : FunDef} (detect : name ≠ detectName) (measure : name ≠ measureName)
    (registered : m.functions name = some f) :
    go (callFunction controls (r + 1) name args) m = go (Structured.call controls r f) m := by
  rw [callFunction_structured, Structured.callFunction, if_neg detect, if_neg measure, go_bind,
    go_get]
  simp only [registered]

end Agreement

/-- A `return` ends exactly its own function. On every machine and with any room, an expression
has the value and the effects of its structured run, where a call's value is the value its
function's body left with; a statement ends as its structured run says, so a `return` skips the
rest of its function's body and the remaining rounds of every loop around it; a call of a
registered function other than a sensor is the structured run of its body, whatever the call's
arguments; and no statement after a `return` is run. -/
theorem return_ends_its_own_function {ρ : Type} (controls : Controls ρ) :
    (∀ r e, evalExpr controls r e = Structured.evalExpr controls r e) ∧
    (∀ r s, execStmt controls r s = Structured.execStmt controls r s >>= Flow.signal) ∧
    (∀ r name args (m : Machine ρ) f, name ≠ detectName → name ≠ measureName →
      m.functions name = some f →
      go (callFunction controls (r + 1) name args) m = go (Structured.call controls r f) m) ∧
    (∀ room e rest, execEach controls room (.returnWith e :: rest) =
      execEach controls room [.returnWith e]) :=
  ⟨evalExpr_structured, execStmt_structured,
    fun r _ args _ _ detect measure registered =>
      go_callFunction_registered r args detect measure registered,
    execEach_after_returnWith⟩

/-- A call with an argument, of a function that returns at once, runs as its structured body. -/
theorem returning_call_runs_structured :
    let f : FunDef := ⟨"f", [.returnWith (.number (.int 3))]⟩
    let m := (Machine.start Robot.Classic.initial).register f
    go (callFunction Robot.Classic.controls 5 "f" [.var "x"]) m =
      go (Structured.call Robot.Classic.controls 4 f) m :=
  (return_ends_its_own_function Robot.Classic.controls).2.2.1 4 "f" [.var "x"] _ _
    (by decide) (by decide) (by simp)

end RoboScript.Run
