import RoboScript.Proofs.Headroom

/-! Stepping a program's `main` one statement at a time, as a session does, against running the
program. Once the functions are registered, running the waiting statements one after another
does what calling `main` does: the same value or signal at the end, and the same scene, so the
same robot steps and the same printed lines. This holds when the program has one function
called `main` and no `return` in its body, and neither run runs out of room. With several
functions called `main` the statements of all of them wait while a run calls the last one,
and a `return` ends a call normally but reaches the stepping as a signal.

A run of `main` is its body run in a call's scope with three levels fewer; stepping runs each
statement from the caller's scope with one level fewer. Room only decides whether a run runs
out, so the two agree whenever both fit. -/

namespace RoboScript

mutual

/-- Whether a statement has no `return` in it, at any depth of conditionals and loops. -/
def Stmt.returnFree : Stmt → Bool
  | .returnWith _ => false
  | .ifThen _ thenBody none => Stmt.allReturnFree thenBody
  | .ifThen _ thenBody (some elseBody) =>
    Stmt.allReturnFree thenBody && Stmt.allReturnFree elseBody
  | .repeatTimes _ body => Stmt.allReturnFree body
  | .command _ _ => true
  | .call _ _ => true

/-- Whether no statement of a list has a `return` in it. -/
def Stmt.allReturnFree : List Stmt → Bool
  | [] => true
  | s :: rest => s.returnFree && Stmt.allReturnFree rest

end

theorem Scope.Shallow.wrapped {scope : Scope} (shallow : scope.Shallow) : Scope.call.Wraps scope := by
  rcases shallow with rfl | rfl
  · exact .frame (.refl _)
  · exact .refl _

namespace Machine

variable {ρ : Type}

theorem registerAll_main {p : Program} {f : FunDef}
    (only : p.functions.filter (·.name == "main") = [f]) (m : Machine ρ) :
    (m.registerAll p).functions "main" = some f := by
  rw [registerAll_eq]
  simp [only]

theorem mainBody_of_only {p : Program} {f : FunDef}
    (only : p.functions.filter (·.name == "main") = [f]) : mainBody p = f.body := by
  simp [mainBody, only]

end Machine

namespace Run

variable {ρ α β : Type} {controls : Controls ρ}

open Machine (Alike)

/-- A result other than the signal of a `return`. -/
def Unreturned : Except Signal α → Prop
  | .error (.returned _) => False
  | _ => True

theorem Unreturned.error {e : Signal} (unreturned : Unreturned (.error e : Except Signal α)) :
    Unreturned (.error e : Except Signal β) := by
  cases e <;> exact unreturned

/-- A computation that never ends with the signal of a `return`, from any machine. -/
def Quiet (x : Run ρ α) : Prop := ∀ m, Unreturned (go x m).1

namespace Quiet

theorem pure (a : α) : Quiet (pure a : Run ρ α) := fun _ => trivial

theorem fail (e : Error) : Quiet (fail e : Run ρ α) := fun _ => trivial

theorem modify (g : Machine ρ → Machine ρ) : Quiet (modify g) := fun _ => trivial

theorem act (a : Act ρ α) : Quiet (act a) := by
  intro m
  rw [go_act]
  cases (Act.go a m.scene).1 <;> trivial

theorem bind {x : Run ρ α} {f : α → Run ρ β} (first : Quiet x) (rest : ∀ a, Quiet (f a)) :
    Quiet (x >>= f) := by
  intro m
  rcases ran : go x m with ⟨e | a, n⟩
  · have ended := first m
    rw [ran] at ended
    rw [go_bind_error ran]
    exact ended.error
  · rw [go_bind_ok ran]
    exact rest a n

theorem get_bind {f : Machine ρ → Run ρ α} (rest : ∀ m, Quiet (f m)) : Quiet (get >>= f) :=
  bind (fun _ => trivial) rest

theorem ite (c : Prop) [Decidable c] {x y : Run ρ α} (yes : Quiet x) (no : Quiet y) :
    Quiet (if c then x else y) := by
  by_cases holds : c
  · simpa [holds] using yes
  · simpa [holds] using no

theorem tryCatch {x : Run ρ α} {h : Signal → Run ρ α} (handled : ∀ e, Quiet (h e)) :
    Quiet (tryCatch x h) := by
  intro m
  rcases ran : go x m with ⟨e | a, n⟩
  · rw [go_tryCatch_error ran]
    exact handled e n
  · rw [go_tryCatch_ok ran]
    trivial

theorem raise (r : Nat) (e : Error) : Quiet (raise r e : Run ρ α) :=
  bind (act _) fun _ => fail e

theorem check (x : Except Error α) : Quiet (check x : Run ρ α) := by
  cases x with
  | error e => exact fail e
  | ok a => exact pure a

theorem times {x : Run ρ Unit} (each : Quiet x) (count : Nat) : Quiet (times x count) := by
  induction count with
  | zero => exact pure ()
  | succ count ih => exact bind each fun _ => ih

end Quiet

theorem typeTests_quiet (c : Code) (r : Nat) : Quiet (typeTests c r : Run ρ Unit) := by
  unfold typeTests
  exact Quiet.act _

theorem lookupIn_quiet (name : String) :
    ∀ (r : Nat) (scope : Scope), Quiet (lookupIn name r scope : Run ρ Value)
  | r, .global => by
    rw [lookupIn_global]
    refine Quiet.bind (Quiet.act _) fun _ => Quiet.get_bind fun n => ?_
    cases n.globals name with
    | some v => exact Quiet.pure v
    | none => exact Quiet.raise _ _
  | r, .frame bindings parent => by
    rw [lookupIn_frame]
    refine Quiet.bind (Quiet.act _) fun q => ?_
    cases bindings.lookup name with
    | some v => exact Quiet.pure v
    | none => exact lookupIn_quiet name q parent

theorem lookup_quiet (r : Nat) (name : String) : Quiet (lookup r name : Run ρ Value) := by
  unfold lookup
  exact Quiet.get_bind fun m => lookupIn_quiet name r m.scope

theorem sensor_quiet (c : Code) (r : Nat) (name : String) (args : List Expr)
    (read : Nat → Act ρ Value) : Quiet (sensor c r name args read) := by
  unfold sensor
  refine Quiet.bind (Quiet.act _) fun f => Quiet.bind (Quiet.act _) fun _ => ?_
  have reads : Quiet (do
      let v ← Run.act (read f.room)
      let text ← Run.act (Act.shown f.room v)
      say f (name ++ "() called, returning " ++ text)
      Pure.pure v) :=
    Quiet.bind (Quiet.act _) fun v => Quiet.bind (Quiet.act _) fun _ =>
      Quiet.bind (Quiet.act _) fun _ => Quiet.pure v
  exact Quiet.ite _ (Quiet.bind (Quiet.raise _ _) fun _ => reads) reads

theorem applyBinary_quiet (r : Nat) (op : BinOp) (a b : Value) :
    Quiet (applyBinary r op a b : Run ρ Value) := by
  unfold applyBinary
  exact Quiet.bind (Quiet.act _) fun _ =>
    Quiet.ite _ (Quiet.bind (Quiet.act _) fun _ => Quiet.check _) (Quiet.check _)

theorem applyUnary_quiet (r : Nat) (a : Value) : Quiet (applyUnary r a : Run ρ Value) := by
  unfold applyUnary
  exact Quiet.bind (Quiet.act _) fun _ => Quiet.bind (Quiet.act _) fun _ => Quiet.check _

theorem callFunction_quiet (r : Nat) (name : String) (args : List Expr) :
    Quiet (callFunction controls r name args) := by
  cases r with
  | zero =>
    rw [callFunction]
    exact Quiet.fail _
  | succ q =>
    simp only [callFunction]
    refine Quiet.ite _ (sensor_quiet _ _ _ _ _) (Quiet.ite _ (sensor_quiet _ _ _ _ _)
      (Quiet.get_bind fun m => ?_))
    cases m.functions name with
    | none => exact Quiet.raise _ _
    | some f =>
      refine Quiet.bind (Quiet.act _) fun _ => Quiet.bind (Quiet.act _) fun _ =>
        Quiet.get_bind fun _ => Quiet.bind (Quiet.modify _) fun _ =>
          Quiet.bind (Quiet.tryCatch fun e => ?_) fun v => Quiet.bind (Quiet.modify _) fun _ =>
            Quiet.pure v
      cases e with
      | returned v => exact Quiet.pure v
      | failed e => exact Quiet.fail e

theorem evalExpr_quiet : ∀ (r : Nat) (e : Expr), Quiet (evalExpr controls r e)
  | 0, _ => by
    rw [evalExpr]
    exact Quiet.fail _
  | r + 1, .number _ => by
    simp only [evalExpr]
    exact Quiet.bind (typeTests_quiet _ r) fun _ => Quiet.pure _
  | r + 1, .var name => by
    simp only [evalExpr]
    exact Quiet.bind (typeTests_quiet _ r) fun _ => lookup_quiet r name
  | r + 1, .binary op lhs rhs => by
    simp only [evalExpr]
    exact Quiet.bind (typeTests_quiet _ r) fun _ => Quiet.bind (evalExpr_quiet r lhs) fun a =>
      Quiet.bind (evalExpr_quiet r rhs) fun b => applyBinary_quiet r op a b
  | r + 1, .not operand => by
    simp only [evalExpr]
    exact Quiet.bind (typeTests_quiet _ r) fun _ => Quiet.bind (evalExpr_quiet r operand) fun a =>
      applyUnary_quiet r a
  | r + 1, .call name args => by
    simp only [evalExpr]
    exact Quiet.bind (typeTests_quiet _ r) fun _ => callFunction_quiet r name args

theorem evalArgs_quiet (room : Nat) : ∀ args : List Expr, Quiet (evalArgs controls room args)
  | [] => by
    simp only [evalArgs]
    exact Quiet.pure []
  | a :: rest => by
    simp only [evalArgs]
    exact Quiet.bind (evalExpr_quiet room a) fun v => Quiet.bind (evalArgs_quiet room rest) fun vs =>
      Quiet.pure (v :: vs)

theorem execCommand_quiet : ∀ (r : Nat) (cmd : Command) (args : List Expr),
    Quiet (execCommand controls r cmd args)
  | 0, _, _ => by
    rw [execCommand]
    exact Quiet.fail _
  | 1, _, _ => by
    rw [execCommand]
    exact Quiet.fail _
  | r + 2, cmd, args => by
    simp only [execCommand]
    exact Quiet.bind (evalArgs_quiet r args) fun _ => Quiet.act _

mutual

theorem execStmt_quiet (r : Nat) (s : Stmt) (free : s.returnFree = true) :
    Quiet (execStmt controls r s) := by
  cases r with
  | zero =>
    rw [execStmt]
    exact Quiet.fail _
  | succ q =>
    have tests := typeTests_quiet (ρ := ρ) .statement q
    cases s with
    | command cmd args =>
      simp only [execStmt]
      exact Quiet.bind tests fun _ => execCommand_quiet q cmd args
    | ifThen test thenBody elseBody =>
      cases elseBody with
      | none =>
        simp only [execStmt]
        exact Quiet.bind tests fun _ => Quiet.bind (evalExpr_quiet q test) fun _ =>
          Quiet.ite _ (execBlock_quiet q thenBody free) (Quiet.pure ())
      | some body =>
        simp only [Stmt.returnFree, Bool.and_eq_true] at free
        simp only [execStmt]
        exact Quiet.bind tests fun _ => Quiet.bind (evalExpr_quiet q test) fun _ =>
          Quiet.ite _ (execBlock_quiet q thenBody free.1) (execBlock_quiet q body free.2)
    | repeatTimes count body =>
      simp only [execStmt]
      exact Quiet.bind tests fun _ => Quiet.bind (evalExpr_quiet q count) fun _ =>
        Quiet.bind (Quiet.check _) fun n =>
          Quiet.times (Quiet.bind (execBlock_quiet q body free) fun _ => Quiet.act _) n.toNat
    | call name args =>
      simp only [execStmt]
      exact Quiet.bind tests fun _ =>
        Quiet.bind (callFunction_quiet q name args) fun _ => Quiet.pure ()
    | returnWith value => cases free
termination_by (r, 0)

theorem execBlock_quiet (r : Nat) (stmts : List Stmt) (free : Stmt.allReturnFree stmts = true) :
    Quiet (execBlock controls r stmts) := by
  cases r with
  | zero =>
    rw [execBlock]
    exact Quiet.fail _
  | succ q =>
    simp only [execBlock]
    exact execEach_quiet q stmts free
termination_by (r, 0)

theorem execEach_quiet (room : Nat) (stmts : List Stmt) (free : Stmt.allReturnFree stmts = true) :
    Quiet (execEach controls room stmts) := by
  cases stmts with
  | nil =>
    simp only [execEach]
    exact Quiet.pure ()
  | cons s rest =>
    simp only [Stmt.allReturnFree, Bool.and_eq_true] at free
    simp only [execEach]
    exact Quiet.bind (execStmt_quiet room s free.1) fun _ => execEach_quiet room rest free.2
termination_by (room, stmts.length)

end

theorem go_callFunction {m : Machine ρ} {name : String} {f : FunDef}
    (detects : name ≠ detectName) (measures : name ≠ measureName)
    (found : m.functions name = some f) (args : List Expr) (q : Nat) :
    go (callFunction controls (q + 3) name args) m =
      match go (execEach controls (q + 1) f.body) { m with scope := .call } with
      | (.ok _, n) => (.ok .none, { n with scope := m.scope })
      | (.error (.returned v), n) => (.ok v, { n with scope := m.scope })
      | (.error (.failed e), n) => (.error (.failed e), n) := by
  have one : 1 ≤ q + 2 := by omega
  have two : 2 ≤ q + 2 := by omega
  simp only [callFunction, if_neg detects, if_neg measures, execBlock, go_bind, go_get, found,
    go_reach, one, two, if_true, go_modify, go_tryCatch]
  rcases go (execEach controls (q + 1) f.body) { m with scope := .call } with
    ⟨(v | e) | _, n⟩ <;> rfl

theorem go_interpret {p : Program} {f : FunDef} {m : Machine ρ}
    (found : (m.registerAll p).functions "main" = some f) (q : Nat) :
    go (interpret controls (q + 4) p) m =
      go (callFunction controls (q + 3) "main" [] >>= fun _ => Pure.pure ()) (m.registerAll p) := by
  have present : ((m.registerAll p).functions "main").isNone = false := by rw [found]; rfl
  simp only [interpret, go_bind, go_act_frame (show 1 ≤ q + 4 by omega), go_modify, go_get,
    present, Bool.false_eq_true, if_false]
  rfl

/-- A run of a program with one `main` and no `return` in it ends as the body of `main` ends
when run in a call's scope after registering, three levels down. -/
theorem interpret_ends_as_body {p : Program} {f : FunDef}
    (only : p.functions.filter (·.name == "main") = [f]) (free : Stmt.allReturnFree f.body = true)
    (m : Machine ρ) (q : Nat) :
    (go (interpret controls (q + 4) p) m).1 =
        (go (execEach controls (q + 1) f.body) { m.registerAll p with scope := .call }).1 ∧
      (go (interpret controls (q + 4) p) m).2.scene =
        (go (execEach controls (q + 1) f.body) { m.registerAll p with scope := .call }).2.scene := by
  have found := Machine.registerAll_main only m
  have quiet : Unreturned (go (execEach controls (q + 1) f.body)
      { m.registerAll p with scope := .call }).1 :=
    execEach_quiet (q + 1) f.body free _
  rw [go_interpret found, go_bind, go_callFunction (by decide) (by decide) found [] q]
  revert quiet
  rcases go (execEach controls (q + 1) f.body) { m.registerAll p with scope := .call } with
    ⟨(v | e) | _, n⟩ <;> intro quiet
  · exact quiet.elim
  · exact ⟨rfl, rfl⟩
  · exact ⟨rfl, rfl⟩

theorem go_executeNext_cons {m : Machine ρ} {s : Stmt} {rest : List Stmt}
    (waiting : m.pending = s :: rest) {room : Nat} (enough : 2 ≤ room) :
    go (executeNext controls room) m =
      go (execStmt controls (room - 1) s)
        { m with scene := m.scene.count .next, pending := rest } := by
  unfold executeNext
  rw [go_enter_bind, if_pos (by omega), go_bind_ok (go_get _)]
  simp only [waiting]
  rw [go_bind_ok (by rw [go_act, Act.go_builtin, if_pos (.inr (by dsimp only; omega))]; rfl),
    go_bind_ok (go_modify _ _)]

theorem execEach_stepped (monotone : controls.RoomMonotone Scene.warmer) {room room' : Nat}
    (less : room + 1 < room') : ∀ (stmts : List Stmt) {m m' : Machine ρ},
    Alike Scene.warmer (fun _ waiting => waiting = stmts) m m' →
    Follows Scene.warmer (fun _ _ => True) (execEach controls room stmts) m
      (times (executeNext controls room') stmts.length) m'
  | [], m, m', alike => by
    simp only [execEach]
    exact Follows.pure (alike.loosen fun _ _ _ => trivial) ()
  | s :: rest, m, m', alike => by
    have waiting : m'.pending = s :: rest := alike.pending
    have step : Follows Scene.warmer (fun _ waiting => waiting = rest) (execStmt controls room s) m
        (executeNext controls room') m' := by
      intro fits
      rw [go_executeNext_cons waiting (by omega)]
      exact execStmt_follows monotone room s (by omega)
        ⟨alike.scene.count_right _, alike.globals, alike.functions, alike.scope, rfl⟩ fits
    simp only [execEach, List.length_cons, times]
    exact Follows.bind_loosening step
      (fun _ _ _ _ alike => execEach_stepped monotone less rest alike) fun _ _ _ => trivial

/-- The statements of `main` stepped one at a time, as a session steps them: the program's
functions registered as a run registers them, then the next waiting statement run once for each
statement that waited. -/
def stepMain (controls : Controls ρ) (room : Nat) (p : Program) : Run ρ Unit := do
  modify (Machine.registerAll p)
  times (executeNext controls room) (Machine.mainBody p).length

theorem stepMain_follows (monotone : controls.RoomMonotone Scene.warmer) {r r' : Nat}
    (more : r ≤ r') (m : Machine ρ) (p : Program) :
    Follows Scene.warmer (· = ·) (stepMain controls r p) m (stepMain controls r' p) m :=
  Follows.bind (Follows.modify ((Alike.refl m).registerAll p)) fun _ _ _ _ alike =>
    Follows.times (fun _ _ alike => executeNext_follows monotone more alike) _ alike

/-- Two runs that end alike: with the same value or signal, the same robot and the same output. -/
def SameEnd (x : Run ρ α) (m : Machine ρ) (x' : Run ρ α) (m' : Machine ρ) : Prop :=
  (go x' m').1 = (go x m).1 ∧ (go x' m').2.scene.robot = (go x m).2.scene.robot ∧
    (go x' m').2.scene.log = (go x m).2.scene.log

theorem stepMain_follows_interpret (monotone : controls.RoomMonotone Scene.warmer) {p : Program}
    {f : FunDef} (only : p.functions.filter (·.name == "main") = [f])
    (free : Stmt.allReturnFree f.body = true) {m : Machine ρ} (shallow : m.scope.Shallow) (q : Nat)
    (fits : Fits (go (interpret controls (q + 4) p) m).1) :
    SameEnd (interpret controls (q + 4) p) m (stepMain controls (q + 4) p)
      { m with pending := Machine.mainBody p } := by
  obtain ⟨sameEnd, sameScene⟩ := interpret_ends_as_body only free m q
  rw [sameEnd] at fits
  unfold SameEnd stepMain
  rw [sameEnd, sameScene, Machine.mainBody_of_only only, go_bind_ok (go_modify _ _)]
  have alike : Alike Scene.warmer (fun _ waiting => waiting = f.body)
      { m.registerAll p with scope := .call } ({ m with pending := f.body }.registerAll p) := by
    rw [Machine.registerAll_eq, Machine.registerAll_eq]
    exact ⟨.refl _, rfl, rfl, shallow.wrapped, rfl⟩
  obtain ⟨stepped, after⟩ :=
    execEach_stepped monotone (show q + 1 + 1 < q + 4 by omega) f.body alike fits
  exact ⟨stepped, after.scene.robot, after.scene.log⟩

/-- Stepping a program with one `main` and no `return` in it, from the global environment or a
call's, ends as running it does, whenever neither runs out of room: the same value or signal,
the same robot and the same output. -/
theorem stepMain_agrees (monotone : controls.RoomMonotone Scene.warmer) {p : Program} {f : FunDef}
    (only : p.functions.filter (·.name == "main") = [f]) (free : Stmt.allReturnFree f.body = true)
    {m : Machine ρ} (shallow : m.scope.Shallow) {room room' : Nat}
    (whole : Fits (go (interpret controls room p) m).1)
    (stepped : Fits (go (stepMain controls room' p) { m with pending := Machine.mainBody p }).1) :
    SameEnd (interpret controls room p) m (stepMain controls room' p)
      { m with pending := Machine.mainBody p } := by
  -- both are compared with runs given the room of both and more
  obtain ⟨bigger, grown⟩ :=
    interpret_follows monotone (show room ≤ room + room' + 4 by omega) (Alike.refl m) p whole
  obtain ⟨steppedBigger, steppedGrown⟩ :=
    stepMain_follows monotone (show room' ≤ room + room' + 4 by omega) _ p stepped
  have fitsBigger : Fits (go (interpret controls (room + room' + 4) p) m).1 := by
    rw [bigger]
    exact whole
  obtain ⟨core, coreRobot, coreLog⟩ :=
    stepMain_follows_interpret monotone only free shallow _ fitsBigger
  refine ⟨?_, ?_, ?_⟩
  · calc (go (stepMain controls room' p) { m with pending := Machine.mainBody p }).1
        = (go (stepMain controls (room + room' + 4) p)
            { m with pending := Machine.mainBody p }).1 := steppedBigger.symm
      _ = (go (interpret controls (room + room' + 4) p) m).1 := core
      _ = (go (interpret controls room p) m).1 := bigger
  · calc (go (stepMain controls room' p) { m with pending := Machine.mainBody p }).2.scene.robot
        = (go (stepMain controls (room + room' + 4) p)
            { m with pending := Machine.mainBody p }).2.scene.robot := steppedGrown.scene.robot.symm
      _ = (go (interpret controls (room + room' + 4) p) m).2.scene.robot := coreRobot
      _ = (go (interpret controls room p) m).2.scene.robot := grown.scene.robot
  · calc (go (stepMain controls room' p) { m with pending := Machine.mainBody p }).2.scene.log
        = (go (stepMain controls (room + room' + 4) p)
            { m with pending := Machine.mainBody p }).2.scene.log := steppedGrown.scene.log.symm
      _ = (go (interpret controls (room + room' + 4) p) m).2.scene.log := coreLog
      _ = (go (interpret controls room p) m).2.scene.log := grown.scene.log

/-- A program whose `main` returns at once. -/
def returnsAtOnce : Program := ⟨[⟨"main", [.returnWith (.number (.int 1))]⟩]⟩

/-- A `return` in `main` ends a run normally, but reaches the stepping as its signal. -/
theorem stepping_return_differs :
    (go (interpret Robot.Classic.controls 10 returnsAtOnce)
        (Machine.start Robot.Classic.initial)).1 = .ok () ∧
      (go (stepMain Robot.Classic.controls 10 returnsAtOnce)
        (Machine.stepping Robot.Classic.initial returnsAtOnce)).1 =
        .error (.returned (.int 1)) := by
  have only : returnsAtOnce.functions.filter (·.name == "main") =
      [⟨"main", [.returnWith (.number (.int 1))]⟩] := rfl
  constructor
  · rw [go_interpret (Machine.registerAll_main only _) 6, go_bind,
      go_callFunction (by decide) (by decide) (Machine.registerAll_main only _) [] 6]
    simp only [execEach, execStmt, evalExpr, go_bind, go_typeTests, go_pure, go_reach, go_throw]
    simp
  · simp only [stepMain, Machine.stepping, Machine.mainBody_of_only only, List.length_cons,
      List.length_nil, times, go_bind, go_modify]
    rw [go_executeNext_cons (by rw [Machine.registerAll_pending]) (by decide)]
    simp only [execStmt, evalExpr, go_bind, go_typeTests, go_pure, go_reach, go_throw]
    simp [Literal.toValue]

end Run

end RoboScript
