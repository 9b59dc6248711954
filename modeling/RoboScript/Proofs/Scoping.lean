import RoboScript.Proofs.Confined

/-! Names are found among the globals, from wherever they are looked up. An environment is a
chain of frames with bindings of their own, ending in the global one; the interpreter only ever
makes two of them current: the global one, and a call's, which has no bindings and sits directly
inside the global one. A call makes a call's scope current and gives the caller's back when it
ends normally or by a `return`; a failing call leaves a call's scope current, and the next
request goes on from there. Whatever a program does, then, it stays in one of the two, and a
scope decides only how many levels a lookup passes on its way to the globals: one from the
global scope and two from a call's. So what a name evaluates to is settled by the global
bindings and the room left. Nothing a program does binds a global name: every operation of the
interpreter, and every frame of the queued robot, ends with the globals it started with, whether
it ends normally, by a `return` or by failing part way. -/

namespace RoboScript

theorem Scope.one_le_depth (s : Scope) : 1 ≤ s.depth := by
  cases s <;> simp [Scope.depth]

namespace Run

variable {ρ α β : Type}

theorem go_raise (room : Nat) (e : Error) (m : Machine ρ) :
    go (raise room e : Run ρ α) m =
      (if 1 ≤ room then .error (.failed e) else .error (.failed (.recursionLimit .nativeCall)), m) := by
  unfold raise
  rw [go_bind, go_reach]
  by_cases enough : 1 ≤ room
  · rw [if_pos enough, if_pos enough]
    rfl
  · rw [if_neg enough, if_neg enough]

theorem go_lookupIn_global (name : String) (room : Nat) (m : Machine ρ) :
    go (lookupIn name room .global) m =
      (if 1 ≤ room then
        match m.globals name with
        | some v => .ok v
        | none =>
          if 2 ≤ room then .error (.failed (.undefinedVariable name))
          else .error (.failed (.recursionLimit .nativeCall))
      else .error (.failed (.recursionLimit .function)), m) := by
  rw [lookupIn_global]
  by_cases enough : 1 ≤ room
  · rw [go_bind_ok (go_act_frame enough m), go_bind_ok (go_get m), if_pos enough]
    cases m.globals name with
    | some v => rfl
    | none =>
      have spare : (1 ≤ room - 1) ↔ 2 ≤ room := by omega
      dsimp only
      rw [go_raise]
      simp only [spare]
  · rw [go_bind_error (by rw [go_act, Act.go_frame, if_neg enough]; rfl), if_neg enough]

theorem go_lookup {m : Machine ρ} (shallow : m.scope.Shallow) (room : Nat) (name : String) :
    go (lookup room name) m =
      (if m.scope.depth ≤ room then
        match m.globals name with
        | some v => .ok v
        | none =>
          if m.scope.depth < room then .error (.failed (.undefinedVariable name))
          else .error (.failed (.recursionLimit .nativeCall))
      else .error (.failed (.recursionLimit .function)), m) := by
  unfold lookup
  rw [go_bind_ok (go_get m)]
  rcases shallow with global | call
  · rw [global, go_lookupIn_global]
    simp only [Scope.depth, Nat.lt_iff_add_one_le]
  · rw [call, lookupIn_call]
    have deep : Scope.call.depth = 2 := rfl
    rw [deep]
    by_cases enough : 1 ≤ room
    · -- the call's environment takes a level, the global one the next
      have two : (1 ≤ room - 1) ↔ 2 ≤ room := by omega
      have three : (2 ≤ room - 1) ↔ 2 < room := by omega
      rw [go_bind_ok (go_act_frame enough m), go_lookupIn_global]
      simp only [two, three]
    · rw [go_bind_error (by rw [go_act, Act.go_frame, if_neg enough]; rfl), if_neg (by omega)]

/-- Evaluating a name from the global scope or a call's counts the evaluation's entry and
changes nothing else. It gives the name's global binding when the evaluation has a level for
itself and one for each environment the lookup passes, and reports an unbound name when one more
level is left to raise it; with no more room than the environments need it runs out of room. -/
theorem go_evalExpr_var (controls : Controls ρ) {m : Machine ρ} (shallow : m.scope.Shallow)
    (room : Nat) (name : String) :
    let after := go (evalExpr controls room (.var name)) m
    after.2 = (if room = 0 then m else { m with scene := m.scene.count .expression }) ∧
      (m.scope.depth < room → after.1 =
        match m.globals name with
        | some v => .ok v
        | none =>
          if m.scope.depth + 1 < room then .error (.failed (.undefinedVariable name))
          else .error (.failed (.recursionLimit .nativeCall))) ∧
      (room ≤ m.scope.depth → ∃ kind, after.1 = .error (.failed (.recursionLimit kind))) := by
  intro after
  have deep := m.scope.one_le_depth
  cases room with
  | zero =>
    have failed : after = (.error (.failed (.recursionLimit .function)), m) := by
      simp only [after, evalExpr]
      rfl
    rw [failed]
    exact ⟨rfl, fun below => absurd below (by omega), fun _ => ⟨.function, rfl⟩⟩
  | succ r =>
    simp only [after, evalExpr]
    rw [go_bind]
    by_cases fit : warmUp ≤ m.scene.entered .expression + 1 ∨ 1 ≤ r
    · -- the type tests pass, and the lookup decides
      have tested := go_typeTests .expression r m
      rw [if_pos fit] at tested
      rw [tested]
      dsimp only
      rw [go_lookup (m := { m with scene := m.scene.count .expression }) shallow]
      have passes : m.scope.depth ≤ r ↔ m.scope.depth < r + 1 := by omega
      have raises : m.scope.depth < r ↔ m.scope.depth + 1 < r + 1 := by omega
      refine ⟨by simp, fun below => ?_, fun above => ⟨.function, ?_⟩⟩
      · simp only [passes.2 below, if_true, raises]
      · simp only [show ¬ m.scope.depth ≤ r by omega, if_false]
    · -- specialised neither, the type tests run out of room at once
      have tested := go_typeTests .expression r m
      rw [if_neg fit] at tested
      rw [tested]
      exact ⟨by simp, fun below => absurd below (by omega), fun _ => ⟨.nativeCall, rfl⟩⟩

/-- A computation that ends, whichever way, with the global bindings it started with. -/
def KeepsGlobals (x : Run ρ α) : Prop := ∀ m, (go x m).2.globals = m.globals

theorem Confined.keepsGlobals {allow : Allowance ρ} {x : Run ρ α} (confined : Confined allow x) :
    KeepsGlobals x :=
  fun m => (confined m).1

/-- A computation that, started in a scope of the kind `S`, ends in one, whichever way it ends. -/
def KeepsScope (S : Scope → Prop) (x : Run ρ α) : Prop :=
  ∀ m : Machine ρ, S m.scope → S (go x m).2.scope

namespace KeepsScope

variable {S : Scope → Prop}

theorem pure (a : α) : KeepsScope S (Pure.pure a : Run ρ α) := fun _ kept => kept

theorem throw (e : Signal) : KeepsScope S (MonadExcept.throw e : Run ρ α) := fun _ kept => kept

theorem fail (e : Error) : KeepsScope S (Run.fail e : Run ρ α) := throw _

theorem act (a : Act ρ α) : KeepsScope S (Run.act a) := by
  intro m kept
  rw [go_act]
  exact kept

theorem modify {g : Machine ρ → Machine ρ} (kind : ∀ m, S m.scope → S (g m).scope) :
    KeepsScope S (modify g) :=
  fun m kept => kind m kept

theorem bind {x : Run ρ α} {f : α → Run ρ β} (first : KeepsScope S x)
    (rest : ∀ a, KeepsScope S (f a)) : KeepsScope S (x >>= f) := by
  intro m kept
  have ended := first m kept
  rcases ran : go x m with ⟨e | a, n⟩
  · rw [go_bind_error ran]
    rw [ran] at ended
    exact ended
  · rw [go_bind_ok ran]
    rw [ran] at ended
    exact rest a n ended

theorem get_bind {f : Machine ρ → Run ρ α} (rest : ∀ n, S n.scope → KeepsScope S (f n)) :
    KeepsScope S (get >>= f) := by
  intro m kept
  rw [go_bind_ok (go_get m)]
  exact rest m kept m kept

theorem ite (c : Prop) [Decidable c] {x y : Run ρ α} (yes : KeepsScope S x)
    (no : KeepsScope S y) : KeepsScope S (if c then x else y) := by
  by_cases holds : c
  · simpa [holds] using yes
  · simpa [holds] using no

theorem tryCatch {x : Run ρ α} {h : Signal → Run ρ α} (first : KeepsScope S x)
    (handled : ∀ e, KeepsScope S (h e)) : KeepsScope S (tryCatch x h) := by
  intro m kept
  have ended := first m kept
  rcases ran : go x m with ⟨e | a, n⟩
  · rw [go_tryCatch_error ran]
    rw [ran] at ended
    exact handled e n ended
  · rw [go_tryCatch_ok ran]
    rw [ran] at ended
    exact ended

theorem reach (room depth : Nat) (kind : Nesting) :
    KeepsScope S (Run.reach room depth kind : Run ρ Unit) :=
  act _

theorem raise (room : Nat) (e : Error) : KeepsScope S (Run.raise room e : Run ρ α) :=
  bind (reach room 1 .nativeCall) fun _ => fail e

theorem check (x : Except Error α) : KeepsScope S (Run.check x : Run ρ α) := by
  cases x with
  | error e => exact fail e
  | ok a => exact pure a

theorem times {x : Run ρ Unit} (each : KeepsScope S x) (count : Nat) :
    KeepsScope S (Run.times x count) := by
  induction count with
  | zero => exact pure ()
  | succ count ih => exact bind each fun _ => ih

end KeepsScope

variable {S : Scope → Prop}

theorem lookupIn_keepsScope (name : String) :
    ∀ (room : Nat) (scope : Scope), KeepsScope S (lookupIn name room scope : Run ρ Value)
  | room, .global => by
    rw [lookupIn_global]
    refine KeepsScope.bind (KeepsScope.act _) fun _ => KeepsScope.get_bind fun n _ => ?_
    cases n.globals name with
    | some v => exact KeepsScope.pure v
    | none => exact KeepsScope.raise _ _
  | room, .frame bindings parent => by
    rw [lookupIn_frame]
    refine KeepsScope.bind (KeepsScope.act _) fun r => ?_
    cases bindings.lookup name with
    | some v => exact KeepsScope.pure v
    | none => exact lookupIn_keepsScope name r parent

theorem sensor_keepsScope (c : Code) (room : Nat) (name : String) (args : List Expr)
    (read : Nat → Act ρ Value) : KeepsScope S (sensor c room name args read) := by
  unfold sensor
  refine KeepsScope.bind (KeepsScope.act _) fun f => KeepsScope.bind (KeepsScope.act _) fun _ => ?_
  have answers : KeepsScope S (do
      let v ← Run.act (read f.room)
      let text ← Run.act (Act.shown f.room v)
      say f (name ++ "() called, returning " ++ text)
      Pure.pure v) :=
    KeepsScope.bind (KeepsScope.act _) fun v => KeepsScope.bind (KeepsScope.act _) fun _ =>
      KeepsScope.bind (KeepsScope.act _) fun _ => KeepsScope.pure v
  exact KeepsScope.ite _ (KeepsScope.bind (KeepsScope.raise _ _) fun _ => answers) answers

theorem applyBinary_keepsScope (room : Nat) (op : BinOp) (a b : Value) :
    KeepsScope S (applyBinary room op a b : Run ρ Value) := by
  unfold applyBinary
  exact KeepsScope.bind (KeepsScope.act _) fun _ =>
    KeepsScope.ite _ (KeepsScope.bind (KeepsScope.reach _ _ _) fun _ => KeepsScope.check _)
      (KeepsScope.check _)

theorem applyUnary_keepsScope (room : Nat) (a : Value) :
    KeepsScope S (applyUnary room a : Run ρ Value) := by
  unfold applyUnary
  exact KeepsScope.bind (KeepsScope.act _) fun _ =>
    KeepsScope.bind (KeepsScope.act _) fun _ => KeepsScope.check _

section Interpreter

/-! Every step of the interpreter keeps a kind of scope that a call's scope is of: only a call
makes a scope current, a call's while its body runs and afterwards the one it read on entry. -/

variable {controls : Controls ρ}

mutual

theorem evalExpr_keepsScope (call : S .call) (r : Nat) (e : Expr) : KeepsScope S (evalExpr controls r e) := by
  cases r with
  | zero =>
    rw [evalExpr]
    exact KeepsScope.fail _
  | succ q =>
    have tests : KeepsScope S (typeTests .expression q : Run ρ Unit) := KeepsScope.act _
    cases e with
    | number lit =>
      simp only [evalExpr]
      exact KeepsScope.bind tests fun _ => KeepsScope.pure _
    | var name =>
      simp only [evalExpr]
      exact KeepsScope.bind tests fun _ =>
        KeepsScope.get_bind fun n _ => lookupIn_keepsScope name q n.scope
    | binary op lhs rhs =>
      simp only [evalExpr]
      exact KeepsScope.bind tests fun _ => KeepsScope.bind (evalExpr_keepsScope call q lhs) fun a =>
        KeepsScope.bind (evalExpr_keepsScope call q rhs) fun b => applyBinary_keepsScope q op a b
    | not operand =>
      simp only [evalExpr]
      exact KeepsScope.bind tests fun _ => KeepsScope.bind (evalExpr_keepsScope call q operand) fun a =>
        applyUnary_keepsScope q a
    | call name args =>
      simp only [evalExpr]
      exact KeepsScope.bind tests fun _ => callFunction_keepsScope call q name args
termination_by (r, 0)

theorem callFunction_keepsScope (call : S .call) (r : Nat) (name : String) (args : List Expr) :
    KeepsScope S (callFunction controls r name args) := by
  cases r with
  | zero =>
    rw [callFunction]
    exact KeepsScope.fail _
  | succ q =>
    simp only [callFunction]
    refine KeepsScope.ite _ (sensor_keepsScope _ _ _ _ _)
      (KeepsScope.ite _ (sensor_keepsScope _ _ _ _ _) (KeepsScope.get_bind fun m _ => ?_))
    cases m.functions name with
    | none => exact KeepsScope.raise _ _
    | some f =>
      refine KeepsScope.bind (KeepsScope.reach _ _ _) fun _ =>
        KeepsScope.bind (KeepsScope.reach _ _ _) fun _ =>
          KeepsScope.get_bind fun caller read => ?_
      refine KeepsScope.bind (KeepsScope.modify fun _ _ => call) fun _ => ?_
      refine KeepsScope.bind (KeepsScope.tryCatch ?_ fun e => ?_) fun v =>
        KeepsScope.bind (KeepsScope.modify fun _ _ => read) fun _ => KeepsScope.pure v
      · exact KeepsScope.bind (execBlock_keepsScope call q f.body) fun _ => KeepsScope.pure _
      · cases e with
        | returned v => exact KeepsScope.pure v
        | failed e => exact KeepsScope.throw _
termination_by (r, 0)

theorem execBlock_keepsScope (call : S .call) (r : Nat) (stmts : List Stmt) :
    KeepsScope S (execBlock controls r stmts) := by
  cases r with
  | zero =>
    rw [execBlock]
    exact KeepsScope.fail _
  | succ q =>
    simp only [execBlock]
    exact execEach_keepsScope call q stmts
termination_by (r, 0)

theorem execEach_keepsScope (call : S .call) (room : Nat) (stmts : List Stmt) :
    KeepsScope S (execEach controls room stmts) := by
  cases stmts with
  | nil =>
    simp only [execEach]
    exact KeepsScope.pure ()
  | cons s rest =>
    simp only [execEach]
    exact KeepsScope.bind (execStmt_keepsScope call room s) fun _ => execEach_keepsScope call room rest
termination_by (room, stmts.length)

theorem execStmt_keepsScope (call : S .call) (r : Nat) (s : Stmt) : KeepsScope S (execStmt controls r s) := by
  cases r with
  | zero =>
    rw [execStmt]
    exact KeepsScope.fail _
  | succ q =>
    have tests : KeepsScope S (typeTests .statement q : Run ρ Unit) := KeepsScope.act _
    cases s with
    | command cmd args =>
      simp only [execStmt]
      exact KeepsScope.bind tests fun _ => execCommand_keepsScope call q cmd args
    | ifThen test thenBody elseBody =>
      cases elseBody with
      | none =>
        simp only [execStmt]
        exact KeepsScope.bind tests fun _ => KeepsScope.bind (evalExpr_keepsScope call q test) fun _ =>
          KeepsScope.ite _ (execBlock_keepsScope call q thenBody) (KeepsScope.pure ())
      | some body =>
        simp only [execStmt]
        exact KeepsScope.bind tests fun _ => KeepsScope.bind (evalExpr_keepsScope call q test) fun _ =>
          KeepsScope.ite _ (execBlock_keepsScope call q thenBody) (execBlock_keepsScope call q body)
    | repeatTimes count body =>
      simp only [execStmt]
      exact KeepsScope.bind tests fun _ => KeepsScope.bind (evalExpr_keepsScope call q count) fun _ =>
        KeepsScope.bind (KeepsScope.check _) fun n => KeepsScope.times
          (KeepsScope.bind (execBlock_keepsScope call q body) fun _ => KeepsScope.act _) n.toNat
    | call name args =>
      simp only [execStmt]
      exact KeepsScope.bind tests fun _ =>
        KeepsScope.bind (callFunction_keepsScope call q name args) fun _ => KeepsScope.pure ()
    | returnWith value =>
      simp only [execStmt]
      exact KeepsScope.bind tests fun _ => KeepsScope.bind (evalExpr_keepsScope call q value) fun _ =>
        KeepsScope.bind (KeepsScope.reach _ _ _) fun _ =>
          KeepsScope.bind (KeepsScope.reach _ _ _) fun _ => KeepsScope.throw _
termination_by (r, 0)

theorem execCommand_keepsScope (call : S .call) (r : Nat) (cmd : Command) (args : List Expr) :
    KeepsScope S (execCommand controls r cmd args) := by
  cases r with
  | zero =>
    rw [execCommand]
    exact KeepsScope.fail _
  | succ r =>
    cases r with
    | zero =>
      rw [execCommand]
      exact KeepsScope.fail _
    | succ q =>
      simp only [execCommand]
      exact KeepsScope.bind (evalArgs_keepsScope call q args) fun _ => KeepsScope.act _
termination_by (r, 0)

theorem evalArgs_keepsScope (call : S .call) (room : Nat) (args : List Expr) :
    KeepsScope S (evalArgs controls room args) := by
  cases args with
  | nil =>
    simp only [evalArgs]
    exact KeepsScope.pure []
  | cons a rest =>
    simp only [evalArgs]
    exact KeepsScope.bind (evalExpr_keepsScope call room a) fun v =>
      KeepsScope.bind (evalArgs_keepsScope call room rest) fun vs => KeepsScope.pure (v :: vs)
termination_by (room, args.length)

end

theorem interpret_keepsScope (call : S .call) (room : Nat) (p : Program) :
    KeepsScope S (interpret controls room p) := by
  unfold interpret
  refine KeepsScope.bind (KeepsScope.act _) fun r =>
    KeepsScope.bind (KeepsScope.modify fun m kept => by rwa [Machine.registerAll_scope]) fun _ =>
      KeepsScope.get_bind fun m _ => ?_
  have calls : KeepsScope S (callFunction controls r "main" []) := callFunction_keepsScope call r _ _
  by_cases missing : (m.functions "main").isNone = true
  · simp only [missing, if_true]
    exact KeepsScope.bind (KeepsScope.raise _ _) fun _ =>
      KeepsScope.bind calls fun _ => KeepsScope.pure ()
  · simp only [missing, if_false, Bool.false_eq_true]
    exact KeepsScope.bind calls fun _ => KeepsScope.pure ()

theorem callNamed_keepsScope (call : S .call) (room : Nat) (p : Program) (name : String) :
    KeepsScope S (callNamed controls room p name) := by
  unfold callNamed
  exact KeepsScope.bind (KeepsScope.modify fun m kept => by rwa [Machine.registerAll_scope])
    fun _ => callFunction_keepsScope call _ _ _

theorem executeNext_keepsScope (call : S .call) (room : Nat) :
    KeepsScope S (executeNext controls room) := by
  unfold executeNext
  refine KeepsScope.bind (KeepsScope.act _) fun f => KeepsScope.get_bind fun m _ => ?_
  cases m.pending with
  | nil => exact KeepsScope.pure ()
  | cons s rest =>
    exact KeepsScope.bind (KeepsScope.act _) fun _ =>
      KeepsScope.bind (KeepsScope.modify fun _ kept => kept) fun _ =>
        execStmt_keepsScope call f.room s

end Interpreter

section Frames

open Robot

theorem update_keepsScope (call : S .call) (room : Nat) : KeepsScope S (update room) := by
  unfold update
  refine KeepsScope.bind (KeepsScope.act _) fun f => KeepsScope.get_bind fun m _ => ?_
  refine KeepsScope.ite _ (KeepsScope.tryCatch (executeNext_keepsScope call f.room)
    fun signal => ?_) (KeepsScope.pure ())
  refine KeepsScope.bind (KeepsScope.reach _ _ _) fun _ => ?_
  cases signal with
  | returned v => exact KeepsScope.bind (KeepsScope.check _) fun _ => KeepsScope.act _
  | failed e => exact KeepsScope.bind (KeepsScope.pure _) fun _ => KeepsScope.act _

theorem frames_keepsScope (call : S .call) (room : Nat) (stepping : Bool) (n : Nat) :
    KeepsScope S (frames room stepping n) := by
  induction n with
  | zero => exact KeepsScope.pure ()
  | succ n ih =>
    simp only [frames]
    exact KeepsScope.bind (KeepsScope.act _) fun _ =>
      KeepsScope.ite _ (KeepsScope.bind (update_keepsScope call room) fun _ => ih) ih

end Frames

/-- A computation that keeps the environment a program finds: started in the global scope or a
call's, it ends in one of them, and with the global bindings it started with, whichever way it
ends. -/
def KeepsEnvironment (x : Run ρ α) : Prop := KeepsScope Scope.Shallow x ∧ KeepsGlobals x

/-- A request on a session that keeps the environment leaves the session in the global scope or
a call's, however the request ended, when it started in one. -/
theorem Session.perform_shallow {a : Run ρ Value} (keeps : KeepsEnvironment a) (s : Session ρ)
    (shallow : s.machine.scope.Shallow) : (s.perform a).2.machine.scope.Shallow := by
  unfold Session.perform
  exact keeps.1 _ shallow

/-- The environment of every machine the interpreter reaches is the global one or a call's, and
no operation binds a global name. Running a program, calling one of its functions, running its
next waiting statement or a statement anywhere inside it, and every frame of the queued robot,
started in the global scope or a call's, end in one of them with the global bindings they started
with, normally or not. From such a scope a name's evaluation counts its entry and changes nothing
else: with a level for itself and one for each environment the lookup passes, one from the
global scope and two from a call's, it gives the name's global binding, and an unbound name is
reported undefined when one more level is left to raise it; with no more room than the
environments need it runs out of room, bound or not. -/
theorem identifier_reads_global_binding (controls : Controls ρ) :
    (∀ room s, KeepsEnvironment (execStmt controls room s)) ∧
    (∀ room p, KeepsEnvironment (interpret controls room p)) ∧
    (∀ room p name, KeepsEnvironment (callNamed controls room p name)) ∧
    (∀ room name args, KeepsEnvironment (callFunction controls room name args)) ∧
    (∀ room, KeepsEnvironment (executeNext controls room)) ∧
    (∀ room, KeepsEnvironment (update room)) ∧
    (∀ room stepping n, KeepsEnvironment (frames room stepping n)) ∧
    ∀ (room : Nat) (name : String) (m : Machine ρ), m.scope.Shallow →
      let after := go (evalExpr controls room (.var name)) m
      after.2 = (if room = 0 then m else { m with scene := m.scene.count .expression }) ∧
        (m.scope.depth < room → after.1 =
          match m.globals name with
          | some v => .ok v
          | none =>
            if m.scope.depth + 1 < room then .error (.failed (.undefinedVariable name))
            else .error (.failed (.recursionLimit .nativeCall))) ∧
        (room ≤ m.scope.depth → ∃ kind, after.1 = .error (.failed (.recursionLimit kind))) := by
  -- every robot keeps within the allowance of every change, so only the globals are at stake
  have any := controls.allowed_any
  have queued := Robot.Queued.controls.allowed_any
  have display : ∀ r, Act.Allowed (Allowance.any _) (Robot.Queued.updateDisplay r) :=
    fun _ _ => trivial
  have call := Scope.shallow_call
  exact ⟨fun room s => ⟨execStmt_keepsScope call room s, (execStmt_confined any room s).keepsGlobals⟩,
    fun room p => ⟨interpret_keepsScope call room p, (interpret_confined any room p).keepsGlobals⟩,
    fun room p name =>
      ⟨callNamed_keepsScope call room p name, (callNamed_confined any room p name).keepsGlobals⟩,
    fun room name args => ⟨callFunction_keepsScope call room name args,
      (callFunction_confined any room name args).keepsGlobals⟩,
    fun room => ⟨executeNext_keepsScope call room, (executeNext_confined any room).keepsGlobals⟩,
    fun room => ⟨update_keepsScope call room, (update_confined queued room).keepsGlobals⟩,
    fun room stepping n => ⟨frames_keepsScope call room stepping n,
      (frames_confined queued display room stepping n).keepsGlobals⟩,
    fun room name m shallow => go_evalExpr_var controls shallow room name⟩

/-- A bound name read from a call's scope with three levels free gives its global binding. -/
theorem bound_name_read_in_call :
    let m : Machine Robot.Classic :=
      { (Machine.start Robot.Classic.initial).define "x" (.int 1) with scope := .call }
    m.scope.Shallow ∧ (go (evalExpr Robot.Classic.controls 3 (.var "x")) m).1 = .ok (.int 1) := by
  intro m
  have read := (identifier_reads_global_binding Robot.Classic.controls).2.2.2.2.2.2.2 3 "x" m
    Scope.shallow_call
  exact ⟨Scope.shallow_call, read.2.1 (by decide)⟩

/-- A bound name evaluated from a call's scope with two levels free runs out of room before it
reaches the globals. -/
theorem bound_name_out_of_room :
    let m : Machine Robot.Classic :=
      { (Machine.start Robot.Classic.initial).define "x" (.int 1) with scope := .call }
    m.globals "x" = some (.int 1) ∧
      (go (evalExpr Robot.Classic.controls 2 (.var "x")) m).1 =
        .error (.failed (.recursionLimit .function)) := by
  intro m
  refine ⟨rfl, ?_⟩
  have shallow : ({ m with scene := m.scene.count .expression } : Machine Robot.Classic).scope.Shallow :=
    Scope.shallow_call
  simp only [evalExpr, go_bind, go_typeTests, show warmUp ≤ m.scene.entered .expression + 1 ∨ 1 ≤ 1
    from .inr (Nat.le_refl 1), if_true]
  rw [go_lookup shallow]
  rfl

end Run

end RoboScript
