import RoboScript.Proofs.Stepping
import RoboScript.Proofs.Scoping

/-! The scope a call leaves current. A call of a registered function enters a scope of its own
and gives the caller's scope back when its body ends, normally or by a `return`. A failure is
passed on from wherever the body left it. With room for the body, that is a call's scope, the
callee's own or one a call it made entered: started in a call's scope, nothing the interpreter
does makes the global scope current again, since a scope is only ever restored to the one read
when its call began. Without that room the call fails before it enters any scope, and the
machine is left as it was. So a call made from the global scope that fails inside its body
leaves a call's scope current, and every later lookup passes one level more on its way to the
globals. -/

namespace RoboScript.Run

variable {ρ : Type}

section Interpreter

variable {controls : Controls ρ}

theorem go_callFunction_scope {m : Machine ρ} {name : String} {f : FunDef}
    (detects : name ≠ detectName) (measures : name ≠ measureName)
    (found : m.functions name = some f) (args : List Expr) (q : Nat) :
    let after := go (callFunction controls (q + 3) name args) m
    (∀ v, after.1 = .ok v → after.2.scope = m.scope) ∧
      ∀ e, after.1 = .error (.failed e) → after.2.scope = .call := by
  have unfolded : go (callFunction controls (q + 3) name args) m = _ :=
    go_callFunction detects measures found args q
  have body : KeepsScope (· = Scope.call) (execEach controls (q + 1) f.body) :=
    execEach_keepsScope (S := (· = Scope.call)) rfl (q + 1) f.body
  dsimp only
  rw [unfolded]
  rcases ran : go (execEach controls (q + 1) f.body) { m with scope := .call } with
    ⟨(v | e) | v, n⟩
  · simp
  · have inCall := body { m with scope := .call } rfl
    rw [ran] at inCall
    refine ⟨fun _ ended => ?_, fun _ _ => inCall⟩
    simp at ended
  · simp

theorem go_callFunction_short {m : Machine ρ} {name : String} {f : FunDef}
    (detects : name ≠ detectName) (measures : name ≠ measureName)
    (found : m.functions name = some f) (args : List Expr) {room : Nat} (short : room < 3) :
    ∃ kind, go (callFunction controls room name args) m = (.error (.failed (.recursionLimit kind)), m) := by
  match room, short with
  | 0, _ => exact ⟨.function, by rw [callFunction]; rfl⟩
  | 1, _ =>
    refine ⟨.nativeCall, ?_⟩
    simp [callFunction, detects, measures, go_bind, found, go_reach]
  | 2, _ =>
    refine ⟨.function, ?_⟩
    simp [callFunction, detects, measures, go_bind, found, go_reach]

end Interpreter

/-- How a call of a registered function other than a sensor leaves the scope, on every way out.
A call that ends normally, at the end of its body or by a `return`, gives the caller's scope
back, and no `return` passes it. A call that fails leaves a call's scope current, its own or one
entered by a call it made, unless it had no room to enter its body: it then fails before entering
any scope, and leaves the machine as it was. -/
theorem call_leaves_scope (controls : Controls ρ) {m : Machine ρ} {name : String} {f : FunDef}
    (detects : name ≠ detectName) (measures : name ≠ measureName)
    (found : m.functions name = some f) (args : List Expr) (room : Nat) :
    let after := go (callFunction controls room name args) m
    (∀ v, after.1 = .ok v → after.2.scope = m.scope) ∧
      (∀ v, after.1 ≠ .error (.returned v)) ∧
      ∀ e, after.1 = .error (.failed e) → after.2.scope = .call ∨ (room < 3 ∧ after.2 = m) := by
  have quiet : Unreturned (go (callFunction controls room name args) m).1 :=
    callFunction_quiet room name args m
  dsimp only
  by_cases short : room < 3
  · -- no room to enter the body: a recursion limit, on the machine as it was
    have stopped : ∃ kind, go (callFunction controls room name args) m =
        (.error (.failed (.recursionLimit kind)), m) :=
      go_callFunction_short detects measures found args short
    obtain ⟨kind, ran⟩ := stopped
    rw [ran]
    refine ⟨fun _ ended => ?_, fun _ returned => ?_, fun _ _ => .inr ⟨short, rfl⟩⟩
    · cases ended
    · cases returned
  · obtain ⟨q, rfl⟩ : ∃ q, room = q + 3 := ⟨room - 3, by omega⟩
    obtain ⟨restored, failed⟩ := go_callFunction_scope detects measures found args q
    refine ⟨restored, fun v returned => ?_, fun e ended => .inl (failed e ended)⟩
    rw [returned] at quiet
    exact quiet

/-- Called from the global scope, a function whose body reads an unbound name fails, and leaves a
call's scope current: a bound name that evaluates with two levels of room before the call runs
out of room after it, its lookup passing one level more. -/
theorem failed_call_leaves_callee_scope :
    let g : FunDef := ⟨"g", [.command .moveForward [.var "y"]]⟩
    let m := ((Machine.start Robot.Classic.initial).define "x" (.int 0)).register g
    let after := go (callFunction Robot.Classic.controls 10 "g" []) m
    after.1 = .error (.failed (.undefinedVariable "y")) ∧ after.2.scope ≠ m.scope ∧
      (go (evalExpr Robot.Classic.controls 2 (.var "x")) m).1 = .ok (.int 0) ∧
      ∃ kind, (go (evalExpr Robot.Classic.controls 2 (.var "x")) after.2).1 =
        .error (.failed (.recursionLimit kind)) := by
  intro g m after
  have found : m.functions "g" = some g := by simp [m, g]
  have body : (go (execEach Robot.Classic.controls 8 g.body) { m with scope := .call }).1 =
      .error (.failed (.undefinedVariable "y")) := by
    let entered : Machine Robot.Classic :=
      { m with scope := .call, scene := m.scene.count .statement }
    have tested : go (typeTests .statement 7) { m with scope := .call } = (.ok (), entered) := by
      rw [go_typeTests, if_pos (.inr (by decide))]
    have looked :=
      (go_evalExpr_var Robot.Classic.controls (m := entered) Scope.shallow_call 5 "y").2.1
        (by decide)
    have unbound : entered.globals "y" = none := by
      simp [entered, m, Machine.start, Machine.define, Machine.register]
    rw [unbound, if_pos (by decide)] at looked
    have failed : go (evalExpr Robot.Classic.controls 5 (.var "y")) entered =
        (.error (.failed (.undefinedVariable "y")),
          (go (evalExpr Robot.Classic.controls 5 (.var "y")) entered).2) :=
      Prod.ext looked rfl
    simp only [g, execEach, execStmt, execCommand, evalArgs]
    rw [go_bind_error (go_bind_ok tested |>.trans (go_bind_error (go_bind_error failed)))]
  have keeps : KeepsScope (· = Scope.call) (execEach Robot.Classic.controls 8 g.body) :=
    execEach_keepsScope (S := (· = Scope.call)) rfl 8 g.body
  have inCall := keeps { m with scope := .call } rfl
  have ran : after.1 = .error (.failed (.undefinedVariable "y")) ∧ after.2.scope = .call := by
    simp only [after]
    rw [go_callFunction (by decide) (by decide) found [] 7]
    revert body inCall
    rcases go (execEach Robot.Classic.controls 8 g.body) { m with scope := .call } with ⟨r, n⟩
    intro body inCall
    cases body
    exact ⟨rfl, inCall⟩
  have global : m.scope.Shallow := Scope.shallow_global
  have call : after.2.scope.Shallow := .inr ran.2
  refine ⟨ran.1, by rw [ran.2]; simp [m, Machine.start, Machine.define, Scope.call], ?_, ?_⟩
  · rw [(go_evalExpr_var Robot.Classic.controls global 2 "x").2.1 (by simp [m, Machine.start,
      Machine.define, Machine.register, Scope.depth])]
    simp [m, Machine.start, Machine.define, Machine.register]
  · exact (go_evalExpr_var Robot.Classic.controls call 2 "x").2.2 (by rw [ran.2]; decide)

end RoboScript.Run
