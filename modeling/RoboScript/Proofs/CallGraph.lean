import Mathlib.Logic.Relation
import Mathlib.Data.Fintype.Card
import Mathlib.Data.Set.Finite.Basic
import RoboScript.Proofs.Outcomes
import RoboScript.Proofs.Headroom

/-! Programs without recursion need only bounded room. A function calls another when a call of
the other's name is written anywhere in the body registered for it, a call's arguments included,
and the other is a registered function that no sensor shadows. When no function reachable from
`main` lies on a cycle of such calls, a run of the program from a fresh interpreter, with any
scene and global bindings, never runs out of room once it is given enough: it ends normally or
with a failure of the program's own, and more room changes nothing.

The room a function's body needs is found along the calls, from the functions that call no
other: the induction is well founded because a program registers finitely many functions and no
reachable one calls itself through others. Within a body the room follows the syntax: each
expression and statement needs a bound of its own parts and callees, whatever a loop's count. -/

namespace RoboScript

/-! ### The call graph -/

mutual

/-- The names an expression calls, the arguments of its calls included. -/
def Expr.callees : Expr → List String
  | .number _ => []
  | .var _ => []
  | .call name args => name :: Expr.calleesAll args
  | .binary _ lhs rhs => lhs.callees ++ rhs.callees
  | .not operand => operand.callees

/-- The names a list of expressions calls. -/
def Expr.calleesAll : List Expr → List String
  | [] => []
  | e :: rest => e.callees ++ Expr.calleesAll rest

end

mutual

/-- The names a statement calls, at any depth of its conditionals and loops. -/
def Stmt.callees : Stmt → List String
  | .command _ args => Expr.calleesAll args
  | .ifThen test thenBody none => test.callees ++ Stmt.calleesAll thenBody
  | .ifThen test thenBody (some elseBody) =>
    test.callees ++ (Stmt.calleesAll thenBody ++ Stmt.calleesAll elseBody)
  | .repeatTimes count body => count.callees ++ Stmt.calleesAll body
  | .call name args => name :: Expr.calleesAll args
  | .returnWith value => value.callees

/-- The names a list of statements calls. -/
def Stmt.calleesAll : List Stmt → List String
  | [] => []
  | s :: rest => s.callees ++ Stmt.calleesAll rest

end

/-- The function a fresh interpreter finds for a name once the program's functions are
registered: the program's last function of that name. -/
def Program.registered (p : Program) (name : String) : Option FunDef :=
  (p.functions.filter (·.name == name)).getLast?

/-- With the functions `fs` registered, `f` calls `g`: a call of `g` is written in the body of
`f`, and `g` is a registered function that no sensor shadows. -/
def Calls (fs : String → Option FunDef) (f g : String) : Prop :=
  ∃ d, fs f = some d ∧ g ∈ Stmt.calleesAll d.body ∧ (fs g).isSome ∧
    g ≠ Run.detectName ∧ g ≠ Run.measureName

/-- No function reachable from `main` calls itself, directly or through others. -/
def Program.CallsAcyclic (p : Program) : Prop :=
  ∀ f, Relation.ReflTransGen (Calls p.registered) "main" f →
    ¬Relation.TransGen (Calls p.registered) f f

theorem Program.registered_name {p : Program} {name : String} {d : FunDef}
    (found : p.registered name = some d) : d ∈ p.functions ∧ d.name = name := by
  have listed := List.mem_filter.1 (List.mem_of_getLast? found)
  exact ⟨listed.1, beq_iff_eq.1 listed.2⟩

theorem Program.registered_finite (p : Program) : {name | (p.registered name).isSome}.Finite := by
  refine (List.finite_toSet (p.functions.map (·.name))).subset fun name named => ?_
  obtain ⟨d, found⟩ := Option.isSome_iff_exists.1 named
  obtain ⟨listed, same⟩ := Program.registered_name found
  exact List.mem_map.2 ⟨d, listed, same⟩

theorem Calls.reached_registered {fs : String → Option FunDef} {f g : String}
    (reached : Relation.ReflTransGen (Calls fs) f g) : g = f ∨ (fs g).isSome := by
  rcases reached.cases_tail with same | ⟨_, _, _, _, _, registered, _⟩
  · exact .inl same
  · exact .inr registered

theorem reachable_induction {α : Type} {r : α → α → Prop} {a : α} {P : α → Prop}
    (finite : {b | Relation.ReflTransGen r a b}.Finite)
    (acyclic : ∀ b, Relation.ReflTransGen r a b → ¬Relation.TransGen r b b)
    (step : ∀ b, Relation.ReflTransGen r a b → (∀ c, r b c → P c) → P b) :
    ∀ b, Relation.ReflTransGen r a b → P b := by
  have : Finite {b // Relation.ReflTransGen r a b} := finite.to_subtype
  -- among the reachable vertices, one is below another when the other reaches it
  let below : {b // Relation.ReflTransGen r a b} → {b // Relation.ReflTransGen r a b} → Prop :=
    fun c b => Relation.TransGen r b.1 c.1
  have : IsTrans _ below := ⟨fun _ _ _ first second => second.trans first⟩
  have : Std.Irrefl below := ⟨fun b loop => acyclic b.1 b.2 loop⟩
  intro b reached
  refine (Finite.wellFounded_of_trans_of_irrefl below).induction (C := fun c => P c.1)
    ⟨b, reached⟩ fun c further => ?_
  exact step c.1 c.2 fun d edge => further ⟨d, c.2.tail edge⟩ (Relation.TransGen.single edge)

/-- Calls that always go to a function of lower rank never come back. -/
theorem Program.callsAcyclic_of_rank {p : Program} (rank : String → Nat)
    (descends : ∀ f g, Calls p.registered f g → rank g < rank f) : p.CallsAcyclic := by
  have lower : ∀ f g, Relation.TransGen (Calls p.registered) f g → rank g < rank f := by
    intro f g path
    induction path with
    | single edge => exact descends _ _ edge
    | tail _ edge below => exact Nat.lt_trans (descends _ _ edge) below
  exact fun f _ loop => Nat.lt_irrefl _ (lower f f loop)

/-! ### Room enough -/

/-- Every failure but running out of room. -/
def Error.Inherent : Error → Prop
  | .recursionLimit _ => False
  | _ => True

theorem Error.inherent_of_ordinary (e : Error) (ordinary : e.Ordinary) : e.Inherent := by
  cases e <;> simp_all [Error.Ordinary, Error.Inherent]

theorem Robot.Queued.controls_failsOnly_any :
    Queued.controls.FailsOnly Error.Inherent 3 (fun _ => True) where
  command room c args _ roomy := by
    have queued := Queued.controls_failsOnly Error.inherent_of_ordinary
    cases c
    case moveForward | moveBackward | turnRight | turnLeft =>
      exact queued.command room _ args (by decide) roomy
    case pickUpObject | dropObject =>
      exact Act.FailsOnly.bind (Act.FailsOnly.reach (roomy.less (by decide)) _) fun _ =>
        Act.FailsOnly.throw trivial
  detect := (Queued.controls_failsOnly Error.inherent_of_ordinary).detect
  measure := (Queued.controls_failsOnly Error.inherent_of_ordinary).measure

namespace Run

variable {ρ α : Type} {controls : Controls ρ} {fs : String → Option FunDef} {levels : Nat}

/-- Given room, a computation that once the room reaches some bound keeps the functions `fs`
and fails, if at all, with a failure of the program's own. -/
def Settles (fs : String → Option FunDef) (x : Nat → Run ρ α) : Prop :=
  ∃ R, ∀ r, R ≤ r → EndsOnly fs Error.Inherent (x r)

/-- Every call of a name settles, whatever its arguments. -/
def Callable (controls : Controls ρ) (fs : String → Option FunDef) (name : String) : Prop :=
  ∀ args, Settles fs (callFunction controls · name args)

theorem Settles.succ {x : Nat → Run ρ α} (R : Nat)
    (step : ∀ q, R ≤ q → EndsOnly fs Error.Inherent (x (q + 1))) : Settles fs x := by
  refine ⟨R + 1, fun r big => ?_⟩
  obtain ⟨q, rfl⟩ : ∃ q, r = q + 1 := ⟨r - 1, by omega⟩
  exact step q (by omega)

theorem roomy_inherent {room n : Nat} (fits : n ≤ room) : Roomy Error.Inherent room n := .inl fits

theorem fits_of_inherent {r : Except Signal α}
    (inherent : ∀ e, r = .error (.failed e) → e.Inherent) : Fits r := by
  rcases r with (_ | e) | a
  · trivial
  · cases e
    case recursionLimit kind => exact inherent _ rfl
    all_goals trivial
  · trivial

theorem callable (robot : controls.FailsOnly Error.Inherent levels (fun _ => True)) (g : String)
    (body : ∀ d, fs g = some d → g ≠ detectName → g ≠ measureName →
      Settles fs (execBlock controls · d.body)) :
    Callable controls fs g := by
  intro args
  by_cases detect : g = detectName
  · refine Settles.succ (levels + 3) fun q big => ?_
    simp only [callFunction, if_pos detect]
    exact EndsOnly.sensor Error.inherent_of_ordinary (roomy_inherent (by omega))
      (robot.detect _ (roomy_inherent (by omega))) .detect g args
  by_cases measure : g = measureName
  · refine Settles.succ (levels + 3) fun q big => ?_
    simp only [callFunction, if_neg detect, if_pos measure]
    exact EndsOnly.sensor Error.inherent_of_ordinary (roomy_inherent (by omega))
      (robot.measure _ (roomy_inherent (by omega))) .measure g args
  cases defined : fs g with
  | none =>
    refine Settles.succ 1 fun q big => ?_
    simp only [callFunction, if_neg detect, if_neg measure]
    refine EndsOnly.get_bind fun m found _ => ?_
    rw [found, defined]
    exact EndsOnly.raise (roomy_inherent big) trivial
  | some d =>
    obtain ⟨R, ran⟩ := body d defined detect measure
    refine Settles.succ (max R 2) fun q big => ?_
    simp only [callFunction, if_neg detect, if_neg measure]
    refine EndsOnly.get_bind fun m found _ => ?_
    rw [found, defined]
    exact userCall_endsOnly (roomy_inherent (by omega)) (fun _ => rfl) (fun _ => rfl)
      (ran q (by omega))

section Syntax

variable (controls fs)

mutual

theorem evalExpr_settles (e : Expr) (calls : ∀ g ∈ e.callees, Callable controls fs g) :
    Settles fs (evalExpr controls · e) := by
  have tests : ∀ q, 1 ≤ q → EndsOnly fs Error.Inherent (typeTests .expression q : Run ρ Unit) :=
    fun _ big => EndsOnly.typeTests (roomy_inherent big) _
  cases e with
  | number lit =>
    refine Settles.succ 1 fun q big => ?_
    simp only [evalExpr]
    exact EndsOnly.bind (tests q big) fun _ => EndsOnly.pure _
  | var name =>
    refine Settles.succ 3 fun q big => ?_
    simp only [evalExpr]
    exact EndsOnly.bind (tests q (by omega)) fun _ =>
      EndsOnly.lookup Error.inherent_of_ordinary (roomy_inherent big) name
  | binary op lhs rhs =>
    simp only [Expr.callees, List.mem_append] at calls
    obtain ⟨R₁, left⟩ := evalExpr_settles lhs fun g called => calls g (.inl called)
    obtain ⟨R₂, right⟩ := evalExpr_settles rhs fun g called => calls g (.inr called)
    refine Settles.succ (max (max R₁ R₂) 2) fun q big => ?_
    simp only [evalExpr]
    exact EndsOnly.bind (tests q (by omega)) fun _ => EndsOnly.bind (left q (by omega)) fun a =>
      EndsOnly.bind (right q (by omega)) fun b =>
        EndsOnly.applyBinary Error.inherent_of_ordinary (roomy_inherent (by omega)) op a b
  | not operand =>
    obtain ⟨R, inner⟩ := evalExpr_settles operand calls
    refine Settles.succ (max R 2) fun q big => ?_
    simp only [evalExpr]
    exact EndsOnly.bind (tests q (by omega)) fun _ => EndsOnly.bind (inner q (by omega)) fun a =>
      EndsOnly.applyUnary (roomy_inherent (by omega)) a
  | call name args =>
    obtain ⟨R, called⟩ := calls name List.mem_cons_self args
    refine Settles.succ (max R 1) fun q big => ?_
    simp only [evalExpr]
    exact EndsOnly.bind (tests q (by omega)) fun _ => called q (by omega)

theorem evalArgs_settles (args : List Expr)
    (calls : ∀ g ∈ Expr.calleesAll args, Callable controls fs g) :
    Settles fs (evalArgs controls · args) := by
  cases args with
  | nil =>
    refine ⟨0, fun r _ => ?_⟩
    simp only [evalArgs]
    exact EndsOnly.pure []
  | cons a rest =>
    simp only [Expr.calleesAll, List.mem_append] at calls
    obtain ⟨R₁, first⟩ := evalExpr_settles a fun g called => calls g (.inl called)
    obtain ⟨R₂, later⟩ := evalArgs_settles rest fun g called => calls g (.inr called)
    refine ⟨max R₁ R₂, fun r big => ?_⟩
    simp only [evalArgs]
    exact EndsOnly.bind (first r (by omega)) fun v =>
      EndsOnly.bind (later r (by omega)) fun vs => EndsOnly.pure (v :: vs)

end

theorem execCommand_settles (robot : controls.FailsOnly Error.Inherent levels (fun _ => True))
    (cmd : Command) (args : List Expr)
    (calls : ∀ g ∈ Expr.calleesAll args, Callable controls fs g) :
    Settles fs (execCommand controls · cmd args) := by
  obtain ⟨R, gathered⟩ := evalArgs_settles controls fs args calls
  refine ⟨max R levels + 2, fun r big => ?_⟩
  obtain ⟨q, rfl⟩ : ∃ q, r = q + 2 := ⟨r - 2, by omega⟩
  simp only [execCommand]
  exact EndsOnly.bind (gathered q (by omega)) fun vs =>
    EndsOnly.act (robot.command _ cmd vs trivial (roomy_inherent (by omega)))

theorem Settles.block {stmts : List Stmt} (each : Settles fs (execEach controls · stmts)) :
    Settles fs (execBlock controls · stmts) := by
  obtain ⟨R, ran⟩ := each
  refine Settles.succ R fun q big => ?_
  simp only [execBlock]
  exact ran q big

mutual

theorem execStmt_settles (robot : controls.FailsOnly Error.Inherent levels (fun _ => True))
    (s : Stmt) (calls : ∀ g ∈ s.callees, Callable controls fs g) :
    Settles fs (execStmt controls · s) := by
  have tests : ∀ q, 1 ≤ q → EndsOnly fs Error.Inherent (typeTests .statement q : Run ρ Unit) :=
    fun _ big => EndsOnly.typeTests (roomy_inherent big) _
  cases s with
  | command cmd args =>
    obtain ⟨R, issued⟩ := execCommand_settles controls fs robot cmd args calls
    refine Settles.succ (max R 1) fun q big => ?_
    simp only [execStmt]
    exact EndsOnly.bind (tests q (by omega)) fun _ => issued q (by omega)
  | ifThen test thenBody elseBody =>
    cases elseBody with
    | none =>
      simp only [Stmt.callees, List.mem_append] at calls
      obtain ⟨R₁, tested⟩ :=
        evalExpr_settles controls fs test fun g called => calls g (.inl called)
      obtain ⟨R₂, taken⟩ := Settles.block controls fs
        (execEach_settles robot thenBody fun g called => calls g (.inr called))
      refine Settles.succ (max (max R₁ R₂) 1) fun q big => ?_
      simp only [execStmt]
      exact EndsOnly.bind (tests q (by omega)) fun _ => EndsOnly.bind (tested q (by omega)) fun _ =>
        EndsOnly.ite _ (taken q (by omega)) (EndsOnly.pure ())
    | some elseBody =>
      simp only [Stmt.callees, List.mem_append] at calls
      obtain ⟨R₁, tested⟩ :=
        evalExpr_settles controls fs test fun g called => calls g (.inl called)
      obtain ⟨R₂, taken⟩ := Settles.block controls fs
        (execEach_settles robot thenBody fun g called => calls g (.inr (.inl called)))
      obtain ⟨R₃, otherwise⟩ := Settles.block controls fs
        (execEach_settles robot elseBody fun g called => calls g (.inr (.inr called)))
      refine Settles.succ (max (max (max R₁ R₂) R₃) 1) fun q big => ?_
      simp only [execStmt]
      exact EndsOnly.bind (tests q (by omega)) fun _ => EndsOnly.bind (tested q (by omega)) fun _ =>
        EndsOnly.ite _ (taken q (by omega)) (otherwise q (by omega))
  | repeatTimes count body =>
    simp only [Stmt.callees, List.mem_append] at calls
    obtain ⟨R₁, counted⟩ :=
      evalExpr_settles controls fs count fun g called => calls g (.inl called)
    obtain ⟨R₂, round⟩ := Settles.block controls fs
      (execEach_settles robot body fun g called => calls g (.inr called))
    refine Settles.succ (max (max R₁ R₂) 1) fun q big => ?_
    simp only [execStmt]
    exact EndsOnly.bind (tests q (by omega)) fun _ => EndsOnly.bind (counted q (by omega)) fun v =>
      EndsOnly.bind (EndsOnly.check Error.inherent_of_ordinary (Value.truncate_computed v))
        fun n => EndsOnly.times (EndsOnly.bind (round q (by omega)) fun _ =>
          EndsOnly.act (Act.FailsOnly.loop _)) n.toNat
  | call name args =>
    obtain ⟨R, called⟩ := calls name List.mem_cons_self args
    refine Settles.succ (max R 1) fun q big => ?_
    simp only [execStmt]
    exact EndsOnly.bind (tests q (by omega)) fun _ =>
      EndsOnly.bind (called q (by omega)) fun _ => EndsOnly.pure ()
  | returnWith value =>
    obtain ⟨R, evaluated⟩ := evalExpr_settles controls fs value calls
    refine Settles.succ (max R 2) fun q big => ?_
    simp only [execStmt]
    exact EndsOnly.bind (tests q (by omega)) fun _ => EndsOnly.bind (evaluated q (by omega)) fun _ =>
      EndsOnly.bind (EndsOnly.reach (roomy_inherent (by omega)) _) fun _ =>
        EndsOnly.bind (EndsOnly.reach (roomy_inherent (by omega)) _) fun _ =>
          EndsOnly.throw fun _ returned => by cases returned

theorem execEach_settles (robot : controls.FailsOnly Error.Inherent levels (fun _ => True))
    (stmts : List Stmt) (calls : ∀ g ∈ Stmt.calleesAll stmts, Callable controls fs g) :
    Settles fs (execEach controls · stmts) := by
  cases stmts with
  | nil =>
    refine ⟨0, fun r _ => ?_⟩
    simp only [execEach]
    exact EndsOnly.pure ()
  | cons s rest =>
    simp only [Stmt.calleesAll, List.mem_append] at calls
    obtain ⟨R₁, first⟩ := execStmt_settles robot s fun g called => calls g (.inl called)
    obtain ⟨R₂, later⟩ := execEach_settles robot rest fun g called => calls g (.inr called)
    refine ⟨max R₁ R₂, fun r big => ?_⟩
    simp only [execEach]
    exact EndsOnly.bind (first r (by omega)) fun _ => later r (by omega)

end

end Syntax

theorem registerAll_fresh (p : Program) (scene : Scene ρ) (globals : String → Option Value) :
    (Machine.registerAll p { scene, globals }).functions = p.registered := by
  rw [Machine.registerAll_eq]
  funext name
  exact Option.or_none

/-- In a program whose calls reachable from `main` are acyclic, every call of a function that
`main` reaches settles: by induction along the calls, each body settles once its callees do. -/
theorem reachable_callable (robot : controls.FailsOnly Error.Inherent levels (fun _ => True))
    {p : Program} (acyclic : p.CallsAcyclic) :
    ∀ f, Relation.ReflTransGen (Calls p.registered) "main" f →
      Callable controls p.registered f := by
  have finite : {f | Relation.ReflTransGen (Calls p.registered) "main" f}.Finite :=
    (p.registered_finite.insert "main").subset fun f reached =>
      (Calls.reached_registered reached).imp id id
  have bodies := reachable_induction finite acyclic
    (P := fun f => ∀ d, p.registered f = some d →
      Settles p.registered (execBlock controls · d.body))
    fun f _ callees d found => Settles.block controls p.registered <|
      execEach_settles controls p.registered robot d.body fun g called =>
        callable robot g fun d' found' detect measure =>
          have registered : (p.registered g).isSome := Option.isSome_iff_exists.2 ⟨d', found'⟩
          callees g ⟨d, found, called, registered, detect, measure⟩ d' found'
  intro f reached
  exact callable robot f fun d found _ _ => bodies f reached d found

/-- Given enough room, a program whose calls reachable from `main` are acyclic runs from a fresh
interpreter without running out of room, and ends the same with any more room. -/
theorem interpret_settles (robot : controls.FailsOnly Error.Inherent levels (fun _ => True))
    (monotone : controls.RoomMonotone Scene.warmer) {p : Program} (acyclic : p.CallsAcyclic) :
    ∃ R, ∀ room, R ≤ room → ∀ (scene : Scene ρ) globals,
      Fits (go (interpret controls room p) { scene, globals }).1 ∧
        (go (interpret controls room p) { scene, globals }).1 =
          (go (interpret controls R p) { scene, globals }).1 := by
  obtain ⟨R, called⟩ := reachable_callable robot acyclic "main" .refl []
  have fits : ∀ room, R + 2 ≤ room → ∀ (scene : Scene ρ) globals,
      Fits (go (interpret controls room p) { scene, globals }).1 := by
    intro room big scene globals
    refine fits_of_inherent (interpret_failsOnly Error.inherent_of_ordinary
      (roomy_inherent (by omega)) Scope.shallow_global ?_)
    rw [registerAll_fresh]
    exact called (room - 1) (by omega)
  refine ⟨R + 2, fun room big scene globals => ⟨fits room big scene globals, ?_⟩⟩
  exact (interpret_follows monotone big (Machine.Alike.refl _) p
    (fits (R + 2) (Nat.le_refl _) scene globals)).1

end Run

/-- A program in which no function reachable from `main` calls itself, directly or through
others, runs on either robot from a fresh interpreter, with any scene and global bindings,
without running out of room once it is given enough room, and ends the same with any more. -/
theorem acyclic_programs_settle {p : Program} (acyclic : p.CallsAcyclic) :
    (∃ R, ∀ room, R ≤ room → ∀ (scene : Scene Robot.Classic) globals,
      Run.Fits (Run.go (Run.interpret Robot.Classic.controls room p) { scene, globals }).1 ∧
        (Run.go (Run.interpret Robot.Classic.controls room p) { scene, globals }).1 =
          (Run.go (Run.interpret Robot.Classic.controls R p) { scene, globals }).1) ∧
    (∃ R, ∀ room, R ≤ room → ∀ (scene : Scene Robot.Queued) globals,
      Run.Fits (Run.go (Run.interpret Robot.Queued.controls room p) { scene, globals }).1 ∧
        (Run.go (Run.interpret Robot.Queued.controls room p) { scene, globals }).1 =
          (Run.go (Run.interpret Robot.Queued.controls R p) { scene, globals }).1) :=
  ⟨Run.interpret_settles (Robot.Classic.controls_failsOnly Error.inherent_of_ordinary)
      Robot.Classic.controls_roomMonotone acyclic,
    Run.interpret_settles Robot.Queued.controls_failsOnly_any Robot.Queued.controls_warmer
      acyclic⟩

/-- A `main` that calls a helper twice, once from a loop, where the helper turns. -/
theorem helper_program_settles :
    let p : Program := ⟨[⟨"main", [.call "turn" [], .repeatTimes (.number (.int 2))
      [.call "turn" []]]⟩, ⟨"turn", [.command .turnLeft [.number (.int 90)]]⟩]⟩
    p.CallsAcyclic ∧
    (∃ R, ∀ room, R ≤ room → ∀ (scene : Scene Robot.Classic) globals,
      Run.Fits (Run.go (Run.interpret Robot.Classic.controls room p) { scene, globals }).1 ∧
        (Run.go (Run.interpret Robot.Classic.controls room p) { scene, globals }).1 =
          (Run.go (Run.interpret Robot.Classic.controls R p) { scene, globals }).1) ∧
    (∃ R, ∀ room, R ≤ room → ∀ (scene : Scene Robot.Queued) globals,
      Run.Fits (Run.go (Run.interpret Robot.Queued.controls room p) { scene, globals }).1 ∧
        (Run.go (Run.interpret Robot.Queued.controls room p) { scene, globals }).1 =
          (Run.go (Run.interpret Robot.Queued.controls R p) { scene, globals }).1) := by
  intro p
  have acyclic : p.CallsAcyclic := by
    refine Program.callsAcyclic_of_rank (fun f => if f = "main" then 1 else 0)
      fun f g ⟨d, found, called, _⟩ => ?_
    obtain ⟨listed, named⟩ := Program.registered_name found
    simp only [p, List.mem_cons, List.not_mem_nil, or_false] at listed
    rcases listed with rfl | rfl
    · simp only [Stmt.calleesAll, Stmt.callees, Expr.calleesAll, Expr.callees, List.mem_cons,
        List.mem_append, List.not_mem_nil, or_false, false_or, or_self] at called
      subst called named
      decide
    · simp [Stmt.calleesAll, Stmt.callees, Expr.calleesAll, Expr.callees] at called
  exact ⟨acyclic, acyclic_programs_settle acyclic⟩

end RoboScript
