import RoboScript.Proofs.Headroom

/-! What a run may change. Running a program never binds a global name: whatever a run ends
with, normally or not, the global bindings are those it started with. What a run may do to the
robot's scene depends on the robot. An allowance says which changes of a scene are permitted,
printing a line among them; when each answer of the robot keeps within the allowance, so does
every run of the interpreter, at any depth of calls and whether it fails or not. -/

namespace RoboScript

/-- Changes of a scene that are permitted: they compose, and printing a line and counting an
entry of a function are among them. -/
structure Allowance (ρ : Type) where
  moves : Scene ρ → Scene ρ → Prop
  refl : ∀ s, moves s s
  trans : ∀ {s₁ s₂ s₃}, moves s₁ s₂ → moves s₂ s₃ → moves s₁ s₃
  print : ∀ s line, moves s { s with log := { s.log with lines := s.log.lines.push line } }
  count : ∀ s c, moves s (s.count c)

/-- Every change of the scene. -/
def Allowance.any (ρ : Type) : Allowance ρ where
  moves _ _ := True
  refl _ := trivial
  trans _ _ := trivial
  print _ _ := trivial
  count _ _ := trivial

/-- The changes that keep a view of the robot. -/
def Allowance.keeping {ρ β : Type} (view : ρ → β) : Allowance ρ where
  moves s s' := view s'.robot = view s.robot
  refl _ := rfl
  trans first second := second.trans first
  print _ _ := rfl
  count _ _ := rfl

namespace Act

variable {ρ α β : Type} {allow : Allowance ρ}

/-- A step of the scene that changes it only as permitted, whether or not it fails. -/
def Allowed (allow : Allowance ρ) (a : Act ρ α) : Prop := ∀ s, allow.moves s (go a s).2

namespace Allowed

theorem of_still {a : Act ρ α} (still : Still a) : Allowed allow a := by
  intro s
  rw [still s]
  exact allow.refl s

theorem bind {a : Act ρ α} {f : α → Act ρ β} (first : Allowed allow a)
    (rest : ∀ v, Allowed allow (f v)) : Allowed allow (a >>= f) := by
  intro s
  rcases ran : go a s with ⟨e | v, s'⟩
  · rw [go_bind_error ran]
    simpa [ran] using first s
  · rw [go_bind_ok ran]
    have moved : allow.moves s s' := by simpa [ran] using first s
    exact allow.trans moved (rest v s')

theorem reach (room depth : Nat) (kind : Nesting) :
    Allowed allow (Act.reach room depth kind : Act ρ Unit) :=
  of_still (Still.reach room depth kind)

theorem frame (room : Nat) : Allowed allow (Act.frame room : Act ρ Nat) :=
  of_still fun s => by
    rw [go_frame]
    split <;> rfl

theorem shown (room : Nat) (v : Value) : Allowed allow (Act.shown room v : Act ρ String) :=
  of_still (go_shown_scene room v)

theorem say (f : Frame) (line : String) : Allowed allow (Act.say f line : Act ρ Unit) := by
  intro s
  rw [go_say]
  by_cases fits : (if f.warm then 1 else 2) ≤ f.room
  · rw [if_pos fits]
    exact allow.print s line
  · rw [if_neg fits]
    exact allow.refl s

theorem loop (c : Code) : Allowed allow (Act.loop c : Act ρ Unit) := fun s => allow.count s c

theorem entered (c : Code) (room : Nat) : Allowed allow (Act.entered c room) := by
  intro s
  rw [go_entered]
  exact allow.count s c

theorem builtin (f : Frame) (kind : Nesting) : Allowed allow (Act.builtin f kind : Act ρ Unit) :=
  of_still fun s => by
    rw [go_builtin]
    split <;> rfl

theorem pure (a : α) : Allowed allow (Pure.pure a : Act ρ α) :=
  of_still fun _ => rfl

theorem ofExcept (r : Except Error α) : Allowed allow (ofExcept r : Act ρ α) :=
  of_still (Still.ofExcept r)

theorem robot : Allowed allow (Act.robot : Act ρ ρ) :=
  of_still fun s => by rw [go_robot]

theorem native (room : Nat) (r : Except Error α) : Allowed allow (Act.native room r : Act ρ α) :=
  bind (reach room 1 .nativeCall) fun _ => ofExcept r

theorem enter (c : Code) (room : Nat) : Allowed allow (Act.enter c room) :=
  bind (frame room) fun r => entered c r

theorem entering (c : Code) (room : Nat) (kind : Nesting) :
    Allowed allow (Act.entering c room kind : Act ρ Unit) :=
  bind (entered c room) fun f => builtin f kind

theorem update {f : ρ → ρ} (permitted : ∀ s : Scene ρ, allow.moves s { s with robot := f s.robot }) :
    Allowed allow (Act.update f) := by
  intro s
  rw [go_update]
  exact permitted s

end Allowed

end Act

/-- A kind of robot each of whose answers to a program changes the scene only as permitted. -/
structure Controls.Allowed {ρ : Type} (allow : Allowance ρ) (controls : Controls ρ) : Prop where
  command : ∀ room c args, Act.Allowed allow (controls.command room c args)
  detect : ∀ room, Act.Allowed allow (controls.detect room)
  measure : ∀ room, Act.Allowed allow (controls.measure room)

theorem Controls.allowed_any {ρ : Type} (controls : Controls ρ) :
    controls.Allowed (Allowance.any ρ) :=
  ⟨fun _ _ _ _ => trivial, fun _ _ => trivial, fun _ _ => trivial⟩

namespace Run

variable {ρ α β : Type} {allow : Allowance ρ}

/-- A computation that keeps the global bindings and changes the scene only as permitted,
whether it ends normally or not. -/
def Confined (allow : Allowance ρ) (x : Run ρ α) : Prop :=
  ∀ m, (go x m).2.globals = m.globals ∧ allow.moves m.scene (go x m).2.scene

namespace Confined

theorem pure (a : α) : Confined allow (Pure.pure a : Run ρ α) :=
  fun m => ⟨rfl, allow.refl m.scene⟩

theorem throw (e : Signal) : Confined allow (MonadExcept.throw e : Run ρ α) :=
  fun m => ⟨rfl, allow.refl m.scene⟩

theorem fail (e : Error) : Confined allow (Run.fail e : Run ρ α) := throw _

theorem bind {x : Run ρ α} {f : α → Run ρ β} (first : Confined allow x)
    (rest : ∀ a, Confined allow (f a)) : Confined allow (x >>= f) := by
  intro m
  obtain ⟨globals, moved⟩ := first m
  rcases ran : go x m with ⟨e | a, n⟩
  · rw [go_bind_error ran]
    rw [ran] at globals moved
    exact ⟨globals, moved⟩
  · rw [go_bind_ok ran]
    rw [ran] at globals moved
    obtain ⟨globals', moved'⟩ := rest a n
    exact ⟨globals'.trans globals, allow.trans moved moved'⟩

theorem get_bind {f : Machine ρ → Run ρ α} (rest : ∀ m, Confined allow (f m)) :
    Confined allow (get >>= f) := by
  intro m
  rw [go_bind_ok (go_get m)]
  exact rest m m

theorem modify {g : Machine ρ → Machine ρ} (globals : ∀ m, (g m).globals = m.globals)
    (scene : ∀ m, (g m).scene = m.scene) : Confined allow (modify g : Run ρ Unit) := by
  intro m
  rw [go_modify, scene]
  exact ⟨globals m, allow.refl m.scene⟩

theorem act {a : Act ρ α} (allowed : Act.Allowed allow a) : Confined allow (Run.act a) := by
  intro m
  rw [go_act]
  exact ⟨rfl, allowed m.scene⟩

theorem ite (c : Prop) [Decidable c] {x y : Run ρ α} (yes : Confined allow x)
    (no : Confined allow y) : Confined allow (if c then x else y) := by
  by_cases holds : c
  · simpa [holds] using yes
  · simpa [holds] using no

theorem tryCatch {x : Run ρ α} {h : Signal → Run ρ α} (first : Confined allow x)
    (handled : ∀ e, Confined allow (h e)) : Confined allow (tryCatch x h) := by
  intro m
  obtain ⟨globals, moved⟩ := first m
  rcases ran : go x m with ⟨e | a, n⟩
  · rw [go_tryCatch_error ran]
    rw [ran] at globals moved
    obtain ⟨globals', moved'⟩ := handled e n
    exact ⟨globals'.trans globals, allow.trans moved moved'⟩
  · rw [go_tryCatch_ok ran]
    rw [ran] at globals moved
    exact ⟨globals, moved⟩

theorem reach (room depth : Nat) (kind : Nesting) : Confined allow (Run.reach room depth kind) :=
  act (Act.Allowed.reach room depth kind)

theorem say (f : Frame) (line : String) : Confined allow (Run.say f line) :=
  act (Act.Allowed.say f line)

theorem typeTests (c : Code) (room : Nat) : Confined allow (Run.typeTests c room) :=
  act (Act.Allowed.entering c room .nativeCall)

theorem check (x : Except Error α) : Confined allow (Run.check x : Run ρ α) := by
  cases x with
  | error e => exact fail e
  | ok a => exact pure a

theorem raise (room : Nat) (e : Error) : Confined allow (Run.raise room e : Run ρ α) :=
  bind (reach room 1 .nativeCall) fun _ => fail e

theorem times {x : Run ρ Unit} (each : Confined allow x) (count : Nat) :
    Confined allow (Run.times x count) := by
  induction count with
  | zero => exact pure ()
  | succ count ih => exact bind each fun _ => ih

end Confined

theorem lookupIn_confined (name : String) :
    ∀ (room : Nat) (scope : Scope), Confined allow (lookupIn name room scope : Run ρ Value)
  | room, .global => by
    rw [lookupIn_global]
    refine Confined.bind (Confined.act (Act.Allowed.frame room)) fun r =>
      Confined.get_bind fun n => ?_
    cases n.globals name with
    | some v => exact Confined.pure v
    | none => exact Confined.raise _ _
  | room, .frame bindings parent => by
    rw [lookupIn_frame]
    refine Confined.bind (Confined.act (Act.Allowed.frame room)) fun r => ?_
    cases bindings.lookup name with
    | some v => exact Confined.pure v
    | none => exact lookupIn_confined name r parent

theorem lookup_confined (room : Nat) (name : String) :
    Confined allow (lookup room name : Run ρ Value) := by
  unfold lookup
  exact Confined.get_bind fun m => lookupIn_confined name room m.scope

theorem sensor_confined {read : Nat → Act ρ Value} (reads : ∀ r, Act.Allowed allow (read r))
    (c : Code) (room : Nat) (name : String) (args : List Expr) :
    Confined allow (sensor c room name args read) := by
  unfold sensor
  refine Confined.bind (Confined.act (Act.Allowed.enter c room)) fun f => ?_
  refine Confined.bind (Confined.act (Act.Allowed.builtin f _)) fun _ => ?_
  have answers : Confined allow (do
      let v ← Run.act (read f.room)
      let text ← Run.act (Act.shown f.room v)
      say f (name ++ "() called, returning " ++ text)
      Pure.pure v) :=
    Confined.bind (Confined.act (reads f.room)) fun v =>
      Confined.bind (Confined.act (Act.Allowed.shown f.room v)) fun _ =>
        Confined.bind (Confined.say _ _) fun _ => Confined.pure v
  exact Confined.ite _ (Confined.bind (Confined.raise _ _) fun _ => answers) answers

theorem applyBinary_confined (room : Nat) (op : BinOp) (a b : Value) :
    Confined allow (applyBinary room op a b : Run ρ Value) := by
  unfold applyBinary
  exact Confined.bind (Confined.act (Act.Allowed.enter _ room)) fun f =>
    Confined.ite _ (Confined.bind (Confined.reach _ _ _) fun _ => Confined.check _)
      (Confined.check _)

theorem applyUnary_confined (room : Nat) (a : Value) :
    Confined allow (applyUnary room a : Run ρ Value) := by
  unfold applyUnary
  exact Confined.bind (Confined.act (Act.Allowed.enter _ room)) fun f =>
    Confined.bind (Confined.act (Act.Allowed.builtin f _)) fun _ => Confined.check _

section Interpreter

variable {controls : Controls ρ}

mutual

theorem evalExpr_confined (allowed : controls.Allowed allow) (r : Nat) (e : Expr) :
    Confined allow (evalExpr controls r e) := by
  cases r with
  | zero =>
    rw [evalExpr]
    exact Confined.fail _
  | succ q =>
    have tests : Confined allow (typeTests .expression q : Run ρ Unit) := Confined.typeTests _ _
    cases e with
    | number lit =>
      simp only [evalExpr]
      exact Confined.bind tests fun _ => Confined.pure _
    | var name =>
      simp only [evalExpr]
      exact Confined.bind tests fun _ => lookup_confined q name
    | binary op lhs rhs =>
      simp only [evalExpr]
      exact Confined.bind tests fun _ => Confined.bind (evalExpr_confined allowed q lhs) fun a =>
        Confined.bind (evalExpr_confined allowed q rhs) fun b => applyBinary_confined q op a b
    | not operand =>
      simp only [evalExpr]
      exact Confined.bind tests fun _ => Confined.bind (evalExpr_confined allowed q operand)
        fun a => applyUnary_confined q a
    | call name args =>
      simp only [evalExpr]
      exact Confined.bind tests fun _ => callFunction_confined allowed q name args
termination_by (r, 0)

theorem callFunction_confined (allowed : controls.Allowed allow) (r : Nat) (name : String)
    (args : List Expr) : Confined allow (callFunction controls r name args) := by
  cases r with
  | zero =>
    rw [callFunction]
    exact Confined.fail _
  | succ q =>
    simp only [callFunction]
    refine Confined.ite _ (sensor_confined allowed.detect .detect q name args)
      (Confined.ite _ (sensor_confined allowed.measure .measure q name args)
        (Confined.get_bind fun m => ?_))
    cases m.functions name with
    | none => exact Confined.raise _ _
    | some f =>
      refine Confined.bind (Confined.reach _ _ _) fun _ => Confined.bind (Confined.reach _ _ _)
        fun _ => Confined.get_bind fun caller => ?_
      refine Confined.bind (Confined.modify (fun _ => rfl) (fun _ => rfl)) fun _ => ?_
      refine Confined.bind (Confined.tryCatch ?_ fun e => ?_) fun v =>
        Confined.bind (Confined.modify (fun _ => rfl) (fun _ => rfl)) fun _ => Confined.pure v
      · exact Confined.bind (execBlock_confined allowed q f.body) fun _ => Confined.pure _
      · cases e with
        | returned v => exact Confined.pure v
        | failed e => exact Confined.throw _
termination_by (r, 0)

theorem execBlock_confined (allowed : controls.Allowed allow) (r : Nat) (stmts : List Stmt) :
    Confined allow (execBlock controls r stmts) := by
  cases r with
  | zero =>
    rw [execBlock]
    exact Confined.fail _
  | succ q =>
    simp only [execBlock]
    exact execEach_confined allowed q stmts
termination_by (r, 0)

theorem execEach_confined (allowed : controls.Allowed allow) (room : Nat) (stmts : List Stmt) :
    Confined allow (execEach controls room stmts) := by
  cases stmts with
  | nil =>
    simp only [execEach]
    exact Confined.pure ()
  | cons s rest =>
    simp only [execEach]
    exact Confined.bind (execStmt_confined allowed room s) fun _ =>
      execEach_confined allowed room rest
termination_by (room, stmts.length)

theorem execStmt_confined (allowed : controls.Allowed allow) (r : Nat) (s : Stmt) :
    Confined allow (execStmt controls r s) := by
  cases r with
  | zero =>
    rw [execStmt]
    exact Confined.fail _
  | succ q =>
    have tests : Confined allow (typeTests .statement q : Run ρ Unit) := Confined.typeTests _ _
    cases s with
    | command cmd args =>
      simp only [execStmt]
      exact Confined.bind tests fun _ => execCommand_confined allowed q cmd args
    | ifThen test thenBody elseBody =>
      cases elseBody with
      | none =>
        simp only [execStmt]
        exact Confined.bind tests fun _ => Confined.bind (evalExpr_confined allowed q test) fun _ =>
          Confined.ite _ (execBlock_confined allowed q thenBody) (Confined.pure ())
      | some body =>
        simp only [execStmt]
        exact Confined.bind tests fun _ => Confined.bind (evalExpr_confined allowed q test) fun _ =>
          Confined.ite _ (execBlock_confined allowed q thenBody) (execBlock_confined allowed q body)
    | repeatTimes count body =>
      simp only [execStmt]
      exact Confined.bind tests fun _ => Confined.bind (evalExpr_confined allowed q count) fun _ =>
        Confined.bind (Confined.check _) fun n =>
          Confined.times (Confined.bind (execBlock_confined allowed q body) fun _ =>
            Confined.act (Act.Allowed.loop _)) n.toNat
    | call name args =>
      simp only [execStmt]
      exact Confined.bind tests fun _ =>
        Confined.bind (callFunction_confined allowed q name args) fun _ => Confined.pure ()
    | returnWith value =>
      simp only [execStmt]
      exact Confined.bind tests fun _ => Confined.bind (evalExpr_confined allowed q value) fun _ =>
        Confined.bind (Confined.reach _ _ _) fun _ => Confined.bind (Confined.reach _ _ _) fun _ =>
          Confined.throw _
termination_by (r, 0)

theorem execCommand_confined (allowed : controls.Allowed allow) (r : Nat) (cmd : Command)
    (args : List Expr) : Confined allow (execCommand controls r cmd args) := by
  cases r with
  | zero =>
    rw [execCommand]
    exact Confined.fail _
  | succ r =>
    cases r with
    | zero =>
      rw [execCommand]
      exact Confined.fail _
    | succ q =>
      simp only [execCommand]
      exact Confined.bind (evalArgs_confined allowed q args) fun vs =>
        Confined.act (allowed.command _ cmd vs)
termination_by (r, 0)

theorem evalArgs_confined (allowed : controls.Allowed allow) (room : Nat) (args : List Expr) :
    Confined allow (evalArgs controls room args) := by
  cases args with
  | nil =>
    simp only [evalArgs]
    exact Confined.pure []
  | cons a rest =>
    simp only [evalArgs]
    exact Confined.bind (evalExpr_confined allowed room a) fun v =>
      Confined.bind (evalArgs_confined allowed room rest) fun vs => Confined.pure (v :: vs)
termination_by (room, args.length)

end

theorem interpret_confined (allowed : controls.Allowed allow) (room : Nat) (p : Program) :
    Confined allow (interpret controls room p) := by
  unfold interpret
  refine Confined.bind (Confined.act (Act.Allowed.frame room)) fun r => ?_
  refine Confined.bind (Confined.modify (fun _ => by rw [Machine.registerAll_eq])
    (fun _ => by rw [Machine.registerAll_eq])) fun _ => Confined.get_bind fun m => ?_
  have calls : Confined allow (callFunction controls r "main" []) :=
    callFunction_confined allowed r "main" []
  by_cases missing : (m.functions "main").isNone = true
  · simp only [missing, if_true]
    exact Confined.bind (Confined.raise _ _) fun _ => Confined.bind calls fun _ => Confined.pure ()
  · simp only [missing, if_false, Bool.false_eq_true]
    exact Confined.bind calls fun _ => Confined.pure ()

theorem callNamed_confined (allowed : controls.Allowed allow) (room : Nat) (p : Program)
    (name : String) : Confined allow (callNamed controls room p name) := by
  unfold callNamed
  exact Confined.bind (Confined.modify (fun _ => by rw [Machine.registerAll_eq])
    (fun _ => by rw [Machine.registerAll_eq])) fun _ => callFunction_confined allowed room name []

theorem executeNext_confined (allowed : controls.Allowed allow) (room : Nat) :
    Confined allow (executeNext controls room) := by
  unfold executeNext
  refine Confined.bind (Confined.act (Act.Allowed.enter _ room)) fun f =>
    Confined.get_bind fun m => ?_
  cases m.pending with
  | nil => exact Confined.pure ()
  | cons s rest =>
    exact Confined.bind (Confined.act (Act.Allowed.builtin f _)) fun _ =>
      Confined.bind (Confined.modify (fun _ => rfl) (fun _ => rfl)) fun _ =>
        execStmt_confined allowed f.room s

end Interpreter

section Frames

open Robot

theorem update_confined {allow : Allowance Queued} (allowed : Queued.controls.Allowed allow)
    (room : Nat) : Confined allow (update room) := by
  unfold update
  refine Confined.bind (Confined.act (Act.Allowed.enter _ room)) fun f =>
    Confined.get_bind fun m => ?_
  refine Confined.ite _ (Confined.tryCatch (executeNext_confined allowed f.room) fun signal => ?_)
    (Confined.pure ())
  refine Confined.bind (Confined.reach _ _ _) fun _ => ?_
  cases signal with
  | returned v =>
    dsimp only
    exact Confined.bind (Confined.check _) fun _ => Confined.say _ _
  | failed e =>
    dsimp only
    exact Confined.bind (Confined.pure _) fun _ => Confined.say _ _

/-- Frames of the queued robot, when its display's update keeps within the allowance too. -/
theorem frames_confined {allow : Allowance Queued} (allowed : Queued.controls.Allowed allow)
    (display : ∀ room, Act.Allowed allow (Queued.updateDisplay room)) (room : Nat)
    (stepping : Bool) (n : Nat) : Confined allow (frames room stepping n) := by
  induction n with
  | zero => exact Confined.pure ()
  | succ n ih =>
    simp only [frames]
    exact Confined.bind (Confined.act (display _)) fun _ =>
      Confined.ite _ (Confined.bind (update_confined allowed room) fun _ => ih) ih

end Frames

end Run

end RoboScript
