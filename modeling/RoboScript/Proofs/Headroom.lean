import RoboScript.Proofs.Room

/-! More room never changes how a program runs, only whether it runs out. Every step of the
interpreter, run with at least the room of another run of it from a machine alike but for a
warmer scene and a scope found through no more environments, ends the same way on alike
machines, unless the first ran out of room. Room is checked only where a level is entered, and
a warmer function needs no more levels than a colder one, so the proof follows the interpreter's
own recursion: a rule for each operation of the machine, and a lemma for each function of the
interpreter that puts them together. -/

namespace RoboScript

namespace Machine

variable {ρ : Type} {L : Scene.Likeness ρ} {waits : List Stmt → List Stmt → Prop}

theorem Alike.registerAll {m m' : Machine ρ} (alike : Alike L waits m m') (p : Program) :
    Alike L waits (m.registerAll p) (m'.registerAll p) := by
  rw [registerAll_eq, registerAll_eq]
  exact ⟨alike.scene, alike.globals, by rw [alike.functions], alike.scope, alike.pending⟩

end Machine

namespace Run

variable {ρ α β : Type} {L : Scene.Likeness ρ} {waits : List Stmt → List Stmt → Prop}

open Machine (Alike)

namespace Follows

variable {m m' : Machine ρ} {r r' : Nat}

theorem limit (kind : Nesting) {x' : Run ρ α} :
    Follows L waits (fail (.recursionLimit kind)) m x' m' :=
  of_limit rfl

theorem reach {d d' : Nat} (more : r ≤ r') (shallower : d' ≤ d) (alike : Alike L waits m m')
    (kind : Nesting) : Follows L waits (Run.reach r d kind) m (Run.reach r' d' kind) m' := by
  intro fits
  rw [go_reach] at fits ⊢
  rw [go_reach]
  by_cases enough : d ≤ r
  · rw [if_pos enough, if_pos (Nat.le_trans shallower (Nat.le_trans enough more))]
    exact ⟨rfl, alike⟩
  · rw [if_neg enough] at fits
    exact fits.elim

theorem check (alike : Alike L waits m m') (x : Except Error α) :
    Follows L waits (Run.check x) m (Run.check x) m' := by
  cases x with
  | error e => exact throw alike _
  | ok a => exact pure alike a

theorem raise (more : r ≤ r') (alike : Alike L waits m m') (e : Error) :
    Follows L waits (Run.raise r e : Run ρ α) m (Run.raise r' e) m' :=
  bind (reach more (Nat.le_refl 1) alike .nativeCall) fun _ _ _ _ alike => throw alike _

theorem raise_bind {β : Type} (more : r ≤ r') (alike : Alike L waits m m') (e : Error)
    {f f' : α → Run ρ β} : Follows L waits (Run.raise r e >>= f) m (Run.raise r' e >>= f') m' := by
  refine bind (raise more alike e) fun a n n' ran _ => ?_
  unfold Run.raise at ran
  by_cases enough : 1 ≤ r
  · rw [go_bind_ok (by rw [go_reach, if_pos enough])] at ran
    cases ran
  · rw [go_bind_error (by rw [go_reach, if_neg enough])] at ran
    cases ran

theorem reach_left {d : Nat} {kind : Nesting} {x x' : Run ρ β}
    (rest : Follows L waits x m x' m') :
    Follows L waits (Run.reach r d kind >>= fun _ => x) m x' m' := by
  by_cases enough : d ≤ r
  · intro fits
    rw [go_bind_ok (by rw [go_reach, if_pos enough])] at fits ⊢
    exact rest fits
  · exact of_limit (go_bind_error (by rw [go_reach, if_neg enough]))

theorem frame_left {k : Nat → Run ρ β} {x' : Run ρ β} (rest : Follows L waits (k (r - 1)) m x' m') :
    Follows L waits (Run.act (Act.frame r) >>= k) m x' m' := by
  by_cases enough : 1 ≤ r
  · intro fits
    rw [go_bind_ok (go_act_frame enough m)] at fits ⊢
    exact rest fits
  · have refused :
        go (Run.act (Act.frame r)) m = (.error (.failed (.recursionLimit .function)), m) := by
      rw [go_act, Act.go_frame, if_neg enough]
      rfl
    exact of_limit (go_bind_error refused)

theorem enter (c : Code) {k k' : Frame → Run ρ β} (more : r ≤ r') (alike : Alike L waits m m')
    (rest : ∀ f f' n n', f ≤ f' → Alike L waits n n' → Follows L waits (k f) n (k' f') n') :
    Follows L waits (Run.act (Act.enter c r) >>= k) m (Run.act (Act.enter c r') >>= k') m' := by
  intro fits
  rw [go_enter_bind c r m] at fits ⊢
  by_cases enough : 1 ≤ r
  · rw [if_pos enough] at fits ⊢
    rw [go_enter_bind c r' m', if_pos (Nat.le_trans enough more)]
    exact rest _ _ _ _ ⟨by dsimp only; omega, L.warm alike.scene c⟩ (alike.count c) fits
  · rw [if_neg enough] at fits
    exact fits.elim

theorem typeTests (c : Code) (more : r ≤ r') (alike : Alike L waits m m') :
    Follows L waits (Run.typeTests c r) m (Run.typeTests c r') m' := by
  unfold Run.typeTests
  exact act (Act.Monotone.entering c .nativeCall) more alike

theorem say {f f' : Frame} (below : f ≤ f') (alike : Alike L waits m m') (line : String) :
    Follows L waits (Run.say f line) m (Run.say f' line) m' := by
  unfold Run.say
  exact act (Act.Monotone.say line) below alike

theorem lookupIn_same (name : String) :
    ∀ (s : Scope) {r r' : Nat}, r ≤ r' → ∀ {m m' : Machine ρ}, Alike L waits m m' →
      Follows L waits (Run.lookupIn name r s) m (Run.lookupIn name r' s) m'
  | .global, r, r', more, m, m', alike => by
    rw [lookupIn_global, lookupIn_global]
    refine frame more alike fun n n' alike => get_bind ?_
    rw [alike.globals]
    cases n.globals name with
    | some v => exact pure alike v
    | none => exact raise (by omega) alike _
  | .frame bindings parent, r, r', more, m, m', alike => by
    rw [lookupIn_frame, lookupIn_frame]
    refine frame more alike fun n n' alike => ?_
    cases bindings.lookup name with
    | some v => exact pure alike v
    | none => exact lookupIn_same name parent (by omega) alike

theorem lookupIn (name : String) {s s' : Scope} (wraps : s.Wraps s') {r r' : Nat} (more : r ≤ r')
    (alike : Alike L waits m m') :
    Follows L waits (Run.lookupIn name r s) m (Run.lookupIn name r' s') m' := by
  induction wraps generalizing r with
  | refl s => exact lookupIn_same name s more alike
  | frame _ outer =>
    rw [lookupIn_frame]
    exact frame_left (outer (by omega))

theorem lookup (more : r ≤ r') (alike : Alike L waits m m') (name : String) :
    Follows L waits (Run.lookup r name) m (Run.lookup r' name) m' := by
  unfold Run.lookup
  exact get_bind (lookupIn name alike.scope more alike)

theorem sensor (c : Code) {read : Nat → Act ρ Value} (monotone : Act.Monotone L read)
    (more : r ≤ r') (alike : Alike L waits m m') (name : String) (args : List Expr) :
    Follows L waits (Run.sensor c r name args read) m (Run.sensor c r' name args read) m' := by
  unfold Run.sensor
  refine enter c more alike fun f f' n n' below alike => ?_
  refine bind (act (Act.Monotone.builtin .nativeCall) below alike) fun _ _ _ _ alike => ?_
  by_cases given : (!args.isEmpty) = true
  · simp only [given, if_true]
    exact raise_bind below.room alike _
  · simp only [given, if_false, Bool.false_eq_true]
    exact bind (act monotone below.room alike) fun v _ _ _ alike =>
      bind (act (Act.Monotone.shown v) below.room alike) fun _ _ _ _ alike =>
        bind (say below alike _) fun _ _ _ _ alike => pure alike v

theorem applyBinary (more : r ≤ r') (alike : Alike L waits m m') (op : BinOp) (a b : Value) :
    Follows L waits (Run.applyBinary r op a b) m (Run.applyBinary r' op a b) m' := by
  unfold Run.applyBinary
  refine enter .binary more alike fun f f' n n' below alike => ?_
  by_cases slow : (op.compares || !f.warm) = true
  · by_cases slow' : (op.compares || !f'.warm) = true
    · simp only [slow, slow', if_true]
      exact bind (reach below.room (Nat.le_refl 1) alike _) fun _ _ _ _ alike => check alike _
    · simp only [slow, slow', if_true, if_false, Bool.false_eq_true]
      exact reach_left (check alike _)
  · have fast : op.compares = false ∧ f.warm = true := by simpa using slow
    have fast' : (op.compares || !f'.warm) = false := by simp [fast.1, below.warm fast.2]
    simp only [slow, fast', if_false, Bool.false_eq_true]
    exact check alike _

theorem applyUnary (more : r ≤ r') (alike : Alike L waits m m') (a : Value) :
    Follows L waits (Run.applyUnary r a) m (Run.applyUnary r' a) m' := by
  unfold Run.applyUnary
  exact enter .unary more alike fun _ _ _ _ below alike =>
    bind (act (Act.Monotone.builtin .comparison) below alike) fun _ _ _ _ alike => check alike _

theorem times {x x' : Run ρ Unit} (step : ∀ n n', Alike L waits n n' → Follows L waits x n x' n')
    (count : Nat) (alike : Alike L waits m m') :
    Follows L waits (Run.times x count) m (Run.times x' count) m' := by
  induction count generalizing m m' with
  | zero => exact pure alike ()
  | succ count ih => exact bind (step m m' alike) fun _ _ _ _ alike => ih alike

end Follows

section Interpreter

variable {controls : Controls ρ}

mutual

theorem evalExpr_follows (monotone : controls.RoomMonotone L) (r : Nat) (e : Expr) :
    ∀ {r'}, r ≤ r' → ∀ {m m' : Machine ρ}, Alike L waits m m' →
    Follows L waits (evalExpr controls r e) m (evalExpr controls r' e) m' := by
  intro r' more m m' alike
  cases r with
  | zero =>
    rw [evalExpr]
    exact Follows.limit _
  | succ q =>
    obtain ⟨q', rfl⟩ : ∃ q', r' = q' + 1 := ⟨r' - 1, by omega⟩
    have less : q ≤ q' := by omega
    have tests : Follows L waits (typeTests .expression q) m (typeTests .expression q') m' :=
      Follows.typeTests .expression less alike
    cases e with
    | number lit =>
      simp only [evalExpr]
      exact Follows.bind tests fun _ _ _ _ alike => Follows.pure alike _
    | var name =>
      simp only [evalExpr]
      exact Follows.bind tests fun _ _ _ _ alike => Follows.lookup less alike name
    | binary op lhs rhs =>
      simp only [evalExpr]
      exact Follows.bind tests fun _ _ _ _ alike =>
        Follows.bind (evalExpr_follows monotone q lhs less alike) fun a _ _ _ alike =>
          Follows.bind (evalExpr_follows monotone q rhs less alike) fun b _ _ _ alike =>
            Follows.applyBinary less alike op a b
    | not operand =>
      simp only [evalExpr]
      exact Follows.bind tests fun _ _ _ _ alike =>
        Follows.bind (evalExpr_follows monotone q operand less alike) fun a _ _ _ alike =>
          Follows.applyUnary less alike a
    | call name args =>
      simp only [evalExpr]
      exact Follows.bind tests fun _ _ _ _ alike => callFunction_follows monotone q name args less alike
termination_by (r, 0)

theorem callFunction_follows (monotone : controls.RoomMonotone L) (r : Nat) (name : String)
    (args : List Expr) :
    ∀ {r'}, r ≤ r' → ∀ {m m' : Machine ρ}, Alike L waits m m' →
    Follows L waits (callFunction controls r name args) m (callFunction controls r' name args) m' := by
  intro r' more m m' alike
  cases r with
  | zero =>
    rw [callFunction]
    exact Follows.limit _
  | succ q =>
    obtain ⟨q', rfl⟩ : ∃ q', r' = q' + 1 := ⟨r' - 1, by omega⟩
    have less : q ≤ q' := by omega
    simp only [callFunction]
    refine Follows.ite _ (Follows.sensor .detect monotone.detect less alike name args)
      (Follows.ite _ (Follows.sensor .measure monotone.measure less alike name args) ?_)
    refine Follows.get_bind ?_
    rw [alike.functions]
    cases m.functions name with
    | none => exact Follows.raise less alike _
    | some f =>
      refine Follows.bind (Follows.reach less (Nat.le_refl 1) alike _) fun _ _ _ _ alike => ?_
      refine Follows.bind (Follows.reach less (Nat.le_refl 2) alike _) fun _ n n' _ caller => ?_
      refine Follows.get_bind ?_
      refine Follows.bind (Follows.modify caller.enter) fun _ _ _ _ entered => ?_
      refine Follows.bind (Follows.tryCatch ?_ (fun _ _ => rfl) ?_) fun v _ _ _ ended => ?_
      · exact Follows.bind (execBlock_follows monotone q f.body less entered) fun _ _ _ _ alike =>
          Follows.pure alike _
      · intro e _ _ _ alike
        cases e with
        | returned v => exact Follows.pure alike v
        | failed e => exact Follows.throw alike _
      · exact Follows.bind (Follows.modify (ended.leave caller.scope)) fun _ _ _ _ alike =>
          Follows.pure alike v
termination_by (r, 0)

theorem execBlock_follows (monotone : controls.RoomMonotone L) (r : Nat) (stmts : List Stmt) :
    ∀ {r'}, r ≤ r' → ∀ {m m' : Machine ρ}, Alike L waits m m' →
    Follows L waits (execBlock controls r stmts) m (execBlock controls r' stmts) m' := by
  intro r' more m m' alike
  cases r with
  | zero =>
    rw [execBlock]
    exact Follows.limit _
  | succ q =>
    obtain ⟨q', rfl⟩ : ∃ q', r' = q' + 1 := ⟨r' - 1, by omega⟩
    simp only [execBlock]
    exact execEach_follows monotone q stmts (by omega) alike
termination_by (r, 0)

theorem execEach_follows (monotone : controls.RoomMonotone L) (room : Nat) (stmts : List Stmt) :
    ∀ {room'}, room ≤ room' → ∀ {m m' : Machine ρ}, Alike L waits m m' →
    Follows L waits (execEach controls room stmts) m (execEach controls room' stmts) m' := by
  intro room' more m m' alike
  cases stmts with
  | nil =>
    simp only [execEach]
    exact Follows.pure alike ()
  | cons s rest =>
    simp only [execEach]
    exact Follows.bind (execStmt_follows monotone room s more alike) fun _ _ _ _ alike =>
      execEach_follows monotone room rest more alike
termination_by (room, stmts.length)

theorem execStmt_follows (monotone : controls.RoomMonotone L) (r : Nat) (s : Stmt) :
    ∀ {r'}, r ≤ r' → ∀ {m m' : Machine ρ}, Alike L waits m m' →
    Follows L waits (execStmt controls r s) m (execStmt controls r' s) m' := by
  intro r' more m m' alike
  cases r with
  | zero =>
    rw [execStmt]
    exact Follows.limit _
  | succ q =>
    obtain ⟨q', rfl⟩ : ∃ q', r' = q' + 1 := ⟨r' - 1, by omega⟩
    have less : q ≤ q' := by omega
    have tests : Follows L waits (typeTests .statement q) m (typeTests .statement q') m' :=
      Follows.typeTests .statement less alike
    cases s with
    | command cmd args =>
      simp only [execStmt]
      exact Follows.bind tests fun _ _ _ _ alike => execCommand_follows monotone q cmd args less alike
    | ifThen test thenBody elseBody =>
      cases elseBody with
      | none =>
        simp only [execStmt]
        exact Follows.bind tests fun _ _ _ _ alike =>
          Follows.bind (evalExpr_follows monotone q test less alike) fun _ _ _ _ alike =>
            Follows.ite _ (execBlock_follows monotone q thenBody less alike) (Follows.pure alike ())
      | some body =>
        simp only [execStmt]
        exact Follows.bind tests fun _ _ _ _ alike =>
          Follows.bind (evalExpr_follows monotone q test less alike) fun _ _ _ _ alike =>
            Follows.ite _ (execBlock_follows monotone q thenBody less alike)
              (execBlock_follows monotone q body less alike)
    | repeatTimes count body =>
      simp only [execStmt]
      exact Follows.bind tests fun _ _ _ _ alike =>
        Follows.bind (evalExpr_follows monotone q count less alike) fun v _ _ _ alike =>
          Follows.bind (Follows.check alike v.truncate) fun n _ _ _ alike =>
            Follows.times (fun _ _ alike =>
              Follows.bind (execBlock_follows monotone q body less alike) fun _ _ _ _ alike =>
                Follows.act_indifferent (.loop _) alike) n.toNat alike
    | call name args =>
      simp only [execStmt]
      exact Follows.bind tests fun _ _ _ _ alike =>
        Follows.bind (callFunction_follows monotone q name args less alike) fun _ _ _ _ alike =>
          Follows.pure alike ()
    | returnWith value =>
      simp only [execStmt]
      exact Follows.bind tests fun _ _ _ _ alike =>
        Follows.bind (evalExpr_follows monotone q value less alike) fun v _ _ _ alike =>
          Follows.bind (Follows.reach less (Nat.le_refl 1) alike _) fun _ _ _ _ alike =>
            Follows.bind (Follows.reach less (Nat.le_refl 2) alike _) fun _ _ _ _ alike =>
              Follows.throw alike _
termination_by (r, 0)

theorem execCommand_follows (monotone : controls.RoomMonotone L) (r : Nat) (cmd : Command)
    (args : List Expr) :
    ∀ {r'}, r ≤ r' → ∀ {m m' : Machine ρ}, Alike L waits m m' →
    Follows L waits (execCommand controls r cmd args) m (execCommand controls r' cmd args) m' := by
  intro r' more m m' alike
  cases r with
  | zero =>
    rw [execCommand]
    exact Follows.limit _
  | succ r =>
    cases r with
    | zero =>
      rw [execCommand]
      exact Follows.limit _
    | succ q =>
      obtain ⟨q', rfl⟩ : ∃ q', r' = q' + 2 := ⟨r' - 2, by omega⟩
      simp only [execCommand]
      exact Follows.bind (evalArgs_follows monotone q args (by omega) alike) fun vs _ _ _ alike =>
        Follows.act (monotone.command cmd vs) (by omega) alike
termination_by (r, 0)

theorem evalArgs_follows (monotone : controls.RoomMonotone L) (room : Nat) (args : List Expr) :
    ∀ {room'}, room ≤ room' → ∀ {m m' : Machine ρ}, Alike L waits m m' →
    Follows L waits (evalArgs controls room args) m (evalArgs controls room' args) m' := by
  intro room' more m m' alike
  cases args with
  | nil =>
    simp only [evalArgs]
    exact Follows.pure alike []
  | cons a rest =>
    simp only [evalArgs]
    exact Follows.bind (evalExpr_follows monotone room a more alike) fun v _ _ _ alike =>
      Follows.bind (evalArgs_follows monotone room rest more alike) fun vs _ _ _ alike =>
        Follows.pure alike (v :: vs)
termination_by (room, args.length)

end

/-- Running a program with more room, on alike machines. -/
theorem interpret_follows (monotone : controls.RoomMonotone L) {r r' : Nat} (more : r ≤ r')
    {m m' : Machine ρ} (alike : Alike L waits m m') (p : Program) :
    Follows L waits (interpret controls r p) m (interpret controls r' p) m' := by
  unfold interpret
  have less : r - 1 ≤ r' - 1 := by omega
  refine Follows.frame more alike fun n n' alike => ?_
  refine Follows.bind (Follows.modify (alike.registerAll p)) fun _ n n' _ alike =>
    Follows.get_bind ?_
  rw [alike.functions]
  by_cases missing : (n.functions "main").isNone = true
  · simp only [missing, if_true]
    exact Follows.raise_bind less alike _
  · simp only [missing, if_false, Bool.false_eq_true]
    exact Follows.bind (callFunction_follows monotone _ "main" [] less alike) fun _ _ _ _ alike =>
      Follows.pure alike ()

theorem executeNext_follows (monotone : controls.RoomMonotone L) {r r' : Nat} (more : r ≤ r')
    {m m' : Machine ρ} (alike : Alike L (· = ·) m m') :
    Follows L (· = ·) (executeNext controls r) m (executeNext controls r') m' := by
  unfold executeNext
  refine Follows.enter .next more alike fun f f' n n' below alike => Follows.get_bind ?_
  rw [← alike.pending]
  cases n.pending with
  | nil => exact Follows.pure alike ()
  | cons s rest =>
    exact Follows.bind (Follows.act (Act.Monotone.builtin .nativeCall) below alike)
      fun _ _ _ _ alike => Follows.bind (Follows.modify (alike.wait rfl)) fun _ _ _ _ alike =>
        execStmt_follows monotone _ s below.room alike

end Interpreter

end Run

end RoboScript
