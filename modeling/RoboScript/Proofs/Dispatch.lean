import RoboScript.Proofs.Outcomes
import RoboScript.Proofs.Recovery
import RoboScript.Proofs.Headroom

/-! Programs read from text name only what the interpreter knows. Statements, expressions and
operators are closed kinds, and a word becomes a command only when it is one of the dialect's
command words; the grammar builds a command only from such a word, and recovery from syntax
errors keeps a program made from some of the tokens. So every command of a program read in a
dialect is one of the dialect's, which the robot of that dialect answers, and running the
program never fails on an unknown command or operator. -/

namespace RoboScript

mutual

/-- The robot commands a statement issues, at any depth of its conditionals and loops. -/
def Stmt.commands : Stmt → List Command
  | .command c _ => [c]
  | .ifThen _ thenBody none => Stmt.commandsAll thenBody
  | .ifThen _ thenBody (some elseBody) => Stmt.commandsAll thenBody ++ Stmt.commandsAll elseBody
  | .repeatTimes _ body => Stmt.commandsAll body
  | .call _ _ | .returnWith _ => []

/-- The robot commands a list of statements issues. -/
def Stmt.commandsAll : List Stmt → List Command
  | [] => []
  | s :: rest => s.commands ++ Stmt.commandsAll rest

end

@[simp] theorem Stmt.commandsAll_append (ss ts : List Stmt) :
    Stmt.commandsAll (ss ++ ts) = Stmt.commandsAll ss ++ Stmt.commandsAll ts := by
  induction ss with
  | nil => rfl
  | cons s rest ih => simp [Stmt.commandsAll, ih]

/-- The robot commands a program's functions issue. -/
def Program.commands (p : Program) : List Command := p.functions.flatMap (Stmt.commandsAll ·.body)

/-- A failure on a name the interpreter does not know: a command, or an operator symbol. -/
def Error.UnknownName : Error → Prop
  | .unknownCommand _ | .unknownBinaryOperator _ | .unknownUnaryOperator _ => True
  | _ => False

/-! ### Scanning -/

theorem Dialect.classify_command {d : Dialect} {word : String} {c : Command}
    (classified : d.classify word = .command c) : c ∈ d.commands := by
  unfold Dialect.classify at classified
  iterate 5 (split at classified; · cases classified)
  split at classified
  · next found =>
    cases classified
    exact List.mem_of_find?_eq_some found
  · cases classified

theorem operatorAt_not_command {c : Char} {next : Option Char} {kind : TokenKind} {pair : Bool}
    (read : operatorAt c next = some (kind, pair)) (cmd : Command) : kind ≠ .command cmd := by
  unfold operatorAt at read
  split at read <;> cases read <;> nofun

/-- A token whose command, if it is one, is one of the dialect's. -/
def Token.Commands (d : Dialect) (t : Token) : Prop :=
  ∀ c, t.kind = .command c → c ∈ d.commands

theorem scanFrom_commands {d : Dialect} {cs : List Char} {cur : Cursor} {acc : List Lexeme}
    (before : ∀ t, Lexeme.token t ∈ acc → t.Commands d) :
    ∀ t ∈ (scanFrom d cs cur acc).tokens, t.Commands d := by
  fun_induction scanFrom d cs cur acc with
  | case1 | case5 =>
    intro t read
    obtain ⟨l, listed, found⟩ := List.mem_filterMap.1 read
    cases l with
    | token t' =>
      cases found
      exact before t (List.mem_reverse.1 listed)
    | illegal => cases found
  | case2 _ _ _ _ _ ih | case3 _ _ _ _ _ ih => exact ih before
  | case4 _ _ _ _ _ _ _ _ _ _ ih =>
    refine ih fun t listed => ?_
    rcases List.mem_cons.1 listed with named | earlier
    · cases named
      exact fun c classified => Dialect.classify_command classified
    · exact before t earlier
  | case6 _ _ _ _ _ _ _ _ _ _ _ _ _ _ _ _ _ ih =>
    refine ih fun t listed => ?_
    rcases List.mem_cons.1 listed with numeral | earlier
    · cases numeral
      exact fun c => nofun
    · exact before t earlier
  | case7 _ _ _ _ _ _ _ _ _ _ op _ _ _ ih =>
    refine ih fun t listed => ?_
    rcases List.mem_cons.1 listed with operator | earlier
    · cases operator
      exact fun c is => absurd is (operatorAt_not_command op c)
    · exact before t earlier
  | case8 _ _ _ _ _ _ _ _ _ ih =>
    exact ih fun t listed => by
      rcases List.mem_cons.1 listed with illegal | earlier
      · cases illegal
      · exact before t earlier

theorem scan_commands (d : Dialect) (source : String) :
    ∀ t ∈ (Token.scan d source).tokens, t.Commands d :=
  scanFrom_commands fun _ listed => by cases listed

/-! ### Reading -/

namespace Grammar

section Derivations

variable {E : List Token → Expr → Prop} {A : List Token → List Expr → Prop}

mutual

theorem Statement.commands_written :
    ∀ {ts : List Token} {s : Stmt}, Statement E A ts s →
      ∀ c ∈ s.commands, ∃ t ∈ ts, t.kind = .command c
  | _, _, .command word _ _ _ _ => by
    intro c issued
    simp only [Stmt.commands, List.mem_singleton] at issued
    subst issued
    exact ⟨_, List.mem_cons_self, word⟩
  | _, _, .ifThen _ _ _ _ _ body _ => by
    intro c issued
    obtain ⟨t, written, kind⟩ := Statements.commands_written body c issued
    exact ⟨t, by simp [written], kind⟩
  | _, _, .ifElse _ _ _ _ _ body _ _ _ other _ => by
    intro c issued
    simp only [Stmt.commands, List.mem_append] at issued
    rcases issued with issued | issued
    · obtain ⟨t, written, kind⟩ := Statements.commands_written body c issued
      exact ⟨t, by simp [written], kind⟩
    · obtain ⟨t, written, kind⟩ := Statements.commands_written other c issued
      exact ⟨t, by simp [written], kind⟩
  | _, _, .repeatTimes _ _ _ _ _ body _ => by
    intro c issued
    obtain ⟨t, written, kind⟩ := Statements.commands_written body c issued
    exact ⟨t, by simp [written], kind⟩
  | _, _, .call .. | _, _, .returnWith .. => by
    intro c issued
    simp [Stmt.commands] at issued

theorem Statements.commands_written :
    ∀ {ts : List Token} {ss : List Stmt}, Statements E A ts ss →
      ∀ c ∈ Stmt.commandsAll ss, ∃ t ∈ ts, t.kind = .command c
  | _, _, .nil => by
    intro c issued
    simp [Stmt.commandsAll] at issued
  | _, _, .snoc first last => by
    intro c issued
    simp only [Stmt.commandsAll_append, Stmt.commandsAll,
      List.append_nil, List.mem_append] at issued
    rcases issued with issued | issued
    · obtain ⟨t, written, kind⟩ := Statements.commands_written first c issued
      exact ⟨t, List.mem_append_left _ written, kind⟩
    · obtain ⟨t, written, kind⟩ := Statement.commands_written last c issued
      exact ⟨t, List.mem_append_right _ written, kind⟩

end

theorem Definitions.commands_written {ts : List Token} {fs : List FunDef}
    (derived : Definitions E A ts fs) :
    ∀ f ∈ fs, ∀ c ∈ Stmt.commandsAll f.body, ∃ t ∈ ts, t.kind = .command c := by
  have single : ∀ {us f}, Definition E A us f →
      ∀ c ∈ Stmt.commandsAll f.body, ∃ t ∈ us, t.kind = .command c := by
    intro us f defined c issued
    cases defined with
    | mk _ _ _ _ _ body _ =>
      obtain ⟨t, written, kind⟩ := Statements.commands_written body c issued
      exact ⟨t, by simp [written], kind⟩
  induction derived with
  | single defined =>
    intro f listed
    rw [List.mem_singleton.1 listed]
    exact single defined
  | snoc _ defined ih =>
    intro f listed c issued
    rcases List.mem_append.1 listed with earlier | last
    · obtain ⟨t, written, kind⟩ := ih f earlier c issued
      exact ⟨t, List.mem_append_left _ written, kind⟩
    · rw [List.mem_singleton.1 last] at issued
      obtain ⟨t, written, kind⟩ := single defined c issued
      exact ⟨t, List.mem_append_right _ written, kind⟩

end Derivations

theorem Derives.commands_written {ts : List Token} {p : Program} (derived : Derives ts p) :
    ∀ c ∈ p.commands, ∃ t ∈ ts, t.kind = .command c := by
  intro c issued
  obtain ⟨f, listed, issued⟩ := List.mem_flatMap.1 issued
  exact Definitions.commands_written derived f listed c issued

theorem Recovery.derived_suffix {quiet index : Nat} {ts : List Token} {p : Program}
    {errors : List SyntaxError} (recovered : Recovery quiet index ts (some p, errors)) :
    ∃ us, us <:+ ts ∧ Derives us p := by
  generalize found : (some p, errors) = r at recovered
  induction recovered generalizing errors with
  | clean derived =>
    cases found
    exact ⟨_, List.suffix_refl _, derived⟩
  | atEnd => cases found
  | atToken parts _ _ _ ih =>
    cases found
    obtain ⟨us, suffix, derived⟩ := ih rfl
    rw [parts]
    exact ⟨us, suffix.trans ((List.suffix_cons _ _).trans (List.suffix_append _ _)), derived⟩

end Grammar

/-- Every command of a program read in a dialect is one of the dialect's commands. -/
theorem Program.read_commands {d : Dialect} {source : String} {r : Reading} {p : Program}
    (read : Program.read d source = .ok r) (parsed : p ∈ r.program) :
    ∀ c ∈ p.commands, c ∈ d.commands := by
  unfold Program.read at read
  dsimp only at read
  split at read
  · cases read
  · cases read
    have recovered := Grammar.recover_recovery 0 0 (Token.scan d source).tokens
    rw [Option.mem_def] at parsed
    rcases found : Program.recover 0 0 (Token.scan d source).tokens with ⟨program, errors⟩
    rw [found] at recovered parsed
    dsimp only at parsed
    subst parsed
    obtain ⟨us, suffix, derived⟩ := Grammar.Recovery.derived_suffix recovered
    intro c issued
    obtain ⟨t, written, kind⟩ := derived.commands_written c issued
    exact scan_commands d source t (suffix.subset written) c kind

/-! ### Running -/

namespace Run

variable {ρ : Type} {controls : Controls ρ} {fs : String → Option FunDef} {cs : List Command}
  {levels : Nat}

/-- The failures a run may end with: any but one on an unknown name. -/
def Known (e : Error) : Prop := ¬e.UnknownName

theorem known_of_ordinary (e : Error) (ordinary : e.Ordinary) : Known e := by
  intro unknown
  cases e <;> simp [Error.UnknownName, Error.Ordinary] at unknown ordinary

theorem roomy_known (room n : Nat) : Roomy Known room n := .inr fun _ limit => limit

/-- A robot that answers the commands `cs`, while the registered functions `fs` issue only
those. -/
structure Answering (controls : Controls ρ) (fs : String → Option FunDef) (cs : List Command) :
    Prop where
  robot : ∃ levels, controls.FailsOnly Known levels (· ∈ cs)
  registered : ∀ name f, fs name = some f → ∀ c ∈ Stmt.commandsAll f.body, c ∈ cs

theorem Answering.command (answering : Answering controls fs cs) (room : Nat) {c : Command}
    (answered : c ∈ cs) (args : List Value) :
      Act.FailsOnly Known (controls.command room c args) :=
  answering.robot.elim fun _ fails => fails.command room c args answered (roomy_known _ _)

theorem Answering.detect (answering : Answering controls fs cs) (room : Nat) :
    Act.FailsOnly Known (controls.detect room) :=
  answering.robot.elim fun _ fails => fails.detect room (roomy_known _ _)

theorem Answering.measure (answering : Answering controls fs cs) (room : Nat) :
    Act.FailsOnly Known (controls.measure room) :=
  answering.robot.elim fun _ fails => fails.measure room (roomy_known _ _)

section Interpreter

mutual

theorem evalExpr_known (answering : Answering controls fs cs) (r : Nat) (e : Expr) :
    EndsOnly fs Known (evalExpr controls r e) := by
  cases r with
  | zero =>
    rw [evalExpr]
    exact EndsOnly.fail nofun
  | succ q =>
    have tests : EndsOnly fs Known (typeTests .expression q : Run ρ Unit) :=
      EndsOnly.typeTests (roomy_known _ _) _
    cases e with
    | number lit =>
      simp only [evalExpr]
      exact EndsOnly.bind tests fun _ => EndsOnly.pure _
    | var name =>
      simp only [evalExpr]
      exact EndsOnly.bind tests fun _ =>
        EndsOnly.lookup known_of_ordinary (roomy_known _ _) name
    | binary op lhs rhs =>
      simp only [evalExpr]
      exact EndsOnly.bind tests fun _ => EndsOnly.bind (evalExpr_known answering q lhs) fun a =>
        EndsOnly.bind (evalExpr_known answering q rhs) fun b =>
          EndsOnly.applyBinary known_of_ordinary (roomy_known _ _) op a b
    | not operand =>
      simp only [evalExpr]
      exact EndsOnly.bind tests fun _ =>
        EndsOnly.bind (evalExpr_known answering q operand) fun a =>
          EndsOnly.applyUnary (roomy_known _ _) a
    | call name args =>
      simp only [evalExpr]
      exact EndsOnly.bind tests fun _ => callFunction_known answering q name args
termination_by (r, 0)

theorem callFunction_known (answering : Answering controls fs cs) (r : Nat) (name : String)
    (args : List Expr) : EndsOnly fs Known (callFunction controls r name args) := by
  cases r with
  | zero =>
    rw [callFunction]
    exact EndsOnly.fail nofun
  | succ q =>
    simp only [callFunction]
    refine EndsOnly.ite _
      (EndsOnly.sensor known_of_ordinary (roomy_known _ _) (answering.detect _) _ name args)
      (EndsOnly.ite _
        (EndsOnly.sensor known_of_ordinary (roomy_known _ _) (answering.measure _) _ name args)
        (EndsOnly.get_bind fun m found _ => ?_))
    cases defined : m.functions name with
    | none => exact EndsOnly.raise (roomy_known _ _) nofun
    | some f =>
      have issued := answering.registered name f (found ▸ defined)
      exact userCall_endsOnly (roomy_known _ _) (fun _ => rfl) (fun _ => rfl)
        (execBlock_known answering q f.body issued)
termination_by (r, 0)

theorem execBlock_known (answering : Answering controls fs cs) (r : Nat) (stmts : List Stmt)
    (issued : ∀ c ∈ Stmt.commandsAll stmts, c ∈ cs) :
    EndsOnly fs Known (execBlock controls r stmts) := by
  cases r with
  | zero =>
    rw [execBlock]
    exact EndsOnly.fail nofun
  | succ q =>
    simp only [execBlock]
    exact execEach_known answering q stmts issued
termination_by (r, 0)

theorem execEach_known (answering : Answering controls fs cs) (room : Nat) (stmts : List Stmt)
    (issued : ∀ c ∈ Stmt.commandsAll stmts, c ∈ cs) :
    EndsOnly fs Known (execEach controls room stmts) := by
  cases stmts with
  | nil =>
    simp only [execEach]
    exact EndsOnly.pure ()
  | cons s rest =>
    simp only [Stmt.commandsAll, List.mem_append] at issued
    simp only [execEach]
    exact EndsOnly.bind (execStmt_known answering room s fun c first => issued c (.inl first))
      fun _ => execEach_known answering room rest fun c later => issued c (.inr later)
termination_by (room, stmts.length)

theorem execStmt_known (answering : Answering controls fs cs) (r : Nat) (s : Stmt)
    (issued : ∀ c ∈ s.commands, c ∈ cs) : EndsOnly fs Known (execStmt controls r s) := by
  cases r with
  | zero =>
    rw [execStmt]
    exact EndsOnly.fail nofun
  | succ q =>
    have tests : EndsOnly fs Known (typeTests .statement q : Run ρ Unit) :=
      EndsOnly.typeTests (roomy_known _ _) _
    cases s with
    | command cmd args =>
      simp only [execStmt]
      exact EndsOnly.bind tests fun _ =>
        execCommand_known answering q cmd args (issued cmd (List.mem_singleton_self _))
    | ifThen test thenBody elseBody =>
      cases elseBody with
      | none =>
        simp only [execStmt]
        exact EndsOnly.bind tests fun _ => EndsOnly.bind (evalExpr_known answering q test) fun _ =>
          EndsOnly.ite _ (execBlock_known answering q thenBody issued) (EndsOnly.pure ())
      | some body =>
        simp only [Stmt.commands, List.mem_append] at issued
        simp only [execStmt]
        exact EndsOnly.bind tests fun _ => EndsOnly.bind (evalExpr_known answering q test) fun _ =>
          EndsOnly.ite _ (execBlock_known answering q thenBody fun c first => issued c (.inl first))
            (execBlock_known answering q body fun c other => issued c (.inr other))
    | repeatTimes count body =>
      simp only [execStmt]
      have round := EndsOnly.bind (execBlock_known answering q body issued) fun _ =>
        EndsOnly.act (Act.FailsOnly.loop .statement)
      exact EndsOnly.bind tests fun _ => EndsOnly.bind (evalExpr_known answering q count) fun v =>
        EndsOnly.bind (EndsOnly.check known_of_ordinary (Value.truncate_computed v)) fun n =>
          EndsOnly.times round n.toNat
    | call name args =>
      simp only [execStmt]
      exact EndsOnly.bind tests fun _ =>
        EndsOnly.bind (callFunction_known answering q name args) fun _ => EndsOnly.pure ()
    | returnWith value =>
      simp only [execStmt]
      exact EndsOnly.bind tests fun _ => EndsOnly.bind (evalExpr_known answering q value) fun _ =>
        EndsOnly.bind (EndsOnly.reach (roomy_known _ _) _) fun _ =>
          EndsOnly.bind (EndsOnly.reach (roomy_known _ _) _) fun _ =>
            EndsOnly.throw fun _ returned => by cases returned
termination_by (r, 0)

theorem execCommand_known (answering : Answering controls fs cs) (r : Nat) (cmd : Command)
    (args : List Expr) (issued : cmd ∈ cs) :
      EndsOnly fs Known (execCommand controls r cmd args) := by
  cases r with
  | zero =>
    rw [execCommand]
    exact EndsOnly.fail nofun
  | succ r =>
    cases r with
    | zero =>
      rw [execCommand]
      exact EndsOnly.fail nofun
    | succ q =>
      simp only [execCommand]
      exact EndsOnly.bind (evalArgs_known answering q args) fun vs =>
        EndsOnly.act (answering.command _ issued vs)
termination_by (r, 0)

theorem evalArgs_known (answering : Answering controls fs cs) (room : Nat) (args : List Expr) :
    EndsOnly fs Known (evalArgs controls room args) := by
  cases args with
  | nil =>
    simp only [evalArgs]
    exact EndsOnly.pure []
  | cons a rest =>
    simp only [evalArgs]
    exact EndsOnly.bind (evalExpr_known answering room a) fun v =>
      EndsOnly.bind (evalArgs_known answering room rest) fun vs => EndsOnly.pure (v :: vs)
termination_by (room, args.length)

end

end Interpreter

/-- Run from a fresh interpreter, a program whose commands the robot answers fails only on
known names. -/
theorem interpret_known {p : Program} (robot : controls.FailsOnly Known levels (· ∈ cs))
    (issued : ∀ c ∈ p.commands, c ∈ cs) (room : Nat) (scene : Scene ρ)
    (globals : String → Option Value) :
    ∀ e, (go (interpret controls room p) { scene, globals }).1 =
      .error (.failed e) → Known e := by
  refine interpret_failsOnly known_of_ordinary (roomy_known _ _) (.inl rfl) ?_
  refine callFunction_known ⟨⟨levels, robot⟩, ?_⟩ _ _ _
  intro name f found c inside
  rw [Machine.registerAll_eq] at found
  simp only [Option.or_none] at found
  have listed := (List.mem_filter.1 (List.mem_of_getLast? found)).1
  exact issued c (List.mem_flatMap.2 ⟨f, listed, inside⟩)

end Run

/-- Every command of a program read from any text in either dialect is a command of that
dialect, and a run of the program on that dialect's robot, from a fresh interpreter with any
scene and global bindings and with any room, never fails on an unknown command or operator. -/
theorem parsed_programs_meet_no_unknown_name (source : String) :
    (∀ r, Program.read .classic source = .ok r → ∀ p ∈ r.program,
      (∀ c ∈ p.commands, c ∈ Dialect.classic.commands) ∧
      ∀ room (scene : Scene Robot.Classic) globals e,
        (Run.go (Run.interpret Robot.Classic.controls room p) { scene, globals }).1 =
          .error (.failed e) → ¬e.UnknownName) ∧
    (∀ r, Program.read .queued source = .ok r → ∀ p ∈ r.program,
      (∀ c ∈ p.commands, c ∈ Dialect.queued.commands) ∧
      ∀ room (scene : Scene Robot.Queued) globals e,
        (Run.go (Run.interpret Robot.Queued.controls room p) { scene, globals }).1 =
          .error (.failed e) → ¬e.UnknownName) := by
  refine ⟨fun r read p parsed => ?_, fun r read p parsed => ?_⟩
  · have issued := Program.read_commands read parsed
    exact ⟨issued, Run.interpret_known
      ((Robot.Classic.controls_failsOnly Run.known_of_ordinary).restrict fun _ _ => trivial)
      issued⟩
  · have issued := Program.read_commands read parsed
    exact ⟨issued, Run.interpret_known
      (Robot.Queued.controls_failsOnly Run.known_of_ordinary) issued⟩

theorem Program.read_yields (d : Dialect) (source : String)
    (yields : ((Program.read d source).toOption.bind (·.program)).isSome) :
    ∃ r, Program.read d source = .ok r ∧ ∃ p, r.program = some p := by
  cases read : Program.read d source with
  | error e => simp [read, Except.toOption] at yields
  | ok r =>
    cases parsed : r.program with
    | none => simp [read, parsed, Except.toOption] at yields
    | some p => exact ⟨r, rfl, p, parsed⟩

/-- A text that picks the object up and turns is read in both dialects, as a command of the
classic one and a call of an undefined function in the queued one, and neither run meets an
unknown name. -/
theorem picking_program_meets_no_unknown_name :
    let source := "function main() { pickUpObject(); turnLeft(90); }"
    (∃ r, Program.read .classic source = .ok r ∧ ∃ p ∈ r.program,
      (∀ c ∈ p.commands, c ∈ Dialect.classic.commands) ∧
      ∀ room (scene : Scene Robot.Classic) globals e,
        (Run.go (Run.interpret Robot.Classic.controls room p) { scene, globals }).1 =
          .error (.failed e) → ¬e.UnknownName) ∧
    (∃ r, Program.read .queued source = .ok r ∧ ∃ p ∈ r.program,
      (∀ c ∈ p.commands, c ∈ Dialect.queued.commands) ∧
      ∀ room (scene : Scene Robot.Queued) globals e,
        (Run.go (Run.interpret Robot.Queued.controls room p) { scene, globals }).1 =
          .error (.failed e) → ¬e.UnknownName) := by
  intro source
  obtain ⟨r, read, p, parsed⟩ := Program.read_yields .classic source (by decide +kernel)
  obtain ⟨r', read', p', parsed'⟩ := Program.read_yields .queued source (by decide +kernel)
  exact ⟨⟨r, read, p, parsed, (parsed_programs_meet_no_unknown_name source).1 r read p parsed⟩,
    ⟨r', read', p', parsed', (parsed_programs_meet_no_unknown_name source).2 r' read' p' parsed'⟩⟩

end RoboScript
