import RoboScript.Proofs.Confined

/-! Two kinds of robot running one program. Where the second robot answers each command of both
dialects as the first one does, up to a correspondence of their scenes, and reads the obstacle
sensor alike, the interpreter runs a program that never reads the distance sensor alike on both:
the same value or signal at the end, the same bindings, functions, scope and waiting statements,
and corresponding scenes. This is claimed when the first run does not run out of room and the
second ends on a scene of a kind its steps only take away from, as a queue whose actions all
convert to doubles is: an action once queued stays. The proof follows the interpreter's own
recursion, as the proof that more room changes nothing does, with one rule for each operation
of the machine. -/

namespace RoboScript

/-- An expression that never reads the distance sensor: it calls it nowhere it is evaluated, and
a call's arguments are never evaluated. -/
def Expr.unmeasured : Expr → Bool
  | .number _ | .var _ => true
  | .call name _ => name != Run.measureName
  | .binary _ lhs rhs => lhs.unmeasured && rhs.unmeasured
  | .not operand => operand.unmeasured

mutual

/-- A statement both dialects run alike: its commands are the queued dialect's, and it never
reads the distance sensor. -/
def Stmt.portable : Stmt → Bool
  | .command cmd args => decide (cmd ∈ Dialect.queued.commands) && args.all Expr.unmeasured
  | .ifThen test thenBody none => test.unmeasured && Stmt.allPortable thenBody
  | .ifThen test thenBody (some elseBody) =>
    test.unmeasured && Stmt.allPortable thenBody && Stmt.allPortable elseBody
  | .repeatTimes count body => count.unmeasured && Stmt.allPortable body
  | .call name _ => name != Run.measureName
  | .returnWith value => value.unmeasured

/-- Whether every statement of a list is portable. -/
def Stmt.allPortable : List Stmt → Bool
  | [] => true
  | s :: rest => s.portable && Stmt.allPortable rest

end

/-- A program all of whose functions are portable. -/
def Program.portable (p : Program) : Bool := p.functions.all (Stmt.allPortable ·.body)

/-- The interpreter's own functions, which both robots enter alike while they run one program;
each robot's answers enter functions of its own. -/
def Code.Interpreted : Code → Prop
  | .statement | .expression | .binary | .unary | .detect | .measure => True
  | _ => False

/-- How the scenes of two kinds of robot correspond while they run one program. -/
structure Pairing (ρ σ : Type) where
  /-- Corresponding scenes. -/
  rel : Scene ρ → Scene σ → Prop
  /-- Printing a line on both keeps them corresponding. -/
  print : ∀ {c q} line, rel c q →
    rel { c with log := { c.log with lines := c.log.lines.push line } }
      { q with log := { q.log with lines := q.log.lines.push line } }
  /-- Entering one of the interpreter's functions on both keeps them corresponding. -/
  count : ∀ {c q} (code : Code), code.Interpreted → rel c q → rel (c.count code) (q.count code)
  /-- The second has entered each of the interpreter's functions at least as often. -/
  entered : ∀ {c q} (code : Code), code.Interpreted → rel c q → c.entered code ≤ q.entered code
  /-- What the second robot's steps do to its scene. -/
  grows : Allowance σ
  /-- The scenes of the second robot the correspondence is claimed for; its steps only take away
  from them. -/
  good : Scene σ → Prop
  good_of_moves : ∀ {q q'}, grows.moves q q' → good q' → good q

variable {ρ σ α β : Type} {P : Pairing ρ σ}

theorem Pairing.warm (P : Pairing ρ σ) {c : Scene ρ} {q : Scene σ} (related : P.rel c q)
    {code : Code} (interpreted : code.Interpreted) :
    decide (warmUp ≤ c.entered code + 1) = true → decide (warmUp ≤ q.entered code + 1) = true := by
  have more := P.entered code interpreted related
  simp only [decide_eq_true_eq]
  omega

theorem Frame.Below.warmer {r : Nat} {w w' : Bool} (warm : w = true → w' = true) :
    Frame.Below ⟨r, w⟩ ⟨r, w'⟩ :=
  ⟨Nat.le_refl r, warm⟩

namespace Act

/-- A step of each robot from corresponding scenes that, unless the first runs out of room, ends
on both with the same value or failure on corresponding scenes. -/
def Agrees (P : Pairing ρ σ) (a : Act ρ α) (c : Scene ρ) (a' : Act σ α) (q : Scene σ) : Prop :=
  Fits (go a c).1 → (go a' q).1 = (go a c).1 ∧ P.rel (go a c).2 (go a' q).2

/-- A step of each robot from corresponding scenes that agrees whenever the second ends on a scene
the correspondence is claimed for. -/
def Mirrors (P : Pairing ρ σ) (a : Act ρ α) (c : Scene ρ) (a' : Act σ α) (q : Scene σ) : Prop :=
  Fits (go a c).1 → P.good (go a' q).2 → (go a' q).1 = (go a c).1 ∧ P.rel (go a c).2 (go a' q).2

theorem Agrees.mirrors {a : Act ρ α} {a' : Act σ α} {c : Scene ρ} {q : Scene σ}
    (agrees : Agrees P a c a' q) : Mirrors P a c a' q :=
  fun fits _ => agrees fits

theorem Agrees.still {a : Act ρ α} {a' : Act σ α} (kept : Still a) (kept' : Still a')
    (same : ∀ c q, (go a' q).1 = (go a c).1) {c : Scene ρ} {q : Scene σ} (related : P.rel c q) :
    Agrees P a c a' q := by
  intro _
  rw [kept c, kept' q]
  exact ⟨same c q, related⟩

theorem go_shown (room : Nat) (v : Value) (s : Scene ρ) :
    go (shown room v) s =
      (match v with
        | .int _ => if 1 ≤ room then v.text else .error (.recursionLimit .text)
        | _ =>
          if 1 ≤ room then (if 2 ≤ room then v.text else .error (.recursionLimit .text))
          else .error (.recursionLimit .nativeCall), s) := by
  unfold shown
  by_cases one : 1 ≤ room
  · by_cases two : 2 ≤ room
    · cases v <;> simp only [go_bind, go_reach, go_ofExcept, one, two, if_true]
    · cases v <;> simp only [go_bind, go_reach, go_ofExcept, one, two, if_true, if_false]
  · cases v <;> simp only [go_bind, go_reach, one, if_false]

theorem Agrees.reach {c : Scene ρ} {q : Scene σ} (related : P.rel c q) (room depth : Nat)
    (kind : Nesting) : Agrees P (Act.reach room depth kind) c (Act.reach room depth kind) q :=
  still (Still.reach _ _ _) (Still.reach _ _ _)
    (fun c q => by rw [go_reach, go_reach]; split <;> rfl) related

theorem Agrees.frame {c : Scene ρ} {q : Scene σ} (related : P.rel c q) (room : Nat) :
    Agrees P (Act.frame room) c (Act.frame room) q :=
  still (fun s => by rw [go_frame]; split <;> rfl) (fun s => by rw [go_frame]; split <;> rfl)
    (fun c q => by rw [go_frame, go_frame]; split <;> rfl) related

theorem Agrees.shown {c : Scene ρ} {q : Scene σ} (related : P.rel c q) (room : Nat) (v : Value) :
    Agrees P (Act.shown room v) c (Act.shown room v) q :=
  still (go_shown_scene room v) (go_shown_scene room v)
    (fun c q => by rw [go_shown, go_shown]) related

theorem Agrees.say {f f' : Frame} (below : f ≤ f') {c : Scene ρ} {q : Scene σ}
    (related : P.rel c q) (line : String) : Agrees P (Act.say f line) c (Act.say f' line) q := by
  intro fits
  rw [go_say] at fits
  rw [go_say, go_say]
  by_cases fit : (if f.warm then 1 else 2) ≤ f.room
  · rw [if_pos fit, if_pos (below.print fit)]
    exact ⟨rfl, P.print line related⟩
  · rw [if_neg fit] at fits
    exact fits.elim

theorem Agrees.builtin {f f' : Frame} (below : f ≤ f') {c : Scene ρ} {q : Scene σ}
    (related : P.rel c q) (kind : Nesting) :
    Agrees P (Act.builtin f kind) c (Act.builtin f' kind) q := by
  intro fits
  rw [go_builtin] at fits
  rw [go_builtin, go_builtin]
  by_cases fit : f.warm ∨ 1 ≤ f.room
  · have fit' : f'.warm ∨ 1 ≤ f'.room := by
      rcases fit with warm | room
      · exact .inl (below.warm warm)
      · exact .inr (Nat.le_trans room below.room)
    rw [if_pos fit, if_pos fit']
    exact ⟨rfl, related⟩
  · rw [if_neg fit] at fits
    exact fits.elim

theorem Agrees.loop {code : Code} (interpreted : code.Interpreted) {c : Scene ρ} {q : Scene σ}
    (related : P.rel c q) : Agrees P (Act.loop code) c (Act.loop code) q :=
  fun _ => ⟨rfl, P.count code interpreted related⟩

end Act

/-- How two kinds of robot answer alike, from corresponding scenes: the commands of both
dialects whenever the second's scene is claimed for, and the obstacle sensor always; the second's
answers change its scene only as the pairing allows. A command is given two levels, or no
arguments at all, since arguments are gathered a level below it. -/
structure Controls.Mirror (P : Pairing ρ σ) (controls : Controls ρ) (controls' : Controls σ) :
    Prop where
  command : ∀ room cmd vs, cmd ∈ Dialect.queued.commands → (2 ≤ room ∨ vs = []) → ∀ {c q},
    P.rel c q → Act.Mirrors P (controls.command room cmd vs) c (controls'.command room cmd vs) q
  detect : ∀ room {c q}, P.rel c q → Act.Agrees P (controls.detect room) c (controls'.detect room) q
  allowed : controls'.Allowed P.grows

namespace Machine

/-- Two machines running one program on different robots: the same bindings, functions, scope
and waiting statements, corresponding scenes, and only portable functions registered. -/
structure Mirror (P : Pairing ρ σ) (m : Machine ρ) (m' : Machine σ) : Prop where
  scene : P.rel m.scene m'.scene
  globals : m'.globals = m.globals
  functions : m'.functions = m.functions
  scope : m'.scope = m.scope
  pending : m'.pending = m.pending
  portable : ∀ name f, m.functions name = some f → Stmt.allPortable f.body = true

theorem Mirror.enter {m : Machine ρ} {m' : Machine σ} (mirror : Mirror P m m') (scope : Scope) :
    Mirror P { m with scope } { m' with scope } :=
  ⟨mirror.scene, mirror.globals, mirror.functions, rfl, mirror.pending, mirror.portable⟩

theorem Mirror.count {m : Machine ρ} {m' : Machine σ} (mirror : Mirror P m m') {code : Code}
    (interpreted : code.Interpreted) :
    Mirror P { m with scene := m.scene.count code } { m' with scene := m'.scene.count code } :=
  ⟨P.count code interpreted mirror.scene, mirror.globals, mirror.functions, mirror.scope,
    mirror.pending, mirror.portable⟩

theorem Mirror.registerAll {m : Machine ρ} {m' : Machine σ} (mirror : Mirror P m m') {p : Program}
    (portable : p.portable = true) : Mirror P (m.registerAll p) (m'.registerAll p) := by
  rw [registerAll_eq, registerAll_eq]
  refine ⟨mirror.scene, mirror.globals, by rw [mirror.functions], mirror.scope, mirror.pending, ?_⟩
  intro name f found
  dsimp only at found
  cases last : (p.functions.filter (·.name == name)).getLast? with
  | none =>
    rw [last] at found
    exact mirror.portable name f found
  | some g =>
    rw [last] at found
    cases found
    have registered := (List.mem_filter.1 (List.mem_of_getLast? last)).1
    exact List.all_eq_true.1 portable f registered

end Machine

namespace Run

open Machine (Mirror)

/-- The runs of `x` on the first robot and `x'` on the second agree: unless the first ran out of
room, both end with the same value or signal on mirroring machines. -/
def Agrees (P : Pairing ρ σ) (x : Run ρ α) (m : Machine ρ) (x' : Run σ α) (m' : Machine σ) :
    Prop :=
  Fits (go x m).1 → (go x' m').1 = (go x m).1 ∧ Mirror P (go x m).2 (go x' m').2

/-- The run of `x'` on the second robot mirrors that of `x` on the first: they agree whenever the
second ends on a scene the correspondence is claimed for. -/
def Mirrors (P : Pairing ρ σ) (x : Run ρ α) (m : Machine ρ) (x' : Run σ α) (m' : Machine σ) :
    Prop :=
  Fits (go x m).1 → P.good (go x' m').2.scene →
    (go x' m').1 = (go x m).1 ∧ Mirror P (go x m).2 (go x' m').2

variable {m : Machine ρ} {m' : Machine σ}

theorem Agrees.mirrors {x : Run ρ α} {x' : Run σ α} (agrees : Agrees P x m x' m') :
    Mirrors P x m x' m' :=
  fun fits _ => agrees fits

theorem good_of_bind {x' : Run σ α} {f' : α → Run σ β} (confined : ∀ a, Confined P.grows (f' a))
    (good : P.good (go (x' >>= f') m').2.scene) : P.good (go x' m').2.scene := by
  rcases ran : go x' m' with ⟨e | a, n'⟩
  · rw [go_bind_error ran] at good
    exact good
  · rw [go_bind_ok ran] at good
    exact P.good_of_moves (confined a n').2 good

namespace Agrees

theorem of_limit {x : Run ρ α} {x' : Run σ α} {n : Machine ρ} {kind : Nesting}
    (limit : go x m = (.error (.failed (.recursionLimit kind)), n)) : Agrees P x m x' m' := by
  intro fits
  rw [limit] at fits
  exact fits.elim

theorem pure (mirror : Mirror P m m') (a : α) : Agrees P (Pure.pure a) m (Pure.pure a) m' :=
  fun _ => ⟨rfl, mirror⟩

theorem throw (mirror : Mirror P m m') (e : Signal) :
    Agrees P (MonadExcept.throw e : Run ρ α) m (MonadExcept.throw e) m' :=
  fun _ => ⟨rfl, mirror⟩

theorem bind {x : Run ρ α} {x' : Run σ α} {f : α → Run ρ β} {f' : α → Run σ β}
    (first : Agrees P x m x' m')
    (rest : ∀ a n n', go x m = (.ok a, n) → Mirror P n n' → Agrees P (f a) n (f' a) n') :
    Agrees P (x >>= f) m (x' >>= f') m' := by
  intro fits
  rcases ran : go x m with ⟨e | a, n⟩
  · rw [go_bind_error ran] at fits ⊢
    obtain ⟨same, mirror⟩ := first (by rw [ran]; exact fits.error)
    rw [ran] at same mirror
    rw [go_bind_error (show go x' m' = (.error e, (go x' m').2) from Prod.ext same rfl)]
    exact ⟨rfl, mirror⟩
  · rw [go_bind_ok ran] at fits ⊢
    obtain ⟨same, mirror⟩ := first (by rw [ran]; trivial)
    rw [ran] at same mirror
    rw [go_bind_ok (show go x' m' = (.ok a, (go x' m').2) from Prod.ext same rfl)]
    exact rest a n _ ran mirror fits

theorem get_bind {f : Machine ρ → Run ρ β} {f' : Machine σ → Run σ β}
    (rest : Agrees P (f m) m (f' m') m') : Agrees P (get >>= f) m (get >>= f') m' := by
  intro fits
  rw [go_bind_ok (go_get m)] at fits ⊢
  rw [go_bind_ok (go_get m')]
  exact rest fits

theorem modify {g : Machine ρ → Machine ρ} {g' : Machine σ → Machine σ}
    (mirror : Mirror P (g m) (g' m')) : Agrees P (modify g) m (modify g') m' :=
  fun _ => ⟨rfl, mirror⟩

theorem ite (c : Prop) [Decidable c] {x y : Run ρ α} {x' y' : Run σ α}
    (yes : Agrees P x m x' m') (no : Agrees P y m y' m') :
    Agrees P (if c then x else y) m (if c then x' else y') m' := by
  by_cases holds : c
  · simpa [holds] using yes
  · simpa [holds] using no

theorem act {a : Act ρ α} {a' : Act σ α} (mirror : Mirror P m m')
    (agrees : Act.Agrees P a m.scene a' m'.scene) : Agrees P (Run.act a) m (Run.act a') m' := by
  intro fits
  rw [go_act] at fits ⊢
  rw [go_act]
  obtain ⟨same, related⟩ := agrees (Fits.of_failed fits)
  exact ⟨by rw [same], related, mirror.globals, mirror.functions, mirror.scope, mirror.pending,
    mirror.portable⟩

theorem check (mirror : Mirror P m m') (x : Except Error α) :
    Agrees P (Run.check x) m (Run.check x) m' := by
  cases x with
  | error e => exact throw mirror _
  | ok a => exact pure mirror a

theorem reach (mirror : Mirror P m m') (room depth : Nat) (kind : Nesting) :
    Agrees P (Run.reach room depth kind) m (Run.reach room depth kind) m' :=
  act mirror (Act.Agrees.reach mirror.scene _ _ _)

theorem say {f f' : Frame} (below : f ≤ f') (mirror : Mirror P m m') (line : String) :
    Agrees P (Run.say f line) m (Run.say f' line) m' :=
  act mirror (Act.Agrees.say below mirror.scene _)

theorem raise (mirror : Mirror P m m') (room : Nat) (e : Error) :
    Agrees P (Run.raise room e : Run ρ α) m (Run.raise room e) m' :=
  bind (reach mirror _ _ _) fun _ _ _ _ mirror => throw mirror _

theorem raise_bind (mirror : Mirror P m m') (room : Nat) (e : Error) {f : α → Run ρ β}
    {f' : α → Run σ β} : Agrees P (Run.raise room e >>= f) m (Run.raise room e >>= f') m' := by
  refine bind (raise mirror room e) fun a n n' ran _ => ?_
  unfold Run.raise at ran
  by_cases enough : 1 ≤ room
  · rw [go_bind_ok (by rw [go_reach, if_pos enough])] at ran
    cases ran
  · rw [go_bind_error (by rw [go_reach, if_neg enough])] at ran
    cases ran

theorem reach_left {room depth : Nat} {kind : Nesting} {x : Run ρ β} {x' : Run σ β}
    (rest : Agrees P x m x' m') : Agrees P (Run.reach room depth kind >>= fun _ => x) m x' m' := by
  by_cases enough : depth ≤ room
  · intro fits
    rw [go_bind_ok (by rw [go_reach, if_pos enough])] at fits ⊢
    exact rest fits
  · exact of_limit (go_bind_error (by rw [go_reach, if_neg enough]))

theorem frame {k : Nat → Run ρ β} {k' : Nat → Run σ β} (mirror : Mirror P m m') (room : Nat)
    (rest : ∀ n n', Mirror P n n' → Agrees P (k (room - 1)) n (k' (room - 1)) n') :
    Agrees P (Run.act (Act.frame room) >>= k) m (Run.act (Act.frame room) >>= k') m' := by
  refine bind (act mirror (Act.Agrees.frame mirror.scene room)) fun r n n' ran mirror => ?_
  rw [go_act, Act.go_frame] at ran
  split at ran
  · cases ran
    exact rest _ _ mirror
  · cases ran

theorem enter {c : Code} (interpreted : c.Interpreted) {k : Frame → Run ρ β}
    {k' : Frame → Run σ β} (mirror : Mirror P m m') (room : Nat)
    (rest : ∀ (r : Nat) {w w' : Bool}, (w = true → w' = true) → ∀ n n', Mirror P n n' →
      Agrees P (k ⟨r, w⟩) n (k' ⟨r, w'⟩) n') :
    Agrees P (Run.act (Act.enter c room) >>= k) m (Run.act (Act.enter c room) >>= k') m' := by
  intro fits
  rw [go_enter_bind c room m] at fits ⊢
  rw [go_enter_bind c room m']
  by_cases enough : 1 ≤ room
  · rw [if_pos enough] at fits ⊢
    rw [if_pos enough]
    exact rest _ (P.warm mirror.scene interpreted) _ _ (mirror.count interpreted) fits
  · rw [if_neg enough] at fits
    exact fits.elim

theorem typeTests {c : Code} (interpreted : c.Interpreted) (mirror : Mirror P m m') (room : Nat) :
    Agrees P (Run.typeTests c room) m (Run.typeTests c room) m' := by
  intro fits
  rw [go_typeTests] at fits ⊢
  rw [go_typeTests]
  have more := P.entered c interpreted mirror.scene
  by_cases fit : warmUp ≤ m.scene.entered c + 1 ∨ 1 ≤ room
  · have fit' : warmUp ≤ m'.scene.entered c + 1 ∨ 1 ≤ room := by
      rcases fit with warm | enough
      · exact .inl (by omega)
      · exact .inr enough
    rw [if_pos fit, if_pos fit']
    exact ⟨rfl, mirror.count interpreted⟩
  · rw [if_neg fit] at fits
    exact fits.elim

theorem lookupIn (name : String) :
    ∀ (s : Scope) (room : Nat) {m : Machine ρ} {m' : Machine σ}, Mirror P m m' →
      Agrees P (Run.lookupIn name room s) m (Run.lookupIn name room s) m'
  | .global, room, m, m', mirror => by
    rw [lookupIn_global, lookupIn_global]
    refine frame mirror room fun n n' mirror => get_bind ?_
    rw [mirror.globals]
    cases n.globals name with
    | some v => exact pure mirror v
    | none => exact raise mirror _ _
  | .frame bindings parent, room, m, m', mirror => by
    rw [lookupIn_frame, lookupIn_frame]
    refine frame mirror room fun n n' mirror => ?_
    cases bindings.lookup name with
    | some v => exact pure mirror v
    | none => exact lookupIn name parent _ mirror

theorem lookup (mirror : Mirror P m m') (room : Nat) (name : String) :
    Agrees P (Run.lookup room name) m (Run.lookup room name) m' := by
  unfold Run.lookup
  refine get_bind ?_
  rw [mirror.scope]
  exact lookupIn name _ room mirror

theorem sensor {c : Code} (interpreted : c.Interpreted) {read : Nat → Act ρ Value}
    {read' : Nat → Act σ Value} (reads : ∀ r {c q}, P.rel c q → Act.Agrees P (read r) c (read' r) q)
    (mirror : Mirror P m m') (room : Nat) (name : String) (args : List Expr) :
    Agrees P (Run.sensor c room name args read) m (Run.sensor c room name args read') m' := by
  unfold Run.sensor
  refine enter interpreted mirror room fun r w w' warm n n' mirror => ?_
  have below := Frame.Below.warmer (r := r) warm
  refine bind (act mirror (Act.Agrees.builtin below mirror.scene _)) fun _ _ _ _ mirror => ?_
  by_cases given : (!args.isEmpty) = true
  · simp only [given, if_true]
    exact raise_bind mirror _ _
  · simp only [given, if_false, Bool.false_eq_true]
    exact bind (act mirror (reads _ mirror.scene)) fun v _ _ _ mirror =>
      bind (act mirror (Act.Agrees.shown mirror.scene _ v)) fun _ _ _ _ mirror =>
        bind (say below mirror _) fun _ _ _ _ mirror => pure mirror v

theorem applyBinary (mirror : Mirror P m m') (room : Nat) (op : BinOp) (a b : Value) :
    Agrees P (Run.applyBinary room op a b) m (Run.applyBinary room op a b) m' := by
  unfold Run.applyBinary
  refine enter (show Code.Interpreted .binary from trivial) mirror room
    fun r w w' warm n n' mirror => ?_
  by_cases slow : (op.compares || !w) = true
  · by_cases slow' : (op.compares || !w') = true
    · simp only [slow, slow', if_true]
      exact bind (reach mirror _ _ _) fun _ _ _ _ mirror => check mirror _
    · simp only [slow, slow', if_true, if_false, Bool.false_eq_true]
      exact reach_left (check mirror _)
  · have fast : op.compares = false ∧ w = true := by simpa using slow
    have fast' : (op.compares || !w') = false := by simp [fast.1, warm fast.2]
    simp only [slow, fast', if_false, Bool.false_eq_true]
    exact check mirror _

theorem applyUnary (mirror : Mirror P m m') (room : Nat) (a : Value) :
    Agrees P (Run.applyUnary room a) m (Run.applyUnary room a) m' := by
  unfold Run.applyUnary
  exact enter (show Code.Interpreted .unary from trivial) mirror room fun r w w' warm n n' mirror =>
    bind (act mirror (Act.Agrees.builtin (Frame.Below.warmer (r := r) warm) mirror.scene _))
      fun _ _ _ _ mirror => check mirror _

end Agrees

namespace Mirrors

theorem bind_agrees {x : Run ρ α} {x' : Run σ α} {f : α → Run ρ β} {f' : α → Run σ β}
    (first : Agrees P x m x' m')
    (rest : ∀ a n n', go x m = (.ok a, n) → Mirror P n n' → Mirrors P (f a) n (f' a) n') :
    Mirrors P (x >>= f) m (x' >>= f') m' := by
  intro fits good
  rcases ran : go x m with ⟨e | a, n⟩
  · rw [go_bind_error ran] at fits ⊢
    obtain ⟨same, mirror⟩ := first (by rw [ran]; exact fits.error)
    rw [ran] at same mirror
    rw [go_bind_error (show go x' m' = (.error e, (go x' m').2) from Prod.ext same rfl)]
    exact ⟨rfl, mirror⟩
  · rw [go_bind_ok ran] at fits ⊢
    obtain ⟨same, mirror⟩ := first (by rw [ran]; trivial)
    rw [ran] at same mirror
    have ran' : go x' m' = (.ok a, (go x' m').2) := Prod.ext same rfl
    rw [go_bind_ok ran'] at good ⊢
    exact rest a n _ ran mirror fits good

theorem bind {x : Run ρ α} {x' : Run σ α} {f : α → Run ρ β} {f' : α → Run σ β}
    (first : Mirrors P x m x' m') (confined : ∀ a, Confined P.grows (f' a))
    (rest : ∀ a n n', go x m = (.ok a, n) → Mirror P n n' → Mirrors P (f a) n (f' a) n') :
    Mirrors P (x >>= f) m (x' >>= f') m' := by
  intro fits good
  exact bind_agrees (fun fits => first fits (good_of_bind confined good)) rest fits good

theorem get_bind {f : Machine ρ → Run ρ β} {f' : Machine σ → Run σ β}
    (rest : Mirrors P (f m) m (f' m') m') : Mirrors P (get >>= f) m (get >>= f') m' := by
  intro fits good
  rw [go_bind_ok (go_get m)] at fits ⊢
  rw [go_bind_ok (go_get m')] at good ⊢
  exact rest fits good

theorem ite (c : Prop) [Decidable c] {x y : Run ρ α} {x' y' : Run σ α}
    (yes : Mirrors P x m x' m') (no : Mirrors P y m y' m') :
    Mirrors P (if c then x else y) m (if c then x' else y') m' := by
  by_cases holds : c
  · simpa [holds] using yes
  · simpa [holds] using no

theorem act {a : Act ρ α} {a' : Act σ α} (mirror : Mirror P m m')
    (mirrors : Act.Mirrors P a m.scene a' m'.scene) : Mirrors P (Run.act a) m (Run.act a') m' := by
  intro fits good
  rw [go_act] at fits good ⊢
  rw [go_act]
  obtain ⟨same, related⟩ := mirrors (Fits.of_failed fits) good
  exact ⟨by rw [same], related, mirror.globals, mirror.functions, mirror.scope, mirror.pending,
    mirror.portable⟩

theorem frame {k : Nat → Run ρ β} {k' : Nat → Run σ β} (mirror : Mirror P m m') (room : Nat)
    (rest : ∀ n n', Mirror P n n' → Mirrors P (k (room - 1)) n (k' (room - 1)) n') :
    Mirrors P (Run.act (Act.frame room) >>= k) m (Run.act (Act.frame room) >>= k') m' := by
  refine bind_agrees (Agrees.act mirror (Act.Agrees.frame mirror.scene room))
    fun r n n' ran mirror => ?_
  rw [go_act, Act.go_frame] at ran
  split at ran
  · cases ran
    exact rest _ _ mirror
  · cases ran

theorem tryCatch {x : Run ρ α} {x' : Run σ α} {h : Signal → Run ρ α} {h' : Signal → Run σ α}
    (first : Mirrors P x m x' m') (passes : ∀ e n, go (h (.failed e)) n = (.error (.failed e), n))
    (confined : ∀ e, Confined P.grows (h' e))
    (handles : ∀ e n n', go x m = (.error e, n) → Mirror P n n' → Mirrors P (h e) n (h' e) n') :
    Mirrors P (MonadExcept.tryCatch x h) m (MonadExcept.tryCatch x' h') m' := by
  intro fits good
  have good' : P.good (go x' m').2.scene := by
    rcases ran' : go x' m' with ⟨e | a, n'⟩
    · rw [go_tryCatch_error ran'] at good
      exact P.good_of_moves (confined e n').2 good
    · rw [go_tryCatch_ok ran'] at good
      exact good
  rcases ran : go x m with ⟨e | a, n⟩
  · rw [go_tryCatch_error ran] at fits ⊢
    have fits' : Fits (go x m).1 := by
      rw [ran]
      rcases e with v | e
      · trivial
      · rw [passes] at fits
        exact fits
    obtain ⟨same, mirror⟩ := first fits' good'
    rw [ran] at same mirror
    have ran' : go x' m' = (.error e, (go x' m').2) := Prod.ext same rfl
    rw [go_tryCatch_error ran'] at good ⊢
    exact handles e n _ ran mirror fits good
  · obtain ⟨same, mirror⟩ := first (by rw [ran]; trivial) good'
    rw [ran] at same mirror
    rw [go_tryCatch_ok ran,
      go_tryCatch_ok (show go x' m' = (.ok a, (go x' m').2) from Prod.ext same rfl)]
    exact ⟨rfl, mirror⟩

theorem times {x : Run ρ Unit} {x' : Run σ Unit} (confined : Confined P.grows x')
    (step : ∀ n n', Mirror P n n' → Mirrors P x n x' n') (count : Nat) (mirror : Mirror P m m') :
    Mirrors P (Run.times x count) m (Run.times x' count) m' := by
  induction count generalizing m m' with
  | zero => exact (Agrees.pure mirror ()).mirrors
  | succ count ih =>
    exact bind (step m m' mirror) (fun _ => Confined.times confined count) fun _ _ _ _ mirror =>
      ih mirror

end Mirrors

section Interpreter

variable {controls : Controls ρ} {controls' : Controls σ}

theorem evalArgs_zero {args : List Expr} {m n : Machine ρ} {vs : List Value}
    (gathered : go (evalArgs controls 0 args) m = (.ok vs, n)) : vs = [] := by
  cases args with
  | nil =>
    simp only [evalArgs, go_pure, Prod.mk.injEq, Except.ok.injEq] at gathered
    exact gathered.1.symm
  | cons a rest =>
    simp only [evalArgs, evalExpr, fail, go_bind, go_throw] at gathered
    cases gathered

mutual

theorem evalExpr_mirrors (answers : controls.Mirror P controls') (r : Nat) (e : Expr)
    (unmeasured : e.unmeasured = true) {m : Machine ρ} {m' : Machine σ} (mirror : Mirror P m m') :
    Mirrors P (evalExpr controls r e) m (evalExpr controls' r e) m' := by
  have allowed := answers.allowed
  cases r with
  | zero =>
    rw [evalExpr, evalExpr]
    exact (Agrees.of_limit rfl).mirrors
  | succ q =>
    have tests := Agrees.typeTests (c := .expression) trivial mirror q
    cases e with
    | number lit =>
      simp only [evalExpr]
      exact (Agrees.bind tests fun _ _ _ _ mirror => Agrees.pure mirror _).mirrors
    | var name =>
      simp only [evalExpr]
      exact (Agrees.bind tests fun _ _ _ _ mirror => Agrees.lookup mirror q name).mirrors
    | binary op lhs rhs =>
      simp only [Expr.unmeasured, Bool.and_eq_true] at unmeasured
      simp only [evalExpr]
      refine Mirrors.bind_agrees tests fun _ _ _ _ mirror => ?_
      exact Mirrors.bind (evalExpr_mirrors answers q lhs unmeasured.1 mirror)
        (fun a => Confined.bind (evalExpr_confined allowed q rhs) fun b =>
          applyBinary_confined q op a b) fun a _ _ _ mirror =>
        Mirrors.bind (evalExpr_mirrors answers q rhs unmeasured.2 mirror)
          (fun b => applyBinary_confined q op a b) fun b _ _ _ mirror =>
          (Agrees.applyBinary mirror q op a b).mirrors
    | not operand =>
      simp only [Expr.unmeasured] at unmeasured
      simp only [evalExpr]
      refine Mirrors.bind_agrees tests fun _ _ _ _ mirror => ?_
      exact Mirrors.bind (evalExpr_mirrors answers q operand unmeasured mirror)
        (fun a => applyUnary_confined q a) fun a _ _ _ mirror =>
        (Agrees.applyUnary mirror q a).mirrors
    | call name args =>
      simp only [Expr.unmeasured, bne_iff_ne, ne_eq] at unmeasured
      simp only [evalExpr]
      exact Mirrors.bind_agrees tests fun _ _ _ _ mirror =>
        callFunction_mirrors answers q name args unmeasured mirror
termination_by (r, 0)

theorem callFunction_mirrors (answers : controls.Mirror P controls') (r : Nat) (name : String)
    (args : List Expr) (unmeasured : name ≠ measureName) {m : Machine ρ} {m' : Machine σ}
    (mirror : Mirror P m m') :
    Mirrors P (callFunction controls r name args) m (callFunction controls' r name args) m' := by
  have allowed := answers.allowed
  cases r with
  | zero =>
    rw [callFunction, callFunction]
    exact (Agrees.of_limit rfl).mirrors
  | succ q =>
    simp only [callFunction]
    refine Mirrors.ite _
      (Agrees.sensor (c := .detect) trivial answers.detect mirror q name args).mirrors ?_
    rw [if_neg unmeasured, if_neg unmeasured]
    refine Mirrors.get_bind ?_
    rw [mirror.functions]
    cases found : m.functions name with
    | none => exact (Agrees.raise mirror _ _).mirrors
    | some f =>
      have portable := mirror.portable name f found
      refine Mirrors.bind_agrees (Agrees.reach mirror _ _ _) fun _ _ _ _ mirror => ?_
      refine Mirrors.bind_agrees (Agrees.reach mirror _ _ _) fun _ n n' _ mirror => ?_
      refine Mirrors.get_bind ?_
      rw [mirror.scope]
      refine Mirrors.bind_agrees (Agrees.modify (mirror.enter .call)) fun _ _ _ _ entered => ?_
      refine Mirrors.bind (Mirrors.tryCatch ?_ (fun _ _ => rfl) (fun e => ?_) ?_)
        (fun v => Confined.bind (Confined.modify (fun _ => rfl) (fun _ => rfl)) fun _ =>
          Confined.pure v) fun v _ _ _ ended => ?_
      · exact Mirrors.bind (execBlock_mirrors answers q f.body portable entered)
          (fun _ => Confined.pure _) fun _ _ _ _ mirror => (Agrees.pure mirror _).mirrors
      · cases e with
        | returned v => exact Confined.pure v
        | failed e => exact Confined.throw _
      · intro e _ _ _ mirror
        cases e with
        | returned v => exact (Agrees.pure mirror v).mirrors
        | failed e => exact (Agrees.throw mirror _).mirrors
      · exact (Agrees.bind (Agrees.modify (ended.enter _)) fun _ _ _ _ mirror =>
          Agrees.pure mirror v).mirrors
termination_by (r, 0)

theorem execBlock_mirrors (answers : controls.Mirror P controls') (r : Nat) (stmts : List Stmt)
    (portable : Stmt.allPortable stmts = true) {m : Machine ρ} {m' : Machine σ}
    (mirror : Mirror P m m') :
    Mirrors P (execBlock controls r stmts) m (execBlock controls' r stmts) m' := by
  cases r with
  | zero =>
    rw [execBlock, execBlock]
    exact (Agrees.of_limit rfl).mirrors
  | succ q =>
    simp only [execBlock]
    exact execEach_mirrors answers q stmts portable mirror
termination_by (r, 0)

theorem execEach_mirrors (answers : controls.Mirror P controls') (room : Nat) (stmts : List Stmt)
    (portable : Stmt.allPortable stmts = true) {m : Machine ρ} {m' : Machine σ}
    (mirror : Mirror P m m') :
    Mirrors P (execEach controls room stmts) m (execEach controls' room stmts) m' := by
  cases stmts with
  | nil =>
    simp only [execEach]
    exact (Agrees.pure mirror ()).mirrors
  | cons s rest =>
    simp only [Stmt.allPortable, Bool.and_eq_true] at portable
    simp only [execEach]
    exact Mirrors.bind (execStmt_mirrors answers room s portable.1 mirror)
      (fun _ => execEach_confined answers.allowed room rest) fun _ _ _ _ mirror =>
      execEach_mirrors answers room rest portable.2 mirror
termination_by (room, stmts.length)

theorem execStmt_mirrors (answers : controls.Mirror P controls') (r : Nat) (s : Stmt)
    (portable : s.portable = true) {m : Machine ρ} {m' : Machine σ} (mirror : Mirror P m m') :
    Mirrors P (execStmt controls r s) m (execStmt controls' r s) m' := by
  have allowed := answers.allowed
  cases r with
  | zero =>
    rw [execStmt, execStmt]
    exact (Agrees.of_limit rfl).mirrors
  | succ q =>
    have tests := Agrees.typeTests (c := .statement) trivial mirror q
    cases s with
    | command cmd args =>
      simp only [execStmt]
      exact Mirrors.bind_agrees tests fun _ _ _ _ mirror =>
        execCommand_mirrors answers q cmd args portable mirror
    | ifThen test thenBody elseBody =>
      cases elseBody with
      | none =>
        simp only [Stmt.portable, Bool.and_eq_true] at portable
        simp only [execStmt]
        refine Mirrors.bind_agrees tests fun _ _ _ _ mirror => ?_
        exact Mirrors.bind (evalExpr_mirrors answers q test portable.1 mirror)
          (fun _ => Confined.ite _ (execBlock_confined allowed q thenBody) (Confined.pure ()))
          fun _ _ _ _ mirror => Mirrors.ite _
            (execBlock_mirrors answers q thenBody portable.2 mirror) (Agrees.pure mirror ()).mirrors
      | some body =>
        simp only [Stmt.portable, Bool.and_eq_true] at portable
        simp only [execStmt]
        refine Mirrors.bind_agrees tests fun _ _ _ _ mirror => ?_
        exact Mirrors.bind (evalExpr_mirrors answers q test portable.1.1 mirror)
          (fun _ => Confined.ite _ (execBlock_confined allowed q thenBody)
            (execBlock_confined allowed q body))
          fun _ _ _ _ mirror => Mirrors.ite _
            (execBlock_mirrors answers q thenBody portable.1.2 mirror)
            (execBlock_mirrors answers q body portable.2 mirror)
    | repeatTimes count body =>
      simp only [Stmt.portable, Bool.and_eq_true] at portable
      simp only [execStmt]
      have each : Confined P.grows (do execBlock controls' q body; act (Act.loop .statement)) :=
        Confined.bind (execBlock_confined allowed q body) fun _ => Confined.act (.loop _)
      refine Mirrors.bind_agrees tests fun _ _ _ _ mirror => ?_
      exact Mirrors.bind (evalExpr_mirrors answers q count portable.1 mirror)
        (fun _ => Confined.bind (Confined.check _) fun n => Confined.times each n.toNat)
        fun v _ _ _ mirror => Mirrors.bind_agrees (Agrees.check mirror v.truncate)
          fun n _ _ _ mirror => Mirrors.times each (fun _ _ mirror =>
            Mirrors.bind (execBlock_mirrors answers q body portable.2 mirror)
              (fun _ => Confined.act (.loop _)) fun _ _ _ _ mirror =>
              (Agrees.act mirror
                (Act.Agrees.loop (show Code.Interpreted .statement from trivial) mirror.scene)).mirrors) n.toNat mirror
    | call name args =>
      simp only [Stmt.portable, bne_iff_ne, ne_eq] at portable
      simp only [execStmt]
      refine Mirrors.bind_agrees tests fun _ _ _ _ mirror => ?_
      exact Mirrors.bind (callFunction_mirrors answers q name args portable mirror)
        (fun _ => Confined.pure ()) fun _ _ _ _ mirror => (Agrees.pure mirror ()).mirrors
    | returnWith value =>
      simp only [Stmt.portable] at portable
      simp only [execStmt]
      refine Mirrors.bind_agrees tests fun _ _ _ _ mirror => ?_
      exact Mirrors.bind (evalExpr_mirrors answers q value portable mirror)
        (fun _ => Confined.bind (Confined.reach _ _ _) fun _ =>
          Confined.bind (Confined.reach _ _ _) fun _ => Confined.throw _) fun _ _ _ _ mirror =>
        (Agrees.bind (Agrees.reach mirror _ _ _) fun _ _ _ _ mirror =>
          Agrees.bind (Agrees.reach mirror _ _ _) fun _ _ _ _ mirror =>
            Agrees.throw mirror _).mirrors
termination_by (r, 0)

theorem execCommand_mirrors (answers : controls.Mirror P controls') (r : Nat) (cmd : Command)
    (args : List Expr) (portable : (Stmt.command cmd args).portable = true) {m : Machine ρ}
    {m' : Machine σ} (mirror : Mirror P m m') :
    Mirrors P (execCommand controls r cmd args) m (execCommand controls' r cmd args) m' := by
  simp only [Stmt.portable, Bool.and_eq_true, decide_eq_true_eq] at portable
  cases r with
  | zero =>
    rw [execCommand, execCommand]
    exact (Agrees.of_limit rfl).mirrors
  | succ r =>
    cases r with
    | zero =>
      rw [execCommand, execCommand]
      exact (Agrees.of_limit rfl).mirrors
    | succ q =>
      simp only [execCommand]
      refine Mirrors.bind (evalArgs_mirrors answers q args portable.2 mirror)
        (fun vs => Confined.act (answers.allowed.command _ cmd vs)) fun vs _ _ gathered mirror => ?_
      have given : 2 ≤ q + 1 ∨ vs = [] := by
        cases q with
        | zero => exact .inr (evalArgs_zero gathered)
        | succ q => exact .inl (by omega)
      exact Mirrors.act mirror (answers.command _ cmd vs portable.1 given mirror.scene)
termination_by (r, 0)

theorem evalArgs_mirrors (answers : controls.Mirror P controls') (room : Nat) (args : List Expr)
    (unmeasured : args.all Expr.unmeasured = true) {m : Machine ρ} {m' : Machine σ}
    (mirror : Mirror P m m') :
    Mirrors P (evalArgs controls room args) m (evalArgs controls' room args) m' := by
  have allowed := answers.allowed
  cases args with
  | nil =>
    simp only [evalArgs]
    exact (Agrees.pure mirror []).mirrors
  | cons a rest =>
    simp only [List.all_cons, Bool.and_eq_true] at unmeasured
    simp only [evalArgs]
    exact Mirrors.bind (evalExpr_mirrors answers room a unmeasured.1 mirror)
      (fun v => Confined.bind (evalArgs_confined allowed room rest) fun vs =>
        Confined.pure (v :: vs)) fun v _ _ _ mirror =>
      Mirrors.bind (evalArgs_mirrors answers room rest unmeasured.2 mirror)
        (fun vs => Confined.pure (v :: vs)) fun vs _ _ _ mirror =>
        (Agrees.pure mirror (v :: vs)).mirrors
termination_by (room, args.length)

end

/-- Running a portable program on both robots, from mirroring machines. -/
theorem interpret_mirrors (answers : controls.Mirror P controls') (room : Nat) {p : Program}
    (portable : p.portable = true) {m : Machine ρ} {m' : Machine σ} (mirror : Mirror P m m') :
    Mirrors P (interpret controls room p) m (interpret controls' room p) m' := by
  have main : "main" ≠ measureName := by decide
  unfold interpret
  refine Mirrors.frame mirror room fun n n' mirror => ?_
  refine Mirrors.bind_agrees (Agrees.modify (mirror.registerAll portable))
    fun _ n n' _ mirror => Mirrors.get_bind ?_
  rw [mirror.functions]
  by_cases missing : (n.functions "main").isNone = true
  · simp only [missing, if_true]
    exact (Agrees.raise_bind mirror _ _).mirrors
  · simp only [missing, if_false, Bool.false_eq_true]
    exact Mirrors.bind (callFunction_mirrors answers (room - 1) "main" [] main mirror)
      (fun _ => Confined.pure ()) fun _ _ _ _ mirror => (Agrees.pure mirror ()).mirrors

end Interpreter

end Run

end RoboScript
