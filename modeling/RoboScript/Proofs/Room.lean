import RoboScript.Proofs.Running

/-! The room a run is given, and how often its functions have been entered, only decide whether
it runs out of room. Take two scenes that differ only in ways the interpreter cannot see: printing
or counting the same on both keeps the difference, and the second has entered every function at
least as often, so that no step of it needs more room. Such a pair is a likeness; a scene and a
warmer one with the same robot and lines are one. A step of the scene given more room, from the
second scene of a likeness, does exactly the same unless it ran out: the same result, on scenes
still alike. So does a run of the program given more room, alike scenes, and a scope that finds
every name through no more environments: the same value or signal, the same bindings and
functions. So two runs of one program that both fit their room do the same, whatever room each
was given. -/

namespace RoboScript

namespace Scene

variable {ρ : Type}

/-- A relation of two scenes the interpreter cannot see: printing a line on both or counting an
entry on both keeps it, and the second has entered every function at least as often. -/
structure Likeness (ρ : Type) where
  rel : Scene ρ → Scene ρ → Prop
  print : ∀ {s s' : Scene ρ} (line : String), rel s s' →
    rel { s with log := { s.log with lines := s.log.lines.push line } }
      { s' with log := { s'.log with lines := s'.log.lines.push line } }
  count : ∀ {s s' : Scene ρ} (c : Code), rel s s' → rel (s.count c) (s'.count c)
  entered : ∀ {s s' : Scene ρ} (c : Code), rel s s' → s.entered c ≤ s'.entered c

theorem Likeness.warm (L : Likeness ρ) {s s' : Scene ρ} (related : L.rel s s') (c : Code) :
    decide (warmUp ≤ s.entered c + 1) = true → decide (warmUp ≤ s'.entered c + 1) = true := by
  have more := L.entered c related
  simp only [decide_eq_true_eq]
  omega

/-- `s'` is `s` with every function entered at least as often: the same robot and output. -/
structure Warmer (s s' : Scene ρ) : Prop where
  robot : s'.robot = s.robot
  log : s'.log = s.log
  entered : ∀ c, s.entered c ≤ s'.entered c

namespace Warmer

variable {s s' : Scene ρ}

theorem refl (s : Scene ρ) : s.Warmer s := ⟨rfl, rfl, fun _ => Nat.le_refl _⟩

theorem count (warmer : s.Warmer s') (c : Code) : (s.count c).Warmer (s'.count c) := by
  refine ⟨warmer.robot, warmer.log, fun d => ?_⟩
  rw [count_entered, count_entered]
  split
  · exact Nat.succ_le_succ (warmer.entered c)
  · exact warmer.entered d

theorem count_right (warmer : s.Warmer s') (c : Code) : s.Warmer (s'.count c) := by
  refine ⟨warmer.robot, warmer.log, fun d => ?_⟩
  rw [count_entered]
  split
  · subst d
    exact Nat.le_succ_of_le (warmer.entered _)
  · exact warmer.entered d

theorem update (warmer : s.Warmer s') (f : ρ → ρ) :
    ({ s with robot := f s.robot } : Scene ρ).Warmer { s' with robot := f s'.robot } :=
  ⟨by rw [warmer.robot], warmer.log, warmer.entered⟩

theorem print (warmer : s.Warmer s') (line : String) :
    ({ s with log := { s.log with lines := s.log.lines.push line } } : Scene ρ).Warmer
      { s' with log := { s'.log with lines := s'.log.lines.push line } } :=
  ⟨warmer.robot, by rw [warmer.log], warmer.entered⟩

end Warmer

/-- A scene and a warmer one are alike. -/
def warmer : Likeness ρ where
  rel := Warmer
  print line warmer := warmer.print line
  count c warmer := warmer.count c
  entered c warmer := warmer.entered c

end Scene

/-- One frame below another: with no more room, and specialised only where the other is. -/
structure Frame.Below (f f' : Frame) : Prop where
  room : f.room ≤ f'.room
  warm : f.warm = true → f'.warm = true

instance : LE Frame := ⟨Frame.Below⟩

theorem Frame.Below.print {f f' : Frame} (below : f.Below f')
    (fits : (if f.warm then 1 else 2) ≤ f.room) : (if f'.warm then 1 else 2) ≤ f'.room := by
  have room := below.room
  by_cases warm : f.warm = true
  · rw [if_pos warm] at fits
    rw [if_pos (below.warm warm)]
    omega
  · rw [if_neg warm] at fits
    split <;> omega

namespace Act

variable {ρ α β ι : Type} {L : Scene.Likeness ρ}

/-- A step's result other than running out of room. -/
def Fits : Except Error α → Prop
  | .error (.recursionLimit _) => False
  | _ => True

theorem Fits.error {e : Error} (fits : Fits (.error e : Except Error α)) :
    Fits (.error e : Except Error β) := by
  cases e <;> exact fits

/-- The step `a'` from `s'` follows `a` from `s`: unless `a` ran out of room, both end with the
same result, on scenes alike as `L` says. -/
def Follows (L : Scene.Likeness ρ) (a : Act ρ α) (s : Scene ρ) (a' : Act ρ α) (s' : Scene ρ) :
    Prop :=
  Fits (go a s).1 → (go a' s').1 = (go a s).1 ∧ L.rel (go a s).2 (go a' s').2

theorem Follows.bind {a a' : Act ρ α} {f f' : α → Act ρ β} {s s' : Scene ρ}
    (first : Follows L a s a' s')
    (rest : ∀ v t t', go a s = (.ok v, t) → L.rel t t' → Follows L (f v) t (f' v) t') :
    Follows L (a >>= f) s (a' >>= f') s' := by
  intro fits
  rcases ran : go a s with ⟨e | v, t⟩
  · rw [go_bind_error ran] at fits ⊢
    obtain ⟨same, related⟩ := first (by rw [ran]; exact fits.error)
    rw [ran] at same related
    rw [go_bind_error (show go a' s' = (.error e, (go a' s').2) from Prod.ext same rfl)]
    exact ⟨rfl, related⟩
  · rw [go_bind_ok ran] at fits ⊢
    obtain ⟨same, related⟩ := first (by rw [ran]; trivial)
    rw [ran] at same related
    rw [go_bind_ok (show go a' s' = (.ok v, (go a' s').2) from Prod.ext same rfl)]
    exact rest v t _ ran related fits

/-- A step that cannot see how two alike scenes differ: from both it does the same. -/
def Indifferent (L : Scene.Likeness ρ) (a : Act ρ α) : Prop :=
  ∀ ⦃s s' : Scene ρ⦄, L.rel s s' → Follows L a s a s'

namespace Indifferent

theorem pure (a : α) : Indifferent L (pure a : Act ρ α) := fun _ _ related _ => ⟨rfl, related⟩

theorem ofExcept (r : Except Error α) : Indifferent L (ofExcept r : Act ρ α) := by
  intro s s' related _
  rw [go_ofExcept, go_ofExcept]
  exact ⟨rfl, related⟩

theorem reach (room depth : Nat) (kind : Nesting) :
    Indifferent L (Act.reach room depth kind : Act ρ Unit) := by
  intro s s' related _
  rw [go_reach, go_reach]
  split <;> exact ⟨rfl, related⟩

theorem loop (c : Code) : Indifferent L (loop c : Act ρ Unit) :=
  fun _ _ related _ => ⟨rfl, L.count c related⟩

theorem robot : Indifferent Scene.warmer (robot : Act ρ ρ) := by
  intro s s' warmer _
  rw [go_robot, go_robot, Scene.Warmer.robot warmer]
  exact ⟨rfl, warmer⟩

theorem update (f : ρ → ρ) : Indifferent Scene.warmer (update f) :=
  fun _ _ warmer _ => ⟨rfl, Scene.Warmer.update warmer f⟩

end Indifferent

/-- Steps given room, or a frame, that given more from the second of two alike scenes do the
same, unless they ran out of room. -/
def Monotone (L : Scene.Likeness ρ) [LE ι] (a : ι → Act ρ α) : Prop :=
  ∀ ⦃i i' : ι⦄, i ≤ i' → ∀ ⦃s s' : Scene ρ⦄, L.rel s s' → Follows L (a i) s (a i') s'

namespace Monotone

section Order

variable [LE ι]

theorem const {a : Act ρ α} (indifferent : Indifferent L a) : Monotone L fun (_ : ι) => a :=
  fun _ _ _ _ _ related => indifferent related

theorem bind {a : ι → Act ρ α} {f : ι → α → Act ρ β} (first : Monotone L a)
    (rest : ∀ v, Monotone L fun i => f i v) : Monotone L fun i => a i >>= f i :=
  fun _ _ more _ _ related =>
    Follows.bind (first more related) fun v _ _ _ related => rest v more related

theorem const_bind {a : Act ρ α} (indifferent : Indifferent L a) {f : ι → α → Act ρ β}
    (rest : ∀ v, Monotone L fun i => f i v) : Monotone L fun i => a >>= f i :=
  bind (const indifferent) rest

theorem ite (c : Prop) [Decidable c] {a b : ι → Act ρ α} (yes : Monotone L a)
    (no : Monotone L b) : Monotone L fun i => if c then a i else b i := by
  by_cases holds : c
  · simpa [holds] using yes
  · simpa [holds] using no

end Order

theorem room {a : Nat → Act ρ α} (monotone : Monotone L a) :
    Monotone L fun f : Frame => a f.room :=
  fun _ _ below => monotone below.room

theorem reach (depth : Nat) (kind : Nesting) :
    Monotone L fun r => (Act.reach r depth kind : Act ρ Unit) := by
  intro r r' more s s' related fits
  by_cases enough : depth ≤ r
  · rw [go_reach, go_reach, if_pos enough, if_pos (Nat.le_trans enough more)]
    exact ⟨rfl, related⟩
  · simp [go_reach, enough, Fits] at fits

theorem frame {k : Nat → Act ρ α} (rest : Monotone L k) : Monotone L fun r => frame r >>= k := by
  intro r r' more s s' related fits
  dsimp only at fits ⊢
  by_cases enough : 1 ≤ r
  · rw [go_frame_bind r, if_pos enough] at fits
    rw [go_frame_bind r, go_frame_bind r', if_pos enough, if_pos (Nat.le_trans enough more)]
    exact rest (by omega) related fits
  · rw [go_frame_bind r, if_neg enough] at fits
    simp [Fits] at fits

theorem entered (c : Code) {k : Frame → Act ρ α} (rest : Monotone L k) :
    Monotone L fun r => entered c r >>= k := by
  intro r r' more s s' related
  unfold Follows
  rw [go_bind_ok (go_entered c r s), go_bind_ok (go_entered c r' s')]
  exact rest ⟨more, L.warm related c⟩ (L.count c related)

theorem enter (c : Code) {k : Frame → Act ρ α} (rest : Monotone L k) :
    Monotone L fun r => enter c r >>= k := by
  simp only [Act.enter, bind_assoc]
  exact frame (entered c rest)

theorem builtin (kind : Nesting) : Monotone L fun f : Frame => (builtin f kind : Act ρ Unit) := by
  intro f f' below s s' related fits
  rw [go_builtin] at fits
  rw [go_builtin, go_builtin]
  by_cases fit : f.warm ∨ 1 ≤ f.room
  · have fit' : f'.warm ∨ 1 ≤ f'.room := by
      rcases fit with warm | room
      · exact .inl (below.warm warm)
      · exact .inr (Nat.le_trans room below.room)
    rw [if_pos fit, if_pos fit']
    exact ⟨rfl, related⟩
  · rw [if_neg fit] at fits
    exact fits.elim

theorem entering (c : Code) (kind : Nesting) :
    Monotone L fun r => (entering c r kind : Act ρ Unit) := by
  unfold Act.entering
  exact entered c (builtin kind)

theorem native (r : Except Error α) : Monotone L fun room => (Act.native room r : Act ρ α) :=
  bind (reach 1 .nativeCall) fun _ => const (.ofExcept r)

theorem say (line : String) : Monotone L fun f : Frame => (Act.say f line : Act ρ Unit) := by
  intro f f' below s s' related fits
  rw [go_say] at fits
  rw [go_say, go_say]
  by_cases fit : (if f.warm then 1 else 2) ≤ f.room
  · rw [if_pos fit, if_pos (below.print fit)]
    exact ⟨rfl, L.print line related⟩
  · rw [if_neg fit] at fits
    exact fits.elim

theorem shown (v : Value) : Monotone L fun room => (Act.shown room v : Act ρ String) := by
  unfold Act.shown
  cases v
  case int => exact bind (reach 1 .text) fun _ => const (.ofExcept _)
  all_goals
    exact bind (reach 1 .nativeCall) fun _ => bind (reach 2 .text) fun _ => const (.ofExcept _)

end Monotone

end Act

/-- Each way a kind of robot answers a program does the same with more room, from the second of
two alike scenes, unless it ran out. -/
structure Controls.RoomMonotone {ρ : Type} (L : Scene.Likeness ρ) (controls : Controls ρ) :
    Prop where
  command : ∀ c args, Act.Monotone L fun r => controls.command r c args
  detect : Act.Monotone L controls.detect
  measure : Act.Monotone L controls.measure

namespace Robot

open Act.Monotone

theorem Classic.shownPoint_monotone (p : Plane.Point) :
    Act.Monotone Scene.warmer fun r => Classic.shownPoint r p :=
  bind (reach 1 .nativeCall) fun _ => bind (reach 2 .text) fun _ =>
    bind (reach 3 .representation) fun _ => const (.ofExcept _)

theorem Classic.moveForward_monotone (distance : Value) :
    Act.Monotone Scene.warmer fun r => Classic.moveForward r distance := by
  unfold Classic.moveForward
  exact enter _ <| const_bind .robot fun _ => bind (native _).room fun _ =>
    bind (native _).room fun _ => const_bind (.ofExcept _) fun _ => bind (native _).room fun _ =>
    const_bind (.ofExcept _) fun _ => const_bind (.ofExcept _) fun _ =>
    const_bind (.update _) fun _ => const_bind (.ofExcept _) fun _ =>
    const_bind (.update _) fun _ => bind (shown _).room fun _ => const_bind .robot fun _ =>
    bind (Classic.shownPoint_monotone _).room fun _ => say _

theorem Classic.turn_monotone (right : Bool) (degrees : Value) :
    Act.Monotone Scene.warmer fun r => Classic.turn right r degrees := by
  unfold Classic.turn
  exact enter _ <| const_bind .robot fun _ => const_bind (.ofExcept _) fun _ =>
    const_bind (.update _) fun _ => const_bind (.ofExcept _) fun _ =>
    const_bind (.update _) fun _ => bind (shown _).room fun _ => bind (shown _).room fun _ =>
    say _

theorem Classic.measureBetween_monotone (p q : Plane.Point) :
    Act.Monotone Scene.warmer fun r => Classic.measureBetween r p q := by
  unfold Classic.measureBetween
  exact enter _ <| bind (builtin _) fun _ => const (.ofExcept _)

theorem Classic.pickUp_monotone : Act.Monotone Scene.warmer Classic.pickUp := by
  unfold Classic.pickUp
  refine enter _ <| const_bind .robot fun r => ite _ (say _) ?_
  refine bind (Classic.measureBetween_monotone _ _).room fun _ =>
    bind (reach 1 .nativeCall).room fun _ => ?_
  refine bind (say _) fun _ => bind (reach 1 .comparison).room fun _ => ?_
  refine ite _ ?_ (say _)
  exact const_bind (.update _) fun _ => say _

theorem Classic.drop_monotone : Act.Monotone Scene.warmer Classic.drop := by
  unfold Classic.drop
  exact enter _ <| const_bind .robot fun _ =>
    ite _ (const_bind (.update _) fun _ => say _) (say _)

theorem Classic.controls_roomMonotone : Classic.controls.RoomMonotone Scene.warmer where
  command c args := by
    cases c
    case moveForward => exact const_bind (.ofExcept _) fun _ => Classic.moveForward_monotone _
    case moveBackward =>
      exact const_bind (.ofExcept _) fun _ => by
        unfold Classic.moveBackward
        exact frame <| const_bind (.ofExcept _) fun _ => Classic.moveForward_monotone _
    case turnRight => exact const_bind (.ofExcept _) fun _ => Classic.turn_monotone _ _
    case turnLeft => exact const_bind (.ofExcept _) fun _ => Classic.turn_monotone _ _
    case pickUpObject => exact Classic.pickUp_monotone
    case dropObject => exact Classic.drop_monotone
  detect := by
    show Act.Monotone Scene.warmer Classic.detect
    unfold Classic.detect
    exact frame (const (.pure _))
  measure := by
    show Act.Monotone Scene.warmer Classic.measure
    unfold Classic.measure
    exact frame <| const_bind .robot fun _ => bind (Classic.measureBetween_monotone _ _) fun _ =>
      const (.pure _)

section Queued

variable {L : Scene.Likeness Queued}
  (appends : ∀ a : Action, Act.Indifferent L (Act.update fun r => { r with queue := r.queue ++ [a] }))
include appends

theorem Queued.enqueue_monotone (a : Action) : Act.Monotone L fun r => Queued.enqueue r a := by
  unfold Queued.enqueue
  exact enter _ <| bind (builtin _) fun _ => const_bind (appends a) fun _ =>
    bind (shown _).room fun _ => say _

theorem Queued.controls_roomMonotone : Queued.controls.RoomMonotone L where
  command c args := by
    unfold Queued.controls
    dsimp only
    split
    · exact const_bind (.ofExcept _) fun _ => Queued.enqueue_monotone appends _
    · exact bind (reach 1 .nativeCall) fun _ => const (fun _ _ related _ => ⟨rfl, related⟩)
  detect := by
    show Act.Monotone L Queued.detect
    unfold Queued.detect
    exact frame (const (.pure _))
  measure := by
    show Act.Monotone L Queued.measure
    unfold Queued.measure
    exact frame (const (.pure _))

end Queued

theorem Queued.controls_warmer : Queued.controls.RoomMonotone Scene.warmer :=
  Queued.controls_roomMonotone fun _ => .update _

end Robot

/-- `s` is `s'` inside frames with no bindings: a name is found from both alike, and a lookup
from `s'` passes no more environments. -/
inductive Scope.Wraps : Scope → Scope → Prop
  | refl (s : Scope) : Scope.Wraps s s
  | frame {s s' : Scope} : Scope.Wraps s s' → Scope.Wraps (.frame [] s) s'

namespace Machine

variable {ρ : Type} {L : Scene.Likeness ρ} {waits : List Stmt → List Stmt → Prop}

/-- Two machines alike but for scenes alike as `L` says, a scope found through no more
environments in the second, and what waits to be stepped, which is related by `waits`. -/
structure Alike (L : Scene.Likeness ρ) (waits : List Stmt → List Stmt → Prop) (m m' : Machine ρ) :
    Prop where
  scene : L.rel m.scene m'.scene
  globals : m'.globals = m.globals
  functions : m'.functions = m.functions
  scope : m.scope.Wraps m'.scope
  pending : waits m.pending m'.pending

theorem Alike.refl (m : Machine ρ) : Alike Scene.warmer (· = ·) m m :=
  ⟨.refl _, rfl, rfl, .refl _, rfl⟩

theorem Alike.loosen {tight : List Stmt → List Stmt → Prop} {m m' : Machine ρ}
    (alike : Alike L tight m m') (looser : ∀ ps ps', tight ps ps' → waits ps ps') :
    Alike L waits m m' :=
  ⟨alike.scene, alike.globals, alike.functions, alike.scope, looser _ _ alike.pending⟩

theorem Alike.wait {other : List Stmt → List Stmt → Prop} {m m' : Machine ρ}
    (alike : Alike L waits m m') {ps ps' : List Stmt} (related : other ps ps') :
    Alike L other { m with pending := ps } { m' with pending := ps' } :=
  ⟨alike.scene, alike.globals, alike.functions, alike.scope, related⟩

theorem Alike.count {m m' : Machine ρ} (alike : Alike L waits m m') (c : Code) :
    Alike L waits { m with scene := m.scene.count c } { m' with scene := m'.scene.count c } :=
  ⟨L.count c alike.scene, alike.globals, alike.functions, alike.scope, alike.pending⟩

theorem Alike.enter {m m' : Machine ρ} (alike : Alike L waits m m') :
    Alike L waits { m with scope := .call } { m' with scope := .call } :=
  ⟨alike.scene, alike.globals, alike.functions, .refl _, alike.pending⟩

theorem Alike.leave {m m' : Machine ρ} (alike : Alike L waits m m') {scope scope' : Scope}
    (wraps : scope.Wraps scope') :
    Alike L waits { m with scope := scope } { m' with scope := scope' } :=
  ⟨alike.scene, alike.globals, alike.functions, wraps, alike.pending⟩

end Machine

namespace Run

variable {ρ α β : Type} {L : Scene.Likeness ρ} {waits : List Stmt → List Stmt → Prop}

open Machine (Alike)

/-- A run's result other than running out of room. -/
def Fits : Except Signal α → Prop
  | .error (.failed (.recursionLimit _)) => False
  | _ => True

theorem Fits.error {e : Signal} (fits : Fits (.error e : Except Signal α)) :
    Fits (.error e : Except Signal β) := by
  rcases e with _ | e
  · exact fits
  · cases e <;> exact fits

theorem Fits.of_failed {r : Except Error α} (fits : Fits (r.mapError .failed)) : Act.Fits r := by
  rcases r with e | _
  · cases e <;> exact fits
  · trivial

/-- The run of `x'` from `m'` follows that of `x` from `m`: unless the first ran out of room,
both end with the same value or signal, on alike machines. -/
def Follows (L : Scene.Likeness ρ) (waits : List Stmt → List Stmt → Prop) (x : Run ρ α) (m : Machine ρ)
    (x' : Run ρ α) (m' : Machine ρ) : Prop :=
  Fits (go x m).1 → (go x' m').1 = (go x m).1 ∧ Alike L waits (go x m).2 (go x' m').2

namespace Follows

variable {m m' : Machine ρ}

theorem of_limit {x x' : Run ρ α} {n : Machine ρ} {kind : Nesting}
    (limit : go x m = (.error (.failed (.recursionLimit kind)), n)) : Follows L waits x m x' m' := by
  intro fits
  rw [limit] at fits
  exact fits.elim

theorem pure (alike : Alike L waits m m') (a : α) : Follows L waits (pure a) m (pure a) m' :=
  fun _ => ⟨rfl, alike⟩

theorem throw (alike : Alike L waits m m') (e : Signal) :
    Follows L waits (throw e : Run ρ α) m (throw e) m' :=
  fun _ => ⟨rfl, alike⟩

theorem bind_loosening {tight : List Stmt → List Stmt → Prop} {x x' : Run ρ α}
    {f f' : α → Run ρ β} (first : Follows L tight x m x' m')
    (rest : ∀ a n n', go x m = (.ok a, n) → Alike L tight n n' →
      Follows L waits (f a) n (f' a) n')
    (looser : ∀ ps ps', tight ps ps' → waits ps ps') :
    Follows L waits (x >>= f) m (x' >>= f') m' := by
  intro fits
  rcases ran : go x m with ⟨_ | a, n⟩
  · rw [go_bind_error ran] at fits ⊢
    obtain ⟨same, alike⟩ := first (by rw [ran]; exact fits.error)
    rw [ran] at same alike
    rw [go_bind_error (show go x' m' = (.error _, (go x' m').2) from Prod.ext same rfl)]
    exact ⟨rfl, alike.loosen looser⟩
  · rw [go_bind_ok ran] at fits ⊢
    obtain ⟨same, alike⟩ := first (by rw [ran]; trivial)
    rw [ran] at same alike
    rw [go_bind_ok (show go x' m' = (.ok a, (go x' m').2) from Prod.ext same rfl)]
    exact rest a n _ ran alike fits

theorem bind {x x' : Run ρ α} {f f' : α → Run ρ β} (first : Follows L waits x m x' m')
    (rest : ∀ a n n', go x m = (.ok a, n) → Alike L waits n n' →
      Follows L waits (f a) n (f' a) n') :
    Follows L waits (x >>= f) m (x' >>= f') m' :=
  bind_loosening first rest fun _ _ related => related

theorem get_bind {f f' : Machine ρ → Run ρ β} (rest : Follows L waits (f m) m (f' m') m') :
    Follows L waits (get >>= f) m (get >>= f') m' := by
  intro fits
  rw [go_bind_ok (go_get m)] at fits ⊢
  rw [go_bind_ok (go_get m')]
  exact rest fits

theorem modify {g g' : Machine ρ → Machine ρ} (alike : Alike L waits (g m) (g' m')) :
    Follows L waits (modify g) m (modify g') m' :=
  fun _ => ⟨rfl, alike⟩

theorem ite (c : Prop) [Decidable c] {x y x' y' : Run ρ α} (yes : Follows L waits x m x' m')
    (no : Follows L waits y m y' m') :
    Follows L waits (if c then x else y) m (if c then x' else y') m' := by
  by_cases holds : c
  · simpa [holds] using yes
  · simpa [holds] using no

theorem act {ι : Type} [LE ι] {a : ι → Act ρ α} (monotone : Act.Monotone L a) {i i' : ι}
    (more : i ≤ i') (alike : Alike L waits m m') :
    Follows L waits (Run.act (a i)) m (Run.act (a i')) m' := by
  intro fits
  rw [go_act] at fits ⊢
  rw [go_act]
  obtain ⟨same, warmer⟩ := monotone more alike.scene (Fits.of_failed fits)
  rw [same]
  exact ⟨rfl, warmer, alike.globals, alike.functions, alike.scope, alike.pending⟩

theorem act_indifferent {a : Act ρ α} (indifferent : Act.Indifferent L a) (alike : Alike L waits m m') :
    Follows L waits (Run.act a) m (Run.act a) m' :=
  act (a := fun _ : Nat => a) (Act.Monotone.const indifferent) (Nat.le_refl 0) alike

theorem frame {k k' : Nat → Run ρ β} {r r' : Nat} (more : r ≤ r') (alike : Alike L waits m m')
    (rest : ∀ n n', Alike L waits n n' → Follows L waits (k (r - 1)) n (k' (r' - 1)) n') :
    Follows L waits (Run.act (Act.frame r) >>= k) m (Run.act (Act.frame r') >>= k') m' := by
  by_cases enough : 1 ≤ r
  · intro fits
    rw [go_bind_ok (go_act_frame enough m)] at fits ⊢
    rw [go_bind_ok (go_act_frame (Nat.le_trans enough more) m')]
    exact rest m m' alike fits
  · have refused :
        go (Run.act (Act.frame r)) m = (.error (.failed (.recursionLimit .function)), m) := by
      rw [go_act, Act.go_frame, if_neg enough]
      rfl
    exact of_limit (go_bind_error refused)

theorem tryCatch {x x' : Run ρ α} {h : Signal → Run ρ α} (first : Follows L waits x m x' m')
    (passes : ∀ e n, go (h (.failed e)) n = (.error (.failed e), n))
    (handles : ∀ e n n', go x m = (.error e, n) → Alike L waits n n' →
      Follows L waits (h e) n (h e) n') :
    Follows L waits (tryCatch x h) m (tryCatch x' h) m' := by
  intro fits
  rcases ran : go x m with ⟨e | a, n⟩
  · rw [go_tryCatch_error ran] at fits ⊢
    have fits' : Fits (go x m).1 := by
      rw [ran]
      rcases e with v | e
      · trivial
      · rw [passes] at fits
        exact fits
    obtain ⟨same, alike⟩ := first fits'
    rw [ran] at same alike
    rw [go_tryCatch_error (show go x' m' = (.error e, (go x' m').2) from Prod.ext same rfl)]
    exact handles e n _ ran alike fits
  · obtain ⟨same, alike⟩ := first (by rw [ran]; trivial)
    rw [ran] at same alike
    rw [go_tryCatch_ok ran,
      go_tryCatch_ok (show go x' m' = (.ok a, (go x' m').2) from Prod.ext same rfl)]
    exact ⟨rfl, alike⟩

end Follows

end Run

end RoboScript
