import RoboScript.Proofs.Running

/-! Which failures a computation can end with. Most failures are ordinary: an operation on
values refused, a name unbound, a function undefined, a sensor given arguments, no `main`.
The others are running out of room and a name the interpreter does not know: a robot command
the robot has no answer to, or an operator symbol with no meaning. Operations on values fail
only in ordinary ways.

`Act.FailsOnly allowed a` says that a step of the scene fails, if at all, with a failure that
`allowed` admits; `Run.EndsOnly fs allowed x` says that a computation started on a machine whose
registered functions are `fs` keeps them, and fails, if at all, with a failure `allowed` admits.
Both hold of each operation the interpreter and the robots are built from and are closed under
sequencing, choice, handlers and loops, so that a property of every failure of a run follows
from an induction that follows the interpreter. A level of nesting is needed where a step enters
one; `Roomy allowed room n` says that `n` levels fit in `room`, or that running out is admitted
anyway. -/

namespace RoboScript

/-- A failure other than running out of room or meeting a name the interpreter does not know. -/
def Error.Ordinary : Error → Prop
  | .recursionLimit _ | .unknownCommand _ | .unknownBinaryOperator _
  | .unknownUnaryOperator _ => False
  | _ => True

/-- A computed result, or an ordinary failure. -/
def Computed {α : Type} (r : Except Error α) : Prop := ∀ e, r = .error e → e.Ordinary

namespace Computed

variable {α β : Type}

@[simp] theorem ok (a : α) : Computed (.ok a : Except Error α) := by
  intro e h
  cases h

theorem error {e : Error} (ordinary : e.Ordinary) : Computed (.error e : Except Error α) := by
  intro e' h
  cases h
  exact ordinary

theorem bind {r : Except Error α} {f : α → Except Error β} (first : Computed r)
    (rest : ∀ a, Computed (f a)) : Computed (r >>= f) := by
  cases r with
  | error e => exact fun e' h => first e' (by cases h; rfl)
  | ok a => exact rest a

theorem map {r : Except Error α} (f : α → β) (first : Computed r) : Computed (f <$> r) := by
  cases r with
  | error e => exact fun e' h => first e' (by cases h; rfl)
  | ok a => exact ok _

end Computed

/-! ### Operations on values fail in ordinary ways -/

theorem Num.toFloat_computed (n : Num) : Computed n.toFloat := by
  unfold Num.toFloat
  split
  · dsimp only
    split
    · exact Computed.error trivial
    · exact Computed.ok _
  · exact Computed.ok _

theorem Value.toFloat_computed (v : Value) : Computed v.toFloat := by
  unfold Value.toFloat
  split
  · exact Num.toFloat_computed _
  · exact Computed.error trivial

theorem Value.truncate_computed (v : Value) : Computed v.truncate := by
  unfold Value.truncate
  split
  · exact Computed.ok _
  · split
    · exact Computed.ok _
    · split <;> exact Computed.error trivial
  · exact Computed.error trivial

theorem Value.ring_computed (op : Ring) (symbol : String) (l r : Value) :
    Computed (Value.ring op symbol l r) := by
  unfold Value.ring
  split
  · exact Computed.ok _
  · exact Computed.bind (Num.toFloat_computed _) fun _ =>
      Computed.bind (Num.toFloat_computed _) fun _ => Computed.ok _
  · exact Computed.error trivial

theorem Value.divide_computed (symbol : String) (l r : Value) :
    Computed (Value.divide symbol l r) := by
  unfold Value.divide
  split
  · refine Computed.map _ ?_
    unfold Value.intQuotient
    split
    · exact Computed.error trivial
    · dsimp only
      split
      · exact Computed.error trivial
      · exact Computed.ok _
  · refine Computed.bind (Num.toFloat_computed _) fun _ =>
      Computed.bind (Num.toFloat_computed _) fun _ => ?_
    split
    · exact Computed.error trivial
    · exact Computed.ok _
  · exact Computed.error trivial

theorem Value.relate_computed (rel : Relation) (l r : Value) : Computed (Value.relate rel l r) := by
  unfold Value.relate
  split
  · exact Computed.ok _
  · dsimp only
    split
    · exact Computed.ok _
    · exact Computed.ok _
    · exact Computed.error trivial

theorem Value.negate_computed (v : Value) : Computed v.negate := by
  unfold Value.negate
  split
  · exact Computed.ok _
  · exact Computed.ok _
  · exact Computed.error trivial

theorem Value.floorMod_computed (symbol : String) (v : Value) (modulus : Nat) :
    Computed (Value.floorMod symbol v modulus) := by
  unfold Value.floorMod
  split
  · exact Computed.ok _
  · split
    · exact Computed.ok _
    · dsimp only
      split
      · exact Computed.ok _
      · split <;> exact Computed.ok _
  · exact Computed.error trivial

theorem Value.text_computed (v : Value) : Computed v.text := by
  cases v with
  | int n =>
    show Computed (Value.intText n)
    unfold Value.intText
    split
    · exact Computed.error trivial
    · exact Computed.ok _
  | none | bool | float => exact Computed.ok _

theorem BinOp.apply_computed (op : BinOp) (l r : Value) : Computed (op.apply l r) := by
  cases op
  case add | sub | mul => exact Value.ring_computed _ _ _ _
  case div => exact Value.divide_computed _ _ _
  case eq | ne | lt | le | gt | ge => exact Value.relate_computed _ _ _
  case and | or => exact Computed.ok _

theorem firstArgument_computed (vs : List Value) : Computed (firstArgument vs) := by
  cases vs with
  | nil => exact Computed.error trivial
  | cons v rest => exact Computed.ok v

namespace Plane

theorem radians_computed (degrees : Value) : Computed (radians degrees) :=
  Computed.bind (Value.toFloat_computed degrees) fun _ => Computed.ok _

theorem cosine_computed (x : Float) : Computed (cosine x) := by
  unfold cosine
  split
  · exact Computed.error trivial
  · exact Computed.ok _

theorem sine_computed (x : Float) : Computed (sine x) := by
  unfold sine
  split
  · exact Computed.error trivial
  · exact Computed.ok _

theorem Point.text_computed (p : Point) : Computed p.text :=
  Computed.bind (Value.text_computed _) fun _ => Computed.bind (Value.text_computed _) fun _ =>
    Computed.ok _

theorem Point.distance_computed (p q : Point) : Computed (p.distance q) :=
  Computed.bind (Value.ring_computed _ _ _ _) fun _ =>
    Computed.bind (Value.ring_computed _ _ _ _) fun _ =>
      Computed.bind (Value.toFloat_computed _) fun _ =>
        Computed.bind (Value.toFloat_computed _) fun _ => Computed.ok _

end Plane

/-- `n` levels fit in `room`, or running out of room is admitted anyway. -/
def Roomy (allowed : Error → Prop) (room n : Nat) : Prop :=
  n ≤ room ∨ ∀ kind, allowed (.recursionLimit kind)

namespace Roomy

variable {allowed : Error → Prop} {room n : Nat}

theorem less {k : Nat} (roomy : Roomy allowed room n) (fewer : k ≤ n) : Roomy allowed room k :=
  roomy.imp (fun fits => Nat.le_trans fewer fits) id

theorem inner {k : Nat} (roomy : Roomy allowed room (n + k)) : Roomy allowed (room - k) n :=
  roomy.imp (fun fits => by omega) id

theorem limit (roomy : Roomy allowed room n) (short : ¬n ≤ room) (kind : Nesting) :
    allowed (.recursionLimit kind) :=
  roomy.elim (fun fits => absurd fits short) (· kind)

end Roomy

namespace Act

variable {ρ α β : Type} {allowed : Error → Prop}

/-- A step of the scene that fails, if at all, with a failure that `allowed` admits. -/
def FailsOnly (allowed : Error → Prop) (a : Act ρ α) : Prop :=
  ∀ s e, (go a s).1 = .error e → allowed e

namespace FailsOnly

theorem mono {a : Act ρ α} {looser : Error → Prop} (fails : FailsOnly allowed a)
    (loosens : ∀ e, allowed e → looser e) : FailsOnly looser a :=
  fun s e failed => loosens e (fails s e failed)

theorem pure (a : α) : FailsOnly allowed (Pure.pure a : Act ρ α) := by
  intro s e failed
  cases failed

theorem throw {e : Error} (admitted : allowed e) : FailsOnly allowed (throw e : Act ρ α) := by
  intro s e' failed
  cases failed
  exact admitted

theorem ofExcept {r : Except Error α} (admitted : ∀ e, r = .error e → allowed e) :
    FailsOnly allowed (MonadExcept.ofExcept r : Act ρ α) := by
  intro s e failed
  rw [go_ofExcept] at failed
  exact admitted e failed

theorem bind {a : Act ρ α} {f : α → Act ρ β} (first : FailsOnly allowed a)
    (rest : ∀ v, FailsOnly allowed (f v)) : FailsOnly allowed (a >>= f) := by
  intro s e failed
  rcases ran : go a s with ⟨e' | v, s'⟩
  · rw [go_bind_error ran] at failed
    cases failed
    exact first s e (by rw [ran])
  · rw [go_bind_ok ran] at failed
    exact rest v s' e failed

theorem ite (c : Prop) [Decidable c] {a b : Act ρ α} (yes : FailsOnly allowed a)
    (no : FailsOnly allowed b) : FailsOnly allowed (if c then a else b) := by
  by_cases holds : c
  · simpa [holds] using yes
  · simpa [holds] using no

theorem robot : FailsOnly allowed (Act.robot : Act ρ ρ) := by
  intro s e failed
  rw [go_robot] at failed
  cases failed

theorem update (f : ρ → ρ) : FailsOnly allowed (Act.update f) := by
  intro s e failed
  rw [go_update] at failed
  cases failed

theorem reach {room depth : Nat} (roomy : Roomy allowed room depth) (kind : Nesting) :
    FailsOnly allowed (Act.reach room depth kind : Act ρ Unit) := by
  intro s e failed
  rw [go_reach] at failed
  split at failed
  · cases failed
  · cases failed
    exact roomy.limit ‹_› kind

theorem frame {room : Nat} {k : Nat → Act ρ α} (roomy : Roomy allowed room 1)
    (rest : FailsOnly allowed (k (room - 1))) : FailsOnly allowed (Act.frame room >>= k) := by
  intro s e failed
  rw [go_frame_bind] at failed
  split at failed
  · exact rest s e failed
  · cases failed
    exact roomy.limit ‹_› .function

theorem enter {room : Nat} {c : Code} {k : Frame → Act ρ α} (roomy : Roomy allowed room 1)
    (rest : ∀ warm, FailsOnly allowed (k ⟨room - 1, warm⟩)) :
    FailsOnly allowed (Act.enter c room >>= k) := by
  intro s e failed
  rw [go_enter_bind] at failed
  split at failed
  · exact rest _ _ e failed
  · cases failed
    exact roomy.limit ‹_› .function

theorem loop (c : Code) : FailsOnly allowed (Act.loop c : Act ρ Unit) := by
  intro s e failed
  rw [go_loop] at failed
  cases failed

theorem builtin {f : Frame} (roomy : Roomy allowed f.room 1) (kind : Nesting) :
    FailsOnly allowed (Act.builtin f kind : Act ρ Unit) := by
  unfold Act.builtin
  split
  · exact pure ()
  · exact reach roomy kind

theorem entering {room : Nat} (roomy : Roomy allowed room 1) (c : Code) (kind : Nesting) :
    FailsOnly allowed (Act.entering c room kind : Act ρ Unit) := by
  intro s e failed
  rw [go_entering] at failed
  split at failed
  · cases failed
  · cases failed
    exact roomy.limit (by omega) kind

theorem say {f : Frame} (roomy : Roomy allowed f.room 2) (line : String) :
    FailsOnly allowed (Act.say f line : Act ρ Unit) :=
  bind (reach (roomy.less (by split <;> omega)) .nativeCall) fun _ => by
    intro s e failed
    cases failed

section Ordinary

variable (ordinary : ∀ e, e.Ordinary → allowed e)
include ordinary

theorem computed {r : Except Error α} (result : Computed r) :
    FailsOnly allowed (MonadExcept.ofExcept r : Act ρ α) :=
  ofExcept fun e failed => ordinary e (result e failed)

theorem native {room : Nat} (roomy : Roomy allowed room 1) {r : Except Error α}
    (result : Computed r) : FailsOnly allowed (Act.native room r : Act ρ α) :=
  bind (reach roomy .nativeCall) fun _ => computed ordinary result

theorem shown {room : Nat} (roomy : Roomy allowed room 2) (v : Value) :
    FailsOnly allowed (Act.shown room v : Act ρ String) := by
  unfold Act.shown
  cases v
  case int =>
    exact bind (reach (roomy.less (by decide)) .text) fun _ =>
      computed ordinary (Value.text_computed _)
  all_goals
    exact bind (reach (roomy.less (by decide)) .nativeCall) fun _ => bind (reach roomy .text)
      fun _ => computed ordinary (Value.text_computed _)

end Ordinary

end FailsOnly

end Act

/-- Each way a kind of robot answers a program fails only as `allowed` admits, once it is given
at least `levels` levels: its commands that `known` admits, and both sensors. -/
structure Controls.FailsOnly {ρ : Type} (allowed : Error → Prop) (levels : Nat)
    (known : Command → Prop) (controls : Controls ρ) : Prop where
  command : ∀ room c args, known c → Roomy allowed room levels →
    Act.FailsOnly allowed (controls.command room c args)
  detect : ∀ room, Roomy allowed room levels → Act.FailsOnly allowed (controls.detect room)
  measure : ∀ room, Roomy allowed room levels → Act.FailsOnly allowed (controls.measure room)

theorem Controls.FailsOnly.restrict {ρ : Type} {allowed : Error → Prop} {levels : Nat}
    {known narrower : Command → Prop} {controls : Controls ρ}
    (fails : controls.FailsOnly allowed levels known) (within : ∀ c, narrower c → known c) :
    controls.FailsOnly allowed levels narrower :=
  ⟨fun room c args answered => fails.command room c args (within c answered), fails.detect,
    fails.measure⟩

namespace Robot

open Act

variable {allowed : Error → Prop} (ordinary : ∀ e, e.Ordinary → allowed e)
include ordinary

theorem Classic.moveForward_failsOnly {room : Nat} (roomy : Roomy allowed room 4) (d : Value) :
    Act.FailsOnly allowed (Classic.moveForward room d) := by
  unfold Classic.moveForward
  have inner : Roomy allowed (room - 1) 3 := roomy.inner
  have native {r : Except Error Float} (result : Computed r) :
      Act.FailsOnly allowed (Act.native (room - 1) r : Act Classic Float) :=
    FailsOnly.native ordinary (inner.less (by decide)) result
  have ring (op : Ring) (symbol : String) (l r : Value) :
      Act.FailsOnly allowed (ofExcept (Value.ring op symbol l r) : Act Classic Value) :=
    FailsOnly.computed ordinary (Value.ring_computed op symbol l r)
  refine FailsOnly.enter (roomy.less (by decide)) fun _ =>
    FailsOnly.bind FailsOnly.robot fun r => ?_
  refine FailsOnly.bind (native (Plane.radians_computed _)) fun _ => ?_
  refine FailsOnly.bind (native (Plane.cosine_computed _)) fun _ =>
    FailsOnly.bind (ring _ _ _ _) fun _ => ?_
  refine FailsOnly.bind (native (Plane.sine_computed _)) fun _ =>
    FailsOnly.bind (ring _ _ _ _) fun _ => ?_
  refine FailsOnly.bind (ring _ _ _ _) fun _ => FailsOnly.bind (FailsOnly.update _) fun _ => ?_
  refine FailsOnly.bind (ring _ _ _ _) fun _ => FailsOnly.bind (FailsOnly.update _) fun _ => ?_
  refine FailsOnly.bind (FailsOnly.shown ordinary (inner.less (by decide)) _) fun _ =>
    FailsOnly.bind FailsOnly.robot fun _ => ?_
  refine FailsOnly.bind ?_ fun _ => FailsOnly.say (inner.less (by decide)) _
  unfold Classic.shownPoint
  exact FailsOnly.bind (FailsOnly.reach (inner.less (by decide)) _) fun _ =>
    FailsOnly.bind (FailsOnly.reach (inner.less (by decide)) _) fun _ =>
      FailsOnly.bind (FailsOnly.reach inner _) fun _ =>
        FailsOnly.computed ordinary (Plane.Point.text_computed _)

theorem Classic.turn_failsOnly {room : Nat} (roomy : Roomy allowed room 3) (right : Bool)
    (degrees : Value) : Act.FailsOnly allowed (Classic.turn right room degrees) := by
  unfold Classic.turn
  have inner : Roomy allowed (room - 1) 2 := roomy.inner
  refine FailsOnly.enter (roomy.less (by decide)) fun _ =>
    FailsOnly.bind FailsOnly.robot fun r => ?_
  refine FailsOnly.bind (FailsOnly.computed ordinary ?_) fun _ =>
    FailsOnly.bind (FailsOnly.update _) fun _ => ?_
  · split <;> exact Value.ring_computed _ _ _ _
  refine FailsOnly.bind (FailsOnly.computed ordinary (Value.floorMod_computed _ _ _)) fun _ =>
    FailsOnly.bind (FailsOnly.update _) fun _ => ?_
  exact FailsOnly.bind (FailsOnly.shown ordinary inner _) fun _ =>
    FailsOnly.bind (FailsOnly.shown ordinary inner _) fun _ => FailsOnly.say inner _

theorem Classic.measureBetween_failsOnly {room : Nat} (roomy : Roomy allowed room 2)
    (p q : Plane.Point) : Act.FailsOnly allowed (Classic.measureBetween room p q) :=
  FailsOnly.enter (roomy.less (by decide)) fun _ =>
    FailsOnly.bind (FailsOnly.builtin roomy.inner _) fun _ =>
      FailsOnly.computed ordinary (Plane.Point.distance_computed _ _)

theorem Classic.pickUp_failsOnly {room : Nat} (roomy : Roomy allowed room 3) :
    Act.FailsOnly allowed (Classic.pickUp room) := by
  unfold Classic.pickUp
  have inner : Roomy allowed (room - 1) 2 := roomy.inner
  refine FailsOnly.enter (roomy.less (by decide)) fun _ =>
    FailsOnly.bind FailsOnly.robot fun r => FailsOnly.ite _ (FailsOnly.say inner _) ?_
  refine FailsOnly.bind (Classic.measureBetween_failsOnly ordinary inner _ _) fun _ => ?_
  refine FailsOnly.bind (FailsOnly.reach (inner.less (by decide)) _) fun _ =>
    FailsOnly.bind (FailsOnly.say inner _)
      fun _ => FailsOnly.bind (FailsOnly.reach (inner.less (by decide)) _) fun _ => ?_
  exact FailsOnly.ite _ (FailsOnly.bind (FailsOnly.update _) fun _ => FailsOnly.say inner _)
    (FailsOnly.say inner _)

omit ordinary in
theorem Classic.drop_failsOnly {room : Nat} (roomy : Roomy allowed room 3) :
    Act.FailsOnly allowed (Classic.drop room) := by
  unfold Classic.drop
  have inner : Roomy allowed (room - 1) 2 := roomy.inner
  exact FailsOnly.enter (roomy.less (by decide)) fun _ =>
    FailsOnly.bind FailsOnly.robot fun _ =>
      FailsOnly.ite _ (FailsOnly.bind (FailsOnly.update _) fun _ => FailsOnly.say inner _)
        (FailsOnly.say inner _)

theorem Classic.controls_failsOnly : Classic.controls.FailsOnly allowed 5 (fun _ => True) where
  command room c args _ roomy := by
    have first : Act.FailsOnly allowed (ofExcept (firstArgument args) : Act Classic Value) :=
      FailsOnly.computed ordinary (firstArgument_computed args)
    cases c
    case moveForward =>
      exact FailsOnly.bind first fun _ =>
        Classic.moveForward_failsOnly ordinary (roomy.less (by decide)) _
    case moveBackward =>
      refine FailsOnly.bind first fun _ => ?_
      unfold Classic.moveBackward
      exact FailsOnly.frame (roomy.less (by decide)) <|
        FailsOnly.bind (FailsOnly.computed ordinary (Value.negate_computed _)) fun _ =>
          Classic.moveForward_failsOnly ordinary roomy.inner _
    case turnRight | turnLeft =>
      exact FailsOnly.bind first
        fun _ => Classic.turn_failsOnly ordinary (roomy.less (by decide)) _ _
    case pickUpObject => exact Classic.pickUp_failsOnly ordinary (roomy.less (by decide))
    case dropObject => exact Classic.drop_failsOnly (roomy.less (by decide))
  detect room roomy :=
    FailsOnly.frame (roomy.less (by decide)) <| FailsOnly.pure _
  measure room roomy :=
    FailsOnly.frame (roomy.less (by decide)) <|
      FailsOnly.bind FailsOnly.robot fun _ =>
        FailsOnly.bind (Classic.measureBetween_failsOnly ordinary
          (roomy.inner.less (by decide)) _ _)
          fun _ => FailsOnly.pure _

theorem Queued.controls_failsOnly :
    Queued.controls.FailsOnly allowed 3 (· ∈ Dialect.queued.commands) where
  command room c args known roomy := by
    unfold Queued.controls
    dsimp only
    split
    · refine FailsOnly.bind (FailsOnly.computed ordinary (firstArgument_computed args)) fun _ => ?_
      unfold Queued.enqueue
      exact FailsOnly.enter (roomy.less (by decide)) fun _ =>
        FailsOnly.bind (FailsOnly.builtin (roomy.inner.less (by decide)) _) fun _ =>
          FailsOnly.bind (FailsOnly.update _) fun _ =>
            FailsOnly.bind (FailsOnly.shown ordinary roomy.inner _) fun _ =>
              FailsOnly.say roomy.inner _
    · next unqueued =>
      simp only [Dialect.commands, List.mem_cons, List.not_mem_nil, or_false] at known
      rcases known with rfl | rfl | rfl | rfl <;> cases unqueued
  detect room roomy :=
    FailsOnly.frame (roomy.less (by decide)) <| FailsOnly.pure _
  measure room roomy :=
    FailsOnly.frame (roomy.less (by decide)) <| FailsOnly.pure _

end Robot

namespace Run

variable {ρ α β : Type} {fs : String → Option FunDef} {allowed : Error → Prop}

/-- A computation that, run from a machine whose registered functions are `fs` and whose
environment is the global one or a call's, keeps the functions, leaves such an environment, and
fails, if at all, with a failure `allowed` admits. It may also end with a `return`'s signal. -/
def EndsOnly (fs : String → Option FunDef) (allowed : Error → Prop) (x : Run ρ α) : Prop :=
  ∀ m, m.functions = fs → m.scope.Shallow →
    (go x m).2.functions = fs ∧ (go x m).2.scope.Shallow ∧
      ∀ e, (go x m).1 = .error (.failed e) → allowed e

namespace EndsOnly

theorem pure (a : α) : EndsOnly fs allowed (Pure.pure a : Run ρ α) :=
  fun _ registered shallow => ⟨registered, shallow, fun e failed => by cases failed⟩

theorem throw {s : Signal} (admitted : ∀ e, s = .failed e → allowed e) :
    EndsOnly fs allowed (throw s : Run ρ α) :=
  fun _ registered shallow => ⟨registered, shallow, fun e failed => admitted e (by cases failed; rfl)⟩

theorem fail {e : Error} (admitted : allowed e) : EndsOnly fs allowed (Run.fail e : Run ρ α) :=
  throw fun _ failed => by cases failed; exact admitted

theorem bind {x : Run ρ α} {f : α → Run ρ β} (first : EndsOnly fs allowed x)
    (rest : ∀ a, EndsOnly fs allowed (f a)) : EndsOnly fs allowed (x >>= f) := by
  intro m registered shallow
  obtain ⟨kept, still, fails⟩ := first m registered shallow
  rcases ran : go x m with ⟨s | a, n⟩
  · rw [go_bind_error ran]
    rw [ran] at kept still fails
    exact ⟨kept, still, fun e failed => fails e (by cases failed; rfl)⟩
  · rw [go_bind_ok ran]
    rw [ran] at kept still
    exact rest a n kept still

theorem get_bind {f : Machine ρ → Run ρ α}
    (rest : ∀ m, m.functions = fs → m.scope.Shallow → EndsOnly fs allowed (f m)) :
    EndsOnly fs allowed (get >>= f) := by
  intro m registered shallow
  rw [go_bind_ok (go_get m)]
  exact rest m registered shallow m registered shallow

theorem modify {g : Machine ρ → Machine ρ} (keeps : ∀ m, (g m).functions = m.functions)
    (stays : ∀ m, m.scope.Shallow → (g m).scope.Shallow) : EndsOnly fs allowed (modify g) := by
  intro m registered shallow
  rw [go_modify, keeps]
  exact ⟨registered, stays m shallow, fun e failed => by cases failed⟩

theorem act {a : Act ρ α} (fails : Act.FailsOnly allowed a) :
    EndsOnly fs allowed (Run.act a) := by
  intro m registered shallow
  rw [go_act]
  refine ⟨registered, shallow, fun e failed => fails m.scene e ?_⟩
  cases ran : (Act.go a m.scene).1 with
  | error e' =>
    rw [ran] at failed
    cases failed
    rfl
  | ok v =>
    rw [ran] at failed
    cases failed

theorem ite (c : Prop) [Decidable c] {x y : Run ρ α} (yes : EndsOnly fs allowed x)
    (no : EndsOnly fs allowed y) : EndsOnly fs allowed (if c then x else y) := by
  by_cases holds : c
  · simpa [holds] using yes
  · simpa [holds] using no

theorem tryCatch {x : Run ρ α} {h : Signal → Run ρ α} (first : EndsOnly fs allowed x)
    (handled : ∀ s, (∀ e, s = .failed e → allowed e) → EndsOnly fs allowed (h s)) :
    EndsOnly fs allowed (tryCatch x h) := by
  intro m registered shallow
  obtain ⟨kept, still, fails⟩ := first m registered shallow
  rcases ran : go x m with ⟨s | a, n⟩
  · rw [go_tryCatch_error ran]
    rw [ran] at kept still fails
    exact handled s (fun e signal => fails e (by rw [signal])) n kept still
  · rw [go_tryCatch_ok ran]
    rw [ran] at kept still
    exact ⟨kept, still, fun e failed => by cases failed⟩

theorem times {x : Run ρ Unit} (each : EndsOnly fs allowed x) (count : Nat) :
    EndsOnly fs allowed (Run.times x count) := by
  induction count with
  | zero => exact pure ()
  | succ count ih => exact bind each fun _ => ih

theorem reach {room depth : Nat} (roomy : Roomy allowed room depth) (kind : Nesting) :
    EndsOnly fs allowed (Run.reach room depth kind : Run ρ Unit) :=
  act (Act.FailsOnly.reach roomy kind)

theorem raise {room : Nat} (roomy : Roomy allowed room 1) {e : Error} (admitted : allowed e) :
    EndsOnly fs allowed (Run.raise room e : Run ρ α) :=
  bind (reach roomy .nativeCall) fun _ => fail admitted

theorem say {f : Frame} (roomy : Roomy allowed f.room 2) (line : String) :
    EndsOnly fs allowed (Run.say f line : Run ρ Unit) :=
  act (Act.FailsOnly.say roomy line)

theorem typeTests {room : Nat} (roomy : Roomy allowed room 1) (c : Code) :
    EndsOnly fs allowed (Run.typeTests c room : Run ρ Unit) :=
  act (Act.FailsOnly.entering roomy c .nativeCall)

theorem frame {room : Nat} {k : Nat → Run ρ α} (roomy : Roomy allowed room 1)
    (rest : EndsOnly fs allowed (k (room - 1))) :
    EndsOnly fs allowed (Run.act (Act.frame room) >>= k) := by
  intro m registered shallow
  by_cases fits : 1 ≤ room
  · rw [go_bind_ok (go_act_frame fits m)]
    exact rest m registered shallow
  · have refused :
        go (Run.act (Act.frame room)) m = (.error (.failed (.recursionLimit .function)), m) := by
      rw [go_act, Act.go_frame, if_neg fits]
      rfl
    rw [go_bind_error refused]
    exact ⟨registered, shallow, fun e failed => by cases failed; exact roomy.limit fits _⟩

theorem enter {room : Nat} {c : Code} {k : Frame → Run ρ α} (roomy : Roomy allowed room 1)
    (rest : ∀ warm, EndsOnly fs allowed (k ⟨room - 1, warm⟩)) :
    EndsOnly fs allowed (Run.act (Act.enter c room) >>= k) := by
  intro m registered shallow
  rw [go_enter_bind]
  split
  · exact rest _ _ registered shallow
  · exact ⟨registered, shallow, fun e failed => by cases failed; exact roomy.limit ‹_› _⟩

section Ordinary

variable (ordinary : ∀ e, e.Ordinary → allowed e)
include ordinary

theorem check {r : Except Error α} (result : Computed r) :
    EndsOnly fs allowed (Run.check r : Run ρ α) := by
  cases r with
  | error e => exact fail (ordinary e (result e rfl))
  | ok a => exact pure a

theorem lookupIn_global {room : Nat} (roomy : Roomy allowed room 2) (name : String) :
    EndsOnly fs allowed (Run.lookupIn name room .global : Run ρ Value) := by
  rw [Run.lookupIn_global]
  refine frame (roomy.less (by decide)) (get_bind fun n _ _ => ?_)
  cases n.globals name with
  | some v => exact pure v
  | none => exact raise roomy.inner (ordinary _ trivial)

theorem lookup {room : Nat} (roomy : Roomy allowed room 3) (name : String) :
    EndsOnly fs allowed (Run.lookup room name : Run ρ Value) := by
  unfold Run.lookup
  refine get_bind fun m _ shallow => ?_
  rcases shallow with global | call
  · rw [global]
    exact lookupIn_global ordinary (roomy.less (by decide)) name
  · rw [call, Run.lookupIn_call]
    exact frame (roomy.less (by decide)) (lookupIn_global ordinary roomy.inner name)

theorem sensor {room : Nat} {read : Nat → Act ρ Value} (roomy : Roomy allowed room 3)
    (reads : Act.FailsOnly allowed (read (room - 1))) (c : Code) (name : String)
    (args : List Expr) : EndsOnly fs allowed (Run.sensor c room name args read) := by
  unfold Run.sensor
  have inner : Roomy allowed (room - 1) 2 := roomy.inner
  refine enter (roomy.less (by decide)) fun warm => ?_
  have answers : EndsOnly fs allowed (do
      let v ← Run.act (read (room - 1))
      let text ← Run.act (Act.shown (room - 1) v)
      Run.say ⟨room - 1, warm⟩ (name ++ "() called, returning " ++ text)
      Pure.pure v) :=
    bind (act reads) fun _ => bind (act (Act.FailsOnly.shown ordinary inner _)) fun _ =>
      bind (say inner _) fun _ => pure _
  exact bind (act (Act.FailsOnly.builtin (inner.less (by decide)) _)) fun _ =>
    ite _ (bind (raise (inner.less (by decide)) (ordinary (.takesNoArguments name) trivial))
      fun _ => answers) answers

theorem applyBinary {room : Nat} (roomy : Roomy allowed room 2) (op : BinOp) (a b : Value) :
    EndsOnly fs allowed (Run.applyBinary room op a b : Run ρ Value) := by
  unfold Run.applyBinary
  refine enter (roomy.less (by decide)) fun warm => ?_
  have result : EndsOnly fs allowed (Run.check (Value.applyBinary op.symbol a b) : Run ρ Value) := by
    rw [Value.applyBinary_symbol]
    exact check ordinary (BinOp.apply_computed op a b)
  exact ite ((op.compares || !warm) = true)
    (bind (reach (roomy.inner (n := 1) (k := 1)) _) fun _ => result) result

omit ordinary in
theorem applyUnary {room : Nat} (roomy : Roomy allowed room 2) (a : Value) :
    EndsOnly fs allowed (Run.applyUnary room a : Run ρ Value) := by
  unfold Run.applyUnary
  refine enter (roomy.less (by decide)) fun _ => ?_
  refine bind (act (Act.FailsOnly.builtin (roomy.inner (n := 1) (k := 1)) _)) fun _ => ?_
  rw [Value.applyUnary_not]
  exact pure _

end Ordinary

theorem failsOnly_at {x : Run ρ α} (ends : EndsOnly fs allowed x) {m : Machine ρ}
    (registered : m.functions = fs) (shallow : m.scope.Shallow) :
    ∀ e, (go x m).1 = .error (.failed e) → allowed e :=
  (ends m registered shallow).2.2

end EndsOnly

theorem userCall_endsOnly {room : Nat} (roomy : Roomy allowed room 2) {body : Run ρ Unit}
    {handler : Signal → Run ρ Value} (returned : ∀ v, handler (.returned v) = pure v)
    (passed : ∀ e, handler (.failed e) = throw (.failed e)) (ran : EndsOnly fs allowed body) :
    EndsOnly fs allowed (do
      reach room 1 .nativeCall
      reach room 2 .function
      let caller := (← get).scope
      modify fun m => { m with scope := .call }
      let v ← tryCatch (do body; pure Value.none) handler
      modify fun m => { m with scope := caller }
      pure v) := by
  refine EndsOnly.bind (EndsOnly.reach (roomy.less (by omega)) _) fun _ =>
    EndsOnly.bind (EndsOnly.reach roomy _) fun _ => EndsOnly.get_bind fun _ _ caller => ?_
  refine EndsOnly.bind (EndsOnly.modify (fun _ => rfl) fun _ _ => Scope.shallow_call) fun _ => ?_
  refine EndsOnly.bind (EndsOnly.tryCatch (EndsOnly.bind ran fun _ => EndsOnly.pure _)
    fun s admitted => ?_) fun v =>
      EndsOnly.bind (EndsOnly.modify (fun _ => rfl) fun _ _ => caller) fun _ => EndsOnly.pure v
  cases s with
  | returned v =>
    rw [returned]
    exact EndsOnly.pure v
  | failed e =>
    rw [passed]
    exact EndsOnly.throw fun e' same => by cases same; exact admitted e rfl

/-- A run of a program, from the global environment or a call's, fails only as `allowed` admits
when the call of `main` does, from the machine with the program's functions registered. -/
theorem interpret_failsOnly {controls : Controls ρ} {room : Nat} {p : Program} {m : Machine ρ}
    (ordinary : ∀ e, e.Ordinary → allowed e) (roomy : Roomy allowed room 2)
    (shallow : m.scope.Shallow)
    (calls : EndsOnly (m.registerAll p).functions allowed
      (callFunction controls (room - 1) "main" [])) :
    ∀ e, (go (interpret controls room p) m).1 = .error (.failed e) → allowed e := by
  intro e failed
  unfold interpret at failed
  by_cases fits : 1 ≤ room
  · rw [go_bind_ok (go_act_frame fits m), go_bind_ok (go_modify _ m)] at failed
    refine EndsOnly.failsOnly_at ?_ rfl (by rwa [Machine.registerAll_scope]) e failed
    refine EndsOnly.get_bind fun n _ _ => ?_
    have call : EndsOnly (m.registerAll p).functions allowed
        (callFunction controls (room - 1) "main" [] >>= fun _ => Pure.pure ()) :=
      EndsOnly.bind calls fun _ => EndsOnly.pure ()
    exact EndsOnly.ite _ (EndsOnly.bind (EndsOnly.raise roomy.inner (ordinary _ trivial))
      fun _ => call) call
  · have refused :
        go (Run.act (Act.frame room)) m = (.error (.failed (.recursionLimit .function)), m) := by
      rw [go_act, Act.go_frame, if_neg fits]
      rfl
    rw [go_bind_error refused] at failed
    cases failed
    exact roomy.limit (by omega) _

end Run

end RoboScript
