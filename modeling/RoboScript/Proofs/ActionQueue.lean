import RoboScript.Proofs.Running

/-! The queued robot's actions. Enqueuing puts an action at the end of the queue; a frame of the
queue starts the next action when none is under way, and then the action under way takes a step
of at most the speed, ending once its progress reaches its amount. So the actions not yet done,
the one under way first, are always what remains of those enqueued, in order: a frame takes off
at most the first, and only once it is done, and a failure part way keeps what the frame did
before it.

With whole-number amounts and speeds, a step is the speed or what remains, whichever is less, so
an action stays under way for its amount divided by the speed, rounded up, frames, and at least
one. A turn's steps are exact and always succeed; a move's steps go through doubles, and a frame
whose doubles fail takes no step. -/

namespace RoboScript

/-! ### Whole numbers as the robot computes with them -/

theorem Relation.holds_gt (a b : Int) : Relation.holds .gt (some (compare a b)) = decide (b < a) := by
  rw [Bool.eq_iff_iff]
  simp [Relation.holds, Int.compare_eq_gt]

theorem Relation.holds_ge (a b : Int) : Relation.holds .ge (some (compare a b)) = decide (b ≤ a) := by
  rw [Bool.eq_iff_iff]
  simp [Relation.holds, Int.compare_eq_gt]
  omega

namespace Value

theorem ring_int_right {op : Ring} {symbol : String} {l : Value} {a : Int}
    (num : l.num? = some (.int a)) (b : Int) :
    ring op symbol l (.int b) = .ok (.int (op.onInt a b)) := by
  unfold ring
  rw [num]
  rfl

@[simp] theorem ring_int (op : Ring) (symbol : String) (a b : Int) :
    ring op symbol (.int a) (.int b) = .ok (.int (op.onInt a b)) := rfl

theorem relate_int {rel : Relation} {l r : Value} {a b : Int} (left : l.num? = some (.int a))
    (right : r.num? = some (.int b)) :
    relate rel l r = .ok (.bool (rel.holds (some (compare a b)))) := by
  unfold relate
  rw [left, right]
  rfl

@[simp] theorem floorMod_int (symbol : String) (n : Int) (modulus : Nat) :
    floorMod symbol (.int n) modulus = .ok (.int (n % (modulus : Int))) := rfl

theorem text_int {n : Int} (small : n.natAbs < Nat.pow 10 digitLimit) :
    (Value.int n).text = .ok (toString n) := by
  simp only [text, intText, if_neg (Nat.not_le_of_lt small)]

theorem text_int_large {n : Int} (large : Nat.pow 10 digitLimit ≤ n.natAbs) :
    (Value.int n).text = .error .digitLimitWrite := by
  simp only [text, intText, if_pos large]

end Value

namespace Robot.Queued

theorem stepOf_int {amount : Value} {v : Int} (num : amount.num? = some (.int v)) (p s : Int) :
    stepOf amount (.int p) (.int s) = .ok (.int (min s (v - p))) := by
  have remaining : Value.ring .sub "-" amount (.int p) = .ok (.int (v - p)) :=
    Value.ring_int_right num p
  have faster : Value.relate .gt (.int (v - p)) (.int s) = .ok (.bool (decide (s < v - p))) := by
    rw [Value.relate_int rfl rfl, Relation.holds_gt]
  simp only [stepOf, remaining, bind, Except.bind, faster, pure, Except.pure, Value.truthy]
  by_cases quicker : s < v - p
  · simp only [decide_eq_true quicker, if_true, Int.min_eq_left (Int.le_of_lt quicker)]
  · simp only [decide_eq_false quicker, Bool.false_eq_true, if_false,
      Int.min_eq_right (Int.le_of_not_gt quicker)]

/-! ### The order of the actions -/

/-- The actions not yet done: the one under way, then those waiting, the next first. -/
def pending (r : Queued) : List Action := r.current.toList ++ r.queue

/-- The robot has done the action `a`: its progress has reached the amount, as the robot
compares them. -/
def Reached (r : Queued) (a : Action) : Prop :=
  ∃ v, Value.relate .ge r.progress a.amount = .ok v ∧ v.truthy = true

/-- What a frame may do to the actions not yet done: nothing, or take off the first, which is
then done, with no action under way. -/
def Sheds (r r' : Queued) : Prop :=
  pending r = pending r' ∨ ∃ a, pending r = a :: pending r' ∧ r'.current = none ∧ Reached r' a

theorem Sheds.of_pending_eq {r r₁ r' : Queued} (same : pending r = pending r₁)
    (sheds : Sheds r₁ r') : Sheds r r' := by
  unfold Sheds
  rw [same]
  exact sheds

variable {α β : Type}

/-- A step that leaves the robot as it was, whether or not it fails: reading it, printing, and
computing with what was read. -/
def Steady (x : Act Queued α) : Prop := ∀ s, (Act.go x s).2.robot = s.robot

namespace Steady

theorem bind {x : Act Queued α} {f : α → Act Queued β} (first : Steady x)
    (rest : ∀ v, Steady (f v)) : Steady (x >>= f) := by
  intro s
  rcases ran : Act.go x s with ⟨e | v, s'⟩
  · rw [Act.go_bind_error ran, ← first s, ran]
  · rw [Act.go_bind_ok ran, rest v s', ← first s, ran]

theorem ofExcept (r : Except Error α) : Steady (ofExcept r : Act Queued α) :=
  fun s => by rw [Act.go_ofExcept]

theorem robot : Steady Act.robot := fun s => by rw [Act.go_robot]

theorem say (f : Frame) (line : String) : Steady (Act.say f line : Act Queued Unit) :=
  Act.go_say_robot f line

theorem shown (room : Nat) (v : Value) : Steady (Act.shown room v : Act Queued String) :=
  fun s => by rw [Act.go_shown_scene]

end Steady

/-- A step that leaves the action under way and the queue as they were, whether or not it
fails. -/
def Keeps (x : Act Queued α) : Prop :=
  ∀ s, (Act.go x s).2.robot.current = s.robot.current ∧
    (Act.go x s).2.robot.queue = s.robot.queue

namespace Keeps

theorem of_steady {x : Act Queued α} (steady : Steady x) : Keeps x := by
  intro s
  rw [steady s]
  exact ⟨rfl, rfl⟩

theorem bind {x : Act Queued α} {f : α → Act Queued β} (first : Keeps x)
    (rest : ∀ v, Keeps (f v)) : Keeps (x >>= f) := by
  intro s
  obtain ⟨current, queue⟩ := first s
  rcases ran : Act.go x s with ⟨e | v, s'⟩
  · rw [Act.go_bind_error ran]
    rw [ran] at current queue
    exact ⟨current, queue⟩
  · rw [Act.go_bind_ok ran]
    rw [ran] at current queue
    obtain ⟨current', queue'⟩ := rest v s'
    exact ⟨current'.trans current, queue'.trans queue⟩

theorem ofExcept (r : Except Error α) : Keeps (ofExcept r : Act Queued α) :=
  of_steady (Steady.ofExcept r)

theorem robot : Keeps Act.robot := of_steady Steady.robot

theorem say (f : Frame) (line : String) : Keeps (Act.say f line : Act Queued Unit) :=
  of_steady (Steady.say f line)

theorem shown (room : Nat) (v : Value) : Keeps (Act.shown room v : Act Queued String) :=
  of_steady (Steady.shown room v)

theorem update {f : Queued → Queued} (current : ∀ r, (f r).current = r.current)
    (queue : ∀ r, (f r).queue = r.queue) : Keeps (Act.update f) := by
  intro s
  rw [Act.go_update]
  exact ⟨current s.robot, queue s.robot⟩

theorem pending {x : Act Queued α} (keeps : Keeps x) (s : Scene Queued) :
    Queued.pending (Act.go x s).2.robot = Queued.pending s.robot := by
  obtain ⟨current, queue⟩ := keeps s
  simp only [Queued.pending, current, queue]

end Keeps

/-- A step that leaves the queue as it was and either leaves the action under way too, or ends
`a` once it is done. -/
def MayEnd (a : Action) (x : Act Queued α) : Prop :=
  ∀ s, (Act.go x s).2.robot.queue = s.robot.queue ∧
    ((Act.go x s).2.robot.current = s.robot.current ∨
      (Act.go x s).2.robot.current = none ∧ Reached (Act.go x s).2.robot a)

theorem Keeps.mayEnd {x : Act Queued α} (keeps : Keeps x) (a : Action) : MayEnd a x :=
  fun s => ⟨(keeps s).2, .inl (keeps s).1⟩

theorem MayEnd.bind {a : Action} {x : Act Queued α} {f : α → Act Queued β} (first : Keeps x)
    (rest : ∀ v, MayEnd a (f v)) : MayEnd a (x >>= f) := by
  intro s
  obtain ⟨current, queue⟩ := first s
  rcases ran : Act.go x s with ⟨e | v, s'⟩
  · rw [Act.go_bind_error ran]
    rw [ran] at current queue
    exact ⟨queue, .inl current⟩
  · rw [Act.go_bind_ok ran]
    rw [ran] at current queue
    obtain ⟨queue', ended⟩ := rest v s'
    rw [current] at ended
    exact ⟨queue'.trans queue, ended⟩

theorem finish_mayEnd (f : Frame) (a : Action) : MayEnd a (finish f a) := by
  intro s
  unfold finish
  rw [Act.go_bind_ok (Act.go_robot s)]
  rcases compared : Value.relate .ge s.robot.progress a.amount with e | v
  · rw [Act.go_bind_error (by rw [Act.go_ofExcept])]
    exact ⟨rfl, .inl rfl⟩
  · rw [Act.go_bind_ok (by rw [Act.go_ofExcept])]
    by_cases done : v.truthy = true
    · rw [if_pos done]
      by_cases enough : (if f.warm then 1 else 2) ≤ f.room
      · rw [Act.go_bind_ok (by rw [Act.go_say, if_pos enough]), Act.go_update]
        exact ⟨rfl, .inr ⟨rfl, v, compared, done⟩⟩
      · rw [Act.go_bind_error (by rw [Act.go_say, if_neg enough])]
        exact ⟨rfl, .inl rfl⟩
    · rw [if_neg done, Act.go_pure]
      exact ⟨rfl, .inl rfl⟩

theorem advanceTurn_mayEnd (f : Frame) (direction : Int) (a : Action) :
    MayEnd a (advanceTurn f direction a) := by
  unfold advanceTurn
  exact MayEnd.bind Keeps.robot fun _ => MayEnd.bind (Keeps.ofExcept _) fun _ =>
    MayEnd.bind (Keeps.ofExcept _) fun _ =>
    MayEnd.bind (Keeps.update (fun _ => rfl) (fun _ => rfl)) fun _ =>
    MayEnd.bind (Keeps.ofExcept _) fun _ =>
    MayEnd.bind (Keeps.update (fun _ => rfl) (fun _ => rfl)) fun _ =>
    MayEnd.bind (Keeps.ofExcept _) fun _ =>
    MayEnd.bind (Keeps.update (fun _ => rfl) (fun _ => rfl)) fun _ =>
    MayEnd.bind (Keeps.ofExcept _) fun _ => MayEnd.bind (Keeps.ofExcept _) fun _ =>
    MayEnd.bind (Keeps.say _ _) fun _ => finish_mayEnd f a

theorem advanceMove_mayEnd (f : Frame) (direction : Int) (a : Action) :
    MayEnd a (advanceMove f direction a) := by
  unfold advanceMove
  exact MayEnd.bind Keeps.robot fun _ => MayEnd.bind (Keeps.ofExcept _) fun _ =>
    MayEnd.bind (Keeps.ofExcept _) fun _ => MayEnd.bind (Keeps.ofExcept _) fun _ =>
    MayEnd.bind (Keeps.ofExcept _) fun _ => MayEnd.bind (Keeps.ofExcept _) fun _ =>
    MayEnd.bind (Keeps.update (fun _ => rfl) (fun _ => rfl)) fun _ =>
    MayEnd.bind (Keeps.ofExcept _) fun _ =>
    MayEnd.bind (Keeps.update (fun _ => rfl) (fun _ => rfl)) fun _ =>
    MayEnd.bind (Keeps.ofExcept _) fun _ =>
    MayEnd.bind (Keeps.update (fun _ => rfl) (fun _ => rfl)) fun _ =>
    MayEnd.bind (Keeps.ofExcept _) fun _ => MayEnd.bind (Keeps.ofExcept _) fun _ =>
    MayEnd.bind (Keeps.say _ _) fun _ => finish_mayEnd f a

/-- The step an action under way takes in a frame, by its kind; an action of a kind the robot
does not know takes none. -/
def advance (f : Frame) (a : Action) : Act Queued Unit :=
  match a.kind with
  | .moveForward => advanceMove f 1 a
  | .moveBackward => advanceMove f (-1) a
  | .turnRight => advanceTurn f (-1) a
  | .turnLeft => advanceTurn f 1 a
  | .other _ => pure ()

/-- The step of the action under way, if there is one. -/
def stepCurrent (f : Frame) : Act Queued Unit := do
  match (← Act.robot).current with
  | none => pure ()
  | some a => advance f a

/-- A frame of the queue once entered: when no action is under way, the next one starts from no
progress; then the action under way takes its step. -/
def playEntered (f : Frame) : Act Queued Unit := do
  let r ← Act.robot
  if r.current.isNone then
    match r.queue with
    | a :: rest => do
      Act.update fun r => { r with current := some a, queue := rest, progress := .int 0 }
      Act.say f ("Starting action: " ++ (← ofExcept a.text))
      stepCurrent f
    | [] => stepCurrent f
  else stepCurrent f

theorem updateActions_eq (room : Nat) :
    updateActions room = (do playEntered (← Act.entered .play room)) := rfl

theorem go_updateActions (room : Nat) (s : Scene Queued) :
    Act.go (updateActions room) s =
      Act.go (playEntered ⟨room, decide (warmUp ≤ s.entered .play + 1)⟩) (s.count .play) := by
  rw [updateActions_eq, Act.go_bind_ok (Act.go_entered _ _ s)]

theorem advance_mayEnd (f : Frame) (a : Action) : MayEnd a (advance f a) := by
  unfold advance
  cases a.kind with
  | moveForward | moveBackward => exact advanceMove_mayEnd f _ a
  | turnRight | turnLeft => exact advanceTurn_mayEnd f _ a
  | other => exact (Keeps.of_steady fun s => by rw [Act.go_pure]).mayEnd a

theorem stepCurrent_sheds (f : Frame) (s : Scene Queued) :
    Sheds s.robot (Act.go (stepCurrent f) s).2.robot := by
  unfold stepCurrent
  rw [Act.go_bind_ok (Act.go_robot s)]
  cases under : s.robot.current with
  | none => exact .inl rfl
  | some a =>
    obtain ⟨queue, ended⟩ := advance_mayEnd f a s
    rcases ended with same | ⟨none, reached⟩
    · exact .inl (by simp only [pending, same, queue])
    · exact .inr ⟨a, by simp [pending, under, none, queue], none, reached⟩

theorem playEntered_sheds (f : Frame) (s : Scene Queued) :
    Sheds s.robot (Act.go (playEntered f) s).2.robot := by
  rw [playEntered, Act.go_bind_ok (Act.go_robot s)]
  by_cases idle : s.robot.current.isNone = true
  · rw [if_pos idle]
    cases waiting : s.robot.queue with
    | nil => exact stepCurrent_sheds f s
    | cons a rest =>
      let started : Queued := { s.robot with current := some a, queue := rest, progress := .int 0 }
      have same : pending s.robot = pending started := by
        simp [pending, started, Option.isNone_iff_eq_none.1 idle, waiting]
      dsimp only
      rw [Act.go_bind_ok (Act.go_update _ s)]
      cases shown : a.text with
      | error e =>
        rw [Act.go_bind_error (by rw [Act.go_ofExcept])]
        exact .inl same
      | ok text =>
        rw [Act.go_bind_ok (by rw [Act.go_ofExcept])]
        by_cases enough : (if f.warm then 1 else 2) ≤ f.room
        · rw [Act.go_bind_ok (by rw [Act.go_say, if_pos enough])]
          exact Sheds.of_pending_eq same (stepCurrent_sheds f ⟨started, _, _⟩)
        · rw [Act.go_bind_error (by rw [Act.go_say, if_neg enough])]
          exact .inl same
  · rw [if_neg idle]
    exact stepCurrent_sheds f s

/-- A frame of the queue takes off at most the first action not yet done, and only once that
action is done, whether or not the frame fails part way. -/
theorem updateActions_sheds (room : Nat) (s : Scene Queued) :
    Sheds s.robot (Act.go (updateActions room) s).2.robot := by
  rw [go_updateActions]
  exact playEntered_sheds _ (s.count .play)

theorem enqueue_robot {room : Nat} (enough : 2 ≤ room) (a : Action) (s : Scene Queued) :
    (Act.go (enqueue room a) s).2.robot = { s.robot with queue := s.robot.queue ++ [a] } := by
  unfold enqueue
  rw [Act.go_bind_ok (by rw [Act.go_enter, if_pos (show 1 ≤ room by omega)]),
    Act.go_bind_ok (by rw [Act.go_builtin, if_pos (.inr (show 1 ≤ room - 1 by omega))]),
    Act.go_bind_ok (Act.go_update _ _)]
  exact Steady.bind (Steady.shown _ _) (fun _ => Steady.say _ _) _

theorem request_robot {room : Nat} (enough : 3 ≤ room) (kind : ActionKind) (amount : Value)
    (s : Scene Queued) :
    (Act.go (request kind room amount) s).2.robot =
      { s.robot with queue := s.robot.queue ++ [⟨kind, amount⟩] } := by
  unfold request
  rw [Act.go_bind_ok (by rw [Act.go_frame, if_pos (by omega)])]
  exact enqueue_robot (by omega) _ s

theorem enqueue_pending {room : Nat} (enough : 2 ≤ room) (a : Action) (s : Scene Queued) :
    pending (Act.go (enqueue room a) s).2.robot = pending s.robot ++ [a] := by
  simp [enqueue_robot enough, pending]

theorem request_pending {room : Nat} (enough : 3 ≤ room) (kind : ActionKind) (amount : Value)
    (s : Scene Queued) :
    pending (Act.go (request kind room amount) s).2.robot = pending s.robot ++ [⟨kind, amount⟩] := by
  simp [request_robot enough, pending]

/-- An operation a session makes on the queued robot's actions: enqueuing an action by name,
queuing one through a move or a turn, or a frame of the queue. -/
inductive QueueOp where
  | enqueue (a : Action)
  | request (kind : ActionKind) (amount : Value)
  | update

namespace QueueOp

/-- The operation as a step of the robot's scene. -/
def act (room : Nat) : QueueOp → Act Queued Unit
  | .enqueue a => Queued.enqueue room a
  | .request kind amount => Queued.request kind room amount
  | .update => updateActions room

/-- The action the operation enqueues, if any. -/
def enqueued : QueueOp → List Action
  | .enqueue a => [a]
  | .request kind amount => [⟨kind, amount⟩]
  | .update => []

/-- Whether the operation is a frame of the queue. -/
def isUpdate : QueueOp → Bool
  | .update => true
  | _ => false

theorem act_pending {room : Nat} (enough : 3 ≤ room) (op : QueueOp) (s : Scene Queued) :
    ∃ done : List Action, done.length ≤ (if op.isUpdate then 1 else 0) ∧
      pending s.robot ++ op.enqueued = done ++ pending (Act.go (op.act room) s).2.robot := by
  cases op with
  | enqueue a => exact ⟨[], Nat.zero_le _, (enqueue_pending (by omega) a s).symm⟩
  | request kind amount => exact ⟨[], Nat.zero_le _, (request_pending enough kind amount s).symm⟩
  | update =>
    rcases updateActions_sheds room s with same | ⟨a, dropped, -⟩
    · exact ⟨[], Nat.zero_le _, by simpa [enqueued, act] using same⟩
    · exact ⟨[a], Nat.le_refl _, by simpa [enqueued, act] using dropped⟩

end QueueOp

/-- The scene after operations run one after another, each on the scene the last one left,
whether or not it failed, as a session runs its steps. -/
def runOps (room : Nat) : List QueueOp → Scene Queued → Scene Queued
  | [], s => s
  | op :: ops, s => runOps room ops (Act.go (op.act room) s).2

/-- Over any operations, the actions not yet done at the start and those enqueued since are,
in order, the actions taken off, at most one per frame, followed by those not yet done at the
end. -/
theorem runOps_pending {room : Nat} (enough : 3 ≤ room) :
    ∀ (ops : List QueueOp) (s : Scene Queued), ∃ cleared : List Action,
      cleared.length ≤ (ops.filter QueueOp.isUpdate).length ∧
      pending s.robot ++ ops.flatMap QueueOp.enqueued =
        cleared ++ pending (runOps room ops s).robot
  | [], s => ⟨[], Nat.zero_le _, by simp [runOps]⟩
  | op :: ops, s => by
    obtain ⟨done, few, first⟩ := op.act_pending enough s
    obtain ⟨cleared, fewer, rest⟩ := runOps_pending enough ops (Act.go (op.act room) s).2
    refine ⟨done ++ cleared, ?_, ?_⟩
    · -- a frame may take off one action, any other operation none
      have counted : ((op :: ops).filter QueueOp.isUpdate).length =
          (if op.isUpdate then 1 else 0) + (ops.filter QueueOp.isUpdate).length := by
        cases op <;> simp [QueueOp.isUpdate, List.filter_cons, Nat.add_comm]
      rw [List.length_append, counted]
      omega
    · rw [List.flatMap_cons, ← List.append_assoc, first, List.append_assoc, rest,
        List.append_assoc]
      rfl

end Robot.Queued

end RoboScript
