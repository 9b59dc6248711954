import RoboScript.Proofs.ActionQueue

/-! How long an action stays under way. A frame of the queue steps the action under way by the
speed, or by what remains when that is not more, so a whole-number action of amount `v` at a
whole-number speed `sp` has progress `min (k * sp) v` after `k` steps and is done after
`framesFor v sp` of them: the amount over the speed, rounded up, and at least one.

A step is computed in a few parts, and only the parts before the progress goes up can fail: the
doubles of a move, or a heading that is not a whole number. So a frame either takes the whole
step or fails and leaves the action and its progress as they were. With a whole-number heading a
turn never fails. -/

namespace RoboScript

namespace Robot.Queued

/-! ### The pace of a whole-number action -/

/-- The progress of an action of amount `v` at speed `sp` after `k` steps, each of the speed or
what remains when that is not more. -/
def progressAfter (v sp : Int) : Nat → Int
  | 0 => 0
  | k + 1 => progressAfter v sp k + min sp (v - progressAfter v sp k)

/-- The frames an action of amount `v` stays under way at speed `sp`: the amount over the speed,
rounded up, and at least one. -/
def framesFor (v sp : Int) : Nat := max 1 ((v + sp - 1) / sp).toNat

section Pace

variable {v sp : Int}

theorem progressAfter_eq_min (pos : 0 < sp) : ∀ {k : Nat}, 0 < k → progressAfter v sp k = min (k * sp) v
  | 1, _ => by
    show 0 + min sp (v - 0) = min ((1 : Nat) * sp) v
    omega
  | k + 2, _ => by
    have before := progressAfter_eq_min pos (k := k + 1) (by omega)
    have more : ((k + 2 : Nat) : Int) * sp = ((k + 1 : Nat) : Int) * sp + sp := by
      push_cast
      rw [Int.add_mul, Int.add_mul]
      omega
    show progressAfter v sp (k + 1) + min sp (v - progressAfter v sp (k + 1)) = _
    rw [before, more]
    omega

theorem progressAfter_le (pos : 0 < sp) (positive : 0 < v) : ∀ k, progressAfter v sp k ≤ v
  | 0 => Int.le_of_lt positive
  | k + 1 => by
    rw [progressAfter_eq_min pos (k := k + 1) (by omega)]
    exact Int.min_le_right _ _

theorem progressAfter_natAbs_le (pos : 0 < sp) : ∀ k, (progressAfter v sp k).natAbs ≤ v.natAbs
  | 0 => Nat.zero_le _
  | k + 1 => by
    have ahead : 0 < ((k + 1 : Nat) : Int) * sp := Int.mul_pos (by omega) pos
    rw [progressAfter_eq_min pos (k := k + 1) (by omega)]
    omega

theorem framesFor_le_iff (pos : 0 < sp) {k : Nat} : framesFor v sp ≤ k ↔ 0 < k ∧ v ≤ k * sp := by
  have ceil : (v + sp - 1) / sp ≤ k ↔ v ≤ k * sp := by
    rw [Int.ediv_le_iff_le_mul pos]
    omega
  unfold framesFor
  omega

theorem framesFor_pos : 0 < framesFor v sp := by
  unfold framesFor
  omega

theorem reached_iff (pos : 0 < sp) {k : Nat} (stepped : 0 < k) :
    v ≤ progressAfter v sp k ↔ framesFor v sp ≤ k := by
  rw [progressAfter_eq_min pos stepped, framesFor_le_iff pos]
  omega

theorem progressAfter_eq_iff (pos : 0 < sp) {k : Nat} (stepped : 0 < k) :
    progressAfter v sp k = v ↔ framesFor v sp ≤ k := by
  rw [← reached_iff pos stepped, progressAfter_eq_min pos stepped]
  omega

end Pace

/-! ### What a frame plays from -/

/-- What the queue plays from: the queue, the action under way, its progress and the speeds. -/
structure Play where
  queue : List Action
  current : Option Action
  progress : Value
  moveSpeed : Value
  turnSpeed : Value

/-- What the queue plays from in the robot. -/
def play (r : Queued) : Play := ⟨r.queue, r.current, r.progress, r.moveSpeed, r.turnSpeed⟩

@[simp] theorem play_current (r : Queued) : (play r).current = r.current := rfl

@[simp] theorem play_progress (r : Queued) : (play r).progress = r.progress := rfl

/-- What the queue plays from after a step reaching the progress `q` of an action of amount
`v`, which ends it once `q` reaches `v`. -/
def Play.stepped (p : Play) (v q : Int) : Play :=
  { p with progress := .int q, current := if v ≤ q then none else p.current }

/-- The speed an action of a kind goes at; only moves and turns have one. -/
def speedOf (p : Play) : ActionKind → Option Value
  | .moveForward | .moveBackward => some p.moveSpeed
  | .turnRight | .turnLeft => some p.turnSpeed
  | .other _ => none

@[simp] theorem speedOf_stepped (p : Play) (v q : Int) (kind : ActionKind) :
    speedOf (p.stepped v q) kind = speedOf p kind := by
  cases kind <;> rfl

variable {α : Type}

/-- A step that keeps what the queue plays from, whether or not it fails. -/
def Holds (x : Act Queued α) : Prop := ∀ s, (Act.go x s).2.robot.play = s.robot.play

theorem Holds.ofExcept (r : Except Error α) : Holds (ofExcept r : Act Queued α) :=
  fun s => by rw [Act.go_ofExcept]

theorem Holds.update {f : Queued → Queued} (keeps : ∀ r, (f r).play = r.play) :
    Holds (Act.update f) :=
  fun s => by rw [Act.go_update]; exact keeps s.robot

/-- From the scene `s`, the step either succeeds and reaches the progress `q` of an action of
amount `v`, ending it once `q` reaches `v`, or fails and keeps what the queue plays from. -/
def Tries (v q : Int) (x : Act Queued Unit) (s : Scene Queued) : Prop :=
  ((Act.go x s).1 = .ok () ∧ (Act.go x s).2.robot.play = s.robot.play.stepped v q) ∨
    ∃ e, (Act.go x s).1 = .error e ∧ (Act.go x s).2.robot.play = s.robot.play

namespace Tries

variable {v q : Int}

theorem of_go {x y : Act Queued Unit} {s s' : Scene Queued} (same : Act.go x s = Act.go y s')
    (robot : s'.robot = s.robot) (tries : Tries v q y s') : Tries v q x s := by
  unfold Tries
  rw [same, ← robot]
  exact tries

theorem of_ok {x : Act Queued Unit} {s : Scene Queued} (ok : (Act.go x s).1 = .ok ())
    (robot : (Act.go x s).2.robot =
      { s.robot with progress := .int q, current := if v ≤ q then none else s.robot.current }) :
    Tries v q x s :=
  .inl ⟨ok, by rw [robot]; rfl⟩

theorem bind {x : Act Queued α} {f : α → Act Queued Unit} (first : Holds x)
    (rest : ∀ w s, Tries v q (f w) s) (s : Scene Queued) : Tries v q (x >>= f) s := by
  have kept := first s
  rcases ran : Act.go x s with ⟨e | w, s'⟩
  · rw [ran] at kept
    right
    rw [Act.go_bind_error ran]
    exact ⟨e, rfl, kept⟩
  · rw [ran] at kept
    unfold Tries
    rw [Act.go_bind_ok ran, ← kept]
    exact rest w s'

end Tries

/-- The amount of an action is a whole number, an integer or a truth value, with fewer digits
than the limit, so that it prints. -/
structure Whole (a : Action) (v : Int) : Prop where
  num : a.amount.num? = some (.int v)
  small : v.natAbs < Nat.pow 10 digitLimit

theorem Whole.shows {a : Action} {v : Int} (whole : Whole a v) : ∃ t, a.amount.text = .ok t := by
  have num := whole.num
  cases amount : a.amount with
  | none => rw [amount] at num; cases num
  | bool b => exact ⟨_, rfl⟩
  | int n =>
    rw [amount] at num
    cases num
    exact ⟨_, Value.text_int whole.small⟩
  | float x => rw [amount] at num; cases num

theorem Whole.text {a : Action} {v : Int} (whole : Whole a v) : ∃ t, a.text = .ok t := by
  obtain ⟨t, shows⟩ := whole.shows
  exact ⟨_, by rw [Action.text, shows]; rfl⟩

/-! ### One step of an action -/

theorem go_stepTail {f : Frame} (enough : 2 ≤ f.room) {a : Action} {v : Int} (whole : Whole a v)
    {p st : Int} (small : (p + st).natAbs < Nat.pow 10 digitLimit)
    (line : String → String → String) (s : Scene Queued) :
    let tail : Act Queued Unit := do
      let progress ← ofExcept (Value.ring .add "+=" (.int p) (.int st))
      Act.update fun r => { r with progress }
      Act.say f (line (← ofExcept progress.text) (← ofExcept a.amount.text))
      finish f a
    (Act.go tail s).1 = .ok () ∧
      (Act.go tail s).2.robot = { s.robot with
        progress := .int (p + st)
        current := if v ≤ p + st then none else s.robot.current } := by
  intro tail
  obtain ⟨t, shows⟩ := whole.shows
  have compared : Value.relate .ge (.int (p + st)) a.amount = .ok (.bool (decide (v ≤ p + st))) := by
    rw [Value.relate_int rfl whole.num, Relation.holds_ge]
  simp only [tail, Act.go_bind, Act.go_ofExcept, Value.ring_int, Ring.onInt, Act.go_update,
    Value.text_int small, shows, Act.go_say_ok enough, finish, Act.go_robot, compared,
    Value.truthy]
  by_cases done : v ≤ p + st
  · simp only [decide_eq_true done, if_true, Act.go_bind, Act.go_say_ok enough, Act.go_update,
      true_and, if_pos done]
  · simp only [decide_eq_false done, Bool.false_eq_true, if_false, Act.go_pure, true_and,
      if_neg done]

section Step

variable {f : Frame} (enough : 2 ≤ f.room) (direction : Int) {a : Action} {v : Int}
  (whole : Whole a v) {s : Scene Queued} {p sp : Int} (progress : s.robot.progress = .int p)
  (small : (p + min sp (v - p)).natAbs < Nat.pow 10 digitLimit)
include enough whole progress small

theorem advanceMove_tries (speed : s.robot.moveSpeed = .int sp) :
    Tries v (p + min sp (v - p)) (advanceMove f direction a) s := by
  unfold advanceMove
  apply Tries.of_go (Act.go_bind_ok (Act.go_robot s)) rfl
  apply Tries.of_go (Act.go_bind_ok (by rw [Act.go_ofExcept, progress, speed, stepOf_int whole.num]))
    rfl
  rw [progress]
  refine Tries.bind (Holds.ofExcept _) (fun _ => ?_) s
  refine Tries.bind (Holds.ofExcept _) (fun _ => ?_)
  refine Tries.bind (Holds.ofExcept _) (fun _ => ?_)
  refine Tries.bind (Holds.ofExcept _) (fun _ => ?_)
  refine Tries.bind (Holds.update fun _ => rfl) (fun _ => ?_)
  refine Tries.bind (Holds.ofExcept _) (fun _ => ?_)
  refine Tries.bind (Holds.update fun _ => rfl) (fun _ s' => ?_)
  exact (go_stepTail enough whole small _ s').elim Tries.of_ok

theorem advanceTurn_tries (speed : s.robot.turnSpeed = .int sp) :
    Tries v (p + min sp (v - p)) (advanceTurn f direction a) s := by
  unfold advanceTurn
  apply Tries.of_go (Act.go_bind_ok (Act.go_robot s)) rfl
  apply Tries.of_go (Act.go_bind_ok (by rw [Act.go_ofExcept, progress, speed, stepOf_int whole.num]))
    rfl
  rw [progress]
  refine Tries.bind (Holds.ofExcept _) (fun _ => ?_) s
  refine Tries.bind (Holds.update fun _ => rfl) (fun _ => ?_)
  refine Tries.bind (Holds.ofExcept _) (fun _ => ?_)
  refine Tries.bind (Holds.update fun _ => rfl) (fun _ s' => ?_)
  exact (go_stepTail enough whole small _ s').elim Tries.of_ok

theorem advanceTurn_int {h : Int} (heading : s.robot.heading = .int h)
    (speed : s.robot.turnSpeed = .int sp) :
    (Act.go (advanceTurn f direction a) s).1 = .ok () ∧
    (Act.go (advanceTurn f direction a) s).2.robot = { s.robot with
      heading := .int ((h + direction * min sp (v - p)) % 360)
      progress := .int (p + min sp (v - p))
      current := if v ≤ p + min sp (v - p) then none else s.robot.current } := by
  unfold advanceTurn
  rw [Act.go_bind_ok (Act.go_robot s),
    Act.go_bind_ok (by rw [Act.go_ofExcept, progress, speed, stepOf_int whole.num]), heading,
    Act.go_bind_ok (v := .int (h + direction * min sp (v - p))) (by rw [Act.go_ofExcept]; rfl),
    Act.go_bind_ok (Act.go_update _ _),
    Act.go_bind_ok (by rw [Act.go_ofExcept, Value.floorMod_int]), Act.go_bind_ok (Act.go_update _ _),
    progress]
  exact go_stepTail enough whole small _ _

end Step

theorem advance_tries {f : Frame} (enough : 2 ≤ f.room) {a : Action} {v : Int} (whole : Whole a v)
    {s : Scene Queued} {p sp : Int} (progress : s.robot.progress = .int p)
    (speed : speedOf s.robot.play a.kind = some (.int sp))
    (small : (p + min sp (v - p)).natAbs < Nat.pow 10 digitLimit) :
    Tries v (p + min sp (v - p)) (advance f a) s := by
  unfold advance
  cases kind : a.kind with
  | moveForward | moveBackward =>
    rw [kind] at speed
    exact advanceMove_tries enough _ whole progress small (Option.some.inj speed)
  | turnRight | turnLeft =>
    rw [kind] at speed
    exact advanceTurn_tries enough _ whole progress small (Option.some.inj speed)
  | other name =>
    rw [kind] at speed
    cases speed

theorem advance_turn_ok {f : Frame} (enough : 2 ≤ f.room) {a : Action} {v : Int}
    (whole : Whole a v) (turning : a.kind = .turnRight ∨ a.kind = .turnLeft) {s : Scene Queued}
    {p sp h : Int} (progress : s.robot.progress = .int p) (speed : s.robot.turnSpeed = .int sp)
    (heading : s.robot.heading = .int h)
    (small : (p + min sp (v - p)).natAbs < Nat.pow 10 digitLimit) :
    (Act.go (advance f a) s).1 = .ok () ∧
      ∃ h', (Act.go (advance f a) s).2.robot.heading = .int h' := by
  unfold advance
  rcases turning with kind | kind
  all_goals
    simp only [kind]
    obtain ⟨ok, robot⟩ := advanceTurn_int enough _ whole progress small heading speed
    exact ⟨ok, _, by rw [robot]⟩

/-! ### Frames of the queue -/

theorem go_updateActions_under_way (room : Nat) {a : Action} {s : Scene Queued}
    (under : s.robot.current = some a) :
    ∃ (f : Frame) (s' : Scene Queued), f.room = room ∧ s'.robot = s.robot ∧
      Act.go (updateActions room) s = Act.go (advance f a) s' := by
  rw [go_updateActions]
  refine ⟨⟨room, decide (warmUp ≤ s.entered .play + 1)⟩, s.count .play, rfl, rfl, ?_⟩
  rw [playEntered, Act.go_bind_ok (Act.go_robot _), if_neg (by simp [under])]
  unfold stepCurrent
  rw [Act.go_bind_ok (Act.go_robot _)]
  simp only [Scene.count_robot, under]

theorem go_updateActions_start {room : Nat} (enough : 2 ≤ room) {a : Action} {rest : List Action}
    {t : String} (shows : a.text = .ok t) {s : Scene Queued} (idle : s.robot.current = none)
    (next : s.robot.queue = a :: rest) :
    ∃ (f : Frame) (s' : Scene Queued), f.room = room ∧
      s'.robot = { s.robot with current := some a, queue := rest, progress := .int 0 } ∧
      Act.go (updateActions room) s = Act.go (advance f a) s' := by
  rw [go_updateActions, playEntered, Act.go_bind_ok (Act.go_robot _), if_pos (by simp [idle])]
  simp only [Scene.count_robot, next]
  rw [Act.go_bind_ok (Act.go_update _ _), Act.go_bind_ok (by rw [Act.go_ofExcept, shows]),
    Act.go_bind_ok (Act.go_say_ok enough _ _)]
  unfold stepCurrent
  rw [Act.go_bind_ok (Act.go_robot _)]
  exact ⟨_, _, rfl, rfl, rfl⟩

theorem go_updateActions_unprintable (room : Nat) {a : Action} {rest : List Action} {e : Error}
    (fails : a.text = .error e) {s : Scene Queued} (idle : s.robot.current = none)
    (next : s.robot.queue = a :: rest) :
    (Act.go (updateActions room) s).1 = .error e ∧
      (Act.go (updateActions room) s).2.robot =
        { s.robot with current := some a, queue := rest, progress := .int 0 } := by
  rw [go_updateActions, playEntered, Act.go_bind_ok (Act.go_robot _), if_pos (by simp [idle])]
  simp only [Scene.count_robot, next]
  rw [Act.go_bind_ok (Act.go_update _ _), Act.go_bind_error (by rw [Act.go_ofExcept, fails])]
  exact ⟨rfl, rfl⟩

/-- The robot `j` frames into the action `a`, of whole amount `v` at the whole speed `sp`, not
counting frames that failed: under way until it has had all its frames and done after, with the
progress of `j` steps. -/
structure At (a : Action) (v sp : Int) (j : Nat) (p : Play) : Prop where
  current : p.current = if j < framesFor v sp then some a else none
  progress : p.progress = .int (progressAfter v sp j)
  speed : speedOf p a.kind = some (.int sp)

/-- The action `a`, at the whole speed `sp`, is next to start: no action is under way and `a` is
first in the queue. -/
structure Waiting (a : Action) (sp : Int) (p : Play) : Prop where
  idle : p.current = none
  next : ∃ rest, p.queue = a :: rest
  speed : speedOf p a.kind = some (.int sp)

/-- Where the robot is with `a` after `j` frames that did not fail: next to start before any
frame, or under way, or done. -/
def Course (a : Action) (v sp : Int) (j : Nat) (p : Play) : Prop :=
  (j = 0 ∧ Waiting a sp p) ∨ At a v sp j p

theorem At.under {a : Action} {v sp : Int} {j : Nat} {p : Play} (now : At a v sp j p)
    (early : j < framesFor v sp) : p.current = some a := by
  rw [now.current, if_pos early]

theorem Waiting.start {room : Nat} (enough : 2 ≤ room) {a : Action} {v sp : Int}
    (whole : Whole a v) {s : Scene Queued} (waiting : Waiting a sp s.robot.play) :
    ∃ (f : Frame) (s' : Scene Queued), f.room = room ∧ At a v sp 0 s'.robot.play ∧
      s'.robot.heading = s.robot.heading ∧ Act.go (updateActions room) s = Act.go (advance f a) s' := by
  obtain ⟨rest, next⟩ := waiting.next
  obtain ⟨t, shows⟩ := whole.text
  obtain ⟨f, s', inside, started, same⟩ := go_updateActions_start enough shows waiting.idle next
  have kept := congrArg Queued.heading started
  refine ⟨f, s', inside, ⟨?_, ?_, ?_⟩, kept, same⟩
  · rw [started]
    exact (if_pos framesFor_pos).symm
  · rw [started]
    rfl
  · rw [started]
    exact waiting.speed

section Frames

variable {room : Nat} {a : Action} {v sp : Int} (pos : 0 < sp)
include pos

theorem At.tries {j : Nat} {x : Act Queued Unit} {s : Scene Queued} (now : At a v sp j s.robot.play)
    (tries : Tries v (progressAfter v sp (j + 1)) x s) :
    At a v sp (j + if (Act.go x s).1.toBool then 1 else 0) (Act.go x s).2.robot.play := by
  rcases tries with ⟨ok, stepped⟩ | ⟨e, failed, same⟩
  · rw [ok, stepped]
    show At a v sp (j + 1) (s.robot.play.stepped v (progressAfter v sp (j + 1)))
    refine ⟨?_, rfl, by rw [speedOf_stepped]; exact now.speed⟩
    show (if v ≤ progressAfter v sp (j + 1) then none else s.robot.play.current) = _
    by_cases last : framesFor v sp ≤ j + 1
    · rw [if_pos ((reached_iff pos (Nat.succ_pos j)).2 last), if_neg (by omega)]
    · rw [if_neg (mt (reached_iff pos (Nat.succ_pos j)).1 last), if_pos (by omega), now.current,
        if_pos (by omega)]
  · rw [failed, same]
    exact now

variable (whole : Whole a v)
include whole

theorem small_step {j : Nat} :
    (progressAfter v sp j + min sp (v - progressAfter v sp j)).natAbs < Nat.pow 10 digitLimit :=
  Nat.lt_of_le_of_lt (progressAfter_natAbs_le pos (j + 1)) whole.small

variable (enough : 2 ≤ room)
include enough

theorem Waiting.frame {s : Scene Queued} (waiting : Waiting a sp s.robot.play) :
    At a v sp (0 + if (Act.go (updateActions room) s).1.toBool then 1 else 0)
      (Act.go (updateActions room) s).2.robot.play := by
  obtain ⟨f, s', inside, fresh, -, same⟩ := waiting.start enough whole
  rw [same]
  exact fresh.tries pos
    (advance_tries (inside ▸ enough) whole fresh.progress fresh.speed (small_step pos whole))

theorem Course.frame {j : Nat} {s : Scene Queued} (course : Course a v sp j s.robot.play)
    (early : j < framesFor v sp) :
    At a v sp (j + if (Act.go (updateActions room) s).1.toBool then 1 else 0)
      (Act.go (updateActions room) s).2.robot.play := by
  rcases course with ⟨rfl, waiting⟩ | now
  · exact waiting.frame pos whole enough
  · obtain ⟨f, s', inside, robot, same⟩ := go_updateActions_under_way room (now.under early)
    rw [same]
    rw [← robot] at now
    exact now.tries pos
      (advance_tries (inside ▸ enough) whole now.progress now.speed (small_step pos whole))

end Frames

theorem Course.append {a : Action} {v sp : Int} {j : Nat} {p : Play} (course : Course a v sp j p)
    (b : Action) : Course a v sp j { p with queue := p.queue ++ [b] } := by
  rcases course with ⟨zero, waiting⟩ | now
  · obtain ⟨rest, next⟩ := waiting.next
    exact .inl ⟨zero, waiting.idle, ⟨rest ++ [b], by rw [next]; rfl⟩, waiting.speed⟩
  · exact .inr ⟨now.current, now.progress, now.speed⟩

/-- How many of the operations are frames that did not fail, each run on the scene the last one
left. -/
def okFrames (room : Nat) : List QueueOp → Scene Queued → Nat
  | [], _ => 0
  | op :: ops, s =>
    (if op.isUpdate && (Act.go (op.act room) s).1.toBool then 1 else 0) +
      okFrames room ops (Act.go (op.act room) s).2

theorem QueueOp.appends {room : Nat} (enough : 3 ≤ room) {op : QueueOp}
    (enqueues : op.isUpdate = false) (s : Scene Queued) :
    ∃ b, (Act.go (op.act room) s).2.robot = { s.robot with queue := s.robot.queue ++ [b] } := by
  cases op with
  | enqueue b => exact ⟨b, enqueue_robot (by omega) b s⟩
  | request kind amount => exact ⟨_, request_robot enough kind amount s⟩
  | update => cases enqueues

theorem QueueOp.course {room : Nat} (enough : 3 ≤ room) {op : QueueOp}
    (enqueues : op.isUpdate = false) {a : Action} {v sp : Int} {j : Nat} {s : Scene Queued}
    (course : Course a v sp j s.robot.play) : Course a v sp j (Act.go (op.act room) s).2.robot.play := by
  obtain ⟨b, appended⟩ := QueueOp.appends enough enqueues s
  rw [appended]
  exact course.append b

theorem okFrames_skip (room : Nat) (op : QueueOp) (enqueues : op.isUpdate = false)
    (ops : List QueueOp) (s : Scene Queued) :
    okFrames room (op :: ops) s = okFrames room ops (Act.go (op.act room) s).2 := by
  rw [okFrames, enqueues, Bool.false_and, if_neg Bool.false_ne_true, Nat.zero_add]

theorem okFrames_update (room : Nat) (ops : List QueueOp) (s : Scene Queued) :
    okFrames room (.update :: ops) s =
      (if (Act.go (updateActions room) s).1.toBool then 1 else 0) +
        okFrames room ops (Act.go (updateActions room) s).2 := rfl

theorem speedOf_turn {a : Action} {p : Play} {sp : Int}
    (turning : a.kind = .turnRight ∨ a.kind = .turnLeft) (speed : speedOf p a.kind = some (.int sp)) :
    p.turnSpeed = .int sp := by
  rcases turning with kind | kind
  all_goals
    rw [kind] at speed
    exact Option.some.inj speed

section Runs

variable {room : Nat} (enough : 3 ≤ room) {a : Action} {v sp : Int} (pos : 0 < sp)
  (whole : Whole a v)
include enough pos whole

/-- Over operations before `a` has had all its frames, the frame after them finds `a` where the
frames among them that did not fail have brought it. -/
theorem Course.run : ∀ (ops : List QueueOp) (s : Scene Queued) (j : Nat),
    Course a v sp j s.robot.play → j + okFrames room ops s < framesFor v sp →
    At a v sp (j + okFrames room (ops ++ [.update]) s) (runOps room (ops ++ [.update]) s).robot.play
  | [], s, j, course, early => course.frame pos whole (by omega : 2 ≤ room) early
  | op :: ops, s, j, course, early => by
    cases update : op.isUpdate with
    | false =>
      rw [okFrames_skip room op update] at early
      rw [List.cons_append, okFrames_skip room op update]
      exact Course.run ops _ j (QueueOp.course enough update course) early
    | true =>
      cases op with
      | enqueue _ | request _ _ => cases update
      | update =>
        rw [okFrames_update] at early
        have stepped := course.frame pos whole (by omega : 2 ≤ room) (by omega)
        have rest := Course.run ops _ _ (.inr stepped) (by omega)
        rw [List.cons_append, okFrames_update, ← Nat.add_assoc]
        exact rest

theorem Course.frame_turn (turning : a.kind = .turnRight ∨ a.kind = .turnLeft) {j : Nat}
    {s : Scene Queued} (course : Course a v sp j s.robot.play) {h : Int}
    (heading : s.robot.heading = .int h) (early : j < framesFor v sp) :
    (Act.go (updateActions room) s).1 = .ok () ∧
      ∃ h', (Act.go (updateActions room) s).2.robot.heading = .int h' := by
  rcases course with ⟨rfl, waiting⟩ | now
  · obtain ⟨f, s', inside, fresh, kept, same⟩ := waiting.start (by omega : 2 ≤ room) whole
    rw [same]
    exact advance_turn_ok (by omega) whole turning fresh.progress
      (speedOf_turn turning fresh.speed) (kept.trans heading) (small_step pos whole)
  · obtain ⟨f, s', inside, robot, same⟩ := go_updateActions_under_way room (now.under early)
    rw [same]
    rw [← robot] at now heading
    exact advance_turn_ok (by omega) whole turning now.progress (speedOf_turn turning now.speed)
      heading (small_step pos whole)

theorem Course.run_turn (turning : a.kind = .turnRight ∨ a.kind = .turnLeft) :
    ∀ (ops : List QueueOp) (s : Scene Queued) (j : Nat), Course a v sp j s.robot.play →
      (∃ h, s.robot.heading = .int h) → j + (ops.filter QueueOp.isUpdate).length < framesFor v sp →
      okFrames room (ops ++ [.update]) s = ((ops ++ [QueueOp.update]).filter QueueOp.isUpdate).length
  | [], s, j, course, ⟨h, heading⟩, early => by
    obtain ⟨ok, -⟩ := course.frame_turn enough pos whole turning heading (by simpa using early)
    rw [List.nil_append, okFrames_update, ok]
    rfl
  | op :: ops, s, j, course, ⟨h, heading⟩, early => by
    cases update : op.isUpdate with
    | false =>
      have skip : ¬ op.isUpdate = true := by simp [update]
      obtain ⟨b, appended⟩ := QueueOp.appends enough update s
      have kept : (Act.go (op.act room) s).2.robot.heading = .int h := by
        rw [appended]
        exact heading
      rw [List.filter_cons_of_neg skip] at early
      rw [List.cons_append, okFrames_skip room op update,
        Course.run_turn turning ops _ j (QueueOp.course enough update course) ⟨h, kept⟩ early,
        List.filter_cons_of_neg skip]
    | true =>
      cases op with
      | enqueue _ | request _ _ => cases update
      | update =>
        rw [List.filter_cons_of_pos rfl, List.length_cons] at early
        obtain ⟨ok, turned⟩ := course.frame_turn enough pos whole turning heading (by omega)
        have stepped := course.frame pos whole (by omega : 2 ≤ room) (by omega)
        rw [ok] at stepped
        rw [List.cons_append, okFrames_update, ok,
          Course.run_turn turning ops _ (j + 1) (.inr stepped) turned (by omega),
          List.filter_cons_of_pos rfl, List.length_cons]
        exact Nat.add_comm 1 _

end Runs

/-- The queued robot's actions. Over any operations, the actions not yet done at the start and
those enqueued since are, in order, those taken off, at most one a frame, and then those not yet
done; a frame takes off at most the first, and only once it is done.

An action of a kind that moves or turns, with a whole amount `v` at a whole speed `sp`, takes at
each frame the step `min sp (v - p)` from its progress `p`, or fails and keeps it. From the frame
that starts it, after `j` frames that did not fail its progress is `progressAfter v sp j`, and it
is under way until it has had exactly `framesFor v sp` of them; a turn from a whole-number heading
never fails a frame. The progress never passes a positive amount and reaches the amount exactly
at the last frame. -/
theorem actions_keep_order_and_pace {room : Nat} (enough : 3 ≤ room) :
    (∀ (ops : List QueueOp) (s : Scene Queued), ∃ cleared : List Action,
      cleared.length ≤ (ops.filter QueueOp.isUpdate).length ∧
      pending s.robot ++ ops.flatMap QueueOp.enqueued = cleared ++ pending (runOps room ops s).robot) ∧
    (∀ s : Scene Queued, Sheds s.robot (Act.go (updateActions room) s).2.robot) ∧
    (∀ {a : Action} {v sp p : Int} (s : Scene Queued), Whole a v → s.robot.current = some a →
      s.robot.progress = .int p → speedOf s.robot.play a.kind = some (.int sp) →
      (p + min sp (v - p)).natAbs < Nat.pow 10 digitLimit →
      Tries v (p + min sp (v - p)) (updateActions room) s) ∧
    (∀ {a : Action} {v sp : Int} (s : Scene Queued), Whole a v → 0 < sp →
      Waiting a sp s.robot.play → ∀ ops : List QueueOp, okFrames room ops s < framesFor v sp →
      At a v sp (okFrames room (ops ++ [.update]) s) (runOps room (ops ++ [.update]) s).robot.play) ∧
    (∀ {a : Action} {v sp : Int} (s : Scene Queued), Whole a v → 0 < sp →
      Waiting a sp s.robot.play → (a.kind = .turnRight ∨ a.kind = .turnLeft) →
      (∃ h, s.robot.heading = .int h) →
      ∀ ops : List QueueOp, (ops.filter QueueOp.isUpdate).length < framesFor v sp →
      okFrames room (ops ++ [.update]) s = ((ops ++ [QueueOp.update]).filter QueueOp.isUpdate).length) ∧
    (∀ {v sp : Int}, 0 < sp → (0 < v → ∀ k, progressAfter v sp k ≤ v) ∧
      ∀ k, 0 < k → (progressAfter v sp k = v ↔ framesFor v sp ≤ k)) := by
  refine ⟨runOps_pending enough, updateActions_sheds room, ?_, ?_, ?_, ?_⟩
  · intro a v sp p s whole under progress speed small
    obtain ⟨f, s', inside, robot, same⟩ := go_updateActions_under_way room under
    rw [← robot] at progress speed
    exact Tries.of_go same robot (advance_tries (by omega) whole progress speed small)
  · intro a v sp s whole pos waiting ops early
    have paced := Course.run enough pos whole ops s 0 (.inl ⟨rfl, waiting⟩) (by omega)
    rw [Nat.zero_add] at paced
    exact paced
  · intro a v sp s whole pos waiting turning heading ops early
    exact Course.run_turn enough pos whole turning ops s 0 (.inl ⟨rfl, waiting⟩) heading (by omega)
  · intro v sp pos
    exact ⟨progressAfter_le pos, fun _ stepped => progressAfter_eq_iff pos stepped⟩

/-- A turn left by 5, first in the queue of the robot at rest, which turns 2 a frame: still under
way after two frames, and done after three with progress 5. -/
theorem turn_of_five_takes_three_frames :
    let s : Scene Queued := { robot := { Queued.initial with queue := [⟨.turnLeft, .int 5⟩] } }
    (runOps 3 [.update, .update] s).robot.current = some ⟨.turnLeft, .int 5⟩ ∧
      (runOps 3 [.update, .update, .update] s).robot.current = none ∧
      (runOps 3 [.update, .update, .update] s).robot.progress = .int 5 := by
  intro s
  obtain ⟨-, -, -, paced, turns, -⟩ := actions_keep_order_and_pace (by decide : 3 ≤ 3)
  have whole : Whole ⟨.turnLeft, .int 5⟩ 5 := ⟨rfl, by decide +kernel⟩
  have waiting : Waiting ⟨.turnLeft, .int 5⟩ 2 s.robot.play := ⟨rfl, ⟨[], rfl⟩, rfl⟩
  have heading : ∃ h, s.robot.heading = .int h := ⟨0, rfl⟩
  have one : okFrames 3 [.update] s = 1 :=
    turns s whole (by decide) waiting (.inr rfl) heading [] (by decide)
  have two : okFrames 3 [.update, .update] s = 2 :=
    turns s whole (by decide) waiting (.inr rfl) heading [.update] (by decide)
  have three : okFrames 3 [.update, .update, .update] s = 3 :=
    turns s whole (by decide) waiting (.inr rfl) heading [.update, .update] (by decide)
  have second := paced s whole (by decide) waiting [.update] (by rw [one]; decide)
  have third := paced s whole (by decide) waiting [.update, .update] (by rw [two]; decide)
  have under := second.current
  have done := third.current
  have reached := third.progress
  rw [show [QueueOp.update] ++ [.update] = [.update, .update] from rfl, two, play_current,
    if_pos (by decide)] at under
  rw [show [QueueOp.update, .update] ++ [.update] = [.update, .update, .update] from rfl, three,
    play_current, if_neg (by decide)] at done
  rw [show [QueueOp.update, .update] ++ [.update] = [.update, .update, .update] from rfl, three,
    play_progress, show progressAfter 5 2 3 = 5 from rfl] at reached
  exact ⟨under, done, reached⟩

/-- A turn by ten to the digit limit, first in the queue of the robot at rest: its amount has too
many digits to print, so the frame that starts it fails before it takes any step and leaves the
progress at 0, not at the speed. -/
theorem huge_turn_takes_no_step :
    let a : Action := ⟨.turnRight, .int (Nat.pow 10 digitLimit)⟩
    let s : Scene Queued := { robot := { Queued.initial with queue := [a] } }
    (Act.go (updateActions 2) s).1 = .error .digitLimitWrite ∧
      (Act.go (updateActions 2) s).2.robot.current = some a ∧
      (Act.go (updateActions 2) s).2.robot.progress = .int 0 := by
  intro a s
  have unprinted : a.amount.text = .error .digitLimitWrite :=
    Value.text_int_large (Nat.le_of_eq (Int.natAbs_natCast (Nat.pow 10 digitLimit)).symm)
  have fails : a.text = .error .digitLimitWrite := by
    simp only [Action.text, unprinted, bind, Except.bind]
  obtain ⟨failed, started⟩ := go_updateActions_unprintable 2 fails (s := s) rfl rfl
  rw [started]
  exact ⟨failed, rfl, rfl⟩

end Robot.Queued

end RoboScript
