import RoboScript.Proofs.ActionFrames
import RoboScript.Proofs.Confined

/-! Where the two robots face. The classic robot turns at once: a turn adds or takes away its
degrees and takes the heading modulo 360, and a move leaves the heading alone. The queued robot
turns by steps and takes the heading modulo 360 after each; the steps of a turn add up to its
amount, and a remainder modulo 360 taken after each step or once at the end comes to the same.
So each time the queued robot has finished an action it faces where the classic robot faces after
doing the same actions at once. Neither takes the heading modulo 360 on a move, so a heading
outside `[0, 360)` stays as it was until the first turn. -/

namespace RoboScript

namespace Robot

/-- The way a turn of this kind goes, left adding degrees and right taking them away; only the
turns have one. -/
def ActionKind.direction? : ActionKind → Option Int
  | .turnRight => some (-1)
  | .turnLeft => some 1
  | _ => none

/-- The degrees an action turns the heading by, when it is a turn by a whole number of
degrees. -/
def Action.degrees? (a : Action) : Option Int :=
  match a.kind.direction?, a.amount.num? with
  | some d, some (.int v) => some (d * v)
  | _, _ => none

/-- The action is no turn, or a turn by a whole number of degrees: an integer or a truth
value. -/
def Action.turnsWhole (a : Action) : Bool :=
  match a.kind.direction?, a.amount.num? with
  | some _, some (.int _) => true
  | some _, _ => false
  | none, _ => true

theorem Action.turnsWhole_num {a : Action} (whole : a.turnsWhole = true) {d : Int}
    (turning : a.kind.direction? = some d) : ∃ v, a.amount.num? = some (.int v) := by
  unfold Action.turnsWhole at whole
  rw [turning] at whole
  cases num : a.amount.num? with
  | none =>
    rw [num] at whole
    cases whole
  | some n =>
    cases n with
    | int v => exact ⟨v, rfl⟩
    | float x =>
      rw [num] at whole
      cases whole

theorem Action.degrees_of_turn {a : Action} {d v : Int} (turning : a.kind.direction? = some d)
    (num : a.amount.num? = some (.int v)) : a.degrees? = some (d * v) := by
  unfold Action.degrees?
  rw [turning, num]

theorem Action.degrees_of_straight {a : Action} (straight : a.kind.direction? = none) :
    a.degrees? = none := by
  unfold Action.degrees?
  rw [straight]

/-- The heading after the action done at once from the heading `h`: a turn by a whole number of
degrees adds them and takes the result modulo 360, and any other action leaves the heading. -/
def turnAtOnce (h : Int) (a : Action) : Int :=
  match a.degrees? with
  | some x => (h + x) % 360
  | none => h

/-- The degrees the turns among the actions add up to. -/
def degreesTurned : List Action → Int
  | [] => 0
  | a :: acts => a.degrees?.getD 0 + degreesTurned acts

/-- The heading after the actions done at once, one after another, from the heading `h`. -/
def headingAfter (h : Int) (acts : List Action) : Int := acts.foldl turnAtOnce h

@[simp] theorem headingAfter_nil (h : Int) : headingAfter h [] = h := rfl

@[simp] theorem headingAfter_cons (h : Int) (a : Action) (acts : List Action) :
    headingAfter h (a :: acts) = headingAfter (turnAtOnce h a) acts := rfl

theorem degreesTurned_of_straight {acts : List Action}
    (straight : ∀ a ∈ acts, a.degrees? = none) : degreesTurned acts = 0 := by
  induction acts with
  | nil => rfl
  | cons a acts ih =>
    rw [degreesTurned, straight a List.mem_cons_self, Option.getD_none,
      ih fun b mem => straight b (List.mem_cons_of_mem a mem), Int.add_zero]

theorem headingAfter_eq (h : Int) (acts : List Action) :
    headingAfter h acts =
      if acts.any (·.degrees?.isSome) then (h + degreesTurned acts) % 360 else h := by
  induction acts generalizing h with
  | nil => rfl
  | cons a acts ih =>
    rw [headingAfter_cons, ih]
    unfold turnAtOnce
    cases turned : a.degrees? with
    | none => simp [turned, degreesTurned]
    | some x =>
      simp only [turned, List.any_cons, Option.isSome_some, Bool.true_or, if_true, degreesTurned,
        Option.getD_some]
      by_cases later : acts.any (·.degrees?.isSome) = true
      · rw [if_pos later]
        omega
      · rw [if_neg later, degreesTurned_of_straight (by simpa using later)]
        omega

/-! ### The classic robot -/

theorem Value.ring_int_left {op : Ring} {symbol : String} {r : Value} {b : Int}
    (num : r.num? = some (.int b)) (a : Int) :
    Value.ring op symbol (.int a) r = .ok (.int (op.onInt a b)) := by
  unfold Value.ring
  rw [num]
  rfl

namespace Classic

open Act (Allowed)

theorem shownPoint_keeps {allow : Allowance Classic} (room : Nat) (p : Plane.Point) :
    Allowed allow (shownPoint room p) := by
  unfold shownPoint
  exact .bind (.reach _ _ _) fun _ => .bind (.reach _ _ _) fun _ => .bind (.reach _ _ _) fun _ =>
    .ofExcept _

theorem moveForward_keeps_heading (room : Nat) (distance : Value) :
    Allowed (Allowance.keeping Classic.heading) (moveForward room distance) := by
  unfold moveForward
  exact .bind (.enter _ _) fun _ => .bind .robot fun _ => .bind (.native _ _) fun _ =>
    .bind (.native _ _) fun _ => .bind (.ofExcept _) fun _ => .bind (.native _ _) fun _ =>
    .bind (.ofExcept _) fun _ => .bind (.ofExcept _) fun _ => .bind (.update fun _ => rfl) fun _ =>
    .bind (.ofExcept _) fun _ => .bind (.update fun _ => rfl) fun _ => .bind (.shown _ _) fun _ =>
    .bind .robot fun _ => .bind (shownPoint_keeps _ _) fun _ => .say _ _

theorem moveBackward_keeps_heading (room : Nat) (distance : Value) :
    Allowed (Allowance.keeping Classic.heading) (moveBackward room distance) := by
  unfold moveBackward
  exact .bind (.frame _) fun _ => .bind (.ofExcept _) fun _ => moveForward_keeps_heading _ _

theorem turn_heading (right : Bool) {room : Nat} (enough : 1 ≤ room) {degrees : Value} {n : Int}
    (num : degrees.num? = some (.int n)) {s : Scene Classic} {h : Int}
    (heading : s.robot.heading = .int h) :
    (Act.go (turn right room degrees) s).2.robot.heading =
      .int ((h + (if right then -1 else 1) * n) % 360) := by
  have turned : (if right then Value.ring .sub "-=" (.int h) degrees
      else Value.ring .add "+=" (.int h) degrees) = .ok (.int (h + (if right then -1 else 1) * n)) := by
    cases right
    · rw [if_neg Bool.false_ne_true, Value.ring_int_left num, if_neg Bool.false_ne_true]
      simp [Ring.onInt]
    · rw [if_pos rfl, Value.ring_int_left num, if_pos rfl]
      congr 2
      simp only [Ring.onInt]
      omega
  unfold turn
  rw [Act.go_enter_bind, if_pos enough, Act.go_bind_ok (Act.go_robot _), Scene.count_robot, heading,
    Act.go_bind_ok (by rw [Act.go_ofExcept, turned]), Act.go_bind_ok (Act.go_update _ _),
    Act.go_bind_ok (by rw [Act.go_ofExcept, Value.floorMod_int]), Act.go_bind_ok (Act.go_update _ _)]
  have printing : ∀ f : Frame, Allowed (Allowance.keeping Classic.heading) (do
      let amount ← Act.shown f.room degrees
      let now ← Act.shown f.room (.int ((h + (if right then -1 else 1) * n) % 360))
      Act.say f ("Robot turns " ++ (if right then "right " else "left ") ++ amount ++
        " degrees to " ++ now)) :=
    fun _ => .bind (.shown _ _) fun _ => .bind (.shown _ _) fun _ => .say _ _
  exact printing _ _

/-- The classic robot's way of doing an action: at once, by the method of the action's kind, on
its amount. -/
def atOnce (room : Nat) (a : Action) : Act Classic Unit :=
  match a.kind with
  | .moveForward => moveForward room a.amount
  | .moveBackward => moveBackward room a.amount
  | .turnRight => turn true room a.amount
  | .turnLeft => turn false room a.amount
  | .other _ => pure ()

/-- The classic robot doing actions at once, one after another, each on the scene the last one
left, whether or not it failed. -/
def allAtOnce (room : Nat) : List Action → Scene Classic → Scene Classic
  | [], s => s
  | a :: acts, s => allAtOnce room acts (Act.go (atOnce room a) s).2

theorem atOnce_heading {room : Nat} (enough : 1 ≤ room) {a : Action} (whole : a.turnsWhole = true)
    {s : Scene Classic} {h : Int} (heading : s.robot.heading = .int h) :
    (Act.go (atOnce room a) s).2.robot.heading = .int (turnAtOnce h a) := by
  unfold atOnce turnAtOnce
  cases kind : a.kind with
  | moveForward | moveBackward =>
    have straight : a.kind.direction? = none := by rw [kind]; rfl
    rw [Action.degrees_of_straight straight]
    first
      | exact (moveForward_keeps_heading room a.amount s).trans heading
      | exact (moveBackward_keeps_heading room a.amount s).trans heading
  | turnRight | turnLeft =>
    have turning : a.kind.direction? = some (if a.kind = .turnRight then -1 else 1) := by
      rw [kind]; rfl
    obtain ⟨n, num⟩ := Action.turnsWhole_num whole turning
    rw [Action.degrees_of_turn turning num, turn_heading _ enough num heading, kind]
    rfl
  | other name =>
    have straight : a.kind.direction? = none := by rw [kind]; rfl
    rw [Action.degrees_of_straight straight]
    exact heading

theorem allAtOnce_heading {room : Nat} (enough : 1 ≤ room) :
    ∀ (acts : List Action) (s : Scene Classic) (h : Int), (∀ a ∈ acts, a.turnsWhole = true) →
      s.robot.heading = .int h → (allAtOnce room acts s).robot.heading = .int (headingAfter h acts)
  | [], _, _, _, heading => heading
  | a :: acts, s, h, whole, heading => by
    have turned := atOnce_heading enough (whole a List.mem_cons_self) heading
    exact allAtOnce_heading enough acts _ _ (fun b mem => whole b (List.mem_cons_of_mem a mem))
      turned

end Classic

/-! ### The queued robot -/

namespace Queued

open Act (Allowed)

theorem finish_keeps {β : Type} {view : Queued → β}
    (blind : ∀ r, view { r with current := none } = view r) (f : Frame) (a : Action) :
    Allowed (Allowance.keeping view) (finish f a) := by
  unfold finish
  refine .bind .robot fun _ => .bind (.ofExcept _) fun _ => ?_
  split
  · exact .bind (.say _ _) fun _ => .update fun s => blind s.robot
  · exact .pure ()

theorem advanceMove_keeps (f : Frame) (direction : Int) (a : Action) :
    Allowed (Allowance.keeping fun r : Queued => (r.heading, r.turnSpeed))
      (advanceMove f direction a) := by
  unfold advanceMove
  exact .bind .robot fun _ => .bind (.ofExcept _) fun _ => .bind (.ofExcept _) fun _ =>
    .bind (.ofExcept _) fun _ => .bind (.ofExcept _) fun _ => .bind (.ofExcept _) fun _ =>
    .bind (.update fun _ => rfl) fun _ => .bind (.ofExcept _) fun _ =>
    .bind (.update fun _ => rfl) fun _ => .bind (.ofExcept _) fun _ =>
    .bind (.update fun _ => rfl) fun _ => .bind (.ofExcept _) fun _ => .bind (.ofExcept _) fun _ =>
    .bind (.say _ _) fun _ => finish_keeps (fun _ => rfl) f a

theorem stepTail_keeps (f : Frame) (a : Action) (t u : Except Error String)
    (line : String → String → String) :
    Allowed (Allowance.keeping fun r : Queued => { r with current := none }) (do
      let x ← ofExcept t
      let y ← ofExcept u
      Act.say f (line x y)
      finish f a) :=
  .bind (.ofExcept _) fun _ => .bind (.ofExcept _) fun _ => .bind (.say _ _) fun _ =>
    finish_keeps (fun _ => rfl) f a

theorem advanceTurn_robot (f : Frame) (direction : Int) {a : Action} {v : Int}
    (num : a.amount.num? = some (.int v)) {s : Scene Queued} {h p sp : Int}
    (heading : s.robot.heading = .int h) (progress : s.robot.progress = .int p)
    (speed : s.robot.turnSpeed = .int sp) :
    { (Act.go (advanceTurn f direction a) s).2.robot with current := none } =
      { s.robot with
        heading := .int ((h + direction * min sp (v - p)) % 360)
        progress := .int (p + min sp (v - p))
        current := none } := by
  unfold advanceTurn
  rw [Act.go_bind_ok (Act.go_robot s),
    Act.go_bind_ok (by rw [Act.go_ofExcept, progress, speed, stepOf_int num]), heading,
    Act.go_bind_ok (v := .int (h + direction * min sp (v - p))) (by rw [Act.go_ofExcept]; rfl),
    Act.go_bind_ok (Act.go_update _ _),
    Act.go_bind_ok (by rw [Act.go_ofExcept, Value.floorMod_int]), Act.go_bind_ok (Act.go_update _ _),
    progress, Act.go_bind_ok (by rw [Act.go_ofExcept, Value.ring_int]),
    Act.go_bind_ok (Act.go_update _ _)]
  exact Eq.trans (stepTail_keeps f a _ _ _ _) rfl

theorem advance_of_turn {f : Frame} {a : Action} {d : Int} (turning : a.kind.direction? = some d) :
    advance f a = advanceTurn f d a := by
  unfold advance
  cases kind : a.kind <;> rw [kind] at turning <;> cases turning <;> rfl

theorem advance_keeps_of_straight (f : Frame) {a : Action} (straight : a.kind.direction? = none) :
    Allowed (Allowance.keeping fun r : Queued => (r.heading, r.turnSpeed)) (advance f a) := by
  unfold advance
  cases kind : a.kind <;> rw [kind] at straight <;> cases straight
  · exact advanceMove_keeps f 1 a
  · exact advanceMove_keeps f (-1) a
  · exact .pure ()

theorem Reached.le {r : Queued} {a : Action} {v q : Int} (num : a.amount.num? = some (.int v))
    (progress : r.progress = .int q) (reached : Reached r a) : v ≤ q := by
  obtain ⟨w, compared, truthy⟩ := reached
  rw [progress, Value.relate_int rfl num, Relation.holds_ge] at compared
  cases compared
  simpa [Value.truthy] using truthy

/-- The queued robot faces as if it had done at once the actions it has finished, reaching the
heading `H`, and then turned by what is done of a turn under way: a turn of direction `d` with
progress `p` has brought the heading to `(H + d * p) % 360`, or, before its first step, left it
at `H`. -/
def Aligned (H : Int) (r : Queued) : Prop :=
  match r.current with
  | some a =>
    match a.kind.direction? with
    | some d => ∃ p, r.progress = .int p ∧
        (r.heading = .int ((H + d * p) % 360) ∨ p = 0 ∧ r.heading = .int H)
    | none => r.heading = .int H
  | none => r.heading = .int H

theorem aligned_idle {H : Int} {r : Queued} (idle : r.current = none) :
    Aligned H r ↔ r.heading = .int H := by
  unfold Aligned
  rw [idle]

theorem aligned_straight {H : Int} {r : Queued} {a : Action} (under : r.current = some a)
    (straight : a.kind.direction? = none) : Aligned H r ↔ r.heading = .int H := by
  unfold Aligned
  rw [under]
  dsimp only
  rw [straight]

theorem aligned_turning {H : Int} {r : Queued} {a : Action} {d : Int} (under : r.current = some a)
    (turning : a.kind.direction? = some d) :
    Aligned H r ↔ ∃ p, r.progress = .int p ∧
      (r.heading = .int ((H + d * p) % 360) ∨ p = 0 ∧ r.heading = .int H) := by
  unfold Aligned
  rw [under]
  dsimp only
  rw [turning]

theorem aligned_start {H : Int} {r : Queued} (aligned : Aligned H r) (idle : r.current = none)
    (a : Action) (rest : List Action) :
    Aligned H { r with current := some a, queue := rest, progress := .int 0 } := by
  have facing := (aligned_idle idle).1 aligned
  cases turning : a.kind.direction? with
  | none => exact (aligned_straight rfl turning).2 facing
  | some d => exact (aligned_turning rfl turning).2 ⟨0, rfl, .inr ⟨rfl, facing⟩⟩

theorem advanceTurn_aligned (f : Frame) {a : Action} {d v : Int}
    (turning : a.kind.direction? = some d) (num : a.amount.num? = some (.int v)) {H sp : Int}
    {s : Scene Queued} (under : s.robot.current = some a) (aligned : Aligned H s.robot)
    (speed : s.robot.turnSpeed = .int sp) :
    let r' := (Act.go (advanceTurn f d a) s).2.robot
    r'.turnSpeed = .int sp ∧ r'.queue = s.robot.queue ∧
      (r'.current = some a ∧ Aligned H r' ∨ r'.current = none ∧ Aligned (turnAtOnce H a) r') := by
  intro r'
  obtain ⟨p, progress, facing⟩ := (aligned_turning under turning).1 aligned
  -- before the step the heading is `(H + d * p) % 360`, or `H` itself with no progress yet
  obtain ⟨h, heading, before⟩ : ∃ h, s.robot.heading = .int h ∧
      (h + d * min sp (v - p)) % 360 = (H + d * (p + min sp (v - p))) % 360 := by
    rcases facing with heading | ⟨rfl, heading⟩
    · refine ⟨_, heading, ?_⟩
      rw [Int.mul_add]
      omega
    · exact ⟨H, heading, by rw [Int.zero_add]⟩
  have stepped := advanceTurn_robot f d num heading progress speed
  have heading' : r'.heading = .int ((H + d * (p + min sp (v - p))) % 360) := by
    rw [← before]
    exact congrArg Queued.heading stepped
  have progress' : r'.progress = .int (p + min sp (v - p)) := congrArg Queued.progress stepped
  have queue' := congrArg Queued.queue stepped
  refine ⟨(congrArg Queued.turnSpeed stepped).trans speed, queue', ?_⟩
  obtain ⟨-, ended⟩ := advanceTurn_mayEnd f d a s
  rw [under] at ended
  rcases ended with still | ⟨idle, reached⟩
  · exact .inl ⟨still, (aligned_turning still turning).2 ⟨_, progress', .inl heading'⟩⟩
  · -- the turn ended, so its progress has reached its amount: all of it is done
    have done : p + min sp (v - p) = v := by
      have := reached.le num progress'
      omega
    refine .inr ⟨idle, (aligned_idle idle).2 ?_⟩
    rw [heading', done]
    unfold turnAtOnce
    rw [Action.degrees_of_turn turning num]

theorem advance_aligned (f : Frame) {a : Action} (whole : a.turnsWhole = true) {H sp : Int}
    {s : Scene Queued} (under : s.robot.current = some a) (aligned : Aligned H s.robot)
    (speed : s.robot.turnSpeed = .int sp) :
    let r' := (Act.go (advance f a) s).2.robot
    r'.turnSpeed = .int sp ∧ r'.queue = s.robot.queue ∧
      (r'.current = some a ∧ Aligned H r' ∨ r'.current = none ∧ Aligned (turnAtOnce H a) r') := by
  intro r'
  cases turning : a.kind.direction? with
  | some d =>
    obtain ⟨v, num⟩ := Action.turnsWhole_num whole turning
    have same : r' = (Act.go (advanceTurn f d a) s).2.robot := by
      simp only [r', advance_of_turn turning]
    rw [same]
    exact advanceTurn_aligned f turning num under aligned speed
  | none =>
    have kept := advance_keeps_of_straight f turning s
    have facing := (aligned_straight under turning).1 aligned
    have heading' : r'.heading = .int H := (congrArg Prod.fst kept).trans facing
    refine ⟨(congrArg Prod.snd kept).trans speed, (advance_mayEnd f a s).1, ?_⟩
    rcases (advance_mayEnd f a s).2 with still | ⟨idle, -⟩
    · rw [under] at still
      exact .inl ⟨still, (aligned_straight still turning).2 heading'⟩
    · refine .inr ⟨idle, (aligned_idle idle).2 ?_⟩
      unfold turnAtOnce
      rw [Action.degrees_of_straight turning]
      exact heading'

theorem stepCurrent_aligned (f : Frame) {H sp : Int} {s : Scene Queued}
    (aligned : Aligned H s.robot) (speed : s.robot.turnSpeed = .int sp)
    (whole : ∀ a ∈ pending s.robot, a.turnsWhole = true) :
    let r' := (Act.go (stepCurrent f) s).2.robot
    ∃ done : List Action, pending s.robot = done ++ pending r' ∧ Aligned (headingAfter H done) r' ∧
      r'.turnSpeed = .int sp := by
  dsimp only
  unfold stepCurrent
  rw [Act.go_bind_ok (Act.go_robot s)]
  cases under : s.robot.current with
  | none => exact ⟨[], rfl, aligned, speed⟩
  | some a =>
    dsimp only
    have first : a ∈ pending s.robot := by simp [pending, under]
    obtain ⟨speed', queue, ended⟩ := advance_aligned f (whole a first) under aligned speed
    rcases ended with ⟨still, aligned'⟩ | ⟨idle, aligned'⟩
    · exact ⟨[], by simp [pending, under, still, queue], aligned', speed'⟩
    · exact ⟨[a], by simp [pending, under, idle, queue], aligned', speed'⟩

theorem playEntered_aligned (f : Frame) {H sp : Int} {s : Scene Queued}
    (aligned : Aligned H s.robot) (speed : s.robot.turnSpeed = .int sp)
    (whole : ∀ a ∈ pending s.robot, a.turnsWhole = true) :
    let r' := (Act.go (playEntered f) s).2.robot
    ∃ done : List Action, pending s.robot = done ++ pending r' ∧ Aligned (headingAfter H done) r' ∧
      r'.turnSpeed = .int sp := by
  dsimp only
  rw [playEntered, Act.go_bind_ok (Act.go_robot s)]
  by_cases idle : s.robot.current.isNone = true
  · rw [if_pos idle]
    cases waiting : s.robot.queue with
    | nil => exact stepCurrent_aligned f aligned speed whole
    | cons a rest =>
      let started : Scene Queued :=
        { s with robot := { s.robot with current := some a, queue := rest, progress := .int 0 } }
      have none := Option.isNone_iff_eq_none.1 idle
      have same : pending s.robot = pending started.robot := by
        simp [pending, started, none, waiting]
      have fresh : Aligned H started.robot := aligned_start aligned none a rest
      have kept : ∃ done : List Action,
          pending s.robot = done ++ pending started.robot ∧
            Aligned (headingAfter H done) started.robot ∧ started.robot.turnSpeed = .int sp :=
        ⟨[], same, fresh, speed⟩
      dsimp only
      rw [Act.go_bind_ok (Act.go_update _ s)]
      cases shown : a.text with
      | error e =>
        rw [Act.go_bind_error (by rw [Act.go_ofExcept])]
        exact kept
      | ok text =>
        rw [Act.go_bind_ok (by rw [Act.go_ofExcept])]
        by_cases enough : (if f.warm then 1 else 2) ≤ f.room
        · rw [Act.go_bind_ok (by rw [Act.go_say, if_pos enough])]
          have whole' : ∀ b ∈ pending started.robot, b.turnsWhole = true :=
            fun b mem => whole b (same ▸ mem)
          let next : Scene Queued := { started with
            log := { s.log with lines := s.log.lines.push ("Starting action: " ++ text) } }
          obtain ⟨done, first, aligned', speed'⟩ :=
            stepCurrent_aligned f (s := next) fresh speed whole'
          exact ⟨done, same.trans first, aligned', speed'⟩
        · rw [Act.go_bind_error (by rw [Act.go_say, if_neg enough])]
          exact kept
  · rw [if_neg idle]
    exact stepCurrent_aligned f aligned speed whole

theorem updateActions_aligned (room : Nat) {H sp : Int} {s : Scene Queued}
    (aligned : Aligned H s.robot) (speed : s.robot.turnSpeed = .int sp)
    (whole : ∀ a ∈ pending s.robot, a.turnsWhole = true) :
    let r' := (Act.go (updateActions room) s).2.robot
    ∃ done : List Action, pending s.robot = done ++ pending r' ∧ Aligned (headingAfter H done) r' ∧
      r'.turnSpeed = .int sp := by
  dsimp only
  rw [go_updateActions]
  exact playEntered_aligned _ (s := s.count .play) aligned speed whole

theorem headingAfter_append (h : Int) (xs ys : List Action) :
    headingAfter h (xs ++ ys) = headingAfter (headingAfter h xs) ys :=
  List.foldl_append

theorem QueueOp.aligned {room : Nat} (enough : 3 ≤ room) (op : QueueOp) {H sp : Int}
    {s : Scene Queued} (aligned : Aligned H s.robot) (speed : s.robot.turnSpeed = .int sp)
    (whole : ∀ a ∈ pending s.robot ++ op.enqueued, a.turnsWhole = true) :
    let r' := (Act.go (op.act room) s).2.robot
    ∃ done : List Action, pending s.robot ++ op.enqueued = done ++ pending r' ∧
      Aligned (headingAfter H done) r' ∧ r'.turnSpeed = .int sp := by
  intro r'
  cases op with
  | enqueue a =>
    have queued : r' = { s.robot with queue := s.robot.queue ++ [a] } :=
      enqueue_robot (by omega) a s
    exact ⟨[], by simp [queued, pending, QueueOp.enqueued], by rw [queued]; exact aligned,
      by rw [queued]; exact speed⟩
  | request kind amount =>
    have queued : r' = { s.robot with queue := s.robot.queue ++ [⟨kind, amount⟩] } :=
      request_robot enough kind amount s
    exact ⟨[], by simp [queued, pending, QueueOp.enqueued], by rw [queued]; exact aligned,
      by rw [queued]; exact speed⟩
  | update =>
    rw [QueueOp.enqueued, List.append_nil] at whole ⊢
    exact updateActions_aligned room aligned speed whole

theorem runOps_aligned {room : Nat} (enough : 3 ≤ room) {sp : Int} :
    ∀ (ops : List QueueOp) (s : Scene Queued) (H : Int), Aligned H s.robot →
      s.robot.turnSpeed = .int sp →
      (∀ a ∈ pending s.robot ++ ops.flatMap QueueOp.enqueued, a.turnsWhole = true) →
      ∃ cleared : List Action,
        pending s.robot ++ ops.flatMap QueueOp.enqueued = cleared ++ pending (runOps room ops s).robot ∧
          Aligned (headingAfter H cleared) (runOps room ops s).robot
  | [], s, H, aligned, _, _ => ⟨[], by simp [runOps], aligned⟩
  | op :: ops, s, H, aligned, speed, whole => by
    have now : ∀ a ∈ pending s.robot ++ op.enqueued, a.turnsWhole = true := fun a mem =>
      whole a (by rw [List.flatMap_cons, ← List.append_assoc]; exact List.mem_append_left _ mem)
    obtain ⟨done, first, aligned', speed'⟩ := op.aligned enough aligned speed now
    have later : ∀ a ∈ pending (Act.go (op.act room) s).2.robot ++ ops.flatMap QueueOp.enqueued,
        a.turnsWhole = true := by
      intro a mem
      rcases List.mem_append.1 mem with left | right
      · exact now a (by rw [first]; exact List.mem_append_right _ left)
      · have enqueued : a ∈ op.enqueued ++ ops.flatMap QueueOp.enqueued :=
          List.mem_append_right _ right
        exact whole a (by rw [List.flatMap_cons]; exact List.mem_append_right _ enqueued)
    obtain ⟨cleared, rest, final⟩ := runOps_aligned enough ops _ _ aligned' speed' later
    refine ⟨done ++ cleared, ?_, ?_⟩
    · rw [List.flatMap_cons, ← List.append_assoc, first, List.append_assoc, rest,
        List.append_assoc]
      rfl
    · rw [headingAfter_append]
      exact final

/-- So whenever no action is under way, the robot faces as if it had done at once the actions
it has finished, and the others wait. -/
theorem runOps_heading_of_idle {room : Nat} (enough : 3 ≤ room) {sp : Int} (ops : List QueueOp)
    {s : Scene Queued} {H : Int} (aligned : Aligned H s.robot) (speed : s.robot.turnSpeed = .int sp)
    (whole : ∀ a ∈ pending s.robot ++ ops.flatMap QueueOp.enqueued, a.turnsWhole = true)
    (finished : (runOps room ops s).robot.current = none) :
    ∃ cleared : List Action,
      pending s.robot ++ ops.flatMap QueueOp.enqueued = cleared ++ (runOps room ops s).robot.queue ∧
        (runOps room ops s).robot.heading = .int (headingAfter H cleared) := by
  obtain ⟨cleared, split, final⟩ := runOps_aligned enough ops s H aligned speed whole
  have waiting : pending (runOps room ops s).robot = (runOps room ops s).robot.queue := by
    simp [pending, finished]
  exact ⟨cleared, split.trans (by rw [waiting]), (aligned_idle finished).1 final⟩

/-- Each time the queued robot has finished an action, it faces where the classic robot faces
after doing the same actions at once. From an idle queued robot with nothing queued, over any
operations that queue actions, turns among them by whole numbers of degrees, and play frames of
the queue, at any whole turn speed: whenever no action is under way, the first `k` actions queued
have been finished and the others wait, and the heading is that of the classic robot, started at
the same heading, after doing those `k` actions at once. That is the start heading plus the
degrees of the turns among them, taken modulo 360, and the start heading itself, taken modulo
nothing, when there is no turn among them. -/
theorem heading_follows_finished_actions {room : Nat} (enough : 3 ≤ room) {θ sp : Int}
    (ops : List QueueOp) {s : Scene Queued} (start : s.robot.heading = .int θ)
    (idle : s.robot.current = none) (empty : s.robot.queue = [])
    (speed : s.robot.turnSpeed = .int sp)
    (whole : ∀ a ∈ ops.flatMap QueueOp.enqueued, a.turnsWhole = true)
    {c : Scene Classic} (classicStart : c.robot.heading = .int θ)
    (finished : (runOps room ops s).robot.current = none) :
    let acts := ops.flatMap QueueOp.enqueued
    ∃ k, (runOps room ops s).robot.queue = acts.drop k ∧
      (runOps room ops s).robot.heading = (Classic.allAtOnce room (acts.take k) c).robot.heading ∧
      (runOps room ops s).robot.heading =
        .int (if (acts.take k).any (·.degrees?.isSome) then (θ + degreesTurned (acts.take k)) % 360
          else θ) := by
  intro acts
  have nothing : pending s.robot = [] := by simp [pending, idle, empty]
  obtain ⟨cleared, split, facing⟩ := runOps_heading_of_idle enough ops
    ((aligned_idle idle).2 start) speed (by rw [nothing, List.nil_append]; exact whole) finished
  rw [nothing, List.nil_append] at split
  change acts = cleared ++ _ at split
  have taken : acts.take cleared.length = cleared := by
    rw [split]
    simp
  have dropped : acts.drop cleared.length = (runOps room ops s).robot.queue := by
    rw [split]
    simp
  have done : ∀ a ∈ cleared, a.turnsWhole = true :=
    fun a mem => whole a (by show a ∈ acts; rw [split]; exact List.mem_append_left _ mem)
  refine ⟨cleared.length, dropped.symm, ?_, ?_⟩
  · rw [taken, facing, Classic.allAtOnce_heading (by omega) cleared c θ done classicStart]
  · rw [taken, facing, headingAfter_eq]

/-- A left turn by five at a turn speed of two, queued from a heading of 400, is still under way
after two frames and finished by the third, a remainder step of one; then both robots face 45,
although the queued robot took the heading modulo 360 after each step. -/
theorem left_turn_of_five_finishes_in_three_frames :
    let s : Scene Queued := { robot := { Queued.initial with heading := .int 400 } }
    let c : Scene Classic := { robot := { Classic.initial with heading := .int 400 } }
    let ops : List QueueOp := [.request .turnLeft (.int 5), .update, .update, .update]
    (runOps 3 (ops.take 3) s).robot.current.isSome ∧ (runOps 3 ops s).robot.current = none ∧
      ∃ k, (runOps 3 ops s).robot.queue = (ops.flatMap QueueOp.enqueued).drop k ∧
        (runOps 3 ops s).robot.heading =
          (Classic.allAtOnce 3 ((ops.flatMap QueueOp.enqueued).take k) c).robot.heading ∧
        (runOps 3 ops s).robot.heading =
          .int (if ((ops.flatMap QueueOp.enqueued).take k).any (·.degrees?.isSome) then
            (400 + degreesTurned ((ops.flatMap QueueOp.enqueued).take k)) % 360 else 400) := by
  intro s c ops
  have finished : (runOps 3 ops s).robot.current = none :=
    Option.isNone_iff_eq_none.1 (by decide +kernel)
  exact ⟨by decide +kernel, finished, heading_follows_finished_actions (by decide) ops rfl rfl rfl
    rfl (by decide +kernel) rfl finished⟩

/-- A move finished from a heading of 400 leaves the queued robot facing 400: with no turn the
heading is never taken modulo 360, so it is not `(400 + 0) % 360 = 40`. -/
theorem move_leaves_heading_of_four_hundred :
    let s : Scene Queued := { robot := { Queued.initial with heading := .int 400 } }
    let ops : List QueueOp := [.request .moveForward (.int 2), .update]
    (runOps 3 ops s).robot.current = none ∧ (runOps 3 ops s).robot.queue = [] ∧
      (runOps 3 ops s).robot.heading = .int 400 ∧
      (runOps 3 ops s).robot.heading ≠ .int ((400 + 0) % 360) := by
  intro s ops
  have finished : (runOps 3 ops s).robot.current = none :=
    Option.isNone_iff_eq_none.1 (by decide +kernel)
  have emptied : (runOps 3 ops s).robot.queue = [] := List.isEmpty_iff.1 (by decide +kernel)
  obtain ⟨cleared, split, facing⟩ := runOps_heading_of_idle (by decide) ops
    ((aligned_idle rfl).2 rfl) rfl (by decide +kernel) finished
  have before : pending s.robot ++ ops.flatMap QueueOp.enqueued = [⟨.moveForward, .int 2⟩] := rfl
  rw [before, emptied, List.append_nil] at split
  have heading : (runOps 3 ops s).robot.heading = .int 400 := by
    rw [facing, ← split]
    rfl
  refine ⟨finished, emptied, heading, ?_⟩
  rw [heading]
  simp

end Queued

end Robot

end RoboScript
