import RoboScript.Proofs.CallScope
import RoboScript.Proofs.Replay

/-! Stepping a program by the frames of the display. The queued robot's program can be stepped a
statement at a time from the frames: each frame plays a step of the actions under way, draws the
robot, and then, when no action is under way, runs the next statement of `main`. Between two
statements the robot may have played and finished some of the actions queued so far, and it has
printed lines of its own while playing them.

Once the functions are registered, the frames do what one run of the program does, up to that
playing: the statements run in order, once each, and none fails; every action the run queues is
queued by the frames in the same order, and those the frames have not finished are the last of
them; the lines the frames print are the run's lines with lines of playing woven in. This holds
for a program with one function called `main` and no `return` in its body, whose run ends
normally, stepped with at least the room of the run. Playing and drawing may still fail on their
own, which a run never does: a move by a NaN leaves the robot at a position that cannot be
drawn. -/

namespace RoboScript

/-- `zs` is `xs` and `ys` woven together, each kept in order. -/
inductive Interleave {α : Type} : List α → List α → List α → Prop
  | nil : Interleave [] [] []
  | left {xs ys zs : List α} (x : α) : Interleave xs ys zs → Interleave (xs ++ [x]) ys (zs ++ [x])
  | right {xs ys zs : List α} (y : α) : Interleave xs ys zs → Interleave xs (ys ++ [y]) (zs ++ [y])

theorem Interleave.append_right {α : Type} {xs ys zs : List α} (woven : Interleave xs ys zs) :
    ∀ extra : List α, Interleave xs (ys ++ extra) (zs ++ extra)
  | [] => by simpa using woven
  | y :: rest => by simpa using (woven.right y).append_right rest

theorem Interleave.append_left {α : Type} {xs ys zs : List α} (woven : Interleave xs ys zs) :
    ∀ extra : List α, Interleave (xs ++ extra) ys (zs ++ extra)
  | [] => by simpa using woven
  | x :: rest => by simpa using (woven.left x).append_left rest

theorem Interleave.self {α : Type} (xs : List α) : Interleave xs [] xs := by
  simpa using Interleave.nil.append_left xs

namespace Robot.Queued

/-- The actions the robot has not finished: the one under way, then those waiting. -/
def unfinished (r : Queued) : List Action := r.current.toList ++ r.queue

/-- A line the robot prints while it plays its actions: starting one, a step of a move or of a
turn, or finishing one. -/
def Played (line : String) : Prop :=
  ∃ rest, line = "Starting action: " ++ rest ∨ line = "Moving " ++ rest ∨
    line = "Turning " ++ rest ∨ line = "Completed action: " ++ rest

/-- What playing actions may do to the robot's scene: finish actions in order, print lines of
playing them, render texts, and enter functions. -/
structure Playing (s s' : Scene Queued) : Prop where
  finished : ∃ done, s.robot.unfinished = done ++ s'.robot.unfinished
  lines : ∃ played, (∀ line ∈ played, Played line) ∧
    s'.log.lines.toList = s.log.lines.toList ++ played
  entered : ∀ c, s.entered c ≤ s'.entered c

namespace Playing

theorem refl (s : Scene Queued) : Playing s s :=
  ⟨⟨[], rfl⟩, ⟨[], nofun, (List.append_nil _).symm⟩, fun _ => Nat.le_refl _⟩

theorem trans {s₁ s₂ s₃ : Scene Queued} (first : Playing s₁ s₂) (second : Playing s₂ s₃) :
    Playing s₁ s₃ := by
  obtain ⟨done, finished⟩ := first.finished
  obtain ⟨done', finished'⟩ := second.finished
  obtain ⟨played, playing, lines⟩ := first.lines
  obtain ⟨played', playing', lines'⟩ := second.lines
  refine ⟨⟨done ++ done', by rw [finished, finished', List.append_assoc]⟩,
    ⟨played ++ played', ?_, by rw [lines', lines, List.append_assoc]⟩,
    fun c => Nat.le_trans (first.entered c) (second.entered c)⟩
  intro line listed
  rcases List.mem_append.1 listed with early | late
  · exact playing line early
  · exact playing' line late

theorem count (s : Scene Queued) (c : Code) : Playing s (s.count c) := by
  refine ⟨⟨[], rfl⟩, ⟨[], nofun, (List.append_nil _).symm⟩, fun d => ?_⟩
  rw [Scene.count_entered]
  split
  · next same => subst same; omega
  · exact Nat.le_refl _

end Playing

open Act

/-- A step of the robot's scene that changes it only as playing does, whether or not it fails. -/
def Plays {α : Type} (a : Act Queued α) : Prop := ∀ s, Playing s (go a s).2

namespace Plays

variable {α β : Type}

theorem of_still {a : Act Queued α} (still : Still a) : Plays a := by
  intro s
  rw [still s]
  exact Playing.refl s

theorem bind {a : Act Queued α} {f : α → Act Queued β} (first : Plays a)
    (rest : ∀ v, Plays (f v)) : Plays (a >>= f) := by
  intro s
  rcases ran : go a s with ⟨e | v, s'⟩
  · rw [go_bind_error ran]
    simpa [ran] using first s
  · rw [go_bind_ok ran]
    have played : Playing s s' := by simpa [ran] using first s
    exact played.trans (rest v s')

theorem robot_bind {f : Queued → Act Queued α} (rest : ∀ s, Playing s (go (f s.robot) s).2) :
    Plays (Act.robot >>= f) := by
  intro s
  rw [go_bind_ok (go_robot s)]
  exact rest s

theorem robot : Plays Act.robot :=
  of_still fun s => by rw [go_robot]

theorem pure (a : α) : Plays (Pure.pure a : Act Queued α) :=
  of_still fun _ => rfl

theorem ofExcept (r : Except Error α) : Plays (ofExcept r : Act Queued α) :=
  of_still (Still.ofExcept r)

theorem update {f : Queued → Queued}
    (keeps : ∀ r, ∃ done, r.unfinished = done ++ (f r).unfinished) : Plays (Act.update f) := by
  intro s
  rw [go_update]
  exact ⟨keeps s.robot, ⟨[], nofun, (List.append_nil _).symm⟩, fun _ => Nat.le_refl _⟩

theorem say (f : Frame) {line : String} (played : Played line) : Plays (Act.say f line) := by
  intro s
  rw [go_say]
  by_cases enough : (if f.warm then 1 else 2) ≤ f.room
  · rw [if_pos enough]
    exact ⟨⟨[], rfl⟩, ⟨[line], by simpa using played, by simp⟩, fun _ => Nat.le_refl _⟩
  · rw [if_neg enough]
    exact Playing.refl s

theorem entered (c : Code) (room : Nat) : Plays (Act.entered c room) := by
  intro s
  rw [go_entered]
  exact Playing.count s c

theorem display (text : String) : Plays (Act.display text) :=
  fun _ => ⟨⟨[], rfl⟩, ⟨[], nofun, (List.append_nil _).symm⟩, fun _ => Nat.le_refl _⟩

end Plays

theorem finish_plays (f : Frame) (a : Action) : Plays (finish f a) := by
  unfold finish
  refine .bind .robot fun r => .bind (.ofExcept _) fun reached => ?_
  split
  · exact .bind (.say f ⟨_, .inr (.inr (.inr rfl))⟩) fun _ =>
      .update fun r => ⟨r.current.toList, by simp [unfinished]⟩
  · exact .pure ()

theorem advanceMove_plays (f : Frame) (direction : Int) (a : Action) :
    Plays (advanceMove f direction a) := by
  unfold advanceMove
  refine .bind .robot fun r => .bind (.ofExcept _) fun step => .bind (.ofExcept _) fun rad => ?_
  refine .bind (.ofExcept _) fun dx => .bind (.ofExcept _) fun dy => .bind (.ofExcept _) fun x => ?_
  refine .bind (.update fun _ => ⟨[], rfl⟩) fun _ => .bind (.ofExcept _) fun y => ?_
  refine .bind (.update fun _ => ⟨[], rfl⟩) fun _ => .bind (.ofExcept _) fun progress => ?_
  refine .bind (.update fun _ => ⟨[], rfl⟩) fun _ => .bind (.ofExcept _) fun done => ?_
  refine .bind (.ofExcept _) fun amount => .bind (.say f ?_) fun _ => finish_plays f a
  exact ⟨(if direction = 1 then "forward" else "backward") ++ ": Step " ++ done ++ "/" ++ amount,
    .inr (.inl (by simp only [String.append_assoc]))⟩

theorem advanceTurn_plays (f : Frame) (direction : Int) (a : Action) :
    Plays (advanceTurn f direction a) := by
  unfold advanceTurn
  refine .bind .robot fun r => .bind (.ofExcept _) fun step => .bind (.ofExcept _) fun turned => ?_
  refine .bind (.update fun _ => ⟨[], rfl⟩) fun _ => .bind (.ofExcept _) fun heading => ?_
  refine .bind (.update fun _ => ⟨[], rfl⟩) fun _ => .bind (.ofExcept _) fun progress => ?_
  refine .bind (.update fun _ => ⟨[], rfl⟩) fun _ => .bind (.ofExcept _) fun done => ?_
  refine .bind (.ofExcept _) fun amount => .bind (.say f ?_) fun _ => finish_plays f a
  exact ⟨(if direction = -1 then "right" else "left") ++ ": Step " ++ done ++ "/" ++ amount,
    .inr (.inr (.inl (by simp only [String.append_assoc])))⟩

theorem Playing.start {s : Scene Queued} {a : Action} {rest : List Action}
    (idle : s.robot.current = none) (waiting : s.robot.queue = a :: rest) (progress : Value) :
    Playing s
      { s with robot := { s.robot with current := some a, queue := rest, progress := progress } } :=
  ⟨⟨[], by simp [unfinished, idle, waiting]⟩, ⟨[], nofun, (List.append_nil _).symm⟩,
    fun _ => Nat.le_refl _⟩

theorem stepCurrent_plays (f : Frame) : Plays (do
    match (← Act.robot).current with
    | none => Pure.pure ()
    | some a =>
      match a.kind with
      | .moveForward => advanceMove f 1 a
      | .moveBackward => advanceMove f (-1) a
      | .turnRight => advanceTurn f (-1) a
      | .turnLeft => advanceTurn f 1 a
      | .other _ => Pure.pure ()) := by
  refine .bind .robot fun r => ?_
  rcases r with ⟨position, heading, queue, _ | ⟨kind, amount⟩, progress, moveSpeed, turnSpeed⟩
  · exact .pure ()
  · cases kind with
    | moveForward => exact advanceMove_plays f 1 _
    | moveBackward => exact advanceMove_plays f (-1) _
    | turnRight => exact advanceTurn_plays f (-1) _
    | turnLeft => exact advanceTurn_plays f 1 _
    | other name => exact .pure ()

theorem updateActions_plays (room : Nat) : Plays (updateActions room) := by
  unfold updateActions
  refine .bind (.entered _ _) fun f => Plays.robot_bind fun s => ?_
  split
  · split
    · next idle _ a rest waiting =>
      simp only [Option.isNone_iff_eq_none] at idle
      dsimp only
      rw [go_bind_ok (go_update _ s)]
      exact (Playing.start idle waiting _).trans ((Plays.bind (.ofExcept _) fun line =>
        .bind (.say f ⟨line, .inl rfl⟩) fun _ => stepCurrent_plays f) _)
    · exact stepCurrent_plays f s
  · exact stepCurrent_plays f s

theorem draw_plays : Plays draw := by
  unfold draw
  refine .bind .robot fun r => .bind (.ofExcept _) fun _ => .bind (.ofExcept _) fun _ => ?_
  refine .bind (.ofExcept _) fun _ => .bind (.ofExcept _) fun _ => ?_
  exact .bind (.ofExcept _) fun _ => .bind (.ofExcept _) fun _ => .display _

theorem updateDisplay_plays (room : Nat) : Plays (updateDisplay room) :=
  .bind (updateActions_plays room) fun _ => draw_plays

/-- A scene of a run that only queues actions, and a scene of frames that also play them: the
frames have finished some of the run's first actions and left the others unfinished, printed the
run's lines with lines of playing woven in, and entered every function at least as often. -/
structure Behind (s s' : Scene Queued) : Prop where
  finished : ∃ done, s.robot.unfinished = done ++ s'.robot.unfinished
  lines : ∃ played, (∀ line ∈ played, Played line) ∧
    Interleave s.log.lines.toList played s'.log.lines.toList
  entered : ∀ c, s.entered c ≤ s'.entered c

namespace Behind

theorem refl (s : Scene Queued) : Behind s s :=
  ⟨⟨[], rfl⟩, ⟨[], nofun, .self _⟩, fun _ => Nat.le_refl _⟩

theorem play {s q q' : Scene Queued} (behind : Behind s q) (playing : Playing q q') :
    Behind s q' := by
  obtain ⟨done, finished⟩ := behind.finished
  obtain ⟨done', finished'⟩ := playing.finished
  obtain ⟨played, played_lines, woven⟩ := behind.lines
  obtain ⟨more, more_lines, lines⟩ := playing.lines
  refine ⟨⟨done ++ done', by rw [finished, finished', List.append_assoc]⟩,
    ⟨played ++ more, ?_, by rw [lines]; exact woven.append_right more⟩,
    fun c => Nat.le_trans (behind.entered c) (playing.entered c)⟩
  intro line listed
  rcases List.mem_append.1 listed with early | late
  · exact played_lines line early
  · exact more_lines line late

theorem print {s q : Scene Queued} (behind : Behind s q) (line : String) :
    Behind { s with log := { s.log with lines := s.log.lines.push line } }
      { q with log := { q.log with lines := q.log.lines.push line } } := by
  obtain ⟨played, played_lines, woven⟩ := behind.lines
  refine ⟨behind.finished, ⟨played, played_lines, ?_⟩, behind.entered⟩
  simp only [Array.toList_push]
  exact woven.left line

theorem count {s q : Scene Queued} (behind : Behind s q) (c : Code) :
    Behind (s.count c) (q.count c) := by
  refine ⟨behind.finished, behind.lines, fun d => ?_⟩
  rw [Scene.count_entered, Scene.count_entered]
  split
  · exact Nat.succ_le_succ (behind.entered c)
  · exact behind.entered d

end Behind

/-- A run's scene and the frames' scene behind it are alike: the interpreter cannot tell them
apart. -/
def behind : Scene.Likeness Queued where
  rel := Behind
  print line behind := behind.print line
  count c behind := behind.count c
  entered c behind := behind.entered c

theorem behind_appends (a : Action) :
    Act.Indifferent behind (Act.update fun r => { r with queue := r.queue ++ [a] }) := by
  intro s q behind _
  obtain ⟨done, finished⟩ := behind.finished
  refine ⟨rfl, ⟨done, ?_⟩, behind.lines, behind.entered⟩
  simp only [go_update, unfinished] at finished ⊢
  rw [← List.append_assoc, finished, List.append_assoc, List.append_assoc]

theorem controls_behind : controls.RoomMonotone behind :=
  controls_roomMonotone behind_appends

end Robot.Queued

namespace Run

open Robot Queued
open Machine (Alike)

theorem go_execEach_cons_ok {ρ : Type} {controls : Controls ρ} {r : Nat} {s : Stmt}
    {rest : List Stmt} {m final : Machine ρ}
    (ran : go (execEach controls r (s :: rest)) m = (.ok (), final)) :
    ∃ m', go (execStmt controls r s) m = (.ok (), m') ∧
      go (execEach controls r rest) m' = (.ok (), final) := by
  simp only [execEach] at ran
  rcases first : go (execStmt controls r s) m with ⟨e | _, m'⟩
  · rw [go_bind_error first] at ran
    cases ran
  · rw [go_bind_ok first] at ran
    exact ⟨m', rfl, ran⟩

/-- The frames, at `n`, trail a run of a program's body that is at `m` and ends normally at
`final`: the machines are alike but for the frames' playing, and the statements waiting on the
frames are those the run has still to run. -/
def Trailing (r : Nat) (final m n : Machine Queued) : Prop :=
  Alike behind (fun _ _ => True) m n ∧
    go (execEach Queued.controls r n.pending) m = (.ok (), final)

namespace Trailing

variable {r : Nat} {final m n : Machine Queued}

theorem play {α : Type} {a : Act Queued α} (plays : Plays a) (trailing : Trailing r final m n) :
    Trailing r final m (go (act a) n).2 := by
  obtain ⟨alike, ran⟩ := trailing
  rw [go_act]
  exact ⟨⟨Behind.play alike.scene (plays n.scene), alike.globals, alike.functions, alike.scope,
    trivial⟩, ran⟩

/-- A frame's update keeps the frames trailing: when the robot is idle it runs the next waiting
statement as the run ran it, with at least the run's room. -/
theorem update {room : Nat} (more : r + 2 ≤ room) (trailing : Trailing r final m n) :
    ∃ m', Trailing r final m' (go (Run.update room) n).2 := by
  obtain ⟨alike, ran⟩ := trailing
  unfold Run.update
  rw [go_enter_bind]
  by_cases fits : 1 ≤ room
  · rw [if_pos fits, go_bind_ok (go_get _)]
    have counted : Alike behind (fun _ _ => True) m { n with scene := n.scene.count .update } :=
      ⟨Behind.play alike.scene (Playing.count _ _), alike.globals, alike.functions, alike.scope,
        trivial⟩
    split
    · next idle =>
      obtain ⟨s, rest, waiting⟩ : ∃ s rest, n.pending = s :: rest := by
        cases listed : n.pending with
        | nil => simp [listed] at idle
        | cons s rest => exact ⟨s, rest, rfl⟩
      rw [waiting] at ran
      obtain ⟨m', first, later⟩ := go_execEach_cons_ok ran
      obtain ⟨q, rfl⟩ : ∃ q, r = q + 1 := by
        cases r with
        | zero => simp [execStmt, fail] at first
        | succ q => exact ⟨q, rfl⟩
      have stepped : go (executeNext Queued.controls (room - 1))
          { n with scene := n.scene.count .update } =
          go (execStmt Queued.controls (room - 1 - 1) s)
            { n with scene := (n.scene.count .update).count .next, pending := rest } :=
        go_executeNext_cons (m := { n with scene := n.scene.count .update }) waiting
          (show 2 ≤ room - 1 by omega)
      have popped : Alike behind (fun _ waiting => waiting = rest) m
          { n with scene := (n.scene.count .update).count .next, pending := rest } :=
        ⟨Behind.play counted.scene (Playing.count _ _), alike.globals, alike.functions,
          alike.scope, rfl⟩
      obtain ⟨same, alike'⟩ := execStmt_follows controls_behind (q + 1) s
        (show q + 1 ≤ room - 1 - 1 by omega) popped (by rw [first]; trivial)
      rw [first] at same alike'
      dsimp only at same alike'
      refine ⟨m', ?_⟩
      rw [go_tryCatch_ok (stepped.trans (Prod.ext same rfl))]
      exact ⟨alike'.loosen fun _ _ _ => trivial, by rw [alike'.pending]; exact later⟩
    · exact ⟨m, counted, ran⟩
  · rw [if_neg fits]
    exact ⟨m, alike, ran⟩

/-- However many frames run, they keep trailing the run. -/
theorem frames {room : Nat} (more : r + 2 ≤ room) :
    ∀ (count : Nat) {m n : Machine Queued}, Trailing r final m n →
      ∃ m', Trailing r final m' (go (Run.frames room true count) n).2
  | 0, m, _, trailing => ⟨m, trailing⟩
  | count + 1, m, n, trailing => by
    simp only [Run.frames, if_true]
    have shown := trailing.play (updateDisplay_plays (room - 1))
    rcases displayed : go (act (updateDisplay (room - 1))) n with ⟨e | _, n₁⟩
    · rw [go_bind_error displayed]
      rw [displayed] at shown
      exact ⟨m, shown⟩
    · rw [go_bind_ok displayed]
      rw [displayed] at shown
      obtain ⟨m₁, updated⟩ := shown.update more
      rcases stepped : go (Run.update room) n₁ with ⟨e | _, n₂⟩
      · rw [go_bind_error stepped]
        rw [stepped] at updated
        exact ⟨m₁, updated⟩
      · rw [go_bind_ok stepped]
        rw [stepped] at updated
        exact frames more count updated

end Trailing

theorem interpret_room {ρ : Type} {controls : Controls ρ} {p : Program} {f : FunDef}
    {m : Machine ρ} (found : (m.registerAll p).functions "main" = some f) {room : Nat}
    (fits : Fits (go (interpret controls room p) m).1) : 4 ≤ room := by
  refine Nat.le_of_not_lt fun short => ?_
  cases room with
  | zero =>
    simp only [interpret, go_bind, go_act, Act.go_frame] at fits
    exact fits
  | succ r =>
    have present : ((m.registerAll p).functions "main").isNone = false := by rw [found]; rfl
    obtain ⟨kind, failed⟩ : ∃ kind, go (callFunction controls r "main" []) (m.registerAll p) =
        (.error (.failed (.recursionLimit kind)), m.registerAll p) :=
      go_callFunction_short (by decide) (by decide) found [] (by omega)
    simp only [interpret, go_bind, go_act_frame (show 1 ≤ r + 1 by omega), go_modify, go_get,
      present, Bool.false_eq_true, if_false, Nat.add_sub_cancel, failed] at fits
    exact fits

/-- Frames of the queued robot stepping a program's `main`, one statement whenever the robot is
idle, keep up with a run of the program with no more room that ends normally. Once no
statement waits, the frames' machine has the run's globals and functions, and its scene is
behind the run's: the actions still to play are the last of those the run queued, and the
lines printed are the run's, with lines of the playing woven in. -/
theorem frames_keep_up_with_run {p : Program} {f : FunDef}
    (only : p.functions.filter (·.name == "main") = [f]) (free : Stmt.allReturnFree f.body = true)
    {m : Machine Queued} (shallow : m.scope.Shallow) {room room' : Nat} (more : room ≤ room')
    (ends : (go (interpret Queued.controls room p) m).1 = .ok ()) (count : Nat) :
    let run := (go (interpret Queued.controls room p) m).2
    let framed := (go (Run.frames room' true count)
      ({ m with pending := Machine.mainBody p }.registerAll p)).2
    framed.pending = [] →
      Behind run.scene framed.scene ∧ framed.globals = run.globals ∧
        framed.functions = run.functions := by
  intro run framed done
  have found := Machine.registerAll_main only m
  obtain ⟨q, rfl⟩ : ∃ q, room = q + 4 :=
    ⟨room - 4, by have := interpret_room found (by rw [ends]; trivial); omega⟩
  obtain ⟨final, body⟩ : ∃ final, go (execEach Queued.controls (q + 1) f.body)
      { m.registerAll p with scope := .call } = (.ok (), final) :=
    ⟨_, Prod.ext (by rw [← (interpret_ends_as_body only free m q).1]; exact ends) rfl⟩
  have ran : go (interpret Queued.controls (q + 4) p) m =
      (.ok (), { final with scope := (m.registerAll p).scope }) := by
    rw [go_interpret found, go_bind, go_callFunction (by decide) (by decide) found [] q, body]
    rfl
  have start : Trailing (q + 1) final { m.registerAll p with scope := .call }
      ({ m with pending := Machine.mainBody p }.registerAll p) := by
    refine ⟨⟨?_, ?_, ?_, ?_, trivial⟩, ?_⟩
    · simp only [Machine.registerAll_scene]
      exact Behind.refl _
    · simp only [Machine.registerAll_globals]
    · rw [Machine.registerAll_eq, Machine.registerAll_eq]
    · rw [Machine.registerAll_scope]
      exact shallow.wrapped
    · rw [Machine.registerAll_pending, Machine.mainBody_of_only only]
      exact body
  obtain ⟨m', alike, rest⟩ := Trailing.frames (show q + 1 + 2 ≤ room' by omega) count start
  -- with nothing waiting, the run has nothing left: the frames trail its end
  have reached : m' = final := by
    have finished : go (execEach Queued.controls (q + 1) []) m' = (.ok (), final) := by
      rw [← done]
      exact rest
    simp only [execEach, go_pure] at finished
    exact (Prod.ext_iff.mp finished).2
  subst reached
  have settled : run = { m' with scope := (m.registerAll p).scope } := by
    show (go (interpret Queued.controls (q + 4) p) m).2 = _
    rw [ran]
  rw [settled]
  exact ⟨alike.scene, alike.globals, alike.functions⟩

section Calm

variable {ρ : Type} {I : ρ → Prop}

/-- A computation that, from every machine whose robot satisfies `I`, ends normally having
changed nothing but the scene, with a robot that satisfies `I` again. -/
def Calm (I : ρ → Prop) (x : Run ρ Unit) : Prop :=
  ∀ m : Machine ρ, I m.scene.robot → ∃ s, go x m = (.ok (), { m with scene := s }) ∧ I s.robot

namespace Calm

theorem pure : Calm I (Pure.pure ()) :=
  fun m holds => ⟨m.scene, rfl, holds⟩

theorem bind {x y : Run ρ Unit} (first : Calm I x) (rest : Calm I y) :
    Calm I (x >>= fun _ => y) := by
  intro m holds
  obtain ⟨s, ran, holds'⟩ := first m holds
  obtain ⟨s', ran', holds''⟩ := rest { m with scene := s } holds'
  exact ⟨s', by rw [go_bind_ok ran, ran'], holds''⟩

theorem act {a : Act ρ Unit}
    (steps : ∀ s : Scene ρ, I s.robot → ∃ s', Act.go a s = (.ok (), s') ∧ I s'.robot) :
    Calm I (Run.act a) := by
  intro m holds
  obtain ⟨s', ran, holds'⟩ := steps m.scene holds
  exact ⟨s', by rw [go_act, ran]; rfl, holds'⟩

theorem repeated {x : Run ρ Unit} (round : Calm I x) : ∀ n, Calm I (Run.times x n)
  | 0 => pure
  | n + 1 => round.bind (repeated round n)

end Calm

variable {controls : Controls ρ}

theorem execEach_calm {r : Nat} :
    ∀ {stmts : List Stmt}, (∀ s ∈ stmts, Calm I (execStmt controls r s)) →
      Calm I (execEach controls r stmts)
  | [], _ => by
    simp only [execEach]
    exact Calm.pure
  | s :: rest, each => by
    simp only [execEach]
    exact (each s (List.mem_cons_self ..)).bind
      (execEach_calm fun t listed => each t (List.mem_cons_of_mem _ listed))

theorem execStmt_repeat_calm {q : Nat} {n : Nat} {body : List Stmt}
    (rounds : Calm I (execEach controls (q + 1) body)) :
    Calm I (execStmt controls (q + 3) (.repeatTimes (.number (.int n)) body)) := by
  have round : Calm I (execBlock controls (q + 2) body >>= fun _ => act (Act.loop .statement)) := by
    simp only [execBlock]
    exact rounds.bind (Calm.act fun s holds => ⟨s.count .statement, rfl, holds⟩)
  intro m holds
  have statement : 1 ≤ q + 2 := by omega
  have expression : 1 ≤ q + 1 := by omega
  obtain ⟨s, ran, holds'⟩ := Calm.repeated round n
    { m with scene := (m.scene.count .statement).count .expression } holds
  refine ⟨s, ?_, holds'⟩
  simp only [execStmt, evalExpr, go_bind, go_typeTests, statement, expression, or_true, if_true,
    go_pure]
  exact ran

theorem execStmt_detect_calm {q : Nat}
    (reads : ∀ r (s : Scene ρ), 1 ≤ r → Act.go (controls.detect r) s = (.ok (.bool false), s)) :
    Calm I (execStmt controls (q + 5) (.call detectName [])) := by
  intro m holds
  have statement : 1 ≤ q + 4 := by omega
  have entry : 1 ≤ q + 3 := by omega
  have inside : 2 ≤ q + 3 - 1 := by omega
  let s := (m.scene.count .statement).count .detect
  have read := reads (q + 3 - 1) s (by omega)
  let line := detectName ++ "() called, returning " ++ "False"
  refine ⟨{ s with log := { s.log with lines := s.log.lines.push line } }, ?_, holds⟩
  have tested : go (typeTests .statement (q + 4)) m =
      (.ok (), { m with scene := m.scene.count .statement }) := by
    rw [go_typeTests, if_pos (.inr statement)]
  simp only [execStmt]
  rw [go_bind_ok tested]
  simp only [callFunction, if_true, sensor, bind_assoc]
  rw [go_enter_bind, if_pos entry]
  rw [go_bind_ok (by rw [go_act, Act.go_builtin, if_pos (.inr (by omega : 1 ≤ q + 3 - 1))]; rfl)]
  simp only [List.isEmpty_nil, Bool.not_true, Bool.false_eq_true, if_false, bind_assoc]
  rw [go_bind_ok (by rw [go_act, read]; rfl)]
  rw [go_bind_ok (by rw [go_act, Act.go_shown_other inside fun _ => Value.noConfusion]; rfl)]
  rw [go_bind_ok (by rw [say, go_act, Act.go_say_ok inside]; rfl)]
  rfl

/-- A program whose `main` is calm ends normally when run with room for the call. -/
theorem interpret_calm {p : Program} {f : FunDef}
    (only : p.functions.filter (·.name == "main") = [f]) {q : Nat}
    (body : Calm I (execEach controls (q + 1) f.body)) {m : Machine ρ} (holds : I m.scene.robot) :
    (go (interpret controls (q + 4) p) m).1 = .ok () := by
  have found := Machine.registerAll_main only m
  obtain ⟨s, ran, -⟩ := body { m.registerAll p with scope := .call } (by simpa using holds)
  rw [go_interpret found, go_bind, go_callFunction (by decide) (by decide) found [] q, ran]
  rfl

end Calm

theorem stepMain_fits_with_more {ρ : Type} {controls : Controls ρ}
    (monotone : controls.RoomMonotone Scene.warmer) {p : Program} {f : FunDef}
    (only : p.functions.filter (·.name == "main") = [f]) (free : Stmt.allReturnFree f.body = true)
    {m : Machine ρ} (shallow : m.scope.Shallow) {room room' : Nat} (more : room ≤ room')
    (whole : Fits (go (interpret controls room p) m).1) :
    Fits (go (stepMain controls room' p) { m with pending := Machine.mainBody p }).1 := by
  obtain ⟨q, rfl⟩ : ∃ q, room = q + 4 :=
    ⟨room - 4, by have := interpret_room (Machine.registerAll_main only m) whole; omega⟩
  obtain ⟨core, -, -⟩ := stepMain_follows_interpret monotone only free shallow q whole
  have steps : Fits (go (stepMain controls (q + 4) p) { m with pending := Machine.mainBody p }).1 := by
    rw [core]
    exact whole
  obtain ⟨same, -⟩ := stepMain_follows monotone more _ p steps
  rw [same]
  exact steps

/-- Stepping a program's `main` one statement at a time keeps up with running the program, for a
program with one `main` and no `return` in it, started from the global environment or a call's,
the stepping having no less room than the run. On either robot, stepping ends as the run ends
unless the run runs out of room: with the same value or signal, the same robot, the queued
robot's actions included, and the same lines printed. Frames of the queued robot, which step
whenever it is idle, keep up with a run that ends normally: once nothing waits, they have the
run's globals and functions, have queued the run's actions in its order and played the first of
them, and have printed the run's lines with lines of the playing woven in. -/
theorem stepping_keeps_up_with_run {p : Program} {f : FunDef}
    (only : p.functions.filter (·.name == "main") = [f]) (free : Stmt.allReturnFree f.body = true)
    {room room' : Nat} (more : room ≤ room')
    {c : Machine Classic} (shallow : c.scope.Shallow)
    (fits : Fits (go (interpret Classic.controls room p) c).1)
    {n : Machine Queued} (shallow' : n.scope.Shallow)
    (fits' : Fits (go (interpret Queued.controls room p) n).1) :
    SameEnd (interpret Classic.controls room p) c (stepMain Classic.controls room' p)
        { c with pending := Machine.mainBody p } ∧
      SameEnd (interpret Queued.controls room p) n (stepMain Queued.controls room' p)
        { n with pending := Machine.mainBody p } ∧
      ((go (interpret Queued.controls room p) n).1 = .ok () → ∀ count,
        let run := (go (interpret Queued.controls room p) n).2
        let framed := (go (frames room' true count)
          ({ n with pending := Machine.mainBody p }.registerAll p)).2
        framed.pending = [] →
          Behind run.scene framed.scene ∧ framed.globals = run.globals ∧
            framed.functions = run.functions) :=
  ⟨stepMain_agrees Classic.controls_roomMonotone only free shallow fits
      (stepMain_fits_with_more Classic.controls_roomMonotone only free shallow more fits),
    stepMain_agrees Queued.controls_warmer only free shallow' fits'
      (stepMain_fits_with_more Queued.controls_warmer only free shallow' more fits'),
    fun ends count => frames_keep_up_with_run only free shallow' more ends count⟩

/-- A `main` that moves, reads the obstacle sensor, and turns twice in a loop. -/
def patrol : Program :=
  ⟨[⟨"main", [.command .moveForward [.number (.int 2)], .call detectName [],
    .repeatTimes (.number (.int 2)) [.command .turnLeft [.number (.int 90)]]]⟩]⟩

theorem Classic.go_detect {r : Nat} (enough : 1 ≤ r) (s : Scene Classic) :
    Act.go (Classic.controls.detect r) s = (.ok (.bool false), s) := by
  simp only [Classic.controls, Classic.detect, Act.go_frame_bind, if_pos enough]
  rfl

theorem Queued.go_detect {r : Nat} (enough : 1 ≤ r) (s : Scene Queued) :
    Act.go (Queued.controls.detect r) s = (.ok (.bool false), s) := by
  simp only [Queued.controls, Queued.detect, Act.go_frame_bind, if_pos enough]
  rfl

/-- Patrolling from the robots' starts, with twelve levels for the run and for the stepping:
both runs end normally, and stepping keeps up with them. -/
theorem patrol_stepping_keeps_up :
    let c := Machine.start Classic.initial
    let n := Machine.start Queued.initial
    (go (interpret Classic.controls 12 patrol) c).1 = .ok () ∧
      (go (interpret Queued.controls 12 patrol) n).1 = .ok () ∧
      SameEnd (interpret Classic.controls 12 patrol) c (stepMain Classic.controls 12 patrol)
          { c with pending := Machine.mainBody patrol } ∧
        SameEnd (interpret Queued.controls 12 patrol) n (stepMain Queued.controls 12 patrol)
          { n with pending := Machine.mainBody patrol } ∧
        ((go (interpret Queued.controls 12 patrol) n).1 = .ok () → ∀ count,
          let run := (go (interpret Queued.controls 12 patrol) n).2
          let framed := (go (frames 12 true count)
            ({ n with pending := Machine.mainBody patrol }.registerAll patrol)).2
          framed.pending = [] →
            Behind run.scene framed.scene ∧ framed.globals = run.globals ∧
              framed.functions = run.functions) := by
  intro c n
  have only : patrol.functions.filter (·.name == "main") = patrol.functions := rfl
  have moves : Command.moveForward ∈ Dialect.queued.commands := by decide
  have turns : Command.turnLeft ∈ Dialect.queued.commands := by decide
  have two : (Literal.int 2).toValue.toFloat = .ok (Binary.ofInt 2) := Value.toFloat_int (by decide)
  have ninety : (Literal.int 90).toValue.toFloat = .ok (Binary.ofInt 90) := Value.toFloat_int (by decide)
  have classic : (go (interpret Classic.controls 12 patrol) c).1 = .ok () := by
    refine interpret_calm (I := Classic.Steady) (q := 8) only ?_ Classic.initial_steady
    refine execEach_calm fun s listed => ?_
    simp only [List.mem_cons, List.not_mem_nil, or_false] at listed
    rcases listed with rfl | rfl | rfl
    · exact fun m steady => Classic.execStmt_command (by decide) moves two steady
    · exact execStmt_detect_calm (q := 4) fun _ s enough => Classic.go_detect enough s
    · refine execStmt_repeat_calm (q := 6) (execEach_calm fun t listed => ?_)
      simp only [List.mem_cons, List.not_mem_nil, or_false] at listed
      subst listed
      exact fun m steady => Classic.execStmt_command (by decide) turns ninety steady
  have queued : (go (interpret Queued.controls 12 patrol) n).1 = .ok () := by
    refine interpret_calm (I := fun _ => True) (q := 8) only ?_ trivial
    refine execEach_calm fun s listed => ?_
    simp only [List.mem_cons, List.not_mem_nil, or_false] at listed
    rcases listed with rfl | rfl | rfl
    · intro m _
      obtain ⟨s, ran, -⟩ := Queued.execStmt_command (show 5 ≤ 9 by decide) moves two m
      exact ⟨s, ran, trivial⟩
    · exact execStmt_detect_calm (q := 4) fun _ s enough => Queued.go_detect enough s
    · refine execStmt_repeat_calm (q := 6) (execEach_calm fun t listed => ?_)
      simp only [List.mem_cons, List.not_mem_nil, or_false] at listed
      subst listed
      intro m _
      obtain ⟨s, ran, -⟩ := Queued.execStmt_command (show 5 ≤ 7 by decide) turns ninety m
      exact ⟨s, ran, trivial⟩
  exact ⟨classic, queued, stepping_keeps_up_with_run only (by decide) (Nat.le_refl 12) (.inl rfl)
    (by rw [classic]; trivial) (.inl rfl) (by rw [queued]; trivial)⟩

end Run

end RoboScript
