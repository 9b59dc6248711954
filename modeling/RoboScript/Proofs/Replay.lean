import Mathlib
import RoboScript.Proofs.Magnitude
import RoboScript.Proofs.Mirror
import RoboScript.Proofs.Heading
import RoboScript.Proofs.Stepping

/-! The two robots run a program alike. A program both dialects read, that never reads the
distance sensor, runs on the classic robot, which does each move and turn at once, and on the
queued robot, which only queues them. Unless the classic robot runs out of room, and as long as
every action the queued robot queues converts to a double, both runs end with the same value or
signal, and the two robots have answered the same events in the same order: the classic robot
did at once each action the queued robot queued, and both printed the same lines between them.

The classic robot needs more room for an action than the queued one, since it computes and
prints where it ends up where the queued robot only prints the amount: a move needs four levels
against two or three. Deep in nested calls it can run out of room where the queued robot goes
on, and that is the one way the runs part. Nothing else fails, because the classic robot stays
steady: on double coordinates, facing a whole number of degrees below 360 or a small double, so
the radians of its heading are far from an infinity and every move and turn by an amount that
converts to a double goes through. -/

namespace RoboScript

open Binary Plane

theorem Num.toFloat_int {i : Int} {x : Float} (converts : (Num.int i).toFloat = .ok x) :
    x = ofInt i ∧ (ofInt i).isInf = false := by
  simp only [Num.toFloat] at converts
  split at converts
  · cases converts
  · rename_i finite
    cases converts
    exact ⟨rfl, by simpa using finite⟩

theorem Value.toFloat_ok {v : Value} {x : Float} (converts : v.toFloat = .ok x) :
    ∃ n, v.num? = some n ∧ n.toFloat = .ok x := by
  unfold Value.toFloat at converts
  cases number : v.num? with
  | none => rw [number] at converts; cases converts
  | some n => rw [number] at converts; exact ⟨n, rfl, converts⟩

theorem Value.toFloat_int {n : Int} (below : n.natAbs < 2 ^ 50) :
    (Value.int n).toFloat = .ok (ofInt n) := by
  have finite := (ofInt_small (j := 49) below (by decide)).isInf_eq_false
  simp [Value.toFloat, Value.num?, Num.toFloat, finite]

theorem Value.ring_float_right {v : Value} {x : Float} (converts : v.toFloat = .ok x) (op : Ring)
    (symbol : String) (y : Float) :
    Value.ring op symbol v (.float y) = .ok (.float (op.onFloat x y)) := by
  obtain ⟨n, number, converts⟩ := Value.toFloat_ok converts
  unfold Value.ring
  rw [number]
  cases n <;> (simp only [Value.num?, converts]; rfl)

theorem Plane.Point.text_floats (a b : Float) :
    (⟨.float a, .float b⟩ : Plane.Point).text =
      .ok ("[" ++ Value.floatText a ++ ", " ++ Value.floatText b ++ "]") := rfl

theorem Value.ring_floats (op : Ring) (symbol : String) (a b : Float) :
    Value.ring op symbol (.float a) (.float b) = .ok (.float (op.onFloat a b)) := rfl

theorem Value.ring_number {l r : Value} {x y : Float} (left : l.toFloat = .ok x)
    (right : r.toFloat = .ok y) (op : Ring) (symbol : String) :
    ∃ w n, Value.ring op symbol l r = .ok w ∧ w.num? = some n := by
  obtain ⟨a, numberL, left⟩ := Value.toFloat_ok left
  obtain ⟨b, numberR, right⟩ := Value.toFloat_ok right
  unfold Value.ring
  rw [numberL, numberR]
  cases a <;> cases b <;> simp only [left, right] <;> exact ⟨_, _, rfl, rfl⟩

theorem Value.floorMod_number {w : Value} {n : Num} (number : w.num? = some n) (symbol : String)
    (modulus : Nat) : ∃ h, Value.floorMod symbol w modulus = .ok h := by
  unfold Value.floorMod
  rw [number]
  cases n with
  | int i => exact ⟨_, rfl⟩
  | float x =>
    dsimp only
    split
    · exact ⟨_, rfl⟩
    · split
      · exact ⟨_, rfl⟩
      · split <;> exact ⟨_, rfl⟩

theorem Value.negate_converts {v : Value} {x : Float} (converts : v.toFloat = .ok x) :
    ∃ w y, v.negate = .ok w ∧ w.toFloat = .ok y := by
  obtain ⟨n, number, converts⟩ := Value.toFloat_ok converts
  unfold Value.negate
  rw [number]
  cases n with
  | int i =>
    obtain ⟨-, finite⟩ := Num.toFloat_int converts
    refine ⟨.int (-i), ofInt (-i), rfl, ?_⟩
    simp [Value.toFloat, Value.num?, Num.toFloat, ofInt_neg_isInf, finite]
  | float z => exact ⟨.float (-z), -z, rfl, rfl⟩

namespace Act

variable {ρ α : Type}

theorem go_native (room : Nat) (r : Except Error α) (s : Scene ρ) :
    go (native room r : Act ρ α) s =
      (if 1 ≤ room then r else .error (.recursionLimit .nativeCall), s) := by
  unfold native
  by_cases enough : 1 ≤ room
  · rw [go_bind_ok (by rw [go_reach, if_pos enough]), go_ofExcept, if_pos enough]
  · rw [go_bind_error (by rw [go_reach, if_neg enough]), if_neg enough]

theorem go_shown_ample {room : Nat} (enough : 2 ≤ room) (v : Value) (s : Scene ρ) :
    go (shown room v) s = (v.text, s) := by
  have one : 1 ≤ room := Nat.le_trans (by decide) enough
  rw [go_shown]
  cases v <;> simp only [if_pos enough, if_pos one]

end Act

/-- Two scenes that show the same: the same robot and the same output, however often each has
entered its functions. -/
def Scene.SameShow {ρ : Type} (s t : Scene ρ) : Prop := s.robot = t.robot ∧ s.log = t.log

theorem Scene.SameShow.refl {ρ : Type} (s : Scene ρ) : s.SameShow s := ⟨rfl, rfl⟩

namespace Robot.Classic

/-- A heading the classic robot faces after turns by amounts that convert to doubles: a whole
number of degrees from 0 to 359, or a double below `2 ^ 13`. -/
def Bearing (h : Value) : Prop :=
  (∃ n : Int, h = .int n ∧ 0 ≤ n ∧ n < 360) ∨ ∃ x, h = .float x ∧ Small 13 x

namespace Bearing

theorem toFloat {h : Value} (bearing : Bearing h) : ∃ x, h.toFloat = .ok x ∧ Small 13 x := by
  rcases bearing with ⟨n, rfl, low, high⟩ | ⟨x, rfl, small⟩
  · exact ⟨ofInt n, Value.toFloat_int (by omega),
      (ofInt_small (j := 8) (by omega) (by omega)).mono (by omega)⟩
  · exact ⟨x, rfl, small⟩

theorem radians {h : Value} (bearing : Bearing h) : ∃ θ, Plane.radians h = .ok θ ∧ Small 9 θ := by
  obtain ⟨x, converts, small⟩ := bearing.toFloat
  have factor : Small (-5) (pi / 180.0) := by decide +kernel
  refine ⟨x * (pi / 180.0), ?_, small.mul factor (by omega) (by omega)⟩
  simp only [Plane.radians, converts]
  rfl

theorem course {h : Value} (bearing : Bearing h) :
    ∃ θ, Plane.radians h = .ok θ ∧ cosine θ = .ok θ.cos ∧ sine θ = .ok θ.sin := by
  obtain ⟨θ, radians, small⟩ := bearing.radians
  exact ⟨θ, radians, by simp [cosine, small.isInf_eq_false], by simp [sine, small.isInf_eq_false]⟩

theorem floorMod {symbol : String} {w h : Value} (taken : Value.floorMod symbol w 360 = .ok h) :
    Bearing h := by
  rcases Value.floorMod_bounded (j := 8) (by decide) (by decide) (by decide) taken with
    ⟨n, rfl, low, high⟩ | ⟨x, rfl, small⟩
  · exact .inl ⟨n, rfl, low, high⟩
  · exact .inr ⟨x, rfl, small⟩

theorem text {h : Value} (bearing : Bearing h) : ∃ t, h.text = .ok t :=
  let ⟨_, converts, _⟩ := bearing.toFloat
  Value.text_of_toFloat converts

theorem turned {h v : Value} (bearing : Bearing h) {x : Float} (converts : v.toFloat = .ok x)
    (right : Bool) :
    ∃ w h', (if right then Value.ring .sub "-=" h v else Value.ring .add "+=" h v) = .ok w ∧
      Value.floorMod "%=" w 360 = .ok h' ∧ Bearing h' := by
  obtain ⟨y, heading, -⟩ := bearing.toFloat
  obtain ⟨w, n, turned, number⟩ : ∃ w n, (if right then Value.ring .sub "-=" h v
      else Value.ring .add "+=" h v) = .ok w ∧ w.num? = some n := by
    cases right
    · exact Value.ring_number heading converts _ _
    · exact Value.ring_number heading converts _ _
  obtain ⟨h', taken⟩ := Value.floorMod_number number "%=" 360
  exact ⟨w, h', turned, taken, floorMod taken⟩

end Bearing

/-- The classic robot standing on double coordinates and facing a bearing. -/
structure Steady (r : Classic) : Prop where
  position : ∃ x y : Float, r.position = ⟨.float x, .float y⟩
  bearing : Bearing r.heading

theorem initial_steady : initial.Steady :=
  ⟨⟨400.0, 300.0, rfl⟩, .inl ⟨0, rfl, Int.le_refl 0, by decide⟩⟩

open Act

theorem moveForward_ample {room : Nat} (enough : 4 ≤ room) {s : Scene Classic}
    (steady : s.robot.Steady) {v : Value} {x : Float} (converts : v.toFloat = .ok x) :
    ∃ r line, go (moveForward room v) s =
        (.ok (), { s.count .move with
          robot := r, log := { s.log with lines := s.log.lines.push line } }) ∧ r.Steady := by
  obtain ⟨px, py, position⟩ := steady.position
  obtain ⟨θ, radians, cos, sin⟩ := steady.bearing.course
  obtain ⟨t, text⟩ := Value.text_of_toFloat converts
  have frame : 1 ≤ room := by omega
  have native : 1 ≤ room - 1 := by omega
  have shows : 2 ≤ room - 1 := by omega
  have represents : 3 ≤ room - 1 := by omega
  have prints : ∀ w : Bool, (if w = true then 1 else 2) ≤ room - 1 := fun w => by split <;> omega
  simp only [moveForward, go_enter, go_bind, go_robot, Scene.count_robot, go_native, go_ofExcept,
    go_update, go_shown_ample shows, go_say, prints, Value.ring_floats, shownPoint, go_reach,
    radians, cos, sin, Value.ring_float_right converts, position, text, Plane.Point.text_floats,
    frame, native, shows, represents, if_true]
  exact ⟨_, _, rfl, ⟨_, _, rfl⟩, steady.bearing⟩

theorem moveBackward_ample {room : Nat} (enough : 5 ≤ room) {s : Scene Classic}
    (steady : s.robot.Steady) {v : Value} {x : Float} (converts : v.toFloat = .ok x) :
    ∃ r line, go (moveBackward room v) s =
        (.ok (), { s.count .move with
          robot := r, log := { s.log with lines := s.log.lines.push line } }) ∧ r.Steady := by
  obtain ⟨w, y, negated, converts'⟩ := Value.negate_converts converts
  have frame : 1 ≤ room := by omega
  simp only [moveBackward, go_frame, go_bind, go_ofExcept, negated, frame, if_true]
  exact moveForward_ample (by omega) steady converts'

theorem turn_ample (right : Bool) {room : Nat} (enough : 3 ≤ room) {s : Scene Classic}
    (steady : s.robot.Steady) {v : Value} {x : Float} (converts : v.toFloat = .ok x) :
    ∃ r line, go (turn right room v) s =
        (.ok (), { s.count (.turn right) with
          robot := r, log := { s.log with lines := s.log.lines.push line } }) ∧ r.Steady := by
  obtain ⟨w, h, turned, taken, bearing⟩ := steady.bearing.turned converts right
  obtain ⟨t, text⟩ := Value.text_of_toFloat converts
  obtain ⟨t', text'⟩ := bearing.text
  have frame : 1 ≤ room := by omega
  have shows : 2 ≤ room - 1 := by omega
  have prints : ∀ w : Bool, (if w = true then 1 else 2) ≤ room - 1 := fun w => by split <;> omega
  simp only [turn, go_enter, go_bind, go_robot, Scene.count_robot, go_ofExcept, go_update, turned,
    taken, go_shown_ample shows, text, text', go_say, prints, frame, if_true]
  exact ⟨_, _, rfl, steady.position, bearing⟩

theorem atOnce_ample {room : Nat} (enough : 5 ≤ room) {s : Scene Classic}
    (steady : s.robot.Steady) {a : Action} (known : ∀ name, a.kind ≠ .other name) {x : Float}
    (converts : a.amount.toFloat = .ok x) :
    ∃ k, ¬ k.Interpreted ∧ ∃ r line, go (atOnce room a) s =
        (.ok (), { s.count k with
          robot := r, log := { s.log with lines := s.log.lines.push line } }) ∧ r.Steady := by
  rcases a with ⟨kind, v⟩
  cases kind with
  | moveForward => exact ⟨.move, id, moveForward_ample (by omega) steady converts⟩
  | moveBackward => exact ⟨.move, id, moveBackward_ample enough steady converts⟩
  | turnRight => exact ⟨.turn true, id, turn_ample true (by omega) steady converts⟩
  | turnLeft => exact ⟨.turn false, id, turn_ample false (by omega) steady converts⟩
  | other name => exact absurd rfl (known name)

theorem moveForward_needs {room : Nat} {s : Scene Classic} (steady : s.robot.Steady) {v : Value}
    {x : Float} (converts : v.toFloat = .ok x) (fits : Fits (go (moveForward room v) s).1) :
    4 ≤ room := by
  obtain ⟨px, py, position⟩ := steady.position
  obtain ⟨θ, radians, cos, sin⟩ := steady.bearing.course
  obtain ⟨t, text⟩ := Value.text_of_toFloat converts
  -- below four levels the move runs out of room, whichever value it moves by
  match room, fits with
  | 0, fits | 1, fits | 2, fits | 3, fits =>
    cases v <;> simp only [moveForward, go_enter, go_bind, go_robot, Scene.count_robot, go_native,
      go_ofExcept, go_update, go_shown, Value.ring_floats, shownPoint, go_reach, radians, cos, sin,
      Value.ring_float_right converts, position, text, Plane.Point.text_floats, Nat.reduceSub,
      Nat.reduceLeDiff, reduceIte, Fits] at fits
  | _ + 4, _ => omega

theorem moveBackward_needs {room : Nat} {s : Scene Classic} (steady : s.robot.Steady) {v : Value}
    {x : Float} (converts : v.toFloat = .ok x) (fits : Fits (go (moveBackward room v) s).1) :
    5 ≤ room := by
  obtain ⟨w, y, negated, converts'⟩ := Value.negate_converts converts
  cases room with
  | zero => simp only [moveBackward, go_frame, go_bind, Nat.reduceLeDiff, reduceIte, Fits] at fits
  | succ room =>
    simp only [moveBackward, go_frame, go_bind, go_ofExcept, negated, Nat.le_add_left, if_true,
      Nat.add_sub_cancel] at fits
    have := moveForward_needs steady converts' fits
    omega

theorem turn_needs (right : Bool) {room : Nat} {s : Scene Classic} (steady : s.robot.Steady)
    {v : Value} {x : Float} (converts : v.toFloat = .ok x)
    (fits : Fits (go (turn right room v) s).1) :
    2 ≤ room ∧ (3 ≤ room ∨ (∃ n, v = .int n) ∧ warmUp ≤ s.entered (.turn right) + 1) := by
  obtain ⟨w, h, turned, taken, bearing⟩ := steady.bearing.turned converts right
  obtain ⟨t, text⟩ := Value.text_of_toFloat converts
  obtain ⟨t', text'⟩ := bearing.text
  match room, fits with
  | 0, fits | 1, fits =>
    cases v <;> cases h <;> simp only [turn, go_enter, go_bind, go_robot, Scene.count_robot,
      go_ofExcept, go_update, turned, taken, go_shown, text, Nat.reduceSub, Nat.reduceLeDiff,
      reduceIte, Fits] at fits
  | 2, fits =>
    have int : ∃ n, v = .int n := by
      by_contra noInt
      cases v <;> cases h <;> simp only [turn, go_enter, go_bind, go_robot, Scene.count_robot,
        go_ofExcept, go_update, turned, taken, go_shown, text, text', Nat.reduceSub,
        Nat.reduceLeDiff, reduceIte, Fits, Value.int.injEq, exists_eq', not_true_eq_false]
        at fits noInt
    have warm : warmUp ≤ s.entered (.turn right) + 1 := by
      by_contra cold
      cases v <;> cases h <;> simp only [turn, go_enter, go_bind, go_robot, Scene.count_robot,
        go_ofExcept, go_update, turned, taken, go_shown, text, text', go_say, cold, decide_false,
        Bool.false_eq_true, Nat.reduceSub, Nat.reduceLeDiff, reduceIte, Fits] at fits
    exact ⟨Nat.le_refl 2, .inr ⟨int, warm⟩⟩
  | _ + 3, _ => exact ⟨by omega, .inl (by omega)⟩

theorem atOnce_needs {room : Nat} {s : Scene Classic} (steady : s.robot.Steady) {a : Action}
    (known : ∀ name, a.kind ≠ .other name) {x : Float} (converts : a.amount.toFloat = .ok x)
    (fits : Fits (go (atOnce room a) s).1) :
    2 ≤ room ∧ (3 ≤ room ∨ (∃ n, a.amount = .int n) ∧
      ∃ k, ¬ k.Interpreted ∧ warmUp ≤ s.entered k + 1) := by
  rcases a with ⟨kind, v⟩
  cases kind with
  | moveForward =>
    have := moveForward_needs steady converts fits
    exact ⟨by omega, .inl (by omega)⟩
  | moveBackward =>
    have := moveBackward_needs steady converts fits
    exact ⟨by omega, .inl (by omega)⟩
  | turnRight =>
    obtain ⟨two, three | ⟨int, warm⟩⟩ := turn_needs true steady converts fits
    · exact ⟨two, .inl three⟩
    · exact ⟨two, .inr ⟨int, .turn true, id, warm⟩⟩
  | turnLeft =>
    obtain ⟨two, three | ⟨int, warm⟩⟩ := turn_needs false steady converts fits
    · exact ⟨two, .inl three⟩
    · exact ⟨two, .inr ⟨int, .turn false, id, warm⟩⟩
  | other name => exact absurd rfl (known name)

theorem atOnce_monotone (a : Action) : Act.Monotone Scene.warmer fun r => atOnce r a := by
  rcases a with ⟨kind, v⟩
  cases kind with
  | moveForward => exact moveForward_monotone v
  | moveBackward =>
    unfold atOnce moveBackward
    exact Monotone.frame <| Monotone.const_bind (.ofExcept _) fun _ => moveForward_monotone _
  | turnRight => exact turn_monotone true v
  | turnLeft => exact turn_monotone false v
  | other _ => exact Monotone.const (.pure ())

theorem atOnce_fits {room : Nat} {s : Scene Classic} (steady : s.robot.Steady) {a : Action}
    (known : ∀ name, a.kind ≠ .other name) {x : Float} (converts : a.amount.toFloat = .ok x)
    (fits : Fits (go (atOnce room a) s).1) {t : Scene Classic} (same : s.SameShow t) :
    (go (atOnce room a) s).1 = .ok () ∧ (go (atOnce room a) s).2.robot.Steady ∧
      (go (atOnce room a) s).2.SameShow (go (atOnce 5 a) t).2 ∧
      ∃ k, ¬ k.Interpreted ∧ ∀ d, (go (atOnce room a) s).2.entered d ≤ (s.count k).entered d := by
  let cold : Scene Classic := { robot := s.robot, log := s.log }
  have below : Scene.Warmer cold s := ⟨rfl, rfl, fun _ => Nat.zero_le _⟩
  have below' : Scene.Warmer cold t := ⟨same.1.symm, same.2.symm, fun _ => Nat.zero_le _⟩
  have more : 5 ≤ max room 5 := Nat.le_max_right room 5
  obtain ⟨k, foreign, r, line, ample, steady'⟩ := atOnce_ample more steady known converts
  obtain ⟨k₀, -, r₀, line₀, coldly, -⟩ :=
    atOnce_ample (Nat.le_refl 5) (s := cold) steady known converts
  have coldFits : Fits (go (atOnce 5 a) cold).1 := by rw [coldly]; trivial
  have up : Follows Scene.warmer (atOnce room a) s (atOnce (max room 5) a) s :=
    atOnce_monotone a (Nat.le_max_left room 5) (Scene.Warmer.refl s)
  have fromCold : Follows Scene.warmer (atOnce 5 a) cold (atOnce (max room 5) a) s :=
    atOnce_monotone a more below
  have toOther : Follows Scene.warmer (atOnce 5 a) cold (atOnce 5 a) t :=
    atOnce_monotone a (Nat.le_refl 5) below'
  obtain ⟨same₁, warmer₁⟩ := up fits
  obtain ⟨-, warmer₂⟩ := fromCold coldFits
  obtain ⟨-, warmer₃⟩ := toOther coldFits
  have done : (go (atOnce (max room 5) a) s).1 = .ok () := by rw [ample]
  refine ⟨same₁.symm.trans done, ?_, ⟨?_, ?_⟩, k, foreign, fun d => ?_⟩
  · rw [← warmer₁.robot, ample]
    exact steady'
  · exact warmer₁.robot.symm.trans (warmer₂.robot.trans warmer₃.robot.symm)
  · exact warmer₁.log.symm.trans (warmer₂.log.trans warmer₃.log.symm)
  · have fewer := warmer₁.entered d
    rw [ample] at fewer
    exact fewer

end Robot.Classic

namespace Robot.Queued

open Act

/-- The changes of the queued robot's scene that only add actions at the end of its queue. -/
def appending : Allowance Queued where
  moves s s' := ∃ extra, s'.robot.queue = s.robot.queue ++ extra
  refl _ := ⟨[], (List.append_nil _).symm⟩
  trans := fun ⟨first, grew⟩ ⟨second, grew'⟩ =>
    ⟨first ++ second, by rw [grew', grew, List.append_assoc]⟩
  print _ _ := ⟨[], (List.append_nil _).symm⟩
  count _ _ := ⟨[], (List.append_nil _).symm⟩

theorem enqueue_appends (room : Nat) (a : Action) : Allowed appending (enqueue room a) := by
  unfold enqueue
  exact .bind (.enter _ _) fun _ => .bind (.builtin _ _) fun _ =>
    .bind (.update fun _ => ⟨[a], rfl⟩) fun _ => .bind (.shown _ _) fun _ => .say _ _

theorem controls_appends : controls.Allowed appending where
  command room c args := by
    unfold controls
    dsimp only
    split
    · exact .bind (.ofExcept _) fun _ => enqueue_appends _ _
    · exact .bind (.reach _ _ _) fun _ => .of_still fun _ => rfl
  detect _ := .bind (.frame _) fun _ => .pure _
  measure _ := .bind (.frame _) fun _ => .pure _

theorem go_enqueue {room : Nat} (enough : 2 ≤ room) {a : Action} {s : Scene Queued}
    (shows : 3 ≤ room ∨ (∃ n, a.amount = .int n) ∧ warmUp ≤ s.entered .enqueue + 1) {t : String}
    (text : a.amount.text = .ok t) :
    go (enqueue room a) s =
      (.ok (), { s.count .enqueue with
        robot := { s.robot with queue := s.robot.queue ++ [a] }
        log := { s.log with
          lines := s.log.lines.push ("Enqueued action: " ++ a.kind.name ++ " with value " ++ t) } }) := by
  have frame : 1 ≤ room := by omega
  have appends : 1 ≤ room - 1 := by omega
  have shown : ∀ s' : Scene Queued, go (shown (room - 1) a.amount) s' = (.ok t, s') := by
    intro s'
    rcases shows with three | ⟨⟨n, int⟩, -⟩
    · rw [go_shown_ample (by omega), text]
    · rw [int, go_shown_int appends, ← int, text]
  have prints : (if decide (warmUp ≤ s.entered .enqueue + 1) = true then 1 else 2) ≤ room - 1 := by
    rcases shows with three | ⟨-, warm⟩
    · split <;> omega
    · rw [if_pos (decide_eq_true warm)]
      exact appends
  unfold enqueue
  rw [go_enter_bind, if_pos frame]
  simp only [go_bind, go_builtin, appends, or_true, if_true, go_update, shown, go_say, prints]
  rfl

end Robot.Queued

namespace Robot

/-- What a run of a program shows a robot: an action to take, or a line printed. -/
inductive Event where
  | action (a : Action)
  | line (text : String)

/-- The classic robot's answer to an event: the action done at once, with room for every action,
or the line printed. -/
def Classic.answer (s : Scene Classic) : Event → Scene Classic
  | .action a => (Act.go (Classic.atOnce 5 a) s).2
  | .line text => { s with log := { s.log with lines := s.log.lines.push text } }

/-- The queued robot's answer to an event: the action enqueued, with room for it, or the line
printed. -/
def Queued.answer (s : Scene Queued) : Event → Scene Queued
  | .action a => (Act.go (Queued.enqueue 5 a) s).2
  | .line text => { s with log := { s.log with lines := s.log.lines.push text } }

/-- Scenes of the two robots that show what answering the same events in the same order from
`c₀` and `q₀` shows. -/
def Replayed (c₀ : Scene Classic) (q₀ : Scene Queued) (c : Scene Classic) (q : Scene Queued) :
    Prop :=
  ∃ events : List Event,
    c.SameShow (events.foldl Classic.answer c₀) ∧ q.SameShow (events.foldl Queued.answer q₀)

theorem Replayed.answer {c₀ c c' : Scene Classic} {q₀ q q' : Scene Queued}
    (replayed : Replayed c₀ q₀ c q) (e : Event)
    (classic : ∀ t, c.SameShow t → c'.SameShow (Classic.answer t e))
    (queued : ∀ t, q.SameShow t → q'.SameShow (Queued.answer t e)) : Replayed c₀ q₀ c' q' := by
  obtain ⟨events, shows, shows'⟩ := replayed
  refine ⟨events ++ [e], ?_, ?_⟩
  · rw [List.foldl_append]
    exact classic _ shows
  · rw [List.foldl_append]
    exact queued _ shows'

theorem Replayed.print {c₀ c : Scene Classic} {q₀ q : Scene Queued}
    (replayed : Replayed c₀ q₀ c q) (line : String) :
    Replayed c₀ q₀ { c with log := { c.log with lines := c.log.lines.push line } }
      { q with log := { q.log with lines := q.log.lines.push line } } :=
  replayed.answer (.line line) (fun _ ⟨robot, log⟩ => ⟨robot, by rw [log]; rfl⟩)
    (fun _ ⟨robot, log⟩ => ⟨robot, by rw [log]; rfl⟩)

/-- The classic robot has entered each of the interpreter's functions at most as often as the
queued one, and each function of its own at most as often as the queued one has enqueued. -/
def Counted (c : Scene Classic) (q : Scene Queued) : Prop :=
  (∀ d, d.Interpreted → c.entered d ≤ q.entered d) ∧
    ∀ d, ¬ d.Interpreted → c.entered d ≤ q.entered .enqueue

theorem Counted.count {c : Scene Classic} {q : Scene Queued} (counted : Counted c q) {e : Code}
    (interpreted : e.Interpreted) : Counted (c.count e) (q.count e) := by
  refine ⟨fun d inter => ?_, fun d foreign => ?_⟩
  · rw [Scene.count_entered, Scene.count_entered]
    split
    · exact Nat.succ_le_succ (counted.1 e interpreted)
    · exact counted.1 d inter
  · have other : d ≠ e := fun same => foreign (same ▸ interpreted)
    have enqueues : Code.enqueue ≠ e := fun same => (same ▸ interpreted : Code.Interpreted .enqueue)
    rw [Scene.count_entered, Scene.count_entered, if_neg other, if_neg enqueues]
    exact counted.2 d foreign

theorem Counted.act {c c' : Scene Classic} {q : Scene Queued} (counted : Counted c q) {k : Code}
    (foreign : ¬ k.Interpreted) (fewer : ∀ d, c'.entered d ≤ (c.count k).entered d) :
    Counted c' (q.count .enqueue) := by
  refine ⟨fun d inter => ?_, fun d other => ?_⟩
  · have own : d ≠ k := fun same => foreign (same ▸ inter)
    have enqueues : d ≠ .enqueue := fun same => (same ▸ inter : Code.Interpreted .enqueue)
    have bound := fewer d
    rw [Scene.count_entered, if_neg own] at bound
    rw [Scene.count_entered, if_neg enqueues]
    exact Nat.le_trans bound (counted.1 d inter)
  · have bound := fewer d
    have before := counted.2 d other
    have own := counted.2 k foreign
    rw [Scene.count_entered] at bound
    rw [Scene.count_entered_self]
    split at bound <;> omega

/-- The two robots in step: scenes that answered the same events, the classic robot steady and
entering its functions no more often. The correspondence is claimed for queued scenes all of whose
actions convert to doubles. -/
def replay (c₀ : Scene Classic) (q₀ : Scene Queued) : Pairing Classic Queued where
  rel c q := c.robot.Steady ∧ Replayed c₀ q₀ c q ∧ Counted c q
  print line := fun ⟨steady, replayed, counted⟩ => ⟨steady, replayed.print line, counted⟩
  count _ interpreted := fun ⟨steady, replayed, counted⟩ =>
    ⟨steady, replayed, counted.count interpreted⟩
  entered code interpreted := fun ⟨_, _, counted⟩ => counted.1 code interpreted
  grows := Queued.appending
  good q := ∀ a ∈ q.robot.queue, ∃ x, a.amount.toFloat = .ok x
  good_of_moves := fun ⟨_, grew⟩ good a queued =>
    good a (by rw [grew]; exact List.mem_append_left _ queued)

theorem command_action {cmd : Command} (known : cmd ∈ Dialect.queued.commands) :
    ∃ kind : ActionKind, (∀ name, kind ≠ .other name) ∧
      (∀ room vs, Classic.controls.command room cmd vs =
        ofExcept (firstArgument vs) >>= fun v => Classic.atOnce room ⟨kind, v⟩) ∧
      (∀ room vs, Queued.controls.command room cmd vs =
        ofExcept (firstArgument vs) >>= fun v => Queued.enqueue room ⟨kind, v⟩) := by
  simp only [Dialect.commands, List.mem_cons, List.not_mem_nil, or_false] at known
  rcases known with rfl | rfl | rfl | rfl
  · exact ⟨.moveForward, fun _ => ActionKind.noConfusion, fun _ _ => rfl, fun _ _ => rfl⟩
  · exact ⟨.moveBackward, fun _ => ActionKind.noConfusion, fun _ _ => rfl, fun _ _ => rfl⟩
  · exact ⟨.turnRight, fun _ => ActionKind.noConfusion, fun _ _ => rfl, fun _ _ => rfl⟩
  · exact ⟨.turnLeft, fun _ => ActionKind.noConfusion, fun _ _ => rfl, fun _ _ => rfl⟩

open Act in
theorem command_mirrors {c₀ : Scene Classic} {q₀ : Scene Queued} (room : Nat) {cmd : Command}
    (vs : List Value) (known : cmd ∈ Dialect.queued.commands) (given : 2 ≤ room ∨ vs = [])
    {c : Scene Classic} {q : Scene Queued} (related : (replay c₀ q₀).rel c q) :
    Act.Mirrors (replay c₀ q₀) (Classic.controls.command room cmd vs) c
      (Queued.controls.command room cmd vs) q := by
  obtain ⟨kind, named, classic, queued⟩ := command_action known
  obtain ⟨steady, replayed, counted⟩ := related
  rw [classic, queued]
  cases first : firstArgument vs with
  | error e =>
    intro _ _
    rw [go_bind_error (go_ofExcept _ c), go_bind_error (go_ofExcept _ q)]
    exact ⟨rfl, steady, replayed, counted⟩
  | ok v =>
    have enough : 2 ≤ room := by
      rcases given with enough | rfl
      · exact enough
      · cases first
    intro fits good
    rw [go_bind_ok (go_ofExcept _ c)] at fits ⊢
    rw [go_bind_ok (go_ofExcept _ q)] at good ⊢
    obtain ⟨x, converts⟩ := good ⟨kind, v⟩ (by
      rw [Queued.enqueue_robot enough]
      exact List.mem_append_right _ (List.mem_singleton_self _))
    obtain ⟨t, text⟩ := Value.text_of_toFloat converts
    obtain ⟨-, shows⟩ := Classic.atOnce_needs steady named converts fits
    have shows' : 3 ≤ room ∨ (∃ n, v = .int n) ∧ warmUp ≤ q.entered .enqueue + 1 := by
      rcases shows with three | ⟨int, k, foreign, warm⟩
      · exact .inl three
      · exact .inr ⟨int, by have := counted.2 k foreign; omega⟩
    obtain ⟨done, steady', shown, k, foreign, fewer⟩ :=
      Classic.atOnce_fits steady named converts fits (Scene.SameShow.refl c)
    rw [done, Queued.go_enqueue enough shows' text]
    refine ⟨rfl, steady', ?_, counted.act foreign fewer⟩
    refine replayed.answer (.action ⟨kind, v⟩) (fun t same => ?_) (fun t ⟨robot, log⟩ => ?_)
    · exact (Classic.atOnce_fits steady named converts fits same).2.2.1
    · rw [Queued.answer, Queued.go_enqueue (show 2 ≤ 5 by decide) (.inl (show 3 ≤ 5 by decide)) text]
      exact ⟨by rw [robot], by rw [log]⟩

theorem Classic.go_detect (room : Nat) (s : Scene Classic) :
    Act.go (Classic.controls.detect room) s =
      (if 1 ≤ room then .ok (.bool false) else .error (.recursionLimit .function), s) := by
  show Act.go (Classic.detect room) s = _
  unfold Classic.detect
  rw [Act.go_frame_bind]
  split <;> rfl

theorem Queued.go_detect (room : Nat) (s : Scene Queued) :
    Act.go (Queued.controls.detect room) s =
      (if 1 ≤ room then .ok (.bool false) else .error (.recursionLimit .function), s) := by
  show Act.go (Queued.detect room) s = _
  unfold Queued.detect
  rw [Act.go_frame_bind]
  split <;> rfl

/-- The two robots answer a program in step: moves and turns alike, the obstacle sensor alike,
and the queued robot only adds actions to its queue. -/
theorem controls_mirror (c₀ : Scene Classic) (q₀ : Scene Queued) :
    Classic.controls.Mirror (replay c₀ q₀) Queued.controls where
  command room _ vs known given _ _ related := command_mirrors room vs known given related
  detect room _ _ related := by
    intro _
    rw [Classic.go_detect, Queued.go_detect]
    exact ⟨rfl, related⟩
  allowed := Queued.controls_appends

/-- A program both dialects run, that never reads the distance sensor, runs alike on the two
robots from the same bindings and fresh scenes, the classic robot standing steady: unless the
classic robot runs out of room, and as long as every action the queued robot queues converts to a
double, both runs end with the same value or signal, and the two robots show what answering the
same events in the same order shows, the classic robot doing at once each action the queued robot
queued, and both printing the same lines. -/
theorem portable_program_replays_alike {p : Program} (portable : p.portable = true) (room : Nat)
    (globals : String → Option Value) {c₀ : Classic} (steady : c₀.Steady) (q₀ : Queued)
    (fits : Run.Fits
      (Run.go (Run.interpret Classic.controls room p) { scene := { robot := c₀ }, globals }).1)
    (converts : ∀ a ∈ (Run.go (Run.interpret Queued.controls room p)
      { scene := { robot := q₀ }, globals }).2.scene.robot.queue, ∃ x, a.amount.toFloat = .ok x) :
    (Run.go (Run.interpret Queued.controls room p) { scene := { robot := q₀ }, globals }).1 =
        (Run.go (Run.interpret Classic.controls room p) { scene := { robot := c₀ }, globals }).1 ∧
      ∃ events : List Event,
        (Run.go (Run.interpret Classic.controls room p)
          { scene := { robot := c₀ }, globals }).2.scene.SameShow
          (events.foldl Classic.answer { robot := c₀ }) ∧
        (Run.go (Run.interpret Queued.controls room p)
          { scene := { robot := q₀ }, globals }).2.scene.SameShow
          (events.foldl Queued.answer { robot := q₀ }) := by
  have mirror : Machine.Mirror (replay { robot := c₀ } { robot := q₀ })
      { scene := { robot := c₀ }, globals } { scene := { robot := q₀ }, globals } :=
    ⟨⟨steady, ⟨[], .refl _, .refl _⟩, fun _ _ => Nat.le_refl 0, fun _ _ => Nat.le_refl 0⟩, rfl,
      rfl, rfl, rfl, fun _ _ registered => nomatch registered⟩
  obtain ⟨same, ends⟩ :=
    Run.interpret_mirrors (controls_mirror _ _) room portable mirror fits converts
  exact ⟨same, ends.scene.2.1⟩

open Run in
theorem go_execStmt_number {ρ : Type} (controls : Controls ρ) {room : Nat} (enough : 5 ≤ room)
    (cmd : Command) (lit : Literal) (m : Machine ρ) :
    Run.go (execStmt controls room (.command cmd [.number lit])) m =
      Run.go (act (controls.command (room - 2) cmd [lit.toValue]))
        { m with scene := (m.scene.count .statement).count .expression } := by
  obtain ⟨q, rfl⟩ : ∃ q, room = q + 5 := ⟨room - 5, by omega⟩
  have statement : 1 ≤ q + 4 := by omega
  have argument : 1 ≤ q + 1 := by omega
  simp only [execStmt, execCommand, evalArgs, evalExpr, go_bind, go_typeTests, statement, argument,
    or_true, if_true, go_pure]
  rfl

open Run in
theorem Classic.execStmt_command {room : Nat} (enough : 7 ≤ room) {cmd : Command}
    (known : cmd ∈ Dialect.queued.commands) {lit : Literal} {x : Float}
    (converts : lit.toValue.toFloat = .ok x) {m : Machine Classic} (steady : m.scene.robot.Steady) :
    ∃ s, Run.go (execStmt Classic.controls room (.command cmd [.number lit])) m =
      (.ok (), { m with scene := s }) ∧ s.robot.Steady := by
  obtain ⟨kind, named, classic, -⟩ := command_action known
  let s := (m.scene.count .statement).count .expression
  obtain ⟨k, -, r, line, done, steady'⟩ := Classic.atOnce_ample (show 5 ≤ room - 2 by omega)
    (s := s) (a := ⟨kind, lit.toValue⟩) steady named converts
  refine ⟨{ s.count k with robot := r, log := { s.log with lines := s.log.lines.push line } }, ?_,
    steady'⟩
  rw [go_execStmt_number _ (by omega), go_act, classic,
    Act.go_bind_ok (Act.go_ofExcept (firstArgument [lit.toValue]) _), done]
  rfl

open Run in
theorem Queued.execStmt_command {room : Nat} (enough : 5 ≤ room) {cmd : Command}
    (known : cmd ∈ Dialect.queued.commands) {lit : Literal} {x : Float}
    (converts : lit.toValue.toFloat = .ok x) (m : Machine Queued) :
    ∃ s, Run.go (execStmt Queued.controls room (.command cmd [.number lit])) m =
      (.ok (), { m with scene := s }) ∧
        ∃ kind, s.robot.queue = m.scene.robot.queue ++ [⟨kind, lit.toValue⟩] := by
  obtain ⟨kind, -, -, queued⟩ := command_action known
  obtain ⟨t, text⟩ := Value.text_of_toFloat converts
  let s := (m.scene.count .statement).count .expression
  have enqueued := Queued.go_enqueue (a := ⟨kind, lit.toValue⟩) (s := s)
    (show 2 ≤ room - 2 by omega) (.inl (show 3 ≤ room - 2 by omega)) text
  refine ⟨{ s.count .enqueue with
    robot := { s.robot with queue := s.robot.queue ++ [⟨kind, lit.toValue⟩] }
    log := { s.log with
      lines := s.log.lines.push ("Enqueued action: " ++ kind.name ++ " with value " ++ t) } },
    ?_, kind, ?_⟩
  · rw [go_execStmt_number _ enough, go_act, queued,
      Act.go_bind_ok (Act.go_ofExcept (firstArgument [lit.toValue]) _), enqueued]
    rfl
  · rfl

/-- A program that moves ten units and then turns 45 degrees to the left. -/
def moveThenTurn : Program :=
  ⟨[⟨"main", [.command .moveForward [.number (.int 10)], .command .turnLeft [.number (.int 45)]]⟩]⟩

open Run in
theorem move_then_turn_replays_alike :
    let classic := Run.go (Run.interpret Classic.controls 10 moveThenTurn)
      { scene := { robot := Classic.initial }, globals := fun _ => none }
    let queued := Run.go (Run.interpret Queued.controls 10 moveThenTurn)
      { scene := { robot := Queued.initial }, globals := fun _ => none }
    moveThenTurn.portable = true ∧ Classic.initial.Steady ∧ Run.Fits classic.1 ∧
      (∀ a ∈ queued.2.scene.robot.queue, ∃ x, a.amount.toFloat = .ok x) ∧
      queued.1 = classic.1 ∧
      ∃ events : List Event,
        classic.2.scene.SameShow (events.foldl Classic.answer { robot := Classic.initial }) ∧
        queued.2.scene.SameShow (events.foldl Queued.answer { robot := Queued.initial }) := by
  intro classic queued
  have only : moveThenTurn.functions.filter (·.name == "main") = moveThenTurn.functions := rfl
  have portable : moveThenTurn.portable = true := by decide
  have moves : Command.moveForward ∈ Dialect.queued.commands := by decide
  have turns : Command.turnLeft ∈ Dialect.queued.commands := by decide
  have ten : (Literal.int 10).toValue.toFloat = .ok (ofInt 10) := Value.toFloat_int (by decide)
  have fortyFive : (Literal.int 45).toValue.toFloat = .ok (ofInt 45) := Value.toFloat_int (by decide)
  have fits : Run.Fits classic.1 := by
    let m : Machine Classic := { scene := { robot := Classic.initial }, globals := fun _ => none }
    have start : ({ m.registerAll moveThenTurn with scope := .call } : Machine Classic).scene.robot.Steady := by
      rw [Machine.registerAll_scene]
      exact Classic.initial_steady
    obtain ⟨s₁, moved, steady₁⟩ := Classic.execStmt_command (Nat.le_refl 7) moves ten start
    obtain ⟨s₂, turned, -⟩ := Classic.execStmt_command (Nat.le_refl 7) turns fortyFive
      (m := { { m.registerAll moveThenTurn with scope := .call } with scene := s₁ }) steady₁
    show Run.Fits (Run.go (Run.interpret Classic.controls 10 moveThenTurn) m).1
    rw [go_interpret (Machine.registerAll_main only _) 6, go_bind,
      go_callFunction (by decide) (by decide) (Machine.registerAll_main only _) [] 6]
    simp only [execEach, go_bind, moved, turned, go_pure]
    trivial
  have converts : ∀ a ∈ queued.2.scene.robot.queue, ∃ x, a.amount.toFloat = .ok x := by
    let m : Machine Queued := { scene := { robot := Queued.initial }, globals := fun _ => none }
    obtain ⟨s₁, moved, k₁, queue₁⟩ := Queued.execStmt_command (Nat.le_refl 7 |> Nat.le_trans (by decide)) moves ten
      { m.registerAll moveThenTurn with scope := .call }
    obtain ⟨s₂, turned, k₂, queue₂⟩ := Queued.execStmt_command (Nat.le_refl 7 |> Nat.le_trans (by decide)) turns fortyFive
      { { m.registerAll moveThenTurn with scope := .call } with scene := s₁ }
    have queue : queued.2.scene.robot.queue = [⟨k₁, .int 10⟩, ⟨k₂, .int 45⟩] := by
      show (Run.go (Run.interpret Queued.controls 10 moveThenTurn) m).2.scene.robot.queue = _
      rw [go_interpret (Machine.registerAll_main only _) 6, go_bind,
        go_callFunction (by decide) (by decide) (Machine.registerAll_main only _) [] 6]
      simp only [execEach, go_bind, moved, turned, go_pure]
      rw [queue₂, queue₁]
      rfl
    rw [queue]
    intro a queued
    simp only [List.mem_cons, List.not_mem_nil, or_false] at queued
    rcases queued with rfl | rfl
    · exact ⟨_, ten⟩
    · exact ⟨_, fortyFive⟩
  exact ⟨portable, Classic.initial_steady, fits, converts,
    portable_program_replays_alike portable 10 (fun _ => none) Classic.initial_steady
      Queued.initial fits converts⟩

/-- A program that moves one unit. -/
def singleMove : Program := ⟨[⟨"main", [.command .moveForward [.number (.int 1)]]⟩]⟩

open Run in
/-- With eight levels free for the run, the move finds three: the queued robot enqueues it and
ends normally, while the classic robot, which needs four, runs out of room. -/
theorem single_move_runs_out_of_room_at_once :
    (Run.go (Run.interpret Queued.controls 8 singleMove) (Machine.start Queued.initial)).1 =
        .ok () ∧
      ¬ Run.Fits (Run.go (Run.interpret Classic.controls 8 singleMove)
        (Machine.start Classic.initial)).1 := by
  have only : singleMove.functions.filter (·.name == "main") = singleMove.functions := rfl
  have moves : Command.moveForward ∈ Dialect.queued.commands := by decide
  have converts : (Literal.int 1).toValue.toFloat = .ok (ofInt 1) := Value.toFloat_int (by decide)
  constructor
  · obtain ⟨s, moved, -⟩ := Queued.execStmt_command (Nat.le_refl 5) moves converts
      { (Machine.start Queued.initial).registerAll singleMove with scope := .call }
    rw [go_interpret (Machine.registerAll_main only _) 4, go_bind,
      go_callFunction (by decide) (by decide) (Machine.registerAll_main only _) [] 4]
    simp only [execEach, go_bind, moved, go_pure]
  · -- past the type tests the move finds three levels free, and it needs four
    have short : ∀ m : Machine Classic, m.scene.robot.Steady → ∃ kind n,
        Run.go (execStmt Classic.controls 5 (.command .moveForward [.number (.int 1)])) m =
          (.error (.failed (.recursionLimit kind)), n) := by
      intro m steady
      let s := (m.scene.count .statement).count .expression
      have moves : Act.go (Classic.controls.command (5 - 2) .moveForward [(Literal.int 1).toValue])
          s = Act.go (Classic.moveForward 3 (Literal.int 1).toValue) s :=
        Act.go_bind_ok (Act.go_ofExcept _ _)
      have counted : s.robot.Steady := by
        rw [Scene.count_robot, Scene.count_robot]
        exact steady
      have needs : Act.Fits (Act.go (Classic.moveForward 3 (Literal.int 1).toValue) s).1 →
          4 ≤ 3 :=
        Classic.moveForward_needs counted converts
      rw [go_execStmt_number _ (Nat.le_refl 5), go_act, moves]
      revert needs
      rcases Act.go (Classic.moveForward 3 (Literal.int 1).toValue) s with ⟨e | _, n⟩ <;>
        intro needs
      · cases e with
        | recursionLimit kind => exact ⟨kind, _, rfl⟩
        | _ => exact absurd (needs trivial) (by decide)
      · exact absurd (needs trivial) (by decide)
    rw [go_interpret (Machine.registerAll_main only _) 4, go_bind,
      go_callFunction (by decide) (by decide) (Machine.registerAll_main only _) [] 4]
    generalize registered : Machine.registerAll singleMove (Machine.start Classic.initial) = M
    have steady : M.scene.robot.Steady := by
      rw [← registered, Machine.registerAll_scene]
      exact Classic.initial_steady
    obtain ⟨kind, n, ran⟩ := short { M with scope := .call } steady
    simp only [execEach, go_bind, ran]
    exact id

end Robot

end RoboScript
