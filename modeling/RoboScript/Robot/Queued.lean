import RoboScript.Scene
import RoboScript.Robot.Setting

/-! The queued robot. Commands do not move it at once: each becomes an action on a queue, and
every frame of the display plays a step of the action under way, at most the move speed in
units or the turn speed in degrees, until the action's amount is reached. An action of a kind the
robot does not know stays under way forever and does nothing. Its distance sensor always reads
100. -/

namespace RoboScript.Robot

open Plane

/-- The kind of a queued action. -/
inductive ActionKind where
  | moveForward
  | moveBackward
  | turnRight
  | turnLeft
  | other (name : String)
  deriving DecidableEq

namespace ActionKind

/-- The name an action of this kind is queued under. -/
def name : ActionKind → String
  | .moveForward => "move_forward"
  | .moveBackward => "move_backward"
  | .turnRight => "turn_right"
  | .turnLeft => "turn_left"
  | .other name => name

/-- The kind queued under a name. -/
def ofName (name : String) : ActionKind :=
  if name = "move_forward" then .moveForward
  else if name = "move_backward" then .moveBackward
  else if name = "turn_right" then .turnRight
  else if name = "turn_left" then .turnLeft
  else .other name

end ActionKind

/-- An action: its kind and its amount, a distance or an angle. -/
structure Action where
  kind : ActionKind
  amount : Value

/-- The action written as a pair, its name quoted. -/
def Action.text (a : Action) : Except Error String := do
  return "(" ++ quoteText a.kind.name ++ ", " ++ (← a.amount.text) ++ ")"

/-- The queued robot's state. -/
structure Queued where
  position : Point
  heading : Value
  /-- Actions waiting, the next first. -/
  queue : List Action
  /-- The action under way. -/
  current : Option Action
  /-- How much of the action under way is done. -/
  progress : Value
  moveSpeed : Value
  turnSpeed : Value

namespace Queued

/-- The robot at the middle of an 800 by 600 display, facing right, idle, moving and turning
2 per frame. -/
def initial : Queued where
  position := ⟨.float 400.0, .float 300.0⟩
  heading := .int 0
  queue := []
  current := none
  progress := .int 0
  moveSpeed := .int 2
  turnSpeed := .int 2

/-- The robot's radius. -/
def size : Nat := 20

/-- Takes a setting; the object means nothing to this robot. -/
def apply (r : Queued) : Setting → Queued
  | .position p => { r with position := p }
  | .heading v => { r with heading := v }
  | .moveSpeed v => { r with moveSpeed := v }
  | .turnSpeed v => { r with turnSpeed := v }
  | .progress v => { r with progress := v }
  | .objectAt _ | .holding _ => r

open Act

/-- Puts an action at the end of the queue; appending is a call of a built-in. -/
def enqueue (room : Nat) (a : Action) : Act Queued Unit := do
  let f ← enter .enqueue room
  builtin f .nativeCall
  update fun r => { r with queue := r.queue ++ [a] }
  let amount ← shown f.room a.amount
  say f ("Enqueued action: " ++ a.kind.name ++ " with value " ++ amount)

/-- Queues an action of a kind. -/
def request (kind : ActionKind) (room : Nat) (amount : Value) : Act Queued Unit := do
  let room ← frame room
  enqueue room ⟨kind, amount⟩

/-- The next step of an action with `amount` to do, `progress` done, at `speed`: the speed, or
what remains when that is not more. -/
def stepOf (amount progress speed : Value) : Except Error Value := do
  let remaining ← Value.ring .sub "-" amount progress
  let faster ← Value.relate .gt remaining speed
  return if faster.truthy then speed else remaining

/-- Ends the action under way when its progress has reached its amount. -/
def finish (f : Frame) (a : Action) : Act Queued Unit := do
  let r ← robot
  if (← ofExcept (Value.relate .ge r.progress a.amount)).truthy then
    say f ("Completed action: " ++ a.kind.name)
    update fun r => { r with current := none }

/-- A step of a move, forward for `direction = 1` and backward for `-1`. -/
def advanceMove (f : Frame) (direction : Int) (a : Action) : Act Queued Unit := do
  let r ← robot
  let step ← ofExcept (stepOf a.amount r.progress r.moveSpeed)
  let rad ← ofExcept (radians r.heading)
  let dx ← ofExcept (do
    let signed ← Value.ring .mul "*" (.int direction) step
    Value.ring .mul "*" signed (.float (← cosine rad)))
  let dy ← ofExcept (do
    let signed ← Value.ring .mul "*" (.int direction) step
    Value.ring .mul "*" signed (.float (← sine rad)))
  let x ← ofExcept (Value.ring .add "+=" r.position.x dx)
  update fun r => { r with position := { r.position with x } }
  let y ← ofExcept (Value.ring .add "+=" r.position.y dy)
  update fun r => { r with position := { r.position with y } }
  let progress ← ofExcept (Value.ring .add "+=" r.progress step)
  update fun r => { r with progress }
  say f ("Moving " ++ (if direction = 1 then "forward" else "backward") ++ ": Step "
    ++ (← ofExcept progress.text) ++ "/" ++ (← ofExcept a.amount.text))
  finish f a

/-- A step of a turn, right for `direction = -1` and left for `1`. -/
def advanceTurn (f : Frame) (direction : Int) (a : Action) : Act Queued Unit := do
  let r ← robot
  let step ← ofExcept (stepOf a.amount r.progress r.turnSpeed)
  let turned ← ofExcept (do
    Value.ring .add "+=" r.heading (← Value.ring .mul "*" (.int direction) step))
  update fun r => { r with heading := turned }
  let heading ← ofExcept (Value.floorMod "%=" turned 360)
  update fun r => { r with heading }
  let progress ← ofExcept (Value.ring .add "+=" r.progress step)
  update fun r => { r with progress }
  say f ("Turning " ++ (if direction = -1 then "right" else "left") ++ ": Step "
    ++ (← ofExcept progress.text) ++ "/" ++ (← ofExcept a.amount.text))
  finish f a

/-- One frame of the queue: when idle, the next action starts from no progress; then the action
under way takes a step. A frame is only ever run at the top of the stack, so its nesting is not
counted beyond printing. -/
def updateActions (room : Nat) : Act Queued Unit := do
  let f ← entered .play room
  let r ← robot
  if r.current.isNone then
    match r.queue with
    | a :: rest =>
      update fun r => { r with current := some a, queue := rest, progress := .int 0 }
      say f ("Starting action: " ++ (← ofExcept a.text))
    | [] => pure ()
  match (← robot).current with
  | none => pure ()
  | some a =>
    match a.kind with
    | .moveForward => advanceMove f 1 a
    | .moveBackward => advanceMove f (-1) a
    | .turnRight => advanceTurn f (-1) a
    | .turnLeft => advanceTurn f 1 a
    | .other _ => pure ()

/-- The obstacle sensor, which never sees one. -/
def detect (room : Nat) : Act Queued Value := do
  let _ ← frame room
  return .bool false

/-- The distance sensor, which always reads 100. -/
def measure (room : Nat) : Act Queued Value := do
  let _ ← frame room
  return .int 100

/-- Draws the robot with a line along its heading, and its position to one place as a text.
Drawing needs whole-number coordinates and a finite heading. -/
def draw : Act Queued Unit := do
  let r ← robot
  let _ ← ofExcept r.position.x.truncate
  let _ ← ofExcept r.position.y.truncate
  let _ ← ofExcept (do
    let c ← cosine (← radians r.heading)
    Value.ring .add "+" r.position.x (.float (Binary.ofInt size * c)))
  let _ ← ofExcept (do
    let s ← sine (← radians r.heading)
    Value.ring .add "+" r.position.y (.float (Binary.ofInt size * s)))
  display ("Position: (" ++ (← ofExcept (r.position.x.fixedText 1)) ++ ", "
    ++ (← ofExcept (r.position.y.fixedText 1)) ++ ")")

/-- A frame of the display: the queue's step, then the drawing. -/
def updateDisplay (room : Nat) : Act Queued Unit := do
  updateActions room
  draw

/-- The kind of action a command queues. -/
def actionKind? : Command → Option ActionKind
  | .moveForward => some .moveForward
  | .moveBackward => some .moveBackward
  | .turnRight => some .turnRight
  | .turnLeft => some .turnLeft
  | .pickUpObject | .dropObject => none

/-- How the queued robot answers a program: a move or turn queues an action. -/
def controls : Controls Queued where
  command room c args :=
    match actionKind? c with
    | some kind => do enqueue room ⟨kind, ← ofExcept (firstArgument args)⟩
    | none => do
      reach room 1 .nativeCall
      throw (.unknownCommand c.word)
  detect := detect
  measure := measure

end Queued

end RoboScript.Robot
