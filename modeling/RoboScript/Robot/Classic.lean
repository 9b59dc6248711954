import RoboScript.Scene
import RoboScript.Robot.Setting

/-! The classic robot. It moves and turns at once, printing where it ends up, and it can pick up
an object lying within reach and drop it where it stands. Headings are degrees, kept in
`[0, 360)` after every turn; a move of `d` goes `d · cos θ` right and `d · sin θ` down the
display. Its distance sensor measures the way to the object. -/

namespace RoboScript.Robot

open Plane

/-- The classic robot's state. -/
structure Classic where
  position : Point
  heading : Value
  /-- Whether the robot carries the object; any value can be set, and counts by its truth. -/
  holding : Value
  objectAt : Point

namespace Classic

/-- The robot at the middle of an 800 by 600 display, facing right, with the object 105 units
ahead. -/
def initial : Classic where
  position := ⟨.float 400.0, .float 300.0⟩
  heading := .int 0
  holding := .bool false
  objectAt := ⟨.float 505.0, .float 300.0⟩

/-- The robot's radius. -/
def size : Nat := 20

/-- The farthest the object may lie for the robot to pick it up: its radius and the object's. -/
def pickUpRange : Float := 30.0

/-- Takes a setting; the speeds and the progress of actions mean nothing to this robot. -/
def apply (r : Classic) : Setting → Classic
  | .position p => { r with position := p }
  | .heading v => { r with heading := v }
  | .objectAt p => { r with objectAt := p }
  | .holding v => { r with holding := v }
  | .moveSpeed _ | .turnSpeed _ | .progress _ => r

open Act

/-- The text of a point as printed, a list of its two coordinates: through a native format call,
the list's text, and each coordinate's representation below that. -/
def shownPoint (room : Nat) (p : Point) : Act Classic String := do
  reach room 1 .nativeCall
  reach room 2 .text
  reach room 3 .representation
  ofExcept p.text

/-- Moves `distance` along the heading. -/
def moveForward (room : Nat) (distance : Value) : Act Classic Unit := do
  let f ← enter .move room
  let r ← robot
  let rad ← native f.room (radians r.heading)
  let dx ← ofExcept (Value.ring .mul "*" distance (.float (← native f.room (cosine rad))))
  let dy ← ofExcept (Value.ring .mul "*" distance (.float (← native f.room (sine rad))))
  let x ← ofExcept (Value.ring .add "+=" r.position.x dx)
  update fun r => { r with position := { r.position with x } }
  let y ← ofExcept (Value.ring .add "+=" r.position.y dy)
  update fun r => { r with position := { r.position with y } }
  let moved ← shown f.room distance
  let place ← shownPoint f.room (← robot).position
  say f ("Robot moves forward " ++ moved ++ " units to " ++ place)

/-- Moves `distance` against the heading: a move forward by its opposite. -/
def moveBackward (room : Nat) (distance : Value) : Act Classic Unit := do
  let room ← frame room
  moveForward room (← ofExcept distance.negate)

/-- Turns by `degrees`, clockwise on the display for a right turn. -/
def turn (right : Bool) (room : Nat) (degrees : Value) : Act Classic Unit := do
  let f ← enter (.turn right) room
  let r ← robot
  let turned ← ofExcept (if right then Value.ring .sub "-=" r.heading degrees
    else Value.ring .add "+=" r.heading degrees)
  update fun r => { r with heading := turned }
  let heading ← ofExcept (Value.floorMod "%=" turned 360)
  update fun r => { r with heading }
  let amount ← shown f.room degrees
  let now ← shown f.room heading
  say f ("Robot turns " ++ (if right then "right " else "left ") ++ amount ++ " degrees to " ++ now)

/-- The distance between two points. -/
def measureBetween (room : Nat) (p q : Point) : Act Classic Float := do
  let f ← enter .distance room
  builtin f .nativeCall
  ofExcept (p.distance q)

/-- Picks the object up when it lies within reach, telling how far it is. -/
def pickUp (room : Nat) : Act Classic Unit := do
  let f ← enter .pickUp room
  let r ← robot
  if r.holding.truthy then say f "Robot already has the object."
  else
    let d ← measureBetween f.room r.position r.objectAt
    reach f.room 1 .nativeCall
    say f ("Distance to object: " ++ Decimal.fixed "nan" "inf" 2 d ++ " units.")
    reach f.room 1 .comparison
    if d ≤ pickUpRange then
      update fun r => { r with holding := .bool true }
      say f "Robot picks up the object."
    else say f "Object is too far to pick up."

/-- Drops the object where the robot stands. -/
def drop (room : Nat) : Act Classic Unit := do
  let f ← enter .drop room
  let r ← robot
  if r.holding.truthy then
    update fun r => { r with holding := .bool false, objectAt := r.position }
    say f "Robot drops the object."
  else say f "Robot has no object to drop."

/-- The obstacle sensor, which never sees one. -/
def detect (room : Nat) : Act Classic Value := do
  let _ ← frame room
  return .bool false

/-- The distance sensor: the way to the object. -/
def measure (room : Nat) : Act Classic Value := do
  let room ← frame room
  let r ← robot
  return .float (← measureBetween room r.position r.objectAt)

/-- Draws the scene: the object unless held, the robot with a line along its heading, and two
texts, its position to one place and whether it holds the object. Drawing needs whole-number
coordinates and a finite heading. -/
def draw : Act Classic Unit := do
  let r ← robot
  if !r.holding.truthy then
    let _ ← ofExcept r.objectAt.x.truncate
    let _ ← ofExcept r.objectAt.y.truncate
  let _ ← ofExcept r.position.x.truncate
  let _ ← ofExcept r.position.y.truncate
  let _ ← ofExcept (do
    let c ← cosine (← radians r.heading)
    Value.ring .add "+" r.position.x (.float (Binary.ofInt size * c)))
  let _ ← ofExcept (do
    let s ← sine (← radians r.heading)
    Value.ring .add "+" r.position.y (.float (Binary.ofInt size * s)))
  display ("Position: (" ++ (← ofExcept (r.position.x.fixedText 1)) ++ ", "
    ++ (← ofExcept (r.position.y.fixedText 1)) ++ ")")
  display ("Object Picked: " ++ (← ofExcept r.holding.text))

/-- How the classic robot answers a program. -/
def controls : Controls Classic where
  command room
    | .moveForward, args => do moveForward room (← ofExcept (firstArgument args))
    | .moveBackward, args => do moveBackward room (← ofExcept (firstArgument args))
    | .turnRight, args => do turn true room (← ofExcept (firstArgument args))
    | .turnLeft, args => do turn false room (← ofExcept (firstArgument args))
    | .pickUpObject, _ => pickUp room
    | .dropObject, _ => drop room
  detect := detect
  measure := measure

end Classic

end RoboScript.Robot
