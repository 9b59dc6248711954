/-! The two dialects of the language and the robot commands each one knows. The classic
dialect drives a robot that acts at once and can carry an object; the queued dialect drives a
robot that plays its actions out frame by frame and has only the four moves. -/

namespace RoboScript

/-- A robot command, written as a keyword followed by arguments. -/
inductive Command where
  | moveForward
  | moveBackward
  | turnRight
  | turnLeft
  | pickUpObject
  | dropObject
  deriving DecidableEq, Repr

namespace Command

/-- The command's keyword in program text. -/
def word : Command → String
  | .moveForward => "moveForward"
  | .moveBackward => "moveBackward"
  | .turnRight => "turnRight"
  | .turnLeft => "turnLeft"
  | .pickUpObject => "pickUpObject"
  | .dropObject => "dropObject"

end Command

/-- A dialect of the language. -/
inductive Dialect where
  | classic
  | queued
  deriving DecidableEq, Repr

/-- The commands a dialect has as keywords. -/
def Dialect.commands : Dialect → List Command
  | .classic => [.moveForward, .moveBackward, .turnRight, .turnLeft, .pickUpObject, .dropObject]
  | .queued => [.moveForward, .moveBackward, .turnRight, .turnLeft]

end RoboScript
