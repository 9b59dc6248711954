import RoboScript.Plane

/-! Settings a robot can be given from outside a program: where it stands, where it faces, where
the object lies and whether it is held, and the speeds and progress of queued actions. A robot
ignores the settings it has no use for. -/

namespace RoboScript.Robot

open Plane

/-- A setting of one of a robot's attributes. -/
inductive Setting where
  | position (p : Point)
  | heading (degrees : Value)
  | objectAt (p : Point)
  | holding (held : Value)
  | moveSpeed (speed : Value)
  | turnSpeed (speed : Value)
  | progress (done : Value)

end RoboScript.Robot
