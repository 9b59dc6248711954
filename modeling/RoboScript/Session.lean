import RoboScript.Execution
import RoboScript.Robot.Classic
import RoboScript.Robot.Queued

/-! Stepping a program alongside its robot. A session holds a machine, and the program when
there is one, whose `main` statements wait to be run one at a time. Each request on a session
is a computation of the machine; the session records what the request printed and rendered and
how it ended. A request that fails leaves the machine as the failure found it, and the next
request goes on from there.

The queued robot is stepped by frames: each frame plays a step of the robot's actions, draws it,
and then, when the robot is idle, runs the next waiting statement. -/

namespace RoboScript

/-- A machine stepping a program, or only a robot. -/
structure Session (ρ : Type) where
  machine : Machine ρ
  program : Option Program

/-- What one request showed, and how it ended. -/
structure Report where
  log : Log
  outcome : Except Signal Value

namespace Session

variable {ρ : Type}

/-- A session on a robot, stepping a program if one is given. -/
def create (robot : ρ) : Option Program → Session ρ
  | some p => ⟨Machine.stepping robot p, some p⟩
  | none => ⟨Machine.start robot, none⟩

/-- Binds a global name. -/
def define (name : String) (v : Value) (s : Session ρ) : Session ρ :=
  { s with machine := s.machine.define name v }

/-- Runs one request, starting from an empty log. -/
def perform (a : Run ρ Value) (s : Session ρ) : Report × Session ρ :=
  let m := { s.machine with scene := { s.machine.scene with log := {} } }
  match (ExceptT.run a).run m with
  | (r, m) => (⟨m.scene.log, r⟩, { s with machine := m })

/-- A request that changes the robot from outside. -/
def adjust (f : ρ → ρ) : Run ρ Value := do
  Run.act (Act.update f)
  return .none

end Session

namespace Run

open Robot

/-- When the queued robot is idle and statements of `main` wait, runs the next. A failure, or a
`return`, is printed rather than passed on. -/
def update (room : Nat) : Run Queued Unit := do
  let f ← act (Act.enter .update room)
  let m ← get
  if m.scene.robot.current.isNone && !m.pending.isEmpty then
    tryCatch (executeNext Queued.controls f.room) fun signal => do
      reach f.room 2 .text
      let text ← match signal with
        | .returned v => check v.text
        | .failed e => pure e.message
      say f ("Error during interpretation: " ++ text)

/-- `n` frames of the queued robot: each updates the display, then, when a program is stepped,
runs `update`. -/
def frames (room : Nat) (stepping : Bool) : Nat → Run Queued Unit
  | 0 => pure ()
  | n + 1 => do
    act (Queued.updateDisplay (room - 1))
    if stepping then update room
    frames room stepping n

end Run

end RoboScript
