import RoboScript.Error
import RoboScript.Value.Text
import RoboScript.Dialect

/-! The world a program acts on: a robot of some kind and what has been shown so far, the lines
printed and the texts rendered on the display. A step on a scene may fail; a failure keeps what
the step did before it, as printed lines and moves already made stay.

Steps also know how deeply calls are nested. An operation is given `room`, the number of levels
of nesting still free when it starts; its own frame takes one, and each native call, text or
comparison it makes goes a level or more deeper for a moment. Needing more than `room` fails with
`Error.recursionLimit`, naming what was being entered.

A function's calls of built-ins cost a level of their own only until the function is
specialised, which happens once it has been entered, or has jumped back in a loop, eight times;
printing costs two levels before that and one after. So the scene also counts, for each function
whose costs depend on it, how often it has been entered or looped. -/

namespace RoboScript

/-- What has been shown: lines printed, and texts rendered on the display. -/
structure Log where
  lines : Array String := #[]
  texts : Array String := #[]
  deriving Inhabited

/-- The functions of the interpreter and of the robots whose calls of built-ins depend on their
specialisation: running a statement, evaluating an expression, applying an operator, the two
sensors, stepping a waiting statement and the frame update, the classic robot's actions and its
distance, and the queued robot's enqueuing and playing of actions. -/
inductive Code where
  | statement
  | expression
  | binary
  | unary
  | detect
  | measure
  | next
  | update
  | move
  | turn (right : Bool)
  | pickUp
  | drop
  | distance
  | enqueue
  | play
  deriving DecidableEq, Repr

/-- Entries and loop jumps of a function after which it runs specialised. -/
def warmUp : Nat := 8

/-- A robot of kind `ρ`, with what has been shown and how often each function has been entered
or has looped. -/
structure Scene (ρ : Type) where
  robot : ρ
  log : Log := {}
  entered : Code → Nat := fun _ => 0

/-- A function's frame once entered: the levels still free below it, and whether the function
runs specialised. -/
structure Frame where
  room : Nat
  warm : Bool

namespace Scene

variable {ρ : Type}

/-- Counts an entry of a function, or a jump back in one of its loops. -/
def count (c : Code) (s : Scene ρ) : Scene ρ :=
  { s with entered := fun d => if d = c then s.entered c + 1 else s.entered d }

@[simp] theorem count_robot (c : Code) (s : Scene ρ) : (s.count c).robot = s.robot := rfl

@[simp] theorem count_log (c : Code) (s : Scene ρ) : (s.count c).log = s.log := rfl

theorem count_entered (c d : Code) (s : Scene ρ) :
    (s.count c).entered d = if d = c then s.entered c + 1 else s.entered d := rfl

@[simp] theorem count_entered_self (c : Code) (s : Scene ρ) :
    (s.count c).entered c = s.entered c + 1 := by
  simp [count_entered]

end Scene

/-- A step on a scene that may fail. -/
abbrev Act (ρ : Type) := ExceptT Error (StateM (Scene ρ))

namespace Act

variable {ρ : Type}

/-- Needs `depth` levels below the current one, the deepest entered as `kind`, where `room` are
free. -/
def reach (room depth : Nat) (kind : Nesting) : Act ρ Unit :=
  if depth ≤ room then pure () else throw (.recursionLimit kind)

/-- Opens a function's frame where `room` are free, leaving one fewer inside it. -/
def frame (room : Nat) : Act ρ Nat := do
  reach room 1 .function
  return room - 1

/-- A jump back in a loop of function `c`, which counts towards its warm-up. -/
def loop (c : Code) : Act ρ Unit := modify (·.count c)

/-- Counts an entry of function `c` and tells whether `c` now runs specialised. -/
def count (c : Code) : Act ρ Bool := do
  loop c
  return warmUp ≤ (← get).entered c

/-- Counts an entry of function `c` into a frame with `room` free below it. -/
def entered (c : Code) (room : Nat) : Act ρ Frame := do
  return ⟨room, ← count c⟩

/-- Enters function `c` where `room` are free: its frame, and its entry counted. -/
def enter (c : Code) (room : Nat) : Act ρ Frame := do
  entered c (← frame room)

/-- A call of a built-in from a frame, a level down before the function is specialised and
free after. -/
def builtin (f : Frame) (kind : Nesting) : Act ρ Unit :=
  if f.warm then pure () else reach f.room 1 kind

/-- The entry of function `c` into a frame with `room` free below it, when its first step is a
call of a built-in of this kind. -/
def entering (c : Code) (room : Nat) (kind : Nesting) : Act ρ Unit := do
  builtin (← entered c room) kind

/-- A native call: one level deeper for the time of the call. -/
def native {α : Type} (room : Nat) (r : Except Error α) : Act ρ α := do
  reach room 1 .nativeCall
  ofExcept r

/-- Prints a line from a frame; writing it is a native call, below the call of `print` itself
before the function is specialised. -/
def say (f : Frame) (line : String) : Act ρ Unit := do
  reach f.room (if f.warm then 1 else 2) .nativeCall
  modify fun s => { s with log := { s.log with lines := s.log.lines.push line } }

/-- The text a value prints as: an integer's text is taken one level deeper, that of any other
value through a native format call and one level below it. -/
def shown (room : Nat) (v : Value) : Act ρ String := do
  match v with
  | .int _ => reach room 1 .text
  | _ => do
    reach room 1 .nativeCall
    reach room 2 .text
  ofExcept v.text

/-- Renders a text on the display. -/
def display (text : String) : Act ρ Unit :=
  modify fun s => { s with log := { s.log with texts := s.log.texts.push text } }

/-- The robot as it stands. -/
def robot : Act ρ ρ := do return (← get).robot

/-- Changes the robot. -/
def update (f : ρ → ρ) : Act ρ Unit := modify fun s => { s with robot := f s.robot }

end Act

/-- How a kind of robot answers a program: its commands, given their evaluated arguments, and
its two sensors. Each is given the number of call frames still free. -/
structure Controls (ρ : Type) where
  command : Nat → Command → List Value → Act ρ Unit
  detect : Nat → Act ρ Value
  measure : Nat → Act ρ Value

/-- The first argument of a command, which every move and turn needs. -/
def firstArgument : List Value → Except Error Value
  | v :: _ => .ok v
  | [] => .error .missingArgument

end RoboScript
