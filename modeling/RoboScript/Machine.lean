import RoboScript.Scene
import RoboScript.Program
import RoboScript.Operator
import RoboScript.Value.Text

/-! The state of a running program and the monad it runs in. A machine holds the robot's scene,
the global bindings, the functions registered so far, the environment names are looked up in,
and the statements of `main` still waiting when a program is stepped one statement at a time.

An environment is the global one or a frame with bindings of its own inside another; a name is
looked up frame by frame out to the globals. A statement ends normally, by returning a value
from its function, or by failing; `Signal` is the last two. -/

namespace RoboScript

/-- An environment names are looked up in: the global one, whose bindings are the machine's
globals, or a frame with bindings of its own and the environment it sits in. -/
inductive Scope where
  | global
  | frame (bindings : List (String × Value)) (parent : Scope)

/-- The environment a call runs in: no bindings of its own, inside the global one. -/
def Scope.call : Scope := .frame [] .global

/-- The environments from a scope out to the global one, each a frame of a lookup that passes
it. -/
def Scope.depth : Scope → Nat
  | .global => 1
  | .frame _ parent => parent.depth + 1

/-- How a statement ends other than normally. -/
inductive Signal where
  /-- A `return` with its value, ending the current function. -/
  | returned (v : Value)
  /-- A failure, ending the whole run. -/
  | failed (e : Error)

/-- The state of a running program. -/
structure Machine (ρ : Type) where
  scene : Scene ρ
  globals : String → Option Value := fun _ => none
  functions : String → Option FunDef := fun _ => none
  scope : Scope := .global
  /-- Statements of `main` not yet run, when the program is stepped. -/
  pending : List Stmt := []

namespace Machine

variable {ρ : Type}

/-- A fresh machine: the robot as given, nothing bound or registered. -/
def start (robot : ρ) : Machine ρ := { scene := { robot } }

/-- Binds a global name. -/
def define (name : String) (v : Value) (m : Machine ρ) : Machine ρ :=
  { m with globals := fun n => if n = name then some v else m.globals n }

@[simp] theorem define_globals (name : String) (v : Value) (m : Machine ρ) (n : String) :
    (m.define name v).globals n = if n = name then some v else m.globals n := rfl

/-- Registers a function under its name, replacing any function of that name. -/
def register (f : FunDef) (m : Machine ρ) : Machine ρ :=
  { m with functions := fun n => if n = f.name then some f else m.functions n }

@[simp] theorem register_functions (f : FunDef) (m : Machine ρ) (n : String) :
    (m.register f).functions n = if n = f.name then some f else m.functions n := rfl

@[simp] theorem register_scope (f : FunDef) (m : Machine ρ) : (m.register f).scope = m.scope := rfl

@[simp] theorem register_globals (f : FunDef) (m : Machine ρ) :
    (m.register f).globals = m.globals := rfl

/-- Registers a program's functions in order, so that a later definition wins. -/
def registerAll (p : Program) (m : Machine ρ) : Machine ρ :=
  p.functions.foldl (fun m f => m.register f) m

/-- The statements `main` runs, one after another: the bodies of all functions called `main`,
in order. -/
def mainBody (p : Program) : List Stmt :=
  (p.functions.filter (·.name == "main")).flatMap (·.body)

/-- A machine for stepping a program: the statements of `main` wait, and nothing is
registered yet. -/
def stepping (robot : ρ) (p : Program) : Machine ρ := { start robot with pending := mainBody p }

end Machine

/-- A computation of a running program. -/
abbrev Run (ρ : Type) := ExceptT Signal (StateM (Machine ρ))

namespace Run

variable {ρ : Type}

/-- Fails with a cause. -/
def fail {α : Type} (e : Error) : Run ρ α := throw (.failed e)

/-- A computed result, or its failure. -/
def check {α : Type} : Except Error α → Run ρ α
  | .ok a => pure a
  | .error e => fail e

/-- A step of the robot's scene. -/
def act {α : Type} (a : Act ρ α) : Run ρ α := ExceptT.mk fun m =>
  match (ExceptT.run a).run m.scene with
  | (.ok v, scene) => (.ok v, { m with scene })
  | (.error e, scene) => (.error (.failed e), { m with scene })

/-- Needs `depth` levels below the current one, the deepest entered as `kind`, where `room` are
free. -/
def reach (room depth : Nat) (kind : Nesting) : Run ρ Unit := act (Act.reach room depth kind)

/-- Prints a line from a frame. -/
def say (f : Frame) (line : String) : Run ρ Unit := act (Act.say f line)

/-- Runs a computation `n` times, stopping at the first that does not end normally. -/
def times (a : Run ρ Unit) : Nat → Run ρ Unit
  | 0 => pure ()
  | n + 1 => do a; times a n

end Run

end RoboScript
