import RoboScript.Session

/-! What a computation of a running program gives. `Act.go a s` is the value or failure a step
of the robot's scene ends with from the scene `s`, and the scene it leaves; `Run.go x m` is the
value or signal a computation of the program ends with from the machine `m`, and the machine it
leaves. Each operation of the two monads has its equation here, so that later proofs follow a
program's computation step by step and never unfold the monads themselves. -/

namespace RoboScript

namespace Act

variable {ρ α β : Type}

/-- What a step gives from a scene. -/
def go (a : Act ρ α) (s : Scene ρ) : Except Error α × Scene ρ := (ExceptT.run a).run s

@[simp] theorem go_pure (a : α) (s : Scene ρ) : go (pure a : Act ρ α) s = (.ok a, s) := rfl

@[simp] theorem go_throw (e : Error) (s : Scene ρ) : go (throw e : Act ρ α) s = (.error e, s) :=
  rfl

@[simp] theorem go_ofExcept (r : Except Error α) (s : Scene ρ) :
    go (ofExcept r : Act ρ α) s = (r, s) := by
  cases r <;> rfl

@[simp] theorem go_robot (s : Scene ρ) : go (robot : Act ρ ρ) s = (.ok s.robot, s) := rfl

@[simp] theorem go_update (f : ρ → ρ) (s : Scene ρ) :
    go (update f) s = (.ok (), { s with robot := f s.robot }) := rfl

theorem go_bind_ok {a : Act ρ α} {f : α → Act ρ β} {s s' : Scene ρ} {v : α}
    (first : go a s = (.ok v, s')) : go (a >>= f) s = go (f v) s' := by
  unfold go at *
  simp only [ExceptT.run_bind, StateT.run_bind]
  rw [first]
  rfl

theorem go_bind_error {a : Act ρ α} {f : α → Act ρ β} {s s' : Scene ρ} {e : Error}
    (first : go a s = (.error e, s')) : go (a >>= f) s = (.error e, s') := by
  unfold go at *
  simp only [ExceptT.run_bind, StateT.run_bind]
  rw [first]
  rfl

theorem go_bind (a : Act ρ α) (f : α → Act ρ β) (s : Scene ρ) :
    go (a >>= f) s = match go a s with
      | (.ok v, s') => go (f v) s'
      | (.error e, s') => (.error e, s') := by
  rcases ran : go a s with ⟨e | v, s'⟩
  · exact go_bind_error ran
  · exact go_bind_ok ran

theorem go_reach (room depth : Nat) (kind : Nesting) (s : Scene ρ) :
    go (reach room depth kind) s =
      if depth ≤ room then (.ok (), s) else (.error (.recursionLimit kind), s) := by
  unfold reach
  split <;> rfl

theorem go_frame (room : Nat) (s : Scene ρ) :
    go (frame room) s =
      if 1 ≤ room then (.ok (room - 1), s) else (.error (.recursionLimit .function), s) := by
  unfold frame
  by_cases enough : 1 ≤ room
  · have opened : go (reach room 1 .function) s = (.ok (), s) := by simp [go_reach, enough]
    rw [go_bind_ok opened, if_pos enough]
    rfl
  · have refused : go (reach room 1 .function) s = (.error (.recursionLimit .function), s) := by
      simp [go_reach, enough]
    rw [go_bind_error refused, if_neg enough]

theorem go_frame_bind {k : Nat → Act ρ α} (room : Nat) (s : Scene ρ) :
    go (frame room >>= k) s =
      if 1 ≤ room then go (k (room - 1)) s else (.error (.recursionLimit .function), s) := by
  unfold frame
  rw [bind_assoc]
  by_cases enough : 1 ≤ room
  · have opened : go (reach room 1 .function) s = (.ok (), s) := by simp [go_reach, enough]
    rw [go_bind_ok opened, pure_bind, if_pos enough]
  · have refused : go (reach room 1 .function) s = (.error (.recursionLimit .function), s) := by
      simp [go_reach, enough]
    rw [go_bind_error refused, if_neg enough]

@[simp] theorem go_loop (c : Code) (s : Scene ρ) : go (loop c) s = (.ok (), s.count c) := rfl

theorem go_entered (c : Code) (room : Nat) (s : Scene ρ) :
    go (entered c room) s = (.ok ⟨room, decide (warmUp ≤ s.entered c + 1)⟩, s.count c) := by
  rw [← Scene.count_entered_self]
  rfl

theorem go_enter (c : Code) (room : Nat) (s : Scene ρ) :
    go (enter c room) s =
      if 1 ≤ room then (.ok ⟨room - 1, decide (warmUp ≤ s.entered c + 1)⟩, s.count c)
      else (.error (.recursionLimit .function), s) := by
  unfold enter
  rw [go_frame_bind, go_entered]

theorem go_enter_bind {k : Frame → Act ρ α} (c : Code) (room : Nat) (s : Scene ρ) :
    go (enter c room >>= k) s =
      if 1 ≤ room then go (k ⟨room - 1, decide (warmUp ≤ s.entered c + 1)⟩) (s.count c)
      else (.error (.recursionLimit .function), s) := by
  by_cases enough : 1 ≤ room
  · rw [go_bind_ok (by rw [go_enter, if_pos enough]), if_pos enough]
  · rw [go_bind_error (by rw [go_enter, if_neg enough]), if_neg enough]

theorem go_builtin (f : Frame) (kind : Nesting) (s : Scene ρ) :
    go (builtin f kind) s =
      if f.warm ∨ 1 ≤ f.room then (.ok (), s) else (.error (.recursionLimit kind), s) := by
  unfold builtin
  by_cases warm : f.warm
  · simp [warm]
  · simp only [warm, Bool.false_eq_true, ↓reduceIte, false_or]
    exact go_reach f.room 1 kind s

theorem go_entering (c : Code) (room : Nat) (kind : Nesting) (s : Scene ρ) :
    go (entering c room kind) s =
      if warmUp ≤ s.entered c + 1 ∨ 1 ≤ room then (.ok (), s.count c)
      else (.error (.recursionLimit kind), s.count c) := by
  unfold entering
  rw [go_bind_ok (go_entered c room s), go_builtin]
  simp only [decide_eq_true_eq]

theorem go_say (f : Frame) (line : String) (s : Scene ρ) :
    go (say f line) s =
      if (if f.warm then 1 else 2) ≤ f.room then
        (.ok (), { s with log := { s.log with lines := s.log.lines.push line } })
      else (.error (.recursionLimit .nativeCall), s) := by
  unfold say
  by_cases enough : (if f.warm then 1 else 2) ≤ f.room
  · rw [go_bind_ok (by rw [go_reach, if_pos enough]), if_pos enough]
    rfl
  · rw [go_bind_error (by rw [go_reach, if_neg enough]), if_neg enough]

theorem go_say_ok {f : Frame} (enough : 2 ≤ f.room) (line : String) (s : Scene ρ) :
    go (say f line) s = (.ok (), { s with log := { s.log with lines := s.log.lines.push line } }) := by
  rw [go_say, if_pos (by split <;> omega)]

/-- Printing leaves the robot as it was. -/
@[simp] theorem go_say_robot (f : Frame) (line : String) (s : Scene ρ) :
    (go (say f line) s).2.robot = s.robot := by
  rw [go_say]
  by_cases enough : (if f.warm then 1 else 2) ≤ f.room
  · rw [if_pos enough]
  · rw [if_neg enough]

/-- A step that leaves the scene as it was, whether or not it fails. -/
def Still (a : Act ρ α) : Prop := ∀ s, (go a s).2 = s

theorem Still.bind {a : Act ρ α} {f : α → Act ρ β} (first : Still a) (rest : ∀ v, Still (f v)) :
    Still (a >>= f) := by
  intro s
  rcases ran : go a s with ⟨e | v, s'⟩
  · rw [go_bind_error ran]
    simpa [ran] using first s
  · rw [go_bind_ok ran, rest v s']
    simpa [ran] using first s

theorem Still.reach (room depth : Nat) (kind : Nesting) :
    Still (reach room depth kind : Act ρ Unit) := by
  intro s
  rw [go_reach]
  split <;> rfl

theorem Still.ofExcept (r : Except Error α) : Still (ofExcept r : Act ρ α) := by
  intro s
  rw [go_ofExcept]

/-- Taking a value's text leaves the scene as it was. -/
@[simp] theorem go_shown_scene (room : Nat) (v : Value) (s : Scene ρ) :
    (go (shown room v) s).2 = s := by
  unfold shown
  cases v with
  | int => exact Still.bind (Still.reach _ _ _) (fun _ => Still.ofExcept _) s
  | none | bool | float =>
    exact Still.bind (Still.reach _ _ _) (fun _ => Still.bind (Still.reach _ _ _)
      fun _ => Still.ofExcept _) s

theorem go_shown_int {room : Nat} (enough : 1 ≤ room) (n : Int) (s : Scene ρ) :
    go (shown room (.int n)) s = ((Value.int n).text, s) := by
  simp only [shown, go_bind, go_reach, if_pos enough, go_ofExcept]

theorem go_shown_other {room : Nat} (enough : 2 ≤ room) {v : Value} (other : ∀ n, v ≠ .int n)
    (s : Scene ρ) : go (shown room v) s = (v.text, s) := by
  have one : 1 ≤ room := by omega
  cases v with
  | int n => exact absurd rfl (other n)
  | none | bool | float =>
    simp only [shown, go_bind, go_reach, if_pos one, if_pos enough, go_ofExcept]

end Act

namespace Run

variable {ρ α β : Type}

/-- What a computation gives from a machine. -/
def go (x : Run ρ α) (m : Machine ρ) : Except Signal α × Machine ρ := (ExceptT.run x).run m

@[simp] theorem go_pure (a : α) (m : Machine ρ) : go (pure a : Run ρ α) m = (.ok a, m) := rfl

@[simp] theorem go_throw (e : Signal) (m : Machine ρ) : go (throw e : Run ρ α) m = (.error e, m) :=
  rfl

@[simp] theorem go_get (m : Machine ρ) : go (get : Run ρ (Machine ρ)) m = (.ok m, m) := rfl

@[simp] theorem go_modify (f : Machine ρ → Machine ρ) (m : Machine ρ) :
    go (modify f : Run ρ Unit) m = (.ok (), f m) := rfl

theorem go_act (a : Act ρ α) (m : Machine ρ) :
    go (act a) m =
      ((Act.go a m.scene).1.mapError .failed, { m with scene := (Act.go a m.scene).2 }) := by
  unfold go act Act.go
  rcases h : StateT.run (ExceptT.run a) m.scene with ⟨_ | _, _⟩ <;>
    simp only [ExceptT.run_mk, StateT.run] at h ⊢ <;> rw [h] <;> rfl

theorem go_reach (room depth : Nat) (kind : Nesting) (m : Machine ρ) :
    go (reach room depth kind) m =
      if depth ≤ room then (.ok (), m) else (.error (.failed (.recursionLimit kind)), m) := by
  unfold reach
  rw [go_act, Act.go_reach]
  split <;> rfl

theorem go_act_frame {room : Nat} (enough : 1 ≤ room) (m : Machine ρ) :
    go (act (Act.frame room)) m = (.ok (room - 1), m) := by
  rw [go_act, Act.go_frame, if_pos enough]
  rfl

theorem go_bind_ok {x : Run ρ α} {f : α → Run ρ β} {m m' : Machine ρ} {a : α}
    (first : go x m = (.ok a, m')) : go (x >>= f) m = go (f a) m' := by
  unfold go at *
  simp only [ExceptT.run_bind, StateT.run_bind]
  rw [first]
  rfl

theorem go_bind_error {x : Run ρ α} {f : α → Run ρ β} {m m' : Machine ρ} {e : Signal}
    (first : go x m = (.error e, m')) : go (x >>= f) m = (.error e, m') := by
  unfold go at *
  simp only [ExceptT.run_bind, StateT.run_bind]
  rw [first]
  rfl

theorem go_bind (x : Run ρ α) (f : α → Run ρ β) (m : Machine ρ) :
    go (x >>= f) m = match go x m with
      | (.ok a, n) => go (f a) n
      | (.error e, n) => (.error e, n) := by
  rcases ran : go x m with ⟨e | a, n⟩
  · exact go_bind_error ran
  · exact go_bind_ok ran

theorem go_enter_bind {k : Frame → Run ρ α} (c : Code) (room : Nat) (m : Machine ρ) :
    go (act (Act.enter c room) >>= k) m =
      if 1 ≤ room then
        go (k ⟨room - 1, decide (warmUp ≤ m.scene.entered c + 1)⟩)
          { m with scene := m.scene.count c }
      else (.error (.failed (.recursionLimit .function)), m) := by
  by_cases enough : 1 ≤ room
  · rw [go_bind_ok (by rw [go_act, Act.go_enter, if_pos enough]; rfl), if_pos enough]
  · rw [go_bind_error (by rw [go_act, Act.go_enter, if_neg enough]; rfl), if_neg enough]

theorem go_typeTests (c : Code) (room : Nat) (m : Machine ρ) :
    go (typeTests c room) m =
      if warmUp ≤ m.scene.entered c + 1 ∨ 1 ≤ room then (.ok (), { m with scene := m.scene.count c })
      else (.error (.failed (.recursionLimit .nativeCall)), { m with scene := m.scene.count c }) := by
  unfold typeTests
  rw [go_act, Act.go_entering]
  split <;> rfl

theorem go_tryCatch_ok {x : Run ρ α} {h : Signal → Run ρ α} {m m' : Machine ρ} {a : α}
    (first : go x m = (.ok a, m')) : go (tryCatch x h) m = (.ok a, m') := by
  show (ExceptT.run (ExceptT.tryCatch x h)).run m = _
  simp only [ExceptT.tryCatch, ExceptT.run_mk, StateT.run_bind]
  rw [show StateT.run x m = (.ok a, m') from first]
  rfl

theorem go_tryCatch_error {x : Run ρ α} {h : Signal → Run ρ α} {m m' : Machine ρ} {e : Signal}
    (first : go x m = (.error e, m')) : go (tryCatch x h) m = go (h e) m' := by
  show (ExceptT.run (ExceptT.tryCatch x h)).run m = _
  simp only [ExceptT.tryCatch, ExceptT.run_mk, StateT.run_bind]
  rw [show StateT.run x m = (.error e, m') from first]
  rfl

theorem go_tryCatch (x : Run ρ α) (h : Signal → Run ρ α) (m : Machine ρ) :
    go (tryCatch x h) m = match go x m with
      | (.ok a, n) => (.ok a, n)
      | (.error e, n) => go (h e) n := by
  rcases ran : go x m with ⟨e | a, n⟩
  · exact go_tryCatch_error ran
  · exact go_tryCatch_ok ran

theorem lookupIn_global (name : String) (room : Nat) :
    lookupIn name room .global = (do
      let room ← act (Act.frame room)
      match (← get).globals name with
      | some v => pure v
      | none => raise room (.undefinedVariable name) : Run ρ Value) := rfl

theorem lookupIn_frame (name : String) (room : Nat) (bindings : List (String × Value))
    (parent : Scope) :
    lookupIn name room (.frame bindings parent) = (do
      let room ← act (Act.frame room)
      match bindings.lookup name with
      | some v => pure v
      | none => lookupIn name room parent : Run ρ Value) := rfl

theorem lookupIn_call (name : String) (room : Nat) :
    lookupIn name room Scope.call = (do
      let room ← act (Act.frame room)
      lookupIn name room .global : Run ρ Value) := rfl

end Run

namespace Machine

variable {ρ : Type}

/-- Registering a program's functions leaves everything but the functions as it was, and a name
then finds the last function of the program with that name, or what it found before. -/
theorem registerAll_eq (p : Program) (m : Machine ρ) :
    registerAll p m = { m with functions := fun name =>
      ((p.functions.filter (·.name == name)).getLast?).or (m.functions name) } := by
  unfold registerAll
  -- the functions are registered one by one, from the machine as each left it
  induction p.functions generalizing m with
  | nil => rfl
  | cons f fs ih =>
    rw [List.foldl_cons, ih]
    congr 1
    funext name
    by_cases named : f.name = name
    · subst named
      rw [List.filter_cons_of_pos (by simp), List.getLast?_cons]
      cases (fs.filter (·.name == f.name)).getLast? <;> simp
    · have other : (f.name == name) = false := by simpa using named
      simp [other, Ne.symm named]

@[simp] theorem registerAll_pending (p : Program) (m : Machine ρ) :
    (m.registerAll p).pending = m.pending := by
  rw [registerAll_eq]

@[simp] theorem registerAll_scene (p : Program) (m : Machine ρ) :
    (m.registerAll p).scene = m.scene := by
  rw [registerAll_eq]

@[simp] theorem registerAll_scope (p : Program) (m : Machine ρ) :
    (m.registerAll p).scope = m.scope := by
  rw [registerAll_eq]

@[simp] theorem registerAll_globals (p : Program) (m : Machine ρ) :
    (m.registerAll p).globals = m.globals := by
  rw [registerAll_eq]

end Machine

/-- The environments a running program is found in: the global one, or a call's, with no
bindings of its own, directly inside the global one. -/
def Scope.Shallow (s : Scope) : Prop := s = .global ∨ s = .call

theorem Scope.shallow_global : Scope.global.Shallow := .inl rfl

theorem Scope.shallow_call : Scope.call.Shallow := .inr rfl

end RoboScript
