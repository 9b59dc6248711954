import Mathlib.Data.List.Basic
import Mathlib.Logic.Relation
import RoboScript.Program.Tables

/-! Runs of the table-driven loop, for any tables. `Leads` is the loop going from one
configuration to another; `Finishes` is the loop ending with a result. Each step is described by
what it does to the stack: a shift pushes the next token, a reduction pops a right-hand side and
pushes the transition's target.

Every configuration reached from the start keeps the first state at the bottom of its stack,
and no state below the top reduces without reading (`Sound`). So at a syntax error the loop
only pops, down to the first state, and drops the offending token: it starts again on the
tokens after it. -/

namespace RoboScript.Automaton

/-- The loop goes from `c` to `c'` in some number of steps. -/
def Leads (T : Tables) : Parser → Parser → Prop :=
  Relation.ReflTransGen fun c c' => step T c = .next c'

/-- From `c` the loop ends with `r`: every run with enough fuel returns it. -/
def Finishes (T : Tables) (c : Parser) (r : Option Program × List SyntaxError) : Prop :=
  ∃ n, ∀ m, n ≤ m → run T m c = r

namespace Parser

/-- `c` after reading up to `rest`, with `stack`. Each token read was shifted, so it counts
against `errorcount`. -/
def upTo (c : Parser) (rest : List Token) (stack : List (Nat × Parsed)) : Parser :=
  { c with stack, input := rest, index := c.index + (c.input.length - rest.length),
           errorcount := c.errorcount - (c.input.length - rest.length) }

variable {c : Parser} {rest rest' : List Token} {stack stack' : List (Nat × Parsed)}

@[simp] theorem upTo_stack : (c.upTo rest stack).stack = stack := rfl
@[simp] theorem upTo_input : (c.upTo rest stack).input = rest := rfl
@[simp] theorem upTo_setAside : (c.upTo rest stack).setAside = c.setAside := rfl
@[simp] theorem upTo_errors : (c.upTo rest stack).errors = c.errors := rfl

@[simp] theorem upTo_lookahead : (c.upTo rest stack).lookahead = .next rest := rfl

@[simp] theorem upTo_here : (c.upTo rest stack).upTo rest stack' = c.upTo rest stack' := by
  simp [upTo]

theorem upTo_upTo (later : rest'.length ≤ rest.length) (within : rest.length ≤ c.input.length) :
    (c.upTo rest stack).upTo rest' stack' = c.upTo rest' stack' := by
  simp only [upTo, mk.injEq, true_and, and_true]
  constructor <;> omega

end Parser

variable {T : Tables} {c c' d : Parser} {r : Option Program × List SyntaxError}

section Finishing

theorem Finishes.of_next (next : step T c = .next c') (ends : Finishes T c' r) :
    Finishes T c r := by
  obtain ⟨n, ends⟩ := ends
  refine ⟨n + 1, fun m more => ?_⟩
  obtain ⟨k, rfl⟩ : ∃ k, m = k + 1 := ⟨m - 1, by omega⟩
  simp only [run, next]
  exact ends k (by omega)

theorem Finishes.of_done {p : Option Program} {errors : List SyntaxError}
    (done : step T c = .done p errors) : Finishes T c (p, errors) := by
  refine ⟨1, fun m more => ?_⟩
  obtain ⟨k, rfl⟩ : ∃ k, m = k + 1 := ⟨m - 1, by omega⟩
  simp only [run, done]

theorem Leads.finishes (leads : Leads T c c') (ends : Finishes T c' r) : Finishes T c r := by
  induction leads using Relation.ReflTransGen.head_induction_on with
  | refl => exact ends
  | head next _ later => exact .of_next next later

theorem Finishes.unique {r' : Option Program × List SyntaxError} (first : Finishes T c r)
    (second : Finishes T c r') : r = r' := by
  obtain ⟨n, first⟩ := first
  obtain ⟨m, second⟩ := second
  rw [← first (max n m) (Nat.le_max_left n m), second (max n m) (Nat.le_max_right n m)]

end Finishing

theorem Leads.single (next : step T c = .next c') : Leads T c c' :=
  Relation.ReflTransGen.single next

theorem Leads.head (next : step T c = .next c') (later : Leads T c' d) : Leads T c d :=
  Relation.ReflTransGen.head next later

section Steps

variable {s target rule : Nat} {v : Parsed} {below : List (Nat × Parsed)} {t : Token}
  {rest : List Token}

theorem step_shift (top : c.stack = (s, v) :: below) (reads : T.defaulted s = none)
    (clear : c.setAside = none) (input : c.input = t :: rest)
    (shifts : T.action s (.ofKind t.kind) = some (.shift target)) :
    step T c = .next (c.upTo rest ((target, .token t) :: c.stack)) := by
  have ahead : c.lookahead = .ofKind t.kind := by simp [Parser.lookahead, input, Terminal.next]
  simp only [step, top, reads, clear, ahead, shifts, input, Parser.upTo, List.length_cons]
  congr 2 <;> omega

/-- Reducing by a production of `popped.length` symbols pops them and pushes the target of the
uncovered state's transition, standing for what the action builds from them. -/
theorem reduce_eq {lhs : Nonterminal} {sem : Semantic} {popped : List (Nat × Parsed)}
    {under : Nat} {w : Parsed} {rest' : List (Nat × Parsed)}
    (production : T.productions[rule]? = some ⟨lhs, popped.length, some sem⟩)
    (split : c.stack = popped ++ (under, w) :: rest') (goto : T.goto under lhs = some target) :
    reduce T rule c =
      .next (c.upTo c.input ((target, sem.build (popped.reverse.map Prod.snd)) :: (under, w) :: rest')) := by
  have dropped : c.stack.drop popped.length = (under, w) :: rest' := by simp [split]
  have taken : c.stack.take popped.length = popped := by simp [split]
  simp only [reduce, production, dropped, goto, taken, Parser.upTo, Nat.sub_self, Nat.add_zero,
    Nat.sub_zero]

theorem step_default (top : c.stack = (s, v) :: below) (reduces : T.defaulted s = some rule) :
    step T c = reduce T rule c := by
  simp only [step, top, reduces]

theorem step_lookahead (top : c.stack = (s, v) :: below) (reads : T.defaulted s = none)
    (clear : c.setAside = none) (reduces : T.action s c.lookahead = some (.reduce rule)) :
    step T c = reduce T rule c := by
  simp only [step, top, reads, clear, reduces]

theorem step_accept {p : Program} (top : c.stack = (s, .program p) :: below)
    (reads : T.defaulted s = none) (clear : c.setAside = none)
    (accepts : T.action s c.lookahead = some .accept) :
    step T c = .done (some p) c.errors := by
  simp only [step, top, reads, clear, accepts]

end Steps

/-- What every configuration reached from the start keeps: the first state at the bottom of the
stack, and below the top no state that reduces without reading. -/
structure Sound (T : Tables) (c : Parser) : Prop where
  grounded : c.stack.getLast? = some (0, .nothing)
  plain : ∀ e ∈ c.stack.tail, T.defaulted e.1 = none

/-- Every default reduction pops at least one state. -/
def PopsOnDefault (T : Tables) : Prop :=
  ∀ s rule production, T.defaulted s = some rule → T.productions[rule]? = some production →
    0 < production.length

theorem Sound.start (ts : List Token) : Sound T (.start ts) :=
  ⟨rfl, by simp [Parser.start]⟩

section Invariant

variable {s : Nat} {v : Parsed} {below : List (Nat × Parsed)}

theorem getLast?_drop_cons {α : Type} {l : List α} {k : Nat} {a : α} {l' : List α}
    (dropped : l.drop k = a :: l') : (a :: l').getLast? = l.getLast? := by
  rw [← dropped]
  induction l generalizing k with
  | nil => simp at dropped
  | cons x xs ih =>
    cases k with
    | zero => rfl
    | succ k =>
      simp only [List.drop_succ_cons] at dropped ⊢
      rw [ih dropped]
      cases xs with
      | nil => simp at dropped
      | cons y ys => simp

theorem reduce_sound {rule : Nat} (pops : 0 < (T.productions[rule]?.map (·.length)).getD 1 ∨
      ∀ e ∈ c.stack.take 1, T.defaulted e.1 = none)
    (sound : Sound T c) (next : reduce T rule c = .next c') : Sound T c' := by
  unfold reduce at next
  split at next
  · cases next
  · next production found =>
    split at next
    · next under w rest' sem dropped semantic =>
      split at next
      · next target goto =>
        cases next
        refine ⟨?_, ?_⟩
        · simpa [getLast?_drop_cons dropped] using sound.grounded
        · intro e mem
          simp only [List.tail_cons] at mem
          rw [← dropped] at mem
          cases k : production.length with
          | zero =>
            rw [k] at mem
            simp only [List.drop_zero] at mem
            cases pops with
            | inl positive => simp [found, k] at positive
            | inr top =>
              cases stack : c.stack with
              | nil => simp [stack] at mem
              | cons f fs =>
                have plain := sound.plain
                rw [stack] at mem plain
                rcases List.mem_cons.1 mem with same | deeper
                · exact top e (by simp [stack, same])
                · exact plain e deeper
          | succ k' =>
            rw [k] at mem
            exact sound.plain e (by
              cases stack : c.stack with
              | nil => simp [stack] at mem
              | cons f fs =>
                rw [stack] at mem
                exact List.mem_of_mem_drop (by simpa using mem))
      · cases next
    · cases next

/-- Each step keeps `Sound`, when default reductions pop. -/
theorem step_sound (pops : PopsOnDefault T) (sound : Sound T c) (next : step T c = .next c') :
    Sound T c' := by
  unfold step at next
  split at next
  · cases next
  · next s v below top =>
    split at next
    · next rule reduces =>
      refine reduce_sound (.inl ?_) sound next
      cases found : T.productions[rule]? with
      | none => simp
      | some production => simpa using pops s rule production reduces found
    · next reads =>
      split at next
      · split at next
        · cases next
          exact ⟨by simp [sound.grounded], by simp [top]⟩
        · next f fs =>
          cases next
          refine ⟨?_, fun e mem => sound.plain e ?_⟩
          · have grounded := sound.grounded
            rw [top] at grounded
            simpa using grounded
          · simp only [top, List.tail_cons]
            exact List.mem_of_mem_tail mem
      · split at next
        · cases next
          refine ⟨?_, fun e mem => ?_⟩
          · simpa [top] using sound.grounded
          · simp only [top, List.tail_cons] at mem ⊢
            rcases List.mem_cons.1 mem with same | deeper
            · simpa [same] using reads
            · exact sound.plain e (by simpa [top] using deeper)
        · cases next
        · exact reduce_sound (.inr (by simp [top, reads])) sound next
        · split at next <;> cases next
        · unfold fail at next
          split at next
          · cases next
          · repeat' split at next
            all_goals
              cases next
              exact ⟨sound.grounded, sound.plain⟩

theorem Leads.sound (pops : PopsOnDefault T) (leads : Leads T c c') (sound : Sound T c) :
    Sound T c' := by
  induction leads with
  | refl => exact sound
  | tail _ next kept => exact step_sound pops kept next

end Invariant

/-- The loop at `d` meets a syntax error at its next token: no error symbol is pending, the top
state reads, and it has no action on the lookahead. -/
def Stuck (T : Tables) (d : Parser) : Prop :=
  d.setAside = none ∧ ∃ s v below, d.stack = (s, v) :: below ∧ T.defaulted s = none ∧
    T.action s d.lookahead = none

/-- From `c` the loop reads up to `rest` and meets a syntax error there. -/
def Stops (T : Tables) (c : Parser) (rest : List Token) : Prop :=
  ∃ stack, Leads T c (c.upTo rest stack) ∧ Stuck T (c.upTo rest stack)

/-- From `c` the loop reads up to `rest`, and then stands at `stack` when `follow` admits the
next terminal, or meets a syntax error at it when `follow` does not. -/
def Reaches (T : Tables) (follow : Terminal → Bool) (c : Parser) (rest : List Token)
    (stack : List (Nat × Parsed)) : Prop :=
  (follow (.next rest) = true → Leads T c (c.upTo rest stack)) ∧
    (follow (.next rest) = false → Stops T c rest)

section Recovery

/-- With the error symbol pending, the loop pops every state above the first one, none of them
reducing by default, and then drops the token set aside. -/
theorem Leads.recover {t : Token} {entries : List (Nat × Parsed)} (pending : c.setAside = some t)
    (stack : c.stack = entries ++ [(0, .nothing)]) (plain : ∀ e ∈ c.stack, T.defaulted e.1 = none) :
    Leads T c { c with stack := [(0, .nothing)], setAside := none, errorcount := reportGap } := by
  induction entries generalizing c with
  | nil =>
    refine .single ?_
    have bottom := plain (0, .nothing) (by simp [stack])
    simp only [List.nil_append] at stack
    simp only [step, stack, bottom, pending]
  | cons e es more =>
    have top := plain e (by simp [stack])
    obtain ⟨s, v⟩ := e
    refine .head ?_ (more (c := { c with stack := es ++ [(0, .nothing)], errorcount := reportGap })
      pending rfl fun f mem => plain f (by simp_all))
    simp only [List.cons_append] at stack
    cases es with
    | nil => simp only [step, stack, top, pending, List.nil_append]
    | cons f fs => simp only [step, stack, top, pending, List.cons_append]

variable {t : Token} {rest : List Token}

/-- The errors of `d`, with `e` reported when `errorcount` has run out. -/
def Parser.reported (d : Parser) (e : SyntaxError) : List SyntaxError :=
  if d.errorcount = 0 then d.errors ++ [e] else d.errors

/-- Where the loop starts again after a syntax error at `d`'s next token, followed by `rest`. -/
def Parser.restart (d : Parser) (t : Token) (rest : List Token) : Parser :=
  { d with stack := [(0, .nothing)], input := rest, index := d.index + 1, errorcount := reportGap,
           errors := d.reported (.token d.index t) }

/-- At a syntax error before a token, the loop reports it when `errorcount` has run out, drops the
token and every state above the first one, and starts again after the token. -/
theorem Stuck.restarts (stuck : Stuck T d) (sound : Sound T d) (input : d.input = t :: rest) :
    Leads T d (d.restart t rest) := by
  obtain ⟨clear, s, v, below, top, reads, refuses⟩ := stuck
  have fails : step T d = fail d below := by
    simp only [step, top, reads, clear, refuses]
  have grounded := sound.grounded
  rw [top] at grounded
  cases below with
  | nil =>
    refine .single ?_
    simp only [List.getLast?_singleton, Option.some.injEq] at grounded
    rw [fails]
    simp only [fail, input, Parser.restart, Parser.reported, ← grounded, ← top]
  | cons e es =>
    let pending : Parser :=
      { d with
        setAside := some t, input := rest, index := d.index + 1, errorcount := reportGap,
        errors := d.reported (.token d.index t) }
    have first : step T d = .next pending := by
      rw [fails]
      simp only [fail, input, pending, Parser.reported]
    obtain ⟨entries, split⟩ : ∃ entries, (s, v) :: e :: es = entries ++ [(0, .nothing)] :=
      ⟨((s, v) :: e :: es).dropLast, (List.dropLast_append_getLast? _ grounded).symm⟩
    have stacked : pending.stack = entries ++ [(0, .nothing)] := by simp [pending, top, split]
    have recovered := Leads.recover (T := T) (c := pending) rfl stacked
      fun f mem => by
        simp only [pending, top] at mem
        rcases List.mem_cons.1 mem with same | deeper
        · simpa [same] using reads
        · exact sound.plain f (by simpa [top] using deeper)
    exact .head first (by simpa [pending, Parser.restart, clear] using recovered)

theorem Stuck.ends (stuck : Stuck T d) (input : d.input = []) :
    step T d = .done none (d.reported .endOfText) := by
  obtain ⟨clear, s, v, below, top, reads, refuses⟩ := stuck
  simp only [step, top, reads, clear, refuses, fail, input, Parser.reported]

end Recovery

end RoboScript.Automaton
