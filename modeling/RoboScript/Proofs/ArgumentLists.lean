import RoboScript.Proofs.ParseComplete

/-! Argument lists. The grammar documents an argument list as nothing, or expressions separated
by commas. Its rule is left-recursive with an empty alternative (an argument list, a comma and an
expression; an expression; nothing), so the comma rule also applies after the empty list: besides
the documented lists, it derives every non-empty one with a single comma in front. The reader
takes exactly the lists the rule derives, wherever arguments are written: after a command, in a
call statement and in a call inside an expression. Either way a list has one argument per
expression, in the order they are written. -/

namespace RoboScript.Grammar

/-- An argument list of the documented form: nothing, or an expression followed by
`, expression` any number of times, with the trees of the expressions as its arguments. -/
def Documented (ts : List Token) (args : List Expr) : Prop :=
  (ts = [] ∧ args = []) ∨ ∃ us ws e, ts = us ++ ws ∧ Expression 0 us e ∧ Commas [e] ws args

/-- A non-empty documented argument list with a comma in front of its first expression. -/
def LeadingComma (ts : List Token) (args : List Expr) : Prop :=
  ∃ comma us, comma.kind = .comma ∧ ts = comma :: us ∧ args ≠ [] ∧ Documented us args

theorem Commas.arguments {acc args : List Expr} {ws : List Token} (commas : Commas acc ws args) :
    ∀ {ts : List Token}, Arguments ts acc → Arguments (ts ++ ws) args := by
  induction commas with
  | nil =>
    intro ts front
    simpa using front
  | cons kind derived _ ih =>
    intro ts front
    simpa using ih (Arguments.more front kind derived)

theorem Commas.extends {acc args : List Expr} {ws : List Token} (commas : Commas acc ws args) :
    ∃ more, args = acc ++ more := by
  induction commas with
  | nil => exact ⟨[], by simp⟩
  | @cons _ _ _ _ _ e _ _ _ ih =>
    obtain ⟨more, rfl⟩ := ih
    exact ⟨e :: more, by simp⟩

theorem Documented.arguments {ts : List Token} {args : List Expr} (documented : Documented ts args) :
    Arguments ts args := by
  rcases documented with ⟨rfl, rfl⟩ | ⟨us, ws, e, rfl, derived, commas⟩
  · exact .none
  · exact commas.arguments (.first derived)

theorem Documented.head_ne_comma {ts : List Token} {args : List Expr}
    (documented : Documented ts args) : ∀ t ∈ ts.head?, t.kind ≠ .comma := by
  rcases documented with ⟨rfl, -⟩ | ⟨us, ws, e, rfl, derived, -⟩
  · simp
  · obtain ⟨t, r, rfl, starts⟩ := derived.starts
    intro u first comma
    simp only [List.cons_append, List.head?_cons, Option.mem_def, Option.some.injEq] at first
    subst first
    simp [comma, startsExpr] at starts

theorem LeadingComma.not_documented {ts : List Token} {args : List Expr}
    (leading : LeadingComma ts args) : ¬Documented ts args := by
  obtain ⟨comma, us, kind, rfl, -, -⟩ := leading
  intro documented
  exact documented.head_ne_comma comma (by simp) kind

theorem LeadingComma.arguments {ts : List Token} {args : List Expr} (leading : LeadingComma ts args) :
    Arguments ts args := by
  obtain ⟨comma, us, kind, rfl, nonempty, documented⟩ := leading
  rcases documented with ⟨rfl, rfl⟩ | ⟨vs, ws, e, rfl, derived, commas⟩
  · exact absurd rfl nonempty
  · -- the comma rule applied to the empty list gives the first expression, the rest follow
    have first : Arguments (comma :: vs) [e] := by simpa using Arguments.more .none kind derived
    simpa using commas.arguments first

theorem Arguments.documented_or_leading {ts : List Token} {args : List Expr}
    (derived : Arguments ts args) : Documented ts args ∨ LeadingComma ts args := by
  rcases derived.split with ⟨commas, -⟩ | ⟨us, ws, e, parts, first, commas⟩
  · -- no first expression: nothing at all, or a comma before the first one
    cases commas with
    | nil => exact .inl (.inl ⟨rfl, rfl⟩)
    | cons kind first rest =>
      rw [List.nil_append] at rest
      obtain ⟨more, rfl⟩ := rest.extends
      exact .inr ⟨_, _, kind, by simp, by simp, .inr ⟨_, _, _, rfl, first, rest⟩⟩
  · exact .inl (.inr ⟨us, ws, e, parts, first, commas⟩)

theorem arguments_iff {ts : List Token} {args : List Expr} :
    Arguments ts args ↔ Documented ts args ∨ LeadingComma ts args :=
  ⟨Arguments.documented_or_leading, fun
    | .inl documented => documented.arguments
    | .inr leading => leading.arguments⟩

/-- What the reader takes between the parentheses of a command or a call: from the tokens `pre`
followed by a closing parenthesis, it reads the arguments `args` and stops at the parenthesis
exactly when `pre` is a documented list of those arguments, or one after a leading comma. -/
theorem reads_arguments_iff {pre rest : List Token} {args : List Expr}
    (follow : ∀ t ∈ rest.head?, t.kind = .rparen) :
    YieldsLax (arguments (pre ++ rest)) args rest ↔ Documented pre args ∨ LeadingComma pre args := by
  rw [← arguments_iff]
  constructor
  · rintro ⟨r, read, left⟩
    obtain ⟨pre', parts, derived⟩ := arguments_sound read
    rw [left] at parts
    rwa [List.append_cancel_right parts]
  · intro derived
    exact arguments_complete derived rest follow

/-- A call whose parentheses hold a comma and then an expression is read in both dialects
without a syntax error into a program. -/
theorem leading_comma_call_read :
    let source := "function main() \x7b\n  f(, 1);\n\x7d\n"
    (Token.scan .queued source).tokens.map (·.text) =
        ["function", "main", "(", ")", "\x7b", "f", "(", ",", "1", ")", ";", "\x7d"] ∧
      (Program.read .queued source).toOption.map (·.messages) = some [] ∧
      ((Program.read .queued source).toOption.bind (·.program)).isSome ∧
      (Program.read .classic source).toOption.map (·.messages) = some [] ∧
      ((Program.read .classic source).toOption.bind (·.program)).isSome := by
  decide +kernel

end RoboScript.Grammar
