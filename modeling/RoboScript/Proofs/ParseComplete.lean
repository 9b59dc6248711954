import RoboScript.Proofs.ParseSound

/-! Completeness of the reader: tokens derived by the precedence grammar are read back as the
tree of their derivation, with the tokens after them left, as long as the next token cannot
continue what was derived. Each rule's reader looks at most one token past what it reads.

The operator loop reads an expression from its first operand rightwards, while the grammar's
rules nest to the left; `Chain` is the grammar's expression seen the loop's way, as a first
operand and a run of operators each with its right operand, no operator binding more tightly
than the one before it. -/

namespace RoboScript.Grammar

/-- The parse `p` of `ts` returns `a` and leaves `rest`. -/
def Yields {ts : List Token} {α : Type} (p : Strict ts α) (a : α) (rest : List Token) : Prop :=
  ∃ l : Leftover ts, p = .ok (a, l) ∧ l.tokens = rest

/-- The parse `p` of `ts`, which may read nothing, returns `a` and leaves `rest`. -/
def YieldsLax {ts : List Token} {α : Type} (p : Lax ts α) (a : α) (rest : List Token) : Prop :=
  ∃ r : Rest ts, p = .ok (a, r) ∧ r.tokens = rest

/-- What may follow an expression at `level`: nothing, or a token that opens no call and is no
operator binding as tightly as `level`. -/
def Stops (level : Nat) (rest : List Token) : Prop :=
  ∀ t ∈ rest.head?, t.kind ≠ .lparen ∧ ∀ op, t.kind = .binary op → op.precedence < level

/-- `Chain level bound lhs ts e`: the tokens `ts` are operators, each with its right operand,
that extend `lhs` to `e`, grouping to the left. Each operator binds at least as tightly as
`level`, and no more tightly than `bound` or the operator before it. -/
inductive Chain (level : Nat) : Nat → Expr → List Token → Expr → Prop
  | done {bound : Nat} {lhs : Expr} : Chain level bound lhs [] lhs
  | step {bound : Nat} {lhs rhs e : Expr} {op : BinOp} {t : Token} {rs more : List Token} :
      level ≤ op.precedence → op.precedence ≤ bound → t.kind = .binary op →
      Expression (op.precedence + 1) rs rhs → Chain level op.precedence (.binary op lhs rhs) more e →
      Chain level bound lhs (t :: rs ++ more) e

/-- `Commas acc ts args`: the tokens `ts` are `, expression` any number of times, whose trees
appended to `acc` give `args`. -/
inductive Commas : List Expr → List Token → List Expr → Prop
  | nil {acc : List Expr} : Commas acc [] acc
  | cons {acc args : List Expr} {comma : Token} {us rest : List Token} {e : Expr} :
      comma.kind = .comma → Expression 0 us e → Commas (acc ++ [e]) rest args →
      Commas acc (comma :: us ++ rest) args

theorem Yields.seq {ts : List Token} {α β : Type} {p : Strict ts α}
    {q : (us : List Token) → Strict us β} {a : α} {b : β} {mid rest : List Token}
    (first : Yields p a mid) (second : Yields (q mid) b rest) : Yields (p.seq q) (a, b) rest := by
  obtain ⟨l₁, read, rfl⟩ := first
  obtain ⟨l₂, read', rfl⟩ := second
  exact ⟨l₁.trans l₂, by simp [Strict.seq, read, read'], rfl⟩

theorem Yields.seqLax {ts : List Token} {α β : Type} {p : Strict ts α}
    {q : (us : List Token) → Lax us β} {a : α} {b : β} {mid rest : List Token}
    (first : Yields p a mid) (second : YieldsLax (q mid) b rest) :
    Yields (p.seqLax q) (a, b) rest := by
  obtain ⟨l₁, read, rfl⟩ := first
  obtain ⟨r, read', rfl⟩ := second
  exact ⟨l₁.transRest r, by simp [Strict.seqLax, read, read'], rfl⟩

theorem Yields.map {ts : List Token} {α β : Type} {p : Strict ts α} {a : α} {rest : List Token}
    (f : α → β) (read : Yields p a rest) : Yields (p.map f) (f a) rest := by
  obtain ⟨l, read, rfl⟩ := read
  exact ⟨l, by simp [Strict.map, read], rfl⟩

theorem expect_yields (test : TokenKind → Bool) {t : Token} {ts rest : List Token}
    (passes : test t.kind = true) (shape : ts = t :: rest) : Yields (expect test ts) t rest := by
  subst shape
  exact ⟨Leftover.tail t rest, by simp [expect, passes], rfl⟩

theorem BinOp.precedence_le_six (op : BinOp) : op.precedence ≤ 6 := by
  cases op <;> simp [BinOp.precedence]

theorem Chain.snoc {level p bound : Nat} {e₀ lhs rhs : Expr} {s rs : List Token} {op : BinOp}
    {t : Token} (chain : Chain p bound e₀ s lhs) (low : level ≤ p) (high : p ≤ bound)
    (strength : op.precedence = p) (kind : t.kind = .binary op)
    (right : Expression (op.precedence + 1) rs rhs) :
    Chain level bound e₀ (s ++ t :: rs) (.binary op lhs rhs) := by
  induction chain with
  | done => simpa using Chain.step (by omega) (by omega) kind right .done
  | step above below kind' right' rest ih =>
    simpa using Chain.step (by omega) below kind' right' (ih above)

theorem Expression.chain {level : Nat} {ts : List Token} {e : Expr} :
    Expression level ts e → ∃ o s e₀, ts = o ++ s ∧ Operand o e₀ ∧ Chain level 6 e₀ s e
  | .operand first => ⟨ts, [], e, by simp, first, .done⟩
  | .binary low left kind right => by
    obtain ⟨o, s, e₀, parts, first, chain⟩ := Expression.chain left
    exact ⟨o, s ++ _ :: _, e₀, by simp [parts], first,
      chain.snoc low (BinOp.precedence_le_six _) rfl kind right⟩

theorem Commas.snoc {acc args : List Expr} {ts us : List Token} {comma : Token} {e : Expr}
    (commas : Commas acc ts args) (kind : comma.kind = .comma) (last : Expression 0 us e) :
    Commas acc (ts ++ comma :: us) (args ++ [e]) := by
  induction commas with
  | nil => simpa using Commas.cons kind last .nil
  | cons kind' inner rest ih => simpa using Commas.cons kind' inner ih

theorem Arguments.split {ts : List Token} {args : List Expr} :
    Arguments ts args →
      (Commas [] ts args ∧ ∀ t ∈ ts.head?, t.kind = .comma) ∨
      ∃ us ws e, ts = us ++ ws ∧ Expression 0 us e ∧ Commas [e] ws args
  | .none => .inl ⟨.nil, by simp⟩
  | .first derived => .inr ⟨ts, [], _, by simp, derived, .nil⟩
  | @Arguments.more front _ comma _ _ rest kind last => by
    rcases Arguments.split rest with ⟨commas, head⟩ | ⟨us, ws, e, parts, derived, commas⟩
    · refine .inl ⟨commas.snoc kind last, fun t mem => ?_⟩
      cases front with
      | nil =>
        simp only [List.nil_append, List.head?_cons, Option.mem_def, Option.some.injEq] at mem
        exact mem ▸ kind
      | cons u r =>
        simp only [List.cons_append, List.head?_cons, Option.mem_def, Option.some.injEq] at mem
        exact head t (by simp [mem])
    · exact .inr ⟨us, ws ++ comma :: _, e, by simp [parts], derived, commas.snoc kind last⟩

theorem Operand.starts {ts : List Token} {e : Expr} (h : Operand ts e) :
    ∃ t r, ts = t :: r ∧ startsExpr t.kind = true := by
  cases h with
  | not kind _ => exact ⟨_, _, rfl, by simp [kind, startsExpr]⟩
  | number kind => exact ⟨_, _, rfl, by simp [kind, startsExpr]⟩
  | var kind => exact ⟨_, _, rfl, by simp [kind, startsExpr]⟩
  | call kind _ _ _ => exact ⟨_, _, rfl, by simp [kind, startsExpr]⟩
  | group kind _ _ => exact ⟨_, _, rfl, by simp [kind, startsExpr]⟩

theorem Expression.starts {level : Nat} {ts : List Token} {e : Expr} (h : Expression level ts e) :
    ∃ t r, ts = t :: r ∧ startsExpr t.kind = true := by
  obtain ⟨o, s, e₀, rfl, first, _⟩ := h.chain
  obtain ⟨t, r, rfl, starts⟩ := first.starts
  exact ⟨t, r ++ s, rfl, starts⟩

theorem Chain.stops {level bound : Nat} {lhs e : Expr} {s rest : List Token}
    (chain : Chain level bound lhs s e) (follow : Stops level rest) (within : level ≤ bound + 1) :
    Stops (bound + 1) (s ++ rest) := by
  cases chain with
  | done =>
    intro t mem
    obtain ⟨opens, weak⟩ := follow t (by simpa using mem)
    exact ⟨opens, fun op kind => by have := weak op kind; omega⟩
  | step low below kind right rest =>
    intro t mem
    simp only [List.cons_append, List.head?_cons, Option.mem_def, Option.some.injEq] at mem
    subst mem
    refine ⟨by simp [kind], fun op' kind' => ?_⟩
    rw [kind] at kind'
    cases kind'
    omega

theorem Chain.opens {level bound : Nat} {lhs e : Expr} {s rest : List Token}
    (chain : Chain level bound lhs s e) (follow : Stops level rest) :
    ∀ t ∈ (s ++ rest).head?, t.kind ≠ .lparen := by
  cases chain with
  | done => exact fun t mem => (follow t (by simpa using mem)).1
  | step low below kind right rest =>
    intro t mem
    simp only [List.cons_append, List.head?_cons, Option.mem_def, Option.some.injEq] at mem
    subst mem
    simp [kind]

theorem Commas.stops {acc args : List Expr} {ws rest : List Token} (commas : Commas acc ws args)
    (follow : ∀ t ∈ rest.head?, t.kind = .rparen) : Stops 0 (ws ++ rest) := by
  cases commas with
  | nil =>
    intro t mem
    have closing := follow t (by simpa using mem)
    simp [closing]
  | cons kind _ _ =>
    intro t mem
    simp only [List.cons_append, List.head?_cons, Option.mem_def, Option.some.injEq] at mem
    subst mem
    simp [kind]

mutual

theorem unary_complete {pre : List Token} {e : Expr} (h : Operand pre e) (rest : List Token)
    (follow : ∀ t ∈ rest.head?, t.kind ≠ .lparen) : Yields (unary (pre ++ rest)) e rest := by
  cases h with
  | @not t ts e kind inner =>
    obtain ⟨l, read, left⟩ := unary_complete inner _ follow
    exact ⟨(Leftover.tail t (ts ++ rest)).trans l, by unfold unary; simp [kind, read], left⟩
  | @number t lit kind =>
    exact ⟨Leftover.tail t rest, by unfold unary; simp [kind], rfl⟩
  | @var t kind =>
    cases rest with
    | nil => exact ⟨Leftover.tail t [], by unfold unary; simp [kind], rfl⟩
    | cons u r =>
      have opens := follow u (by simp)
      exact ⟨Leftover.tail t (u :: r), by unfold unary; simp [kind, opens], rfl⟩
  | @call name opening closing ts args kind isOpening inner isClosing =>
    rw [show (name :: opening :: ts ++ [closing]) ++ rest = name :: opening :: (ts ++ closing :: rest)
      by simp]
    obtain ⟨rr, read, left⟩ := arguments_complete inner (closing :: rest) (by simp [isClosing])
    obtain ⟨l₂, shut, left'⟩ := expect_yields isRParen (by simp [isClosing]) left
    exact ⟨(((Leftover.tail name _).trans (Leftover.tail opening _)).transRest rr).trans l₂,
      by unfold unary; simp [kind, isOpening, read, shut], left'⟩
  | @group opening closing ts e kind inner isClosing =>
    rw [show (opening :: ts ++ [closing]) ++ rest = opening :: (ts ++ closing :: rest) by simp]
    obtain ⟨l, read, left⟩ := expression_complete inner (closing :: rest)
      (fun t mem => by simp at mem; subst mem; simp [isClosing])
    obtain ⟨l₂, shut, left'⟩ := expect_yields isRParen (by simp [isClosing]) left
    exact ⟨(Leftover.tail opening _).trans (l.trans l₂), by unfold unary; simp [kind, read, shut], left'⟩
termination_by 4 * pre.length + 1
decreasing_by all_goals (simp only [List.length_cons, List.length_append] at *; omega)

theorem expression_complete {level : Nat} {pre : List Token} {e : Expr}
    (h : Expression level pre e) (rest : List Token) (follow : Stops level rest) :
    Yields (expression level (pre ++ rest)) e rest := by
  obtain ⟨o, s, e₀, parts, first, chain⟩ := h.chain
  have := congrArg List.length parts
  rw [parts, List.append_assoc]
  obtain ⟨l, read, left⟩ := unary_complete first (s ++ rest) (chain.opens follow)
  have loop := chain_complete chain follow
  rw [← left] at loop
  obtain ⟨r, read', left'⟩ := loop
  exact ⟨l.transRest r, by unfold expression; simp [read, read'], left'⟩
termination_by 4 * pre.length + 2
decreasing_by all_goals (simp only [List.length_append] at *; omega)

theorem chain_complete {level bound : Nat} {lhs e : Expr} {s rest : List Token}
    (h : Chain level bound lhs s e) (follow : Stops level rest) :
    YieldsLax (operators level lhs (s ++ rest)) e rest := by
  cases h with
  | done =>
    rw [List.nil_append]
    cases rest with
    | nil => exact ⟨Rest.here [], by unfold operators; simp, rfl⟩
    | cons u r =>
      refine ⟨Rest.here (u :: r), ?_, rfl⟩
      unfold operators
      split
      · next op kind =>
        have weak := (follow u (by simp)).2 op kind
        simp [show ¬level ≤ op.precedence by omega]
      · rfl
  | @step _ _ rhs _ op t rs more low below kind right tail =>
    rw [show (t :: rs ++ more) ++ rest = t :: (rs ++ (more ++ rest)) by simp]
    obtain ⟨l, read, left⟩ := expression_complete right (more ++ rest)
      (tail.stops follow (by omega))
    have loop := chain_complete tail follow
    rw [← left] at loop
    obtain ⟨r, read', left'⟩ := loop
    exact ⟨(((Leftover.tail t _).trans l).transRest r).toRest,
      by unfold operators; simp [kind, low, read, read'], left'⟩
termination_by 4 * s.length
decreasing_by all_goals (simp only [List.length_cons, List.length_append] at *; omega)

theorem arguments_complete {pre : List Token} {args : List Expr} (h : Arguments pre args)
    (rest : List Token) (follow : ∀ t ∈ rest.head?, t.kind = .rparen) :
    YieldsLax (arguments (pre ++ rest)) args rest := by
  rcases h.split with ⟨commas, head⟩ | ⟨us, ws, e, parts, derived, commas⟩
  · have loop := commas_complete commas follow
    cases list : pre ++ rest with
    | nil =>
      obtain ⟨rfl, rfl⟩ := List.append_eq_nil_iff.1 list
      cases commas
      exact ⟨Rest.here [], by unfold arguments; simp, rfl⟩
    | cons t r =>
      rw [list] at loop
      have quiet : startsExpr t.kind = false := by
        cases pre with
        | nil =>
          simp only [List.nil_append] at list
          subst list
          simp [follow t (by simp), startsExpr]
        | cons u w =>
          simp only [List.cons_append, List.cons.injEq] at list
          obtain ⟨rfl, -⟩ := list
          simp [head u (by simp), startsExpr]
      obtain ⟨rr, read, left⟩ := loop
      exact ⟨rr, by unfold arguments; simp [quiet, read], left⟩
  · obtain ⟨t, r, rfl, starts⟩ := derived.starts
    have := congrArg List.length parts
    rw [parts, List.append_assoc]
    obtain ⟨l, read, left⟩ := expression_complete derived (ws ++ rest) (commas.stops follow)
    have read : expression 0 (t :: (r ++ (ws ++ rest))) = .ok (e, l) := read
    have loop := commas_complete commas follow
    rw [← left] at loop
    obtain ⟨rr, read', left'⟩ := loop
    exact ⟨(l.transRest rr).toRest, by unfold arguments; simp [starts, read, read'], left'⟩
termination_by 4 * pre.length + 3
decreasing_by all_goals (simp only [List.length_cons, List.length_append] at *; omega)

theorem commas_complete {acc args : List Expr} {ws rest : List Token} (h : Commas acc ws args)
    (follow : ∀ t ∈ rest.head?, t.kind = .rparen) :
    YieldsLax (moreArguments acc (ws ++ rest)) args rest := by
  cases h with
  | nil =>
    cases rest with
    | nil => exact ⟨Rest.here [], by unfold moreArguments; simp, rfl⟩
    | cons u r =>
      have closing := follow u (by simp)
      exact ⟨Rest.here (u :: r), by unfold moreArguments; simp [closing], rfl⟩
  | @cons _ _ comma us more e kind derived tail =>
    rw [show (comma :: us ++ more) ++ rest = comma :: (us ++ (more ++ rest)) by simp]
    obtain ⟨l, read, left⟩ := expression_complete derived (more ++ rest) (tail.stops follow)
    have loop := commas_complete tail follow
    rw [← left] at loop
    obtain ⟨rr, read', left'⟩ := loop
    exact ⟨(((Leftover.tail comma _).trans l).transRest rr).toRest,
      by unfold moreArguments; simp [kind, read, read'], left'⟩
termination_by 4 * ws.length
decreasing_by all_goals (simp only [List.length_cons, List.length_append] at *; omega)

end

section Structure

variable {E : List Token → Expr → Prop} {A : List Token → List Expr → Prop}

theorem Statements.nil_tokens {ts : List Token} {ss : List Stmt} :
    Statements E A ts ss → ss = [] → ts = []
  | .nil, _ => rfl
  | .snoc _ _, empty => by simp at empty

theorem Definitions.ne_nil {ts : List Token} {fs : List FunDef} :
    Definitions E A ts fs → fs ≠ []
  | .single _ => by simp
  | .snoc _ _ => by simp

theorem Statements.uncons {ts : List Token} {ss : List Stmt} :
    Statements E A ts ss → ∀ s rest, ss = s :: rest →
      ∃ u w, ts = u ++ w ∧ Statement E A u s ∧ Statements E A w rest
  | .nil => fun _ _ same => by cases same
  | @Statements.snoc _ _ _ _ [] _ inner last => fun s rest same => by
    simp only [List.nil_append, List.cons.injEq] at same
    obtain ⟨rfl, rfl⟩ := same
    exact ⟨_, [], by simp [inner.nil_tokens rfl], last, .nil⟩
  | @Statements.snoc _ _ _ _ (_ :: before) _ inner last => fun s rest same => by
    simp only [List.cons_append, List.cons.injEq] at same
    obtain ⟨rfl, rfl⟩ := same
    obtain ⟨u, w, parts, first, others⟩ := Statements.uncons inner _ before rfl
    exact ⟨u, w ++ _, by simp [parts], first, others.snoc last⟩

theorem Definitions.uncons {ts : List Token} {fs : List FunDef} :
    Definitions E A ts fs → ∀ f rest, fs = f :: rest →
      (rest = [] ∧ Definition E A ts f) ∨
      ∃ u w, ts = u ++ w ∧ Definition E A u f ∧ Definitions E A w rest
  | .single only => fun f rest same => by
    simp only [List.cons.injEq] at same
    obtain ⟨rfl, rfl⟩ := same
    exact .inl ⟨rfl, only⟩
  | @Definitions.snoc _ _ _ _ [] _ inner _ => absurd rfl inner.ne_nil
  | @Definitions.snoc _ _ front _ (_ :: before) _ inner last => fun f rest same => by
    simp only [List.cons_append, List.cons.injEq] at same
    obtain ⟨rfl, rfl⟩ := same
    rcases Definitions.uncons inner _ before rfl with ⟨rfl, first⟩ | ⟨u, w, parts, first, others⟩
    · exact .inr ⟨front, _, rfl, first, by simpa using Definitions.single last⟩
    · exact .inr ⟨u, w ++ _, by simp [parts], first, others.snoc last⟩

theorem Statement.head {ts : List Token} {s : Stmt} (h : Statement E A ts s) :
    ∃ t r, ts = t :: r ∧ t.kind ≠ .elseKw ∧ t.kind ≠ .rbrace := by
  cases h <;> exact ⟨_, _, rfl, by simp [*], by simp [*]⟩

theorem Statements.head {ts rest : List Token} {ss : List Stmt} (h : Statements E A ts ss)
    (follow : ∀ t ∈ rest.head?, t.kind = .rbrace) : ∀ t ∈ (ts ++ rest).head?, t.kind ≠ .elseKw := by
  cases ss with
  | nil =>
    rw [h.nil_tokens rfl]
    intro t mem
    simp [follow t (by simpa using mem)]
  | cons s ss =>
    obtain ⟨u, w, rfl, first, _⟩ := h.uncons s ss rfl
    obtain ⟨t, r, rfl, notElse, _⟩ := first.head
    intro t' mem
    simp only [List.cons_append, List.head?_cons, Option.mem_def, Option.some.injEq] at mem
    exact mem ▸ notElse

end Structure

theorem callTail_complete {opening closing semicolon : Token} {us : List Token}
    {args : List Expr} (isOpening : opening.kind = .lparen) (inner : Arguments us args)
    (isClosing : closing.kind = .rparen) (ends : semicolon.kind = .semicolon)
    (rest : List Token) :
    Yields (callTail (opening :: (us ++ closing :: semicolon :: rest))) args rest := by
  obtain ⟨rr, read, left⟩ := arguments_complete inner (closing :: semicolon :: rest)
    (by simp [isClosing])
  have listed : Yields ((expect isLParen (opening :: us ++ closing :: semicolon :: rest)).seqLax
      arguments) (opening, args) (closing :: semicolon :: rest) :=
    (expect_yields isLParen (by simp [isOpening]) rfl).seqLax ⟨rr, read, left⟩
  exact ((listed.seq (expect_yields isRParen (by simp [isClosing]) rfl)).seq
    (expect_yields isSemicolon (by simp [ends]) rfl)).map _

theorem parenthesized_complete {opening closing : Token} {us : List Token} {e : Expr}
    (isOpening : opening.kind = .lparen) (inner : Expression 0 us e)
    (isClosing : closing.kind = .rparen) (rest : List Token) :
    Yields (parenthesized (opening :: (us ++ closing :: rest))) e rest := by
  have read := expression_complete inner (closing :: rest)
    (fun t mem => by simp at mem; subst mem; simp [isClosing])
  exact (((expect_yields isLParen (by simp [isOpening]) rfl).seq read).seq
    (expect_yields isRParen (by simp [isClosing]) rfl)).map _

theorem stops_semicolon {semicolon : Token} {rest : List Token} (level : Nat)
    (isSemicolon : semicolon.kind = .semicolon) : Stops level (semicolon :: rest) := by
  intro t mem
  simp only [List.head?_cons, Option.mem_def, Option.some.injEq] at mem
  subst mem
  simp [isSemicolon]

mutual

theorem statement_complete {pre : List Token} {s : Stmt}
    (h : Statement (Expression 0) Arguments pre s) (rest : List Token)
    (follow : ∀ t ∈ rest.head?, t.kind ≠ .elseKw) : Yields (statement (pre ++ rest)) s rest := by
  cases h with
  | @command word opening closing semicolon c ts args kind isOpening inner isClosing isSemicolon =>
    rw [show (word :: opening :: ts ++ [closing, semicolon]) ++ rest =
      word :: opening :: (ts ++ closing :: semicolon :: rest) by simp]
    obtain ⟨l, read, left⟩ := callTail_complete isOpening inner isClosing isSemicolon rest
    exact ⟨(Leftover.tail word _).trans l, by unfold statement; simp [kind, read], left⟩
  | @call name opening closing semicolon ts args kind isOpening inner isClosing isSemicolon =>
    rw [show (name :: opening :: ts ++ [closing, semicolon]) ++ rest =
      name :: opening :: (ts ++ closing :: semicolon :: rest) by simp]
    obtain ⟨l, read, left⟩ := callTail_complete isOpening inner isClosing isSemicolon rest
    exact ⟨(Leftover.tail name _).trans l, by unfold statement; simp [kind, read], left⟩
  | @returnWith keyword semicolon ts e kind inner ends =>
    rw [show (keyword :: ts ++ [semicolon]) ++ rest = keyword :: (ts ++ semicolon :: rest) by simp]
    obtain ⟨l, read, left⟩ := ((expression_complete inner _ (stops_semicolon 0 ends)).seq
      (expect_yields isSemicolon (by simp [ends]) rfl)).map Prod.fst
    exact ⟨(Leftover.tail keyword _).trans l, by unfold statement; simp [kind, read], left⟩
  | @repeatTimes keyword opening closing lbrace rbrace cs bs count body kind isOpening counted
      isClosing isLBrace derived isRBrace =>
    rw [show (keyword :: opening :: cs ++ closing :: lbrace :: bs ++ [rbrace]) ++ rest =
      keyword :: opening :: (cs ++ closing :: lbrace :: (bs ++ rbrace :: rest)) by simp]
    obtain ⟨l, read, left⟩ := parenthesized_complete isOpening counted isClosing
      (lbrace :: (bs ++ rbrace :: rest))
    have inner := braced_complete derived isLBrace isRBrace rest
    rw [← left] at inner
    obtain ⟨l₂, read', left'⟩ := inner
    exact ⟨((Leftover.tail keyword _).trans l).trans l₂,
      by unfold statement; simp [kind, read, read'], left'⟩
  | @ifThen keyword opening closing lbrace rbrace cs bs test body kind isOpening tested
      isClosing isLBrace derived isRBrace =>
    rw [show (keyword :: opening :: cs ++ closing :: lbrace :: bs ++ [rbrace]) ++ rest =
      keyword :: opening :: (cs ++ closing :: lbrace :: (bs ++ rbrace :: rest)) by simp]
    obtain ⟨l, read, left⟩ := parenthesized_complete isOpening tested isClosing
      (lbrace :: (bs ++ rbrace :: rest))
    have inner := braced_complete derived isLBrace isRBrace rest
    rw [← left] at inner
    obtain ⟨l₂, read', left'⟩ := inner
    refine ⟨((Leftover.tail keyword _).trans l).trans l₂, ?_, left'⟩
    unfold statement
    simp only [kind, read, read']
    split
    · next u r3 after =>
      have notElse := follow u (by simp [← left', after])
      simp [notElse]
    · rfl
  | @ifElse keyword opening closing lbrace rbrace other lbrace' rbrace' cs bs es test body elseBody
      kind isOpening tested isClosing isLBrace derived isRBrace isOther isLBrace' derived'
      isRBrace' =>
    rw [show (keyword :: opening :: cs ++ closing :: lbrace :: bs ++
        rbrace :: other :: lbrace' :: es ++ [rbrace']) ++ rest =
      keyword :: opening :: (cs ++ closing :: lbrace :: (bs ++ rbrace :: other ::
        lbrace' :: (es ++ rbrace' :: rest))) by simp]
    obtain ⟨l, read, left⟩ := parenthesized_complete isOpening tested isClosing
      (lbrace :: (bs ++ rbrace :: other :: lbrace' :: (es ++ rbrace' :: rest)))
    have inner := braced_complete derived isLBrace isRBrace
      (other :: lbrace' :: (es ++ rbrace' :: rest))
    rw [← left] at inner
    obtain ⟨l₂, read', left'⟩ := inner
    obtain ⟨l₃, read'', left''⟩ := braced_complete derived' isLBrace' isRBrace' rest
    unfold Yields statement
    simp only [kind, read, read']
    split
    · next u r3 after =>
      rw [left'] at after
      simp only [List.cons.injEq] at after
      obtain ⟨rfl, rfl⟩ := after
      simp [isOther, read'', Leftover.trans, left'']
    · next after => simp [left'] at after
termination_by 3 * pre.length + 1
decreasing_by all_goals (simp only [List.length_cons, List.length_append] at *; omega)

theorem block_complete {pre : List Token} {ss : List Stmt}
    (h : Statements (Expression 0) Arguments pre ss) (rest : List Token)
    (follow : ∀ t ∈ rest.head?, t.kind = .rbrace) : YieldsLax (block (pre ++ rest)) ss rest := by
  cases ss with
  | nil =>
    rw [h.nil_tokens rfl, List.nil_append]
    cases rest with
    | nil => exact ⟨Rest.here [], by unfold block; simp, rfl⟩
    | cons u r =>
      have closing := follow u (by simp)
      exact ⟨Rest.here (u :: r), by unfold block; simp [closing], rfl⟩
  | cons s ss =>
    obtain ⟨u, w, parts, first, others⟩ := h.uncons s ss rfl
    obtain ⟨t, r, rfl, notElse, notClosing⟩ := first.head
    have := congrArg List.length parts
    rw [parts, List.append_assoc]
    obtain ⟨l, read, left⟩ := statement_complete first (w ++ rest) (others.head follow)
    have read : statement (t :: (r ++ (w ++ rest))) = .ok (s, l) := read
    have loop := block_complete others _ follow
    rw [← left] at loop
    obtain ⟨rr, read', left'⟩ := loop
    exact ⟨(l.transRest rr).toRest, by unfold block; simp [notClosing, read, read'], left'⟩
termination_by 3 * pre.length + 2
decreasing_by all_goals (simp only [List.length_cons, List.length_append] at *; omega)

theorem braced_complete {lbrace rbrace : Token} {bs : List Token} {ss : List Stmt}
    (h : Statements (Expression 0) Arguments bs ss) (isOpening : lbrace.kind = .lbrace)
    (isClosing : rbrace.kind = .rbrace) (rest : List Token) : Yields (braced (lbrace :: (bs ++ rbrace :: rest))) ss rest := by
  obtain ⟨rr, read, left⟩ := block_complete h (rbrace :: rest) (by simp [isClosing])
  obtain ⟨l, shut, left'⟩ := expect_yields isRBrace (by simp [isClosing]) left
  exact ⟨((Leftover.tail lbrace _).transRest rr).trans l,
    by unfold braced; simp [isOpening, read, shut], left'⟩
termination_by 3 * bs.length + 6
decreasing_by omega

end

theorem funDef_complete {pre : List Token} {f : FunDef}
    (h : Definition (Expression 0) Arguments pre f) (rest : List Token) : Yields (funDef (pre ++ rest)) f rest := by
  cases h with
  | @mk keyword name opening closing lbrace rbrace bs body isKeyword isName isOpening isClosing
      isLBrace derived isRBrace =>
    rw [show (keyword :: name :: opening :: closing :: lbrace :: bs ++ [rbrace]) ++ rest =
      keyword :: name :: opening :: closing :: lbrace :: (bs ++ rbrace :: rest) by simp]
    exact (((((expect_yields isFunction (by simp [isKeyword]) rfl).seq
      (expect_yields isIdent (by simp [isName]) rfl)).seq
      (expect_yields isLParen (by simp [isOpening]) rfl)).seq
      (expect_yields isRParen (by simp [isClosing]) rfl)).seq
      (braced_complete derived isLBrace isRBrace _)).map _

theorem Definition.nonempty {E : List Token → Expr → Prop} {A : List Token → List Expr → Prop}
    {ts : List Token} {f : FunDef} (h : Definition E A ts f) : ts ≠ [] := by
  cases h
  simp

theorem Definitions.nonempty {E : List Token → Expr → Prop} {A : List Token → List Expr → Prop}
    {ts : List Token} {fs : List FunDef} : Definitions E A ts fs → ts ≠ []
  | .single only => only.nonempty
  | .snoc inner _ => fun empty => inner.nonempty (List.append_eq_nil_iff.1 empty).1

theorem definitions_complete {pre : List Token} {fs : List FunDef}
    (h : Definitions (Expression 0) Arguments pre fs) (acc : List FunDef) :
    definitions acc pre = .ok (acc ++ fs) := by
  cases fs with
  | nil => exact absurd rfl h.ne_nil
  | cons f rest =>
    rcases h.uncons f rest rfl with ⟨rfl, only⟩ | ⟨u, w, parts, first, others⟩
    · have whole := funDef_complete only []
      rw [List.append_nil] at whole
      obtain ⟨l, read, left⟩ := whole
      unfold definitions
      simp [read, left]
    · obtain ⟨t, r, rfl⟩ := List.exists_cons_of_ne_nil (others.nonempty)
      have := congrArg List.length parts
      have : 0 < u.length := List.length_pos_iff.2 first.nonempty
      subst parts
      obtain ⟨l, read, left⟩ := funDef_complete first (t :: r)
      have next := definitions_complete others (acc ++ [f])
      rw [← left] at next
      unfold definitions
      simp only [read]
      split
      · next empty => simp [left] at empty
      · simp [next]
termination_by pre.length
decreasing_by simp only [List.length_append, List.length_cons] at *; omega

/-- Every program the precedence grammar derives is read back as itself. -/
theorem parse_complete {ts : List Token} {p : Program} (h : Derives ts p) :
    Program.parse? ts = .ok p := by
  unfold Program.parse?
  simp [definitions_complete h []]

/-- The reader accepts exactly the derivations of the precedence grammar. -/
theorem parse_ok_iff {ts : List Token} {p : Program} : Program.parse? ts = .ok p ↔ Derives ts p :=
  ⟨parse_sound, parse_complete⟩

end RoboScript.Grammar
