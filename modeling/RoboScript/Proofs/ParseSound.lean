import RoboScript.Proofs.Grammar

/-! Soundness of the reader: every value a parse returns is derived by the precedence grammar
from the tokens it read, and the tokens it reports as left are exactly those after them. An
operator loop also stops only before a token that is no operator strong enough for it, which is
what lets the loop's next operand be the right operand of the operator before it. -/

namespace RoboScript

@[simp] theorem Leftover.tail_tokens (t : Token) (r : List Token) : (Leftover.tail t r).tokens = r := rfl

@[simp] theorem Rest.here_tokens (ts : List Token) : (Rest.here ts).tokens = ts := rfl

@[simp] theorem isLParen_iff {k : TokenKind} : isLParen k = true ↔ k = .lparen := by
  cases k <;> simp [isLParen]

@[simp] theorem isRParen_iff {k : TokenKind} : isRParen k = true ↔ k = .rparen := by
  cases k <;> simp [isRParen]

@[simp] theorem isLBrace_iff {k : TokenKind} : isLBrace k = true ↔ k = .lbrace := by
  cases k <;> simp [isLBrace]

@[simp] theorem isRBrace_iff {k : TokenKind} : isRBrace k = true ↔ k = .rbrace := by
  cases k <;> simp [isRBrace]

@[simp] theorem isComma_iff {k : TokenKind} : isComma k = true ↔ k = .comma := by
  cases k <;> simp [isComma]

@[simp] theorem isSemicolon_iff {k : TokenKind} : isSemicolon k = true ↔ k = .semicolon := by
  cases k <;> simp [isSemicolon]

@[simp] theorem isElse_iff {k : TokenKind} : isElse k = true ↔ k = .elseKw := by
  cases k <;> simp [isElse]

@[simp] theorem isFunction_iff {k : TokenKind} : isFunction k = true ↔ k = .functionKw := by
  cases k <;> simp [isFunction]

@[simp] theorem isIdent_iff {k : TokenKind} : isIdent k = true ↔ k = .ident := by
  cases k <;> simp [isIdent]

theorem expect_ok {test : TokenKind → Bool} {ts : List Token} {t : Token} {l : Leftover ts}
    (h : expect test ts = .ok (t, l)) : ts = t :: l.tokens ∧ test t.kind = true := by
  cases ts with
  | nil => simp [expect] at h
  | cons u r =>
    simp only [expect] at h
    split at h
    · cases h
      exact ⟨rfl, by assumption⟩
    · cases h

theorem Strict.seq_ok {ts : List Token} {α β : Type} {p : Strict ts α}
    {q : (us : List Token) → Strict us β} {a : α} {b : β} {l : Leftover ts}
    (h : p.seq q = .ok ((a, b), l)) :
    ∃ l₁ : Leftover ts, ∃ l₂ : Leftover l₁.tokens, p = .ok (a, l₁) ∧ q l₁.tokens = .ok (b, l₂) ∧
      l.tokens = l₂.tokens := by
  rcases p with _ | ⟨a₁, l₁⟩
  · cases h
  · unfold Strict.seq at h
    rcases second : q l₁.tokens with _ | ⟨b₁, l₂⟩ <;> simp only [second] at h
    · cases h
    · cases h
      exact ⟨l₁, l₂, rfl, second, rfl⟩

theorem Strict.seqLax_ok {ts : List Token} {α β : Type} {p : Strict ts α}
    {q : (us : List Token) → Lax us β} {a : α} {b : β} {l : Leftover ts}
    (h : p.seqLax q = .ok ((a, b), l)) :
    ∃ l₁ : Leftover ts, ∃ r : Rest l₁.tokens, p = .ok (a, l₁) ∧ q l₁.tokens = .ok (b, r) ∧
      l.tokens = r.tokens := by
  rcases p with _ | ⟨a₁, l₁⟩
  · cases h
  · unfold Strict.seqLax at h
    rcases second : q l₁.tokens with _ | ⟨b₁, r⟩ <;> simp only [second] at h
    · cases h
    · cases h
      exact ⟨l₁, r, rfl, second, rfl⟩

theorem Strict.map_ok {ts : List Token} {α β : Type} {f : α → β} {p : Strict ts α} {b : β}
    {l : Leftover ts} (h : p.map f = .ok (b, l)) : ∃ a, p = .ok (a, l) ∧ f a = b := by
  rcases p with _ | ⟨a, l₁⟩
  · cases h
  · cases h
    exact ⟨a, rfl, rfl⟩

end RoboScript

namespace RoboScript.Grammar

theorem Expression.lower {high low : Nat} {ts : List Token} {e : Expr}
    (h : Expression high ts e) (below : low ≤ high) : Expression low ts e := by
  cases h with
  | operand o => exact .operand o
  | binary strong left kind right => exact .binary (by omega) left kind right

theorem operators_stops {min : Nat} {lhs e : Expr} {ts : List Token} {r : Rest ts}
    (h : operators min lhs ts = .ok (e, r)) :
    ∀ t ∈ r.tokens.head?, ∀ op, t.kind = .binary op → op.precedence < min := by
  cases ts with
  | nil =>
    unfold operators at h
    cases h
    simp
  | cons t rest =>
    unfold operators at h
    split at h
    · rename_i op kind
      split at h
      · split at h
        · cases h
        · rename_i rhs l inner
          have := l.shorter
          split at h
          · rename_i e' rr tail
            cases h
            exact fun u mem => operators_stops tail u mem
          · cases h
      · rename_i weak
        cases h
        intro u mem op' kind'
        simp only [Rest.here_tokens, List.head?_cons, Option.mem_def, Option.some.injEq] at mem
        subst mem
        rw [kind] at kind'
        cases kind'
        omega
    · rename_i other
      cases h
      intro u mem op' kind'
      simp only [Rest.here_tokens, List.head?_cons, Option.mem_def, Option.some.injEq] at mem
      subst mem
      exact absurd kind' (other op')
termination_by ts.length
decreasing_by all_goals (subst_vars; simp only [List.length_cons]; omega)

theorem expression_stops {min : Nat} {ts : List Token} {e : Expr} {l : Leftover ts}
    (h : expression min ts = .ok (e, l)) :
    ∀ t ∈ l.tokens.head?, ∀ op, t.kind = .binary op → op.precedence < min := by
  unfold expression at h
  split at h
  · cases h
  · split at h
    · next e' r tail =>
      cases h
      exact fun u mem => operators_stops tail u mem
    · cases h

mutual

theorem unary_sound {ts : List Token} {e : Expr} {l : Leftover ts} (h : unary ts = .ok (e, l)) :
    ∃ pre, ts = pre ++ l.tokens ∧ Operand pre e := by
  cases ts with
  | nil => unfold unary at h; cases h
  | cons t r =>
    unfold unary at h
    split at h
    · next kind =>
      split at h
      · next e' l' inner =>
        cases h
        obtain ⟨pre, parts, derived⟩ := unary_sound inner
        exact ⟨t :: pre, by simp [parts, Leftover.trans, Leftover.tail], .not kind derived⟩
      · cases h
    · next lit kind =>
      cases h
      exact ⟨[t], by simp, .number kind⟩
    · next kind =>
      split at h
      · cases h
      · next e' l' inner =>
        split at h
        · next closing l2 shut =>
          cases h
          obtain ⟨pre, parts, derived⟩ := expression_sound inner
          obtain ⟨rest, isClosing⟩ := expect_ok shut
          exact ⟨t :: pre ++ [closing], by simp [parts, rest, Leftover.trans, Leftover.tail],
            .group kind derived (isRParen_iff.1 isClosing)⟩
        · cases h
    · next kind =>
      split at h
      · next u r2 =>
        split at h
        · next opening =>
          split at h
          · simp at h
          · next args rr inner =>
            dsimp only at h
            split at h
            · next closing l2 shut =>
              cases h
              obtain ⟨pre, parts, derived⟩ := arguments_sound inner
              obtain ⟨rest, isClosing⟩ := expect_ok shut
              exact ⟨t :: u :: pre ++ [closing], by simp [parts, rest, Leftover.trans, Leftover.tail, Leftover.transRest],
                .call kind (isLParen_iff.1 opening) derived (isRParen_iff.1 isClosing)⟩
            · cases h
        · cases h
          exact ⟨[t], by simp, .var kind⟩
      · cases h
        exact ⟨[t], by simp, .var kind⟩
    · cases h
termination_by 4 * ts.length + 1
decreasing_by all_goals (subst_vars; simp only [List.length_cons] at *; omega)

theorem expression_sound {min : Nat} {ts : List Token} {e : Expr} {l : Leftover ts}
    (h : expression min ts = .ok (e, l)) : ∃ pre, ts = pre ++ l.tokens ∧ Expression min pre e := by
  unfold expression at h
  split at h
  · cases h
  · next lhs l₁ first =>
    have := l₁.shorter
    split at h
    · next e' r tail =>
      cases h
      obtain ⟨pre, parts, operand⟩ := unary_sound first
      obtain ⟨mid, rest, derived⟩ := operators_sound tail
        (Expression.operand operand : Expression (min + 6) _ _) (by omega)
        (fun _ _ op _ _ => by cases op <;> simp [BinOp.precedence])
      exact ⟨pre ++ mid, by simp [parts, rest, Leftover.transRest], derived⟩
    · cases h
termination_by 4 * ts.length + 2
decreasing_by all_goals (subst_vars; simp only at *; omega)

theorem operators_sound {min : Nat} {lhs e : Expr} {ts : List Token} {r : Rest ts}
    (h : operators min lhs ts = .ok (e, r)) {q : Nat} {pre : List Token}
    (left : Expression q pre lhs) (within : min ≤ q)
    (bounded : ∀ t ∈ ts.head?, ∀ op, t.kind = .binary op → min ≤ op.precedence → op.precedence ≤ q) :
    ∃ mid, ts = mid ++ r.tokens ∧ Expression min (pre ++ mid) e := by
  cases ts with
  | nil =>
    unfold operators at h
    cases h
    exact ⟨[], by simp, by simpa using left.lower within⟩
  | cons t rest =>
    unfold operators at h
    split at h
    · next op kind =>
      split at h
      · next strong =>
        split at h
        · cases h
        · next rhs l inner =>
          have := l.shorter
          split at h
          · next e' rr tail =>
            cases h
            obtain ⟨rpre, parts, right⟩ := expression_sound inner
            have weaker : op.precedence ≤ q := bounded t (by simp) op kind strong
            have joined : Expression op.precedence (pre ++ t :: rpre) (.binary op lhs rhs) :=
              .binary (Nat.le_refl _) (left.lower weaker) kind right
            obtain ⟨mid, rest', derived⟩ := operators_sound tail joined strong
              (fun u mem op' kind' _ => by
                have := expression_stops inner u mem op' kind'
                omega)
            exact ⟨t :: rpre ++ mid, by simp [parts, rest', Leftover.trans, Leftover.tail, Leftover.transRest, Leftover.toRest], by simpa using derived⟩
          · cases h
      · cases h
        exact ⟨[], by simp, by simpa using left.lower within⟩
    · cases h
      exact ⟨[], by simp, by simpa using left.lower within⟩
termination_by 4 * ts.length
decreasing_by all_goals (subst_vars; simp only [List.length_cons] at *; omega)

theorem arguments_sound {ts : List Token} {args : List Expr} {r : Rest ts}
    (h : arguments ts = .ok (args, r)) : ∃ pre, ts = pre ++ r.tokens ∧ Arguments pre args := by
  cases ts with
  | nil =>
    unfold arguments at h
    cases h
    exact ⟨[], by simp, .none⟩
  | cons t rest =>
    unfold arguments at h
    split at h
    · split at h
      · cases h
      · next e l first =>
        have := l.shorter
        split at h
        · next args' rr tail =>
          cases h
          obtain ⟨pre, parts, derived⟩ := expression_sound first
          obtain ⟨mid, rest', more⟩ := moreArguments_sound tail (.first derived)
          exact ⟨pre ++ mid, by simp [parts, rest', Leftover.transRest, Leftover.toRest], more⟩
        · cases h
    · obtain ⟨mid, rest', more⟩ := moreArguments_sound h .none
      exact ⟨mid, rest', by simpa using more⟩
termination_by 4 * ts.length + 3
decreasing_by all_goals (subst_vars; simp only [List.length_cons] at *; omega)

theorem moreArguments_sound {acc args : List Expr} {ts : List Token} {r : Rest ts}
    (h : moreArguments acc ts = .ok (args, r)) {pre : List Token} (before : Arguments pre acc) :
    ∃ mid, ts = mid ++ r.tokens ∧ Arguments (pre ++ mid) args := by
  cases ts with
  | nil =>
    unfold moreArguments at h
    cases h
    exact ⟨[], by simp, by simpa using before⟩
  | cons t rest =>
    unfold moreArguments at h
    split at h
    · next comma =>
      split at h
      · cases h
      · next e l inner =>
        have := l.shorter
        split at h
        · next args' rr tail =>
          cases h
          obtain ⟨epre, parts, derived⟩ := expression_sound inner
          obtain ⟨mid, rest', more⟩ :=
            moreArguments_sound tail (.more before (isComma_iff.1 comma) derived)
          exact ⟨t :: epre ++ mid, by simp [parts, rest', Leftover.trans, Leftover.tail, Leftover.transRest, Leftover.toRest], by simpa using more⟩
        · cases h
    · cases h
      exact ⟨[], by simp, by simpa using before⟩
termination_by 4 * ts.length
decreasing_by all_goals (subst_vars; simp only [List.length_cons] at *; omega)

end

theorem callTail_sound {ts : List Token} {args : List Expr} {l : Leftover ts}
    (h : callTail ts = .ok (args, l)) :
    ∃ opening closing semicolon : Token, ∃ us : List Token,
      ts = opening :: us ++ closing :: semicolon :: l.tokens ∧ opening.kind = .lparen ∧
      Arguments us args ∧ closing.kind = .rparen ∧ semicolon.kind = .semicolon := by
  obtain ⟨⟨⟨⟨opening, args'⟩, closing⟩, semicolon⟩, read, same⟩ := Strict.map_ok h
  cases same
  obtain ⟨l₁, l₂, first, shut, rest₁⟩ := Strict.seq_ok read
  obtain ⟨l₃, l₄, second, closed, rest₂⟩ := Strict.seq_ok first
  obtain ⟨l₅, r, opened, listed, rest₃⟩ := Strict.seqLax_ok second
  obtain ⟨afterOpening, isOpening⟩ := expect_ok opened
  obtain ⟨afterClosing, isClosing⟩ := expect_ok closed
  obtain ⟨afterSemicolon, isSemicolon⟩ := expect_ok shut
  obtain ⟨us, parts, derived⟩ := arguments_sound listed
  refine ⟨opening, closing, semicolon, us, ?_, isLParen_iff.1 isOpening, derived,
    isRParen_iff.1 isClosing, isSemicolon_iff.1 isSemicolon⟩
  refine afterOpening.trans ?_
  rw [parts, ← rest₃, afterClosing, ← rest₂, afterSemicolon, ← rest₁]
  simp

theorem parenthesized_sound {ts : List Token} {e : Expr} {l : Leftover ts}
    (h : parenthesized ts = .ok (e, l)) :
    ∃ opening closing : Token, ∃ us : List Token,
      ts = opening :: us ++ closing :: l.tokens ∧ opening.kind = .lparen ∧
      Expression 0 us e ∧ closing.kind = .rparen := by
  obtain ⟨⟨⟨opening, e'⟩, closing⟩, read, same⟩ := Strict.map_ok h
  cases same
  obtain ⟨l₁, l₂, first, closed, rest₁⟩ := Strict.seq_ok read
  obtain ⟨l₃, l₄, opened, inner, rest₂⟩ := Strict.seq_ok first
  obtain ⟨afterOpening, isOpening⟩ := expect_ok opened
  obtain ⟨afterClosing, isClosing⟩ := expect_ok closed
  obtain ⟨us, parts, derived⟩ := expression_sound inner
  refine ⟨opening, closing, us, ?_, isLParen_iff.1 isOpening, derived, isRParen_iff.1 isClosing⟩
  refine afterOpening.trans ?_
  rw [parts, ← rest₂, afterClosing, ← rest₁]
  simp

theorem Statements.cons {E : List Token → Expr → Prop} {A : List Token → List Expr → Prop}
    {us ts : List Token} {s : Stmt} {ss : List Stmt} (first : Statement E A us s) :
    Statements E A ts ss → Statements E A (us ++ ts) (s :: ss)
  | .nil => by simpa using Statements.snoc .nil first
  | .snoc rest last => by simpa using (Statements.cons first rest).snoc last

mutual

theorem statement_sound {ts : List Token} {s : Stmt} {l : Leftover ts}
    (h : statement ts = .ok (s, l)) :
    ∃ pre, ts = pre ++ l.tokens ∧ Statement (Expression 0) Arguments pre s := by
  cases ts with
  | nil => unfold statement at h; cases h
  | cons t r =>
    unfold statement at h
    dsimp only at h
    split at h
    · next c kind =>
      split at h
      · next args l' tail =>
        cases h
        obtain ⟨opening, closing, semicolon, us, parts, isOpening, derived, isClosing, isSemicolon⟩ :=
          callTail_sound tail
        exact ⟨t :: opening :: us ++ [closing, semicolon], by simp [parts, Leftover.trans],
          .command kind isOpening derived isClosing isSemicolon⟩
      · cases h
    · next kind =>
      split at h
      · next args l' tail =>
        cases h
        obtain ⟨opening, closing, semicolon, us, parts, isOpening, derived, isClosing, isSemicolon⟩ :=
          callTail_sound tail
        exact ⟨t :: opening :: us ++ [closing, semicolon], by simp [parts, Leftover.trans],
          .call kind isOpening derived isClosing isSemicolon⟩
      · cases h
    · next kind =>
      split at h
      · next e l' read =>
        cases h
        obtain ⟨⟨e', semicolon⟩, pair, same⟩ := Strict.map_ok read
        cases same
        obtain ⟨l₁, l₂, inner, shut, rest⟩ := Strict.seq_ok pair
        obtain ⟨us, parts, derived⟩ := expression_sound inner
        obtain ⟨afterSemicolon, isSemicolon⟩ := expect_ok shut
        refine ⟨t :: us ++ [semicolon], ?_, .returnWith kind derived (isSemicolon_iff.1 isSemicolon)⟩
        simp [parts, afterSemicolon, rest, Leftover.trans]
      · cases h
    · next kind =>
      split at h
      · cases h
      · next count l' head =>
        have := l'.shorter
        split at h
        · next body l₂ inner =>
          cases h
          obtain ⟨opening, closing, cs, parts, isOpening, counted, isClosing⟩ := parenthesized_sound head
          obtain ⟨lbrace, rbrace, bs, parts', isLBrace, derived, isRBrace⟩ := braced_sound inner
          exact ⟨t :: opening :: cs ++ closing :: lbrace :: bs ++ [rbrace],
            by simp [parts, parts', Leftover.trans],
            .repeatTimes kind isOpening counted isClosing isLBrace derived isRBrace⟩
        · cases h
    · next kind =>
      split at h
      · cases h
      · next test l' head =>
        have := l'.shorter
        split at h
        · cases h
        · next body l₂ inner =>
          have := l₂.shorter
          obtain ⟨opening, closing, cs, parts, isOpening, tested, isClosing⟩ := parenthesized_sound head
          obtain ⟨lbrace, rbrace, bs, parts', isLBrace, derived, isRBrace⟩ := braced_sound inner
          split at h
          · next u r3 after =>
            have : r3.length < l₂.tokens.length := by simp [after]
            split at h
            · next other =>
              split at h
              · next elseBody l₃ otherwise =>
                cases h
                obtain ⟨lbrace', rbrace', es, parts'', isLBrace', derived', isRBrace'⟩ :=
                  braced_sound otherwise
                refine ⟨t :: opening :: cs ++ closing :: lbrace :: bs ++
                    rbrace :: u :: lbrace' :: es ++ [rbrace'], ?_,
                  .ifElse kind isOpening tested isClosing isLBrace derived isRBrace
                    (isElse_iff.1 other) isLBrace' derived' isRBrace'⟩
                simp [parts, parts', after, parts'', Leftover.trans]
              · cases h
            · cases h
              exact ⟨t :: opening :: cs ++ closing :: lbrace :: bs ++ [rbrace],
                by simp [parts, parts', after, Leftover.trans],
                .ifThen kind isOpening tested isClosing isLBrace derived isRBrace⟩
          · next after =>
            cases h
            exact ⟨t :: opening :: cs ++ closing :: lbrace :: bs ++ [rbrace],
              by simp [parts, parts', after, Leftover.trans],
              .ifThen kind isOpening tested isClosing isLBrace derived isRBrace⟩
    · cases h
termination_by 3 * ts.length + 1
decreasing_by all_goals (subst_vars; simp only [List.length_cons] at *; omega)

theorem block_sound {ts : List Token} {ss : List Stmt} {r : Rest ts}
    (h : block ts = .ok (ss, r)) :
    ∃ pre, ts = pre ++ r.tokens ∧ Statements (Expression 0) Arguments pre ss := by
  cases ts with
  | nil =>
    unfold block at h
    cases h
    exact ⟨[], by simp, .nil⟩
  | cons t rest =>
    unfold block at h
    split at h
    · cases h
      exact ⟨[], by simp, .nil⟩
    · split at h
      · cases h
      · next s l first =>
        have := l.shorter
        split at h
        · next more rr tail =>
          cases h
          obtain ⟨pre, parts, derived⟩ := statement_sound first
          obtain ⟨pre', parts', derived'⟩ := block_sound tail
          exact ⟨pre ++ pre', by simp [parts, parts', Leftover.transRest, Leftover.toRest], Statements.cons derived derived'⟩
        · cases h
termination_by 3 * ts.length + 2
decreasing_by all_goals (subst_vars; simp only [List.length_cons] at *; omega)

theorem braced_sound {ts : List Token} {ss : List Stmt} {l : Leftover ts}
    (h : braced ts = .ok (ss, l)) :
    ∃ lbrace rbrace : Token, ∃ bs : List Token,
      ts = lbrace :: bs ++ rbrace :: l.tokens ∧ lbrace.kind = .lbrace ∧
      Statements (Expression 0) Arguments bs ss ∧ rbrace.kind = .rbrace := by
  cases ts with
  | nil => unfold braced at h; cases h
  | cons t rest =>
    unfold braced at h
    split at h
    · next opening =>
      split at h
      · cases h
      · next body rr inner =>
        dsimp only at h
        split at h
        · next closing l₂ shut =>
          cases h
          obtain ⟨bs, parts, derived⟩ := block_sound inner
          obtain ⟨afterClosing, isClosing⟩ := expect_ok shut
          exact ⟨t, closing, bs, by simp [parts, afterClosing, Leftover.trans],
            isLBrace_iff.1 opening, derived, isRBrace_iff.1 isClosing⟩
        · cases h
    · cases h
termination_by 3 * ts.length
decreasing_by all_goals (subst_vars; simp only [List.length_cons] at *; omega)

end

theorem funDef_sound {ts : List Token} {f : FunDef} {l : Leftover ts}
    (h : funDef ts = .ok (f, l)) :
    ∃ pre, ts = pre ++ l.tokens ∧ Definition (Expression 0) Arguments pre f := by
  obtain ⟨⟨⟨⟨⟨keyword, name⟩, opening⟩, closing⟩, body⟩, read, same⟩ := Strict.map_ok h
  cases same
  obtain ⟨l₁, l₂, fourth, braces, rest₁⟩ := Strict.seq_ok read
  obtain ⟨l₃, l₄, third, closed, rest₂⟩ := Strict.seq_ok fourth
  obtain ⟨l₅, l₆, second, opened, rest₃⟩ := Strict.seq_ok third
  obtain ⟨l₇, l₈, first, named, rest₄⟩ := Strict.seq_ok second
  obtain ⟨afterKeyword, isKeyword⟩ := expect_ok first
  obtain ⟨afterName, isName⟩ := expect_ok named
  obtain ⟨afterOpening, isOpening⟩ := expect_ok opened
  obtain ⟨afterClosing, isClosing⟩ := expect_ok closed
  obtain ⟨lbrace, rbrace, bs, parts, isLBrace, derived, isRBrace⟩ := braced_sound braces
  refine ⟨keyword :: name :: opening :: closing :: lbrace :: bs ++ [rbrace], ?_,
    .mk (isFunction_iff.1 isKeyword) (isIdent_iff.1 isName) (isLParen_iff.1 isOpening)
      (isRParen_iff.1 isClosing) isLBrace derived isRBrace⟩
  refine afterKeyword.trans ?_
  rw [afterName, ← rest₄, afterOpening, ← rest₃, afterClosing, ← rest₂, parts, ← rest₁]
  simp

theorem Definitions.cons {E : List Token → Expr → Prop} {A : List Token → List Expr → Prop}
    {us ts : List Token} {f : FunDef} {fs : List FunDef} (first : Definition E A us f) :
    Definitions E A ts fs → Definitions E A (us ++ ts) (f :: fs)
  | .single last => by simpa using (Definitions.single first).snoc last
  | .snoc rest last => by simpa using (Definitions.cons first rest).snoc last

theorem definitions_sound {acc fs : List FunDef} {ts : List Token}
    (h : definitions acc ts = .ok fs) :
    ∃ found, fs = acc ++ found ∧ Definitions (Expression 0) Arguments ts found := by
  unfold definitions at h
  split at h
  · cases h
  · next f l first =>
    have := l.shorter
    obtain ⟨pre, parts, derived⟩ := funDef_sound first
    split at h
    · next empty =>
      cases h
      exact ⟨[f], rfl, by simpa [parts, empty] using Definitions.single derived⟩
    · next u r more =>
      split at h
      · next fs' tail =>
        cases h
        obtain ⟨found, rfl, derived'⟩ := definitions_sound tail
        exact ⟨f :: found, by simp, by simpa [parts] using Definitions.cons derived derived'⟩
      · cases h
termination_by ts.length

/-- Whatever the reader accepts is derived by the precedence grammar. -/
theorem parse_sound {ts : List Token} {p : Program} (h : Program.parse? ts = .ok p) :
    Derives ts p := by
  unfold Program.parse? at h
  split at h
  · next fs read =>
    cases h
    obtain ⟨found, same, derived⟩ := definitions_sound read
    simpa [Derives, same] using derived
  · cases h

end RoboScript.Grammar
