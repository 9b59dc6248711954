import RoboScript.Proofs.Lookahead

/-! Where the reader stops, what it read can still be completed: some tokens after them make a
program. Together with the reader's lookahead, this places every failure at the first token that
no program can continue with, the place a parser with the correct-prefix property reports.

Each parse that fails is shown to have read a prefix of its tokens that the rule it reads can
still complete; the completions are built from placeholder tokens, with the smallest
continuation each rule admits. -/

namespace RoboScript.Grammar

/-- A token of kind `k` with no text, standing for any token of that kind. -/
def placeholder (k : TokenKind) : Token := ⟨k, "", 1, 0, 1⟩

@[simp] theorem placeholder_kind (k : TokenKind) : (placeholder k).kind = k := rfl

theorem expect_fails {test : TokenKind → Bool} {ts rest : List Token}
    (h : Fails (expect test ts) rest) : rest = ts := by
  obtain ⟨s, h, rfl⟩ := h
  cases ts with
  | nil => cases h; rfl
  | cons t r =>
    by_cases passes : test t.kind
    · simp [expect, passes] at h
    · simp only [expect, passes] at h
      cases h
      rfl

/-- Of the tokens `ts`, a parse read all before `rest`, and some tokens after what it read make
a derivation of `R`. -/
def Completes {α : Type} (R : List Token → α → Prop) (ts rest : List Token) : Prop :=
  ∃ pre, ts = pre ++ rest ∧ ∃ w a, R (pre ++ w) a

section Completion

variable {α β : Type} {R : List Token → α → Prop} {S : List Token → β → Prop}

theorem Completes.here {ts : List Token} (derivable : ∃ w a, R w a) : Completes R ts ts :=
  ⟨[], rfl, derivable⟩

theorem Completes.extend {ts rest : List Token} (inner : Completes R ts rest)
    (front : List Token) {whole : List Token} (parts : whole = front ++ ts)
    (build : ∀ us a, R us a → ∃ w b, S (front ++ us ++ w) b) : Completes S whole rest := by
  obtain ⟨pre, rfl, w, a, derived⟩ := inner
  obtain ⟨w', b, built⟩ := build _ _ derived
  exact ⟨front ++ pre, by simp [parts], w ++ w', b, by simpa using built⟩

theorem Completes.mono {ts rest : List Token} (inner : Completes R ts rest)
    (build : ∀ us a, R us a → ∃ b, S us b) : Completes S ts rest := by
  obtain ⟨pre, parts, w, a, derived⟩ := inner
  obtain ⟨b, built⟩ := build _ _ derived
  exact ⟨pre, parts, w, b, built⟩

end Completion

theorem Operand.derivable : ∃ ts e, Operand ts e :=
  ⟨[placeholder .ident], _, .var rfl⟩

mutual

theorem unary_completes {ts rest : List Token} :
    Fails (unary ts) rest → Completes Operand ts rest := by
  cases ts with
  | nil =>
    rintro ⟨s, h, rfl⟩
    unfold unary at h
    cases h
    exact .here Operand.derivable
  | cons t r =>
    rintro ⟨s, h, rfl⟩
    unfold unary at h
    split at h
    · next kind =>
      split at h
      · cases h
      · next s₁ inner =>
        cases h
        exact (unary_completes ⟨s₁, inner, rfl⟩).extend [t] rfl fun _ e derived =>
          ⟨[], _, by simpa using Operand.not kind derived⟩
    · cases h
    · next kind =>
      split at h
      · next s₁ inner =>
        cases h
        exact (expression_completes 0 ⟨s₁, inner, rfl⟩).extend [t] rfl fun _ e derived =>
          ⟨[placeholder .rparen], e, by simpa using Operand.group kind derived (placeholder_kind _)⟩
      · next e l inner =>
        split at h
        · cases h
        · next s₂ shut =>
          cases h
          obtain ⟨pre, parts, derived⟩ := expression_sound inner
          refine ⟨t :: pre, by simp [parts, expect_fails ⟨s₂, shut, rfl⟩, Rest.after], [placeholder .rparen],
            e, ?_⟩
          simpa using Operand.group kind derived (placeholder_kind _)
    · next kind =>
      cases r with
      | nil => cases h
      | cons u r₂ =>
        dsimp only at h
        split at h
        · next opens =>
          split at h
          · next s₁ inner =>
            cases h
            exact (arguments_completes ⟨s₁, inner, rfl⟩).extend [t, u] rfl fun _ args derived =>
              ⟨[placeholder .rparen], _, by
                simpa using Operand.call kind (isLParen_iff.1 opens) derived (placeholder_kind _)⟩
          · next args rr inner =>
            split at h
            · cases h
            · next s₂ shut =>
              cases h
              obtain ⟨pre, parts, derived⟩ := arguments_sound inner
              refine ⟨t :: u :: pre, by simp [parts, expect_fails ⟨s₂, shut, rfl⟩, Rest.after],
                [placeholder .rparen], .call t.text args, ?_⟩
              simpa using Operand.call kind (isLParen_iff.1 opens) derived (placeholder_kind _)
        · cases h
    · cases h
      exact .here Operand.derivable
termination_by 4 * ts.length + 1
decreasing_by all_goals (simp only [List.length_cons] at *; omega)

theorem expression_completes (level : Nat) {ts rest : List Token} :
    Fails (expression level ts) rest → Completes (Expression level) ts rest := by
  rintro ⟨s, h, rfl⟩
  unfold expression at h
  split at h
  · next s₁ first =>
    cases h
    exact (unary_completes ⟨_, first, rfl⟩).mono fun _ e derived => ⟨e, .operand derived⟩
  · next lhs l first =>
    have := l.shorter
    split at h
    · cases h
    · next s₁ rest =>
      cases h
      obtain ⟨pre, parts, operand⟩ := unary_sound first
      -- the first operand binds as tightly as any operator, so any operator may extend it
      have bounded : ∀ t ∈ l.tokens.head?, ∀ op, t.kind = .binary op → level ≤ op.precedence →
          op.precedence ≤ level + 6 := fun _ _ op _ _ => by
        have := BinOp.precedence_le_six op
        omega
      exact (operators_completes (Expression.operand operand : Expression (level + 6) _ _)
        ⟨s₁, rest, rfl⟩ bounded).extend pre parts fun _ e derived => ⟨[], e, by simpa using derived⟩
termination_by 4 * ts.length + 2
decreasing_by all_goals omega

theorem operators_completes {min : Nat} {lhs : Expr} {ts rest : List Token} {q : Nat}
    {lpre : List Token} (left : Expression q lpre lhs) :
    Fails (operators min lhs ts) rest →
    (∀ t ∈ ts.head?, ∀ op, t.kind = .binary op → min ≤ op.precedence → op.precedence ≤ q) →
    Completes (fun us e => Expression min (lpre ++ us) e) ts rest := by
  cases ts with
  | nil =>
    rintro ⟨s, h, rfl⟩
    simp [operators] at h
  | cons t r =>
    rintro ⟨s, h, rfl⟩ bounded
    unfold operators at h
    split at h
    · next op kind =>
      split at h
      · next strong =>
        have low : op.precedence ≤ q := bounded t rfl op kind strong
        split at h
        · next s₁ inner =>
          cases h
          exact (expression_completes (op.precedence + 1) ⟨s₁, inner, rfl⟩).extend [t] rfl
            fun _ rhs derived =>
              ⟨[], _, by simpa using Expression.binary strong (left.lower low) kind derived⟩
        · next rhs l inner =>
          have := l.shorter
          dsimp only at h
          split at h
          · cases h
          · next s₁ rest =>
            cases h
            obtain ⟨pre, parts, derived⟩ := expression_sound inner
            have joined : Expression op.precedence (lpre ++ t :: pre) (.binary op lhs rhs) :=
              .binary (Nat.le_refl _) (left.lower low) kind derived
            have stops := expression_stops inner
            exact (operators_completes joined ⟨s₁, rest, rfl⟩
              fun u first op' kind' _ => Nat.le_of_lt_succ (stops u first op' kind')).extend
              (t :: pre) (by simp [parts]) fun _ e derived => ⟨[], e, by simpa using derived⟩
      · cases h
    · cases h
termination_by 4 * ts.length
decreasing_by all_goals (simp only [List.length_cons] at *; omega)

theorem arguments_completes {ts rest : List Token} :
    Fails (arguments ts) rest → Completes Arguments ts rest := by
  cases ts with
  | nil =>
    rintro ⟨s, h, rfl⟩
    simp [arguments] at h
  | cons t r =>
    rintro ⟨s, h, rfl⟩
    unfold arguments at h
    split at h
    · split at h
      · next s₁ first =>
        cases h
        exact (expression_completes 0 ⟨_, first, rfl⟩).mono fun _ e derived =>
          ⟨[e], .first derived⟩
      · next e l first =>
        have := l.shorter
        split at h
        · cases h
        · next s₁ rest =>
          cases h
          obtain ⟨pre, parts, derived⟩ := expression_sound first
          exact (moreArguments_completes (.first derived) ⟨s₁, rest, rfl⟩).extend pre parts
            fun _ args derived => ⟨[], args, by simpa using derived⟩
    · exact (moreArguments_completes .none ⟨s, h, rfl⟩).mono fun _ args derived =>
        ⟨args, by simpa using derived⟩
termination_by 4 * ts.length + 3
decreasing_by all_goals (simp only [List.length_cons] at *; omega)

theorem moreArguments_completes {acc : List Expr} {ts rest apre : List Token}
    (prior : Arguments apre acc) :
    Fails (moreArguments acc ts) rest → Completes (fun us args => Arguments (apre ++ us) args) ts rest := by
  cases ts with
  | nil =>
    rintro ⟨s, h, rfl⟩
    simp [moreArguments] at h
  | cons t r =>
    rintro ⟨s, h, rfl⟩
    unfold moreArguments at h
    split at h
    · next comma =>
      split at h
      · next s₁ inner =>
        cases h
        exact (expression_completes 0 ⟨s₁, inner, rfl⟩).extend [t] rfl fun _ e derived =>
          ⟨[], _, by simpa using Arguments.more prior (isComma_iff.1 comma) derived⟩
      · next e l inner =>
        have := l.shorter
        dsimp only at h
        split at h
        · cases h
        · next s₁ rest =>
          cases h
          obtain ⟨pre, parts, derived⟩ := expression_sound inner
          exact (moreArguments_completes
            (Arguments.more prior (isComma_iff.1 comma) derived) ⟨s₁, rest, rfl⟩).extend (t :: pre)
            (by simp [parts]) fun _ args derived => ⟨[], args, by simpa using derived⟩
    · cases h
termination_by 4 * ts.length
decreasing_by all_goals (simp only [List.length_cons] at *; omega)

end


/-! ### Statements and definitions -/

/-- `( arguments ) ;`, what follows a command's word or a called function's name. -/
inductive CallTail : List Token → List Expr → Prop
  | mk {opening closing semicolon : Token} {ts : List Token} {args : List Expr} :
      opening.kind = .lparen → Arguments ts args → closing.kind = .rparen →
      semicolon.kind = .semicolon → CallTail (opening :: ts ++ [closing, semicolon]) args

/-- `( expression )`, what follows `if` or `repeat`. -/
inductive Parenthesized : List Token → Expr → Prop
  | mk {opening closing : Token} {ts : List Token} {e : Expr} :
      opening.kind = .lparen → Expression 0 ts e → closing.kind = .rparen →
      Parenthesized (opening :: ts ++ [closing]) e

/-- `{ statements }`. -/
inductive Braced : List Token → List Stmt → Prop
  | mk {lbrace rbrace : Token} {ts : List Token} {body : List Stmt} :
      lbrace.kind = .lbrace → Statements (Expression 0) Arguments ts body →
      rbrace.kind = .rbrace → Braced (lbrace :: ts ++ [rbrace]) body

section Pieces

variable {us cs bs es : List Token} {args : List Expr} {test : Expr} {body elseBody : List Stmt}

theorem CallTail.command {word : Token} {c : Command} (kind : word.kind = .command c) :
    CallTail us args → Statement (Expression 0) Arguments (word :: us) (.command c args)
  | .mk opening inner closing semicolon => .command kind opening inner closing semicolon

theorem CallTail.call {name : Token} (kind : name.kind = .ident) :
    CallTail us args → Statement (Expression 0) Arguments (name :: us) (.call name.text args)
  | .mk opening inner closing semicolon => .call kind opening inner closing semicolon

theorem Parenthesized.repeatTimes {keyword : Token} (kind : keyword.kind = .repeatKw) :
    Parenthesized cs test → Braced bs body →
    Statement (Expression 0) Arguments (keyword :: cs ++ bs) (.repeatTimes test body)
  | .mk opening inner closing, .mk lbrace stmts rbrace => by
    simpa using Statement.repeatTimes kind opening inner closing lbrace stmts rbrace

theorem Parenthesized.ifThen {keyword : Token} (kind : keyword.kind = .ifKw) :
    Parenthesized cs test → Braced bs body →
    Statement (Expression 0) Arguments (keyword :: cs ++ bs) (.ifThen test body none)
  | .mk opening inner closing, .mk lbrace stmts rbrace => by
    simpa using Statement.ifThen kind opening inner closing lbrace stmts rbrace

theorem Parenthesized.ifElse {keyword other : Token} (kind : keyword.kind = .ifKw)
    (otherKind : other.kind = .elseKw) :
    Parenthesized cs test → Braced bs body → Braced es elseBody →
    Statement (Expression 0) Arguments (keyword :: cs ++ bs ++ other :: es)
      (.ifThen test body (some elseBody))
  | .mk opening inner closing, .mk lbrace stmts rbrace, .mk lbrace' stmts' rbrace' => by
    simpa using Statement.ifElse kind opening inner closing lbrace stmts rbrace otherKind lbrace'
      stmts' rbrace'

theorem Braced.definition {keyword name opening closing : Token}
    (kind : keyword.kind = .functionKw) (named : name.kind = .ident)
    (opens : opening.kind = .lparen) (closes : closing.kind = .rparen) :
    Braced bs body →
    Definition (Expression 0) Arguments (keyword :: name :: opening :: closing :: bs)
      ⟨name.text, body⟩
  | .mk lbrace stmts rbrace => .mk kind named opens closes lbrace stmts rbrace

theorem Parenthesized.of_parse {ts : List Token} {e : Expr} {l : Leftover ts}
    (h : parenthesized ts = .ok (e, l)) : ∃ pre, ts = pre ++ l.tokens ∧ Parenthesized pre e := by
  obtain ⟨opening, closing, us, parts, opens, inner, closes⟩ := parenthesized_sound h
  exact ⟨opening :: us ++ [closing], by simp [parts], .mk opens inner closes⟩

theorem Braced.of_parse {ts : List Token} {ss : List Stmt} {l : Leftover ts}
    (h : braced ts = .ok (ss, l)) : ∃ pre, ts = pre ++ l.tokens ∧ Braced pre ss := by
  obtain ⟨lbrace, rbrace, bs, parts, opens, inner, closes⟩ := braced_sound h
  exact ⟨lbrace :: bs ++ [rbrace], by simp [parts], .mk opens inner closes⟩

end Pieces

theorem Braced.empty : Braced [placeholder .lbrace, placeholder .rbrace] [] :=
  .mk rfl .nil rfl

theorem CallTail.derivable : ∃ us args, CallTail us args :=
  ⟨_, [], .mk (placeholder_kind .lparen) .none (placeholder_kind .rparen)
    (placeholder_kind .semicolon)⟩

theorem Parenthesized.derivable : ∃ us e, Parenthesized us e :=
  ⟨_, _, .mk (placeholder_kind .lparen) (.operand (.var (placeholder_kind .ident)))
    (placeholder_kind .rparen)⟩

theorem Braced.derivable : ∃ us body, Braced us body := ⟨_, _, Braced.empty⟩

theorem Statement.derivable : ∃ us s, Statement (Expression 0) Arguments us s := by
  obtain ⟨us, args, tail⟩ := CallTail.derivable
  exact ⟨_, _, tail.call (placeholder_kind .ident)⟩

theorem Definition.derivable : ∃ us f, Definition (Expression 0) Arguments us f := by
  obtain ⟨us, body, braced⟩ := Braced.derivable
  exact ⟨_, _, braced.definition (placeholder_kind .functionKw) (placeholder_kind .ident)
    (placeholder_kind .lparen) (placeholder_kind .rparen)⟩

theorem callTail_completes {ts rest : List Token} (h : Fails (callTail ts) rest) :
    Completes CallTail ts rest := by
  obtain ⟨s, h, rfl⟩ := h
  unfold callTail at h
  rcases Strict.seq_error (Strict.map_error h) with
    ⟨s₁, closed, same⟩ | ⟨⟨⟨opening, args⟩, closing⟩, l₁, closed, s₁, ends, same⟩
  · rw [← same]
    rcases Strict.seq_error closed with
      ⟨s₂, listed, same'⟩ | ⟨⟨opening, args⟩, l₂, listed, s₂, shut, same'⟩
    · rw [← same']
      rcases Strict.seqLax_error listed with
        ⟨s₃, opened, same''⟩ | ⟨opening, l₃, opened, s₃, inner, same''⟩
      · rw [← same'', expect_fails ⟨s₃, opened, rfl⟩]
        exact .here CallTail.derivable
      · -- inside the argument list
        obtain ⟨after, opens⟩ := expect_ok opened
        rw [← same'']
        exact (arguments_completes ⟨s₃, inner, rfl⟩).extend [opening] after fun _ args derived =>
          ⟨[placeholder .rparen, placeholder .semicolon], args, by
            simpa using CallTail.mk (isLParen_iff.1 opens) derived (placeholder_kind _)
              (placeholder_kind _)⟩
    · -- after the argument list, before its closing parenthesis
      obtain ⟨l₃, r, opened, listed, left⟩ := Strict.seqLax_ok listed
      obtain ⟨after, opens⟩ := expect_ok opened
      obtain ⟨pre, parts, derived⟩ := arguments_sound listed
      rw [← same', expect_fails ⟨s₂, shut, rfl⟩]
      refine ⟨opening :: pre, after.trans (by rw [parts, left]; rfl),
        [placeholder .rparen, placeholder .semicolon], args, ?_⟩
      simpa using CallTail.mk (isLParen_iff.1 opens) derived (placeholder_kind _)
        (placeholder_kind _)
  · -- after the closing parenthesis, before the semicolon
    obtain ⟨l₂, l₃, listed, shut, left⟩ := Strict.seq_ok closed
    obtain ⟨l₄, r, opened, listed, left'⟩ := Strict.seqLax_ok listed
    obtain ⟨after, opens⟩ := expect_ok opened
    obtain ⟨afterClosing, closes⟩ := expect_ok shut
    obtain ⟨pre, parts, derived⟩ := arguments_sound listed
    rw [← same, expect_fails ⟨s₁, ends, rfl⟩]
    refine ⟨opening :: pre ++ [closing],
      after.trans (by rw [parts, ← left', afterClosing, left]; simp), [placeholder .semicolon],
      args, ?_⟩
    simpa using CallTail.mk (isLParen_iff.1 opens) derived (isRParen_iff.1 closes)
      (placeholder_kind _)

theorem parenthesized_completes {ts rest : List Token} (h : Fails (parenthesized ts) rest) :
    Completes Parenthesized ts rest := by
  obtain ⟨s, h, rfl⟩ := h
  unfold parenthesized at h
  rcases Strict.seq_error (Strict.map_error h) with
    ⟨s₁, inside, same⟩ | ⟨⟨opening, e⟩, l₁, inside, s₁, shut, same⟩
  · rw [← same]
    rcases Strict.seq_error inside with
      ⟨s₂, opened, same'⟩ | ⟨opening, l₂, opened, s₂, inner, same'⟩
    · rw [← same', expect_fails ⟨s₂, opened, rfl⟩]
      exact .here Parenthesized.derivable
    · -- inside the parentheses
      obtain ⟨after, opens⟩ := expect_ok opened
      rw [← same']
      exact (expression_completes 0 ⟨s₂, inner, rfl⟩).extend [opening] after fun _ e derived =>
        ⟨[placeholder .rparen], e, by
          simpa using Parenthesized.mk (isLParen_iff.1 opens) derived (placeholder_kind _)⟩
  · -- after the expression, before the closing parenthesis
    obtain ⟨l₂, l₃, opened, inner, left⟩ := Strict.seq_ok inside
    obtain ⟨after, opens⟩ := expect_ok opened
    obtain ⟨pre, parts, derived⟩ := expression_sound inner
    rw [← same, expect_fails ⟨s₁, shut, rfl⟩]
    refine ⟨opening :: pre, after.trans (by rw [parts, left]; rfl), [placeholder .rparen], e, ?_⟩
    simpa using Parenthesized.mk (isLParen_iff.1 opens) derived (placeholder_kind _)

theorem repeat_completes {t : Token} {r rest : List Token} (kind : t.kind = .repeatKw)
    (braces : ∀ us : List Token, us.length < r.length →
      ∀ {rest}, Fails (braced us) rest → Completes Braced us rest)
    (h : Fails (statement (t :: r)) rest) :
    Completes (Statement (Expression 0) Arguments) (t :: r) rest := by
  obtain ⟨s, h, rfl⟩ := h
  unfold statement at h
  simp only [kind] at h
  split at h
  · next s₁ head =>
    cases h
    exact (parenthesized_completes ⟨s₁, head, rfl⟩).extend [t] rfl fun _ count paren =>
      ⟨[placeholder .lbrace, placeholder .rbrace], _, by
        simpa using paren.repeatTimes kind Braced.empty⟩
  · next count l head =>
    split at h
    · cases h
    · next s₂ inner =>
      cases h
      obtain ⟨pre, parts, paren⟩ := Parenthesized.of_parse head
      exact (braces l.tokens l.shorter ⟨s₂, inner, rfl⟩).extend (t :: pre) (by simp [parts])
        fun _ body braced => ⟨[], _, by simpa using paren.repeatTimes kind braced⟩

theorem ifThen_completes {t : Token} {r rest : List Token} (kind : t.kind = .ifKw)
    (braces : ∀ us : List Token, us.length < r.length →
      ∀ {rest}, Fails (braced us) rest → Completes Braced us rest)
    (h : Fails (statement (t :: r)) rest) :
    Completes (Statement (Expression 0) Arguments) (t :: r) rest := by
  obtain ⟨s, h, rfl⟩ := h
  unfold statement at h
  simp only [kind] at h
  split at h
  · next s₁ head =>
    cases h
    exact (parenthesized_completes ⟨s₁, head, rfl⟩).extend [t] rfl fun _ test paren =>
      ⟨[placeholder .lbrace, placeholder .rbrace], _, by
        simpa using paren.ifThen kind Braced.empty⟩
  · next test l head =>
    obtain ⟨pre, parts, paren⟩ := Parenthesized.of_parse head
    split at h
    · next s₂ inner =>
      cases h
      exact (braces l.tokens l.shorter ⟨s₂, inner, rfl⟩).extend (t :: pre) (by simp [parts])
        fun _ body braced => ⟨[], _, by simpa using paren.ifThen kind braced⟩
    · next body l₂ inner =>
      obtain ⟨pre', parts', braced⟩ := Braced.of_parse inner
      split at h
      · next u r₃ after =>
        split at h
        · next other =>
          split at h
          · cases h
          · next s₃ inner' =>
            cases h
            have shorter : r₃.length < r.length := by
              have := l₂.shorter
              have := l.shorter
              simp only [after, List.length_cons] at *
              omega
            exact (braces r₃ shorter ⟨s₃, inner', rfl⟩).extend (t :: (pre ++ (pre' ++ [u])))
              (by simp [parts, parts', after]) fun _ elseBody braced' =>
                ⟨[], _, by simpa using paren.ifElse kind (isElse_iff.1 other) braced braced'⟩
        · cases h
      · cases h

mutual

theorem statement_completes {ts rest : List Token} :
    Fails (statement ts) rest → Completes (Statement (Expression 0) Arguments) ts rest := by
  cases ts with
  | nil =>
    rintro ⟨s, h, rfl⟩
    unfold statement at h
    cases h
    exact .here Statement.derivable
  | cons t r =>
    intro h
    cases kind : t.kind
    case repeatKw => exact repeat_completes kind (fun us _ _ inner => braced_completes inner) h
    case ifKw => exact ifThen_completes kind (fun us _ _ inner => braced_completes inner) h
    case command c =>
      obtain ⟨s, h, rfl⟩ := h
      unfold statement at h
      simp only [kind] at h
      split at h
      · cases h
      · next s₁ inner =>
        cases h
        exact (callTail_completes ⟨s₁, inner, rfl⟩).extend [t] rfl fun _ args tail =>
          ⟨[], _, by simpa using tail.command kind⟩
    case ident =>
      obtain ⟨s, h, rfl⟩ := h
      unfold statement at h
      simp only [kind] at h
      split at h
      · cases h
      · next s₁ inner =>
        cases h
        exact (callTail_completes ⟨s₁, inner, rfl⟩).extend [t] rfl fun _ args tail =>
          ⟨[], _, by simpa using tail.call kind⟩
    case returnKw =>
      obtain ⟨s, h, rfl⟩ := h
      unfold statement at h
      simp only [kind] at h
      split at h
      · cases h
      · next s₁ inner =>
        cases h
        show Completes _ (t :: r) s₁.tokens
        rcases Strict.seq_error (Strict.map_error inner) with
          ⟨s₂, value, same⟩ | ⟨e, l, value, s₂, ends, same⟩
        · rw [← same]
          exact (expression_completes 0 ⟨s₂, value, rfl⟩).extend [t] rfl fun _ e derived =>
            ⟨[placeholder .semicolon], _, by
              simpa using Statement.returnWith kind derived (placeholder_kind _)⟩
        · obtain ⟨pre, parts, derived⟩ := expression_sound value
          rw [← same, expect_fails ⟨s₂, ends, rfl⟩]
          refine ⟨t :: pre, by simp [parts], [placeholder .semicolon], .returnWith e, ?_⟩
          simpa using Statement.returnWith kind derived (placeholder_kind _)
    all_goals
      obtain ⟨s, h, rfl⟩ := h
      unfold statement at h
      simp only [kind] at h
      cases h
      exact .here Statement.derivable
termination_by 3 * ts.length + 1
decreasing_by all_goals (simp only [List.length_cons] at *; omega)

theorem block_completes {ts rest : List Token} :
    Fails (block ts) rest → Completes (Statements (Expression 0) Arguments) ts rest := by
  cases ts with
  | nil =>
    rintro ⟨s, h, rfl⟩
    simp [block] at h
  | cons t r =>
    rintro ⟨s, h, rfl⟩
    unfold block at h
    split at h
    · cases h
    · split at h
      · next s₁ first =>
        cases h
        exact (statement_completes ⟨_, first, rfl⟩).mono fun _ st derived =>
          ⟨[st], by simpa using Statements.cons derived .nil⟩
      · next st l first =>
        have := l.shorter
        split at h
        · cases h
        · next s₁ rest =>
          cases h
          obtain ⟨pre, parts, derived⟩ := statement_sound first
          exact (block_completes ⟨s₁, rest, rfl⟩).extend pre parts fun _ ss rest =>
            ⟨[], _, by simpa using Statements.cons derived rest⟩
termination_by 3 * ts.length + 2
decreasing_by all_goals (simp only [List.length_cons] at *; omega)

theorem braced_completes {ts rest : List Token} :
    Fails (braced ts) rest → Completes Braced ts rest := by
  cases ts with
  | nil =>
    rintro ⟨s, h, rfl⟩
    unfold braced at h
    cases h
    exact .here Braced.derivable
  | cons t r =>
    rintro ⟨s, h, rfl⟩
    by_cases opens : isLBrace t.kind
    · unfold braced at h
      simp only [opens, if_true] at h
      split at h
      · next s₁ inner =>
        cases h
        exact (block_completes ⟨s₁, inner, rfl⟩).extend [t] rfl fun _ body derived =>
          ⟨[placeholder .rbrace], body, by
            simpa using Braced.mk (isLBrace_iff.1 opens) derived (placeholder_kind _)⟩
      · next body rr inner =>
        split at h
        · cases h
        · next s₂ shut =>
          cases h
          obtain ⟨pre, parts, derived⟩ := block_sound inner
          refine ⟨t :: pre, by simp [parts, expect_fails ⟨s₂, shut, rfl⟩, Rest.after],
            [placeholder .rbrace], body, ?_⟩
          simpa using Braced.mk (isLBrace_iff.1 opens) derived (placeholder_kind _)
    · rw [show braced (t :: r) = .error (Rest.here (t :: r)) by unfold braced; simp [opens]] at h
      cases h
      exact .here Braced.derivable
termination_by 3 * ts.length
decreasing_by all_goals (simp only [List.length_cons] at *; omega)

end

theorem funDef_completes {ts rest : List Token} (h : Fails (funDef ts) rest) :
    Completes (Definition (Expression 0) Arguments) ts rest := by
  obtain ⟨s, h, rfl⟩ := h
  unfold funDef at h
  rcases Strict.seq_error (Strict.map_error h) with
    ⟨s₁, header, same₁⟩ | ⟨⟨⟨⟨keyword, name⟩, opening⟩, closing⟩, l, header, s₁, body, same₁⟩
  · rw [← same₁]
    rcases Strict.seq_error header with
      ⟨s₂, third, same₂⟩ | ⟨⟨⟨keyword, name⟩, opening⟩, l₁, third, s₂, closed, same₂⟩
    · rw [← same₂]
      rcases Strict.seq_error third with
        ⟨s₃, second, same₃⟩ | ⟨⟨keyword, name⟩, l₂, second, s₃, opened, same₃⟩
      · rw [← same₃]
        rcases Strict.seq_error second with
          ⟨s₄, first, same₄⟩ | ⟨keyword, l₃, first, s₄, named, same₄⟩
        · rw [← same₄, expect_fails ⟨s₄, first, rfl⟩]
          exact .here Definition.derivable
        · -- after the keyword, before the name
          obtain ⟨after, isKeyword⟩ := expect_ok first
          rw [← same₄, expect_fails ⟨s₄, named, rfl⟩]
          refine ⟨[keyword], after, [placeholder .ident, placeholder .lparen,
            placeholder .rparen, placeholder .lbrace, placeholder .rbrace],
            ⟨(placeholder .ident).text, []⟩, ?_⟩
          exact Braced.empty.definition (isFunction_iff.1 isKeyword) (placeholder_kind _)
            (placeholder_kind _) (placeholder_kind _)
      · -- after the name, before the opening parenthesis
        obtain ⟨l₃, l₄, first, named, left⟩ := Strict.seq_ok second
        obtain ⟨after, isKeyword⟩ := expect_ok first
        obtain ⟨afterName, isName⟩ := expect_ok named
        rw [← same₃, expect_fails ⟨s₃, opened, rfl⟩]
        refine ⟨[keyword, name], after.trans (by rw [afterName, left]; rfl), [placeholder .lparen,
          placeholder .rparen, placeholder .lbrace, placeholder .rbrace], ⟨name.text, []⟩, ?_⟩
        exact Braced.empty.definition (isFunction_iff.1 isKeyword) (isIdent_iff.1 isName)
          (placeholder_kind _) (placeholder_kind _)
    · -- after the opening parenthesis, before the closing one
      obtain ⟨l₂, l₃, second, opened, left⟩ := Strict.seq_ok third
      obtain ⟨l₄, l₅, first, named, left'⟩ := Strict.seq_ok second
      obtain ⟨after, isKeyword⟩ := expect_ok first
      obtain ⟨afterName, isName⟩ := expect_ok named
      obtain ⟨afterOpening, opens⟩ := expect_ok opened
      rw [← same₂, expect_fails ⟨s₂, closed, rfl⟩]
      refine ⟨[keyword, name, opening],
        after.trans (by rw [afterName, ← left', afterOpening, left]; rfl),
        [placeholder .rparen, placeholder .lbrace, placeholder .rbrace], ⟨name.text, []⟩, ?_⟩
      exact Braced.empty.definition (isFunction_iff.1 isKeyword) (isIdent_iff.1 isName)
        (isLParen_iff.1 opens) (placeholder_kind _)
  · -- inside the body
    obtain ⟨l₁, l₂, third, closed, left⟩ := Strict.seq_ok header
    obtain ⟨l₃, l₄, second, opened, left'⟩ := Strict.seq_ok third
    obtain ⟨l₅, l₆, first, named, left''⟩ := Strict.seq_ok second
    obtain ⟨after, isKeyword⟩ := expect_ok first
    obtain ⟨afterName, isName⟩ := expect_ok named
    obtain ⟨afterOpening, opens⟩ := expect_ok opened
    obtain ⟨afterClosing, closes⟩ := expect_ok closed
    rw [← same₁]
    exact (braced_completes ⟨s₁, body, rfl⟩).extend [keyword, name, opening, closing]
      (after.trans (by rw [afterName, ← left'', afterOpening, ← left', afterClosing, left]; rfl))
      fun _ body braced => ⟨[], _, by
        simpa using braced.definition (isFunction_iff.1 isKeyword) (isIdent_iff.1 isName)
          (isLParen_iff.1 opens) (isRParen_iff.1 closes)⟩

theorem definitions_completes {acc : List FunDef} {ts rest : List Token} :
    Fails (definitions acc ts) rest →
    Completes (Definitions (Expression 0) Arguments) ts rest := by
  rintro ⟨s, h, rfl⟩
  unfold definitions at h
  split at h
  · next s₁ first =>
    cases h
    exact (funDef_completes ⟨_, first, rfl⟩).mono fun _ f derived => ⟨[f], .single derived⟩
  · next f l first =>
    have := l.shorter
    split at h
    · cases h
    · split at h
      · cases h
      · next s₁ rest =>
        cases h
        obtain ⟨pre, parts, derived⟩ := funDef_sound first
        exact (definitions_completes ⟨s₁, rest, rfl⟩).extend pre parts fun _ fs rest =>
          ⟨[], _, by simpa using Definitions.cons derived rest⟩
termination_by ts.length
decreasing_by all_goals omega

/-- Some tokens after `pre` make a program: `pre` begins the tokens of some program. -/
def Viable (pre : List Token) : Prop := ∃ w p, Derives (pre ++ w) p

/-- Where reading a program stops, what it read can still be completed to a program. -/
theorem parse_stops_viable {ts rest : List Token} (h : Fails (Program.parse? ts) rest) :
    ∃ pre, ts = pre ++ rest ∧ Viable pre := by
  obtain ⟨s, h, rfl⟩ := h
  unfold Program.parse? at h
  split at h
  · cases h
  · next s₁ found =>
    cases h
    obtain ⟨pre, parts, w, fs, derived⟩ := definitions_completes ⟨_, found, rfl⟩
    exact ⟨pre, parts, w, ⟨fs⟩, derived⟩

/-- Where reading a program stops at a token, no program continues what was read with that
token. -/
theorem parse_stops_unviable {ts pre rest : List Token} {t : Token}
    (h : Fails (Program.parse? ts) (t :: rest)) (parts : ts = pre ++ t :: rest) :
    ¬Viable (pre ++ [t]) := by
  rintro ⟨w, p, derived⟩
  obtain ⟨s, h, same⟩ := h
  obtain ⟨pre', parts', ahead⟩ := parse_fails_ahead h
  have prefixes : pre' = pre := by
    rw [same] at parts'
    exact List.append_inj_left' (parts'.symm.trans parts) rfl
  subst prefixes
  have failed := ahead (t :: w) (by simp [same])
  rw [show pre' ++ t :: w = pre' ++ [t] ++ w by simp] at failed
  obtain ⟨s', failed, -⟩ := failed
  rw [parse_complete derived] at failed
  cases failed

end RoboScript.Grammar
