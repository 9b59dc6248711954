import RoboScript.Proofs.ParseComplete

/-! The language the reader accepts. The precedence rules choose one tree among those the
grammar as written gives a token list: each derivation by the precedence rules is one of the
grammar as written with the same tree, and each token list the grammar as written derives is
derived by the precedence rules too, perhaps grouped otherwise. So the reader, which accepts
exactly the precedence derivations, accepts exactly the language of the grammar as written. -/

namespace RoboScript.Grammar

mutual

theorem Operand.loose {ts : List Token} {e : Expr} : Operand ts e → Loose.Expression ts e
  | .not kind inner => .not kind inner.loose
  | .number kind => .number kind
  | .var kind => .var kind
  | .call kind opening args closing => .call kind opening args.loose closing
  | .group opening inner closing => .group opening inner.loose closing

theorem Expression.loose {level : Nat} {ts : List Token} {e : Expr} :
    Expression level ts e → Loose.Expression ts e
  | .operand first => first.loose
  | .binary _ left kind right => .binary left.loose kind right.loose

theorem Arguments.loose {ts : List Token} {args : List Expr} :
    Arguments ts args → Loose.Arguments ts args
  | .none => .none
  | .first derived => .first derived.loose
  | .more rest kind last => .more rest.loose kind last.loose

end

theorem Expression.prefixNot {t : Token} (kind : t.kind = .not) :
    ∀ {level : Nat} {ts : List Token} {e : Expr}, Expression level ts e →
      ∃ e', Expression level (t :: ts) e'
  | _, _, _, .operand first => ⟨_, .operand (.not kind first)⟩
  | _, _, _, .binary low left kind' right => by
    obtain ⟨_, left'⟩ := Expression.prefixNot kind left
    exact ⟨_, .binary low left' kind' right⟩

theorem Expression.extend {op : BinOp} {t : Token} {o : List Token} {x : Expr}
    (kind : t.kind = .binary op) (last : Operand o x) :
    ∀ {level : Nat} {ts : List Token} {e : Expr}, Expression level ts e →
      ∃ e', Expression (min level op.precedence) (ts ++ t :: o) e'
  | _, _, _, .operand first =>
    ⟨_, .binary (Nat.min_le_right _ _) (.operand first) kind (.operand last)⟩
  | level, _, _, @Expression.binary _ op' _ _ _ _ _ low left kind' right => by
    by_cases tighter : op'.precedence < op.precedence
    · -- the new operator binds more tightly: it goes into the right operand
      obtain ⟨_, right'⟩ := Expression.extend kind last right
      rw [show min (op'.precedence + 1) op.precedence = op'.precedence + 1 by omega] at right'
      exact ⟨_, by
        simpa using (Expression.binary (by omega) left kind' right' :
          Expression (min level op.precedence) _ _)⟩
    · exact ⟨_, .binary (Nat.min_le_right _ _) (.binary (by omega) left kind' right) kind
        (.operand last)⟩

theorem Expression.combine {level : Nat} {rs : List Token} {b : Expr} :
    Expression level rs b → ∀ {op : BinOp} {t : Token} {ls : List Token} {a : Expr},
      t.kind = .binary op → Expression 0 ls a → ∃ e, Expression 0 (ls ++ t :: rs) e
  | .operand first => fun kind left => by simpa using left.extend kind first
  | .binary _ left' kind' right' => fun kind left => by
    -- the right expression is absorbed one operator at a time, from its left
    obtain ⟨_, joined⟩ := Expression.combine left' kind left
    obtain ⟨e, joined'⟩ := Expression.combine right' kind' joined
    exact ⟨e, by simpa using joined'⟩

mutual

theorem Loose.Expression.regroup {ts : List Token} {e : Expr} :
    Loose.Expression ts e → ∃ e', Grammar.Expression 0 ts e'
  | .binary left kind right => by
    obtain ⟨_, left'⟩ := left.regroup
    obtain ⟨_, right'⟩ := right.regroup
    exact right'.combine kind left'
  | .not kind inner => by
    obtain ⟨_, inner'⟩ := inner.regroup
    exact inner'.prefixNot kind
  | .group opening inner closing => by
    obtain ⟨_, inner'⟩ := inner.regroup
    exact ⟨_, .operand (.group opening inner' closing)⟩
  | .number kind => ⟨_, .operand (.number kind)⟩
  | .var kind => ⟨_, .operand (.var kind)⟩
  | .call kind opening args closing => by
    obtain ⟨_, args'⟩ := args.regroup
    exact ⟨_, .operand (.call kind opening args' closing)⟩

theorem Loose.Arguments.regroup {ts : List Token} {args : List Expr} :
    Loose.Arguments ts args → ∃ args', Grammar.Arguments ts args'
  | .none => ⟨_, .none⟩
  | .first derived => by
    obtain ⟨_, derived'⟩ := derived.regroup
    exact ⟨_, .first derived'⟩
  | .more rest kind last => by
    obtain ⟨_, rest'⟩ := rest.regroup
    obtain ⟨_, last'⟩ := last.regroup
    exact ⟨_, .more rest' kind last'⟩

end

section Transport

/-! Statements, blocks and definitions only place expressions and argument lists: what holds of
those carries over to them. -/

variable {E E' : List Token → Expr → Prop} {A A' : List Token → List Expr → Prop}

mutual

theorem Statement.mono (expressions : ∀ ts e, E ts e → E' ts e)
    (arguments : ∀ ts args, A ts args → A' ts args) {ts : List Token} {s : Stmt} :
    Statement E A ts s → Statement E' A' ts s
  | .command word opening args closing semicolon =>
    .command word opening (arguments _ _ args) closing semicolon
  | .ifThen keyword opening test closing lbrace body rbrace =>
    .ifThen keyword opening (expressions _ _ test) closing lbrace
      (Statements.mono expressions arguments body) rbrace
  | .ifElse keyword opening test closing lbrace body rbrace other lbrace' elseBody rbrace' =>
    .ifElse keyword opening (expressions _ _ test) closing lbrace
      (Statements.mono expressions arguments body) rbrace other lbrace'
      (Statements.mono expressions arguments elseBody) rbrace'
  | .repeatTimes keyword opening count closing lbrace body rbrace =>
    .repeatTimes keyword opening (expressions _ _ count) closing lbrace
      (Statements.mono expressions arguments body) rbrace
  | .call name opening args closing semicolon =>
    .call name opening (arguments _ _ args) closing semicolon
  | .returnWith keyword value semicolon => .returnWith keyword (expressions _ _ value) semicolon

theorem Statements.mono (expressions : ∀ ts e, E ts e → E' ts e)
    (arguments : ∀ ts args, A ts args → A' ts args) {ts : List Token} {ss : List Stmt} :
    Statements E A ts ss → Statements E' A' ts ss
  | .nil => .nil
  | .snoc rest last =>
    .snoc (Statements.mono expressions arguments rest) (Statement.mono expressions arguments last)

end

theorem Definitions.mono (expressions : ∀ ts e, E ts e → E' ts e)
    (arguments : ∀ ts args, A ts args → A' ts args) {ts : List Token} {fs : List FunDef} :
    Definitions E A ts fs → Definitions E' A' ts fs
  | .single (.mk keyword name opening closing lbrace body rbrace) =>
    .single (.mk keyword name opening closing lbrace (Statements.mono expressions arguments body)
      rbrace)
  | .snoc rest (.mk keyword name opening closing lbrace body rbrace) =>
    .snoc (Definitions.mono expressions arguments rest)
      (.mk keyword name opening closing lbrace (Statements.mono expressions arguments body) rbrace)

mutual

theorem Statement.lift (expressions : ∀ ts e, E ts e → ∃ e', E' ts e')
    (arguments : ∀ ts args, A ts args → ∃ args', A' ts args') {ts : List Token} {s : Stmt} :
    Statement E A ts s → ∃ s', Statement E' A' ts s'
  | .command word opening args closing semicolon => by
    obtain ⟨_, args'⟩ := arguments _ _ args
    exact ⟨_, .command word opening args' closing semicolon⟩
  | .ifThen keyword opening test closing lbrace body rbrace => by
    obtain ⟨_, test'⟩ := expressions _ _ test
    obtain ⟨_, body'⟩ := Statements.lift expressions arguments body
    exact ⟨_, .ifThen keyword opening test' closing lbrace body' rbrace⟩
  | .ifElse keyword opening test closing lbrace body rbrace other lbrace' elseBody rbrace' => by
    obtain ⟨_, test'⟩ := expressions _ _ test
    obtain ⟨_, body'⟩ := Statements.lift expressions arguments body
    obtain ⟨_, elseBody'⟩ := Statements.lift expressions arguments elseBody
    exact ⟨_, .ifElse keyword opening test' closing lbrace body' rbrace other lbrace' elseBody'
      rbrace'⟩
  | .repeatTimes keyword opening count closing lbrace body rbrace => by
    obtain ⟨_, count'⟩ := expressions _ _ count
    obtain ⟨_, body'⟩ := Statements.lift expressions arguments body
    exact ⟨_, .repeatTimes keyword opening count' closing lbrace body' rbrace⟩
  | .call name opening args closing semicolon => by
    obtain ⟨_, args'⟩ := arguments _ _ args
    exact ⟨_, .call name opening args' closing semicolon⟩
  | .returnWith keyword value semicolon => by
    obtain ⟨_, value'⟩ := expressions _ _ value
    exact ⟨_, .returnWith keyword value' semicolon⟩

theorem Statements.lift (expressions : ∀ ts e, E ts e → ∃ e', E' ts e')
    (arguments : ∀ ts args, A ts args → ∃ args', A' ts args') {ts : List Token} {ss : List Stmt} :
    Statements E A ts ss → ∃ ss', Statements E' A' ts ss'
  | .nil => ⟨_, .nil⟩
  | .snoc rest last => by
    obtain ⟨_, rest'⟩ := Statements.lift expressions arguments rest
    obtain ⟨_, last'⟩ := Statement.lift expressions arguments last
    exact ⟨_, .snoc rest' last'⟩

end

theorem Definition.lift (expressions : ∀ ts e, E ts e → ∃ e', E' ts e')
    (arguments : ∀ ts args, A ts args → ∃ args', A' ts args') {ts : List Token} {f : FunDef} :
    Definition E A ts f → ∃ f', Definition E' A' ts f'
  | .mk keyword name opening closing lbrace body rbrace => by
    obtain ⟨_, body'⟩ := Statements.lift expressions arguments body
    exact ⟨_, .mk keyword name opening closing lbrace body' rbrace⟩

theorem Definitions.lift (expressions : ∀ ts e, E ts e → ∃ e', E' ts e')
    (arguments : ∀ ts args, A ts args → ∃ args', A' ts args') {ts : List Token}
    {fs : List FunDef} : Definitions E A ts fs → ∃ fs', Definitions E' A' ts fs'
  | .single only => by
    obtain ⟨_, only'⟩ := Definition.lift expressions arguments only
    exact ⟨_, .single only'⟩
  | .snoc rest last => by
    obtain ⟨_, rest'⟩ := Definitions.lift expressions arguments rest
    obtain ⟨_, last'⟩ := Definition.lift expressions arguments last
    exact ⟨_, .snoc rest' last'⟩

end Transport

theorem Derives.loose {ts : List Token} {p : Program} (h : Derives ts p) : Loose.Derives ts p :=
  Definitions.mono (fun _ _ => Expression.loose) (fun _ _ => Arguments.loose) h

theorem Loose.Derives.regroup {ts : List Token} {p : Program} (h : Loose.Derives ts p) :
    ∃ q, Grammar.Derives ts q := by
  obtain ⟨fs, derived⟩ := Definitions.lift (fun ts e => @Loose.Expression.regroup ts e)
    (fun ts args => @Loose.Arguments.regroup ts args) h
  exact ⟨⟨fs⟩, derived⟩

/-- The precedence rules are unambiguous: a token list has at most one tree. -/
theorem Derives.unique {ts : List Token} {p q : Program} (first : Derives ts p)
    (second : Derives ts q) : p = q := by
  have same := (parse_complete first).symm.trans (parse_complete second)
  exact Except.ok.inj same

end RoboScript.Grammar
