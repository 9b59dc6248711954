import RoboScript.Program.Parse

/-! The grammar of programs as rules on token lists, each derivation paired with the tree its
rules build. Parentheses build no node of their own, and every list keeps the order of the text.

Two grammars of expressions are given. `Loose` is the grammar as written, with one rule for each
binary operator between two expressions and one for `!` before an expression; it is ambiguous.
`Expression level` has a rule for each strength of operator instead: its operators outside
parentheses bind at least as tightly as `level`, the left operand of an operator may hold
operators as strong as it and the right operand only stronger ones, so all operators group to the
left, and `!` applies to an operand only. It is the grammar as written read with those precedence
rules. The rules for statements, blocks and definitions are shared, and take the rules for
expressions and for argument lists as parameters. -/

namespace RoboScript.Grammar

mutual

/-- An operand: `!` before an operand, a number, a variable, a call, or an expression in
parentheses. -/
inductive Operand : List Token → Expr → Prop
  | not {t : Token} {ts : List Token} {e : Expr} :
      t.kind = .not → Operand ts e → Operand (t :: ts) (.not e)
  | number {t : Token} {lit : Literal} : t.kind = .number lit → Operand [t] (.number lit)
  | var {t : Token} : t.kind = .ident → Operand [t] (.var t.text)
  | call {name opening closing : Token} {ts : List Token} {args : List Expr} :
      name.kind = .ident → opening.kind = .lparen → Arguments ts args → closing.kind = .rparen →
      Operand (name :: opening :: ts ++ [closing]) (.call name.text args)
  | group {opening closing : Token} {ts : List Token} {e : Expr} :
      opening.kind = .lparen → Expression 0 ts e → closing.kind = .rparen →
      Operand (opening :: ts ++ [closing]) e

/-- An expression whose operators outside parentheses bind at least as tightly as `level`. -/
inductive Expression : Nat → List Token → Expr → Prop
  | operand {level : Nat} {ts : List Token} {e : Expr} : Operand ts e → Expression level ts e
  | binary {level : Nat} {op : BinOp} {t : Token} {ls rs : List Token} {lhs rhs : Expr} :
      level ≤ op.precedence → Expression op.precedence ls lhs → t.kind = .binary op →
      Expression (op.precedence + 1) rs rhs → Expression level (ls ++ t :: rs) (.binary op lhs rhs)

/-- An argument list: nothing or an expression, then `, expression` any number of times. -/
inductive Arguments : List Token → List Expr → Prop
  | none : Arguments [] []
  | first {ts : List Token} {e : Expr} : Expression 0 ts e → Arguments ts [e]
  | more {ts us : List Token} {comma : Token} {args : List Expr} {e : Expr} :
      Arguments ts args → comma.kind = .comma → Expression 0 us e →
      Arguments (ts ++ comma :: us) (args ++ [e])

end

namespace Loose

mutual

/-- An expression of the grammar as written: two expressions around a binary operator, `!`
before an expression, an expression in parentheses, a number, a variable or a call. -/
inductive Expression : List Token → Expr → Prop
  | binary {op : BinOp} {t : Token} {ls rs : List Token} {lhs rhs : Expr} :
      Expression ls lhs → t.kind = .binary op → Expression rs rhs →
      Expression (ls ++ t :: rs) (.binary op lhs rhs)
  | not {t : Token} {ts : List Token} {e : Expr} :
      t.kind = .not → Expression ts e → Expression (t :: ts) (.not e)
  | group {opening closing : Token} {ts : List Token} {e : Expr} :
      opening.kind = .lparen → Expression ts e → closing.kind = .rparen →
      Expression (opening :: ts ++ [closing]) e
  | number {t : Token} {lit : Literal} : t.kind = .number lit → Expression [t] (.number lit)
  | var {t : Token} : t.kind = .ident → Expression [t] (.var t.text)
  | call {name opening closing : Token} {ts : List Token} {args : List Expr} :
      name.kind = .ident → opening.kind = .lparen → Arguments ts args → closing.kind = .rparen →
      Expression (name :: opening :: ts ++ [closing]) (.call name.text args)

/-- An argument list of the grammar as written. -/
inductive Arguments : List Token → List Expr → Prop
  | none : Arguments [] []
  | first {ts : List Token} {e : Expr} : Expression ts e → Arguments ts [e]
  | more {ts us : List Token} {comma : Token} {args : List Expr} {e : Expr} :
      Arguments ts args → comma.kind = .comma → Expression us e →
      Arguments (ts ++ comma :: us) (args ++ [e])

end

end Loose

section Structure

variable (E : List Token → Expr → Prop) (A : List Token → List Expr → Prop)

mutual

/-- A statement, over the rules `E` for expressions and `A` for argument lists. -/
inductive Statement : List Token → Stmt → Prop
  | command {word opening closing semicolon : Token} {c : Command} {ts : List Token}
      {args : List Expr} :
      word.kind = .command c → opening.kind = .lparen → A ts args → closing.kind = .rparen →
      semicolon.kind = .semicolon →
      Statement (word :: opening :: ts ++ [closing, semicolon]) (.command c args)
  | ifThen {keyword opening closing lbrace rbrace : Token} {cs bs : List Token} {test : Expr}
      {body : List Stmt} :
      keyword.kind = .ifKw → opening.kind = .lparen → E cs test → closing.kind = .rparen →
      lbrace.kind = .lbrace → Statements bs body → rbrace.kind = .rbrace →
      Statement (keyword :: opening :: cs ++ closing :: lbrace :: bs ++ [rbrace])
        (.ifThen test body none)
  | ifElse {keyword opening closing lbrace rbrace other lbrace' rbrace' : Token}
      {cs bs es : List Token} {test : Expr} {body elseBody : List Stmt} :
      keyword.kind = .ifKw → opening.kind = .lparen → E cs test → closing.kind = .rparen →
      lbrace.kind = .lbrace → Statements bs body → rbrace.kind = .rbrace →
      other.kind = .elseKw → lbrace'.kind = .lbrace → Statements es elseBody →
      rbrace'.kind = .rbrace →
      Statement (keyword :: opening :: cs ++ closing :: lbrace :: bs ++
          rbrace :: other :: lbrace' :: es ++ [rbrace'])
        (.ifThen test body (some elseBody))
  | repeatTimes {keyword opening closing lbrace rbrace : Token} {cs bs : List Token}
      {count : Expr} {body : List Stmt} :
      keyword.kind = .repeatKw → opening.kind = .lparen → E cs count → closing.kind = .rparen →
      lbrace.kind = .lbrace → Statements bs body → rbrace.kind = .rbrace →
      Statement (keyword :: opening :: cs ++ closing :: lbrace :: bs ++ [rbrace])
        (.repeatTimes count body)
  | call {name opening closing semicolon : Token} {ts : List Token} {args : List Expr} :
      name.kind = .ident → opening.kind = .lparen → A ts args → closing.kind = .rparen →
      semicolon.kind = .semicolon →
      Statement (name :: opening :: ts ++ [closing, semicolon]) (.call name.text args)
  | returnWith {keyword semicolon : Token} {ts : List Token} {e : Expr} :
      keyword.kind = .returnKw → E ts e → semicolon.kind = .semicolon →
      Statement (keyword :: ts ++ [semicolon]) (.returnWith e)

/-- A list of statements, each one after those before it. -/
inductive Statements : List Token → List Stmt → Prop
  | nil : Statements [] []
  | snoc {ts us : List Token} {ss : List Stmt} {s : Stmt} :
      Statements ts ss → Statement us s → Statements (ts ++ us) (ss ++ [s])

end

/-- A function definition: `function name ( ) { statements }`. -/
inductive Definition : List Token → FunDef → Prop
  | mk {keyword name opening closing lbrace rbrace : Token} {bs : List Token} {body : List Stmt} :
      keyword.kind = .functionKw → name.kind = .ident → opening.kind = .lparen →
      closing.kind = .rparen → lbrace.kind = .lbrace → Statements E A bs body →
      rbrace.kind = .rbrace →
      Definition (keyword :: name :: opening :: closing :: lbrace :: bs ++ [rbrace]) ⟨name.text, body⟩

/-- One or more function definitions, each one after those before it. -/
inductive Definitions : List Token → List FunDef → Prop
  | single {ts : List Token} {f : FunDef} : Definition E A ts f → Definitions ts [f]
  | snoc {ts us : List Token} {fs : List FunDef} {f : FunDef} :
      Definitions ts fs → Definition E A us f → Definitions (ts ++ us) (fs ++ [f])

end Structure

/-- A program derived from tokens by the precedence rules. -/
def Derives (ts : List Token) (p : Program) : Prop :=
  Definitions (Expression 0) Arguments ts p.functions

/-- A program derived from tokens by the grammar as written. -/
def Loose.Derives (ts : List Token) (p : Program) : Prop :=
  Definitions Loose.Expression Loose.Arguments ts p.functions

end RoboScript.Grammar
