import RoboScript.Program.Parse

/-! Reading tokens with LALR tables, by the loop of the parser generator the language is built
with. The tables are data: for each terminal, the states that act on it and how; for each
nonterminal, the states with a transition on it; and the productions, each with its semantic
action. The loop keeps a stack of states, each with what the symbol that led to it stands for,
and at each step shifts the next token, reduces by a production, or accepts. A state whose only
action is a reduction reduces without looking at the next token.

On a syntax error the loop reports it, unless fewer than three tokens were shifted since the
previous one, and puts the error symbol in place of the offending token. No state acts on the
error symbol, so the loop pops the stack down to its first state and then drops the token. An
error at the end of the text ends the reading with no program. -/

namespace RoboScript.Automaton

/-- A terminal of the grammar: the kind of a token without its value, or the end of the text. -/
inductive Terminal where
  | ident
  | number
  | lparen
  | rparen
  | lbrace
  | rbrace
  | comma
  | semicolon
  | binary (op : BinOp)
  | not
  | functionKw
  | ifKw
  | elseKw
  | repeatKw
  | returnKw
  | command (c : Command)
  | endOfText
  deriving DecidableEq, Repr

/-- The terminal a token of this kind is read as. -/
def Terminal.ofKind : TokenKind → Terminal
  | .ident => .ident
  | .number _ => .number
  | .lparen => .lparen
  | .rparen => .rparen
  | .lbrace => .lbrace
  | .rbrace => .rbrace
  | .comma => .comma
  | .semicolon => .semicolon
  | .binary op => .binary op
  | .not => .not
  | .functionKw => .functionKw
  | .ifKw => .ifKw
  | .elseKw => .elseKw
  | .repeatKw => .repeatKw
  | .returnKw => .returnKw
  | .command c => .command c

/-- The terminal of the first of `ts`, or the end of the text. -/
def Terminal.next : List Token → Terminal
  | t :: _ => .ofKind t.kind
  | [] => .endOfText

/-- A nonterminal of the grammar; `start` heads the production added above the first one. -/
inductive Nonterminal where
  | start
  | program
  | functionDefList
  | functionDef
  | statementList
  | statement
  | commandStatement
  | ifStatement
  | elseClause
  | loopStatement
  | functionCall
  | returnStatement
  | expression
  | functionCallExpr
  | arguments
  | robotCommand
  deriving DecidableEq, Repr

/-- An entry of the action table. -/
inductive Action where
  | shift (state : Nat)
  | reduce (production : Nat)
  | accept
  deriving DecidableEq, Repr

/-- An action as the tables write it: a positive number shifts to that state, a negative one
reduces by the production of that number, and zero accepts. -/
def Action.ofInt : Int → Action
  | .ofNat 0 => .accept
  | .ofNat (n + 1) => .shift (n + 1)
  | .negSucc n => .reduce (n + 1)

/-- What a symbol on the stack stands for: a token, or what a production's action built. -/
inductive Parsed where
  | token (t : Token)
  | expr (e : Expr)
  | exprs (es : List Expr)
  | stmt (s : Stmt)
  | stmts (ss : List Stmt)
  | elseBody (body : Option (List Stmt))
  | funDef (f : FunDef)
  | funDefs (fs : List FunDef)
  | program (p : Program)
  | nothing

/-- The semantic actions of the productions, one for each function of the grammar. -/
inductive Semantic where
  | program
  | functionDefList
  | functionDef
  | statementList
  | statement
  | commandStatement
  | ifStatement
  | elseClause
  | loopStatement
  | functionCall
  | returnStatement
  | expressionBinop
  | expressionUnary
  | expressionGroup
  | expressionNumber
  | expressionIdentifier
  | expressionFunctionCall
  | functionCallExpr
  | arguments
  | robotCommand
  deriving DecidableEq, Repr

/-- What an action builds from what the symbols of its production's right-hand side stand for,
in order. The lists and trees it builds keep the order of the text, and parentheses build
nothing of their own. A right-hand side of another shape, which the tables never pop, builds
nothing. -/
def Semantic.build : Semantic → List Parsed → Parsed
  | .program, [.funDefs fs] => .program ⟨fs⟩
  | .functionDefList, [.funDefs fs, .funDef f] => .funDefs (fs ++ [f])
  | .functionDefList, [.funDef f] => .funDefs [f]
  | .functionDef, [_, .token name, _, _, _, .stmts body, _] => .funDef ⟨name.text, body⟩
  | .statementList, [.stmts ss, .stmt s] => .stmts (ss ++ [s])
  | .statementList, [] => .stmts []
  | .statement, [v] => v
  | .commandStatement, [.token word, _, .exprs args, _, _] =>
    match word.kind with
    | .command c => .stmt (.command c args)
    | _ => .nothing
  | .ifStatement, [_, _, .expr test, _, _, .stmts body, _, .elseBody other] =>
    .stmt (.ifThen test body other)
  | .elseClause, [_, _, .stmts body, _] => .elseBody (some body)
  | .elseClause, [] => .elseBody none
  | .loopStatement, [_, _, .expr count, _, _, .stmts body, _] => .stmt (.repeatTimes count body)
  | .functionCall, [.token name, _, .exprs args, _, _] => .stmt (.call name.text args)
  | .returnStatement, [_, .expr e, _] => .stmt (.returnWith e)
  | .expressionBinop, [.expr lhs, .token op, .expr rhs] =>
    match op.kind with
    | .binary o => .expr (.binary o lhs rhs)
    | _ => .nothing
  | .expressionUnary, [_, .expr e] => .expr (.not e)
  | .expressionGroup, [_, v, _] => v
  | .expressionNumber, [.token t] =>
    match t.kind with
    | .number lit => .expr (.number lit)
    | _ => .nothing
  | .expressionIdentifier, [.token t] => .expr (.var t.text)
  | .expressionFunctionCall, [v] => v
  | .functionCallExpr, [.token name, _, .exprs args, _] => .expr (.call name.text args)
  | .arguments, [.exprs args, _, .expr e] => .exprs (args ++ [e])
  | .arguments, [.expr e] => .exprs [e]
  | .arguments, [] => .exprs []
  | .robotCommand, [v] => v
  | _, _ => .nothing

/-- A production: the nonterminal it defines, the length of its right-hand side, and its
semantic action, which the production added above the first one lacks. -/
structure Production where
  lhs : Nonterminal
  length : Nat
  semantic : Option Semantic
  deriving DecidableEq

/-- The actions on one terminal: the states that act on it, and the action of each. -/
structure ActionItem where
  terminal : Terminal
  states : List Nat
  actions : List Int

/-- The transitions on one nonterminal: the states that have one, and the target of each. -/
structure GotoItem where
  nonterminal : Nonterminal
  states : List Nat
  targets : List Nat

/-- LALR tables: the actions on each terminal, the transitions on each nonterminal, and the
productions by number. -/
structure Tables where
  actionItems : List ActionItem
  gotoItems : List GotoItem
  productions : List Production

namespace Tables

variable (T : Tables)

/-- The action of state `s` on terminal `t`, if it has one. -/
def action (s : Nat) (t : Terminal) : Option Action :=
  (T.actionItems.find? (·.terminal == t)).bind fun item =>
    ((item.states.zip item.actions).lookup s).map Action.ofInt

/-- The target of state `s`'s transition on nonterminal `n`, if it has one. -/
def goto (s : Nat) (n : Nonterminal) : Option Nat :=
  (T.gotoItems.find? (·.nonterminal == n)).bind fun item => (item.states.zip item.targets).lookup s

/-- Every action of state `s`, with its terminal. -/
def actions (s : Nat) : List (Terminal × Action) :=
  T.actionItems.filterMap fun item =>
    ((item.states.zip item.actions).lookup s).map fun a => (item.terminal, Action.ofInt a)

/-- The production a state reduces by without reading a token: the only action of a state
that has one action, a reduction. -/
def defaulted (s : Nat) : Option Nat :=
  match T.actions s with
  | [(_, .reduce r)] => some r
  | _ => none

end Tables

/-- Where the loop is. The stack holds states, topmost first, each with what the symbol that
led to it stands for. After a syntax error the offending token is set aside, with the error
symbol in its place. `index` counts the tokens read before `input`, and `errorcount` how many
more must be shifted before another syntax error is reported. -/
structure Parser where
  stack : List (Nat × Parsed)
  setAside : Option Token
  input : List Token
  index : Nat
  errorcount : Nat
  errors : List SyntaxError

/-- What one step of the loop gives: where it goes on, or what the reading returns. -/
inductive Step where
  | next (p : Parser)
  | done (program : Option Program) (errors : List SyntaxError)

namespace Parser

/-- The terminal of the next token, or the end of the text. -/
def lookahead (p : Parser) : Terminal := .next p.input

/-- The parser at the start of `ts`: the first state alone on the stack. -/
def start (ts : List Token) : Parser := ⟨[(0, .nothing)], none, ts, 0, 0, []⟩

end Parser

section Loop

variable (T : Tables)

/-- Reduces by production `r`: pops its right-hand side and pushes the target of the uncovered
state's transition on its left-hand side, standing for what its action builds. -/
def reduce (r : Nat) (p : Parser) : Step :=
  match T.productions[r]? with
  | none => .done none p.errors
  | some rule =>
    match p.stack.drop rule.length, rule.semantic with
    | (below, v) :: rest, some semantic =>
      match T.goto below rule.lhs with
      | some target =>
        let built := semantic.build ((p.stack.take rule.length).reverse.map Prod.snd)
        .next { p with stack := (target, built) :: (below, v) :: rest }
      | none => .done none p.errors
    | _, _ => .done none p.errors

/-- A syntax error at the next token, or at the end of the text: reported when enough tokens
were shifted since the last one. At the end the reading stops with no program. A token is
dropped at once when the stack holds one state, and set aside otherwise. -/
def fail (p : Parser) (below : List (Nat × Parsed)) : Step :=
  match p.input with
  | [] => .done none (if p.errorcount = 0 then p.errors ++ [.endOfText] else p.errors)
  | t :: rest =>
    let errors := if p.errorcount = 0 then p.errors ++ [.token p.index t] else p.errors
    let p := { p with input := rest, index := p.index + 1, errorcount := reportGap, errors }
    match below with
    | [] => .next p
    | _ :: _ => .next { p with setAside := some t }

/-- One step of the loop. -/
def step (p : Parser) : Step :=
  match p.stack with
  | [] => .done none p.errors
  | (s, v) :: below =>
    match T.defaulted s with
    | some r => reduce T r p
    | none =>
      match p.setAside with
      -- no state acts on the error symbol; `errorcount` stays at its reset value meanwhile
      | some _ =>
        match below with
        | [] => .next { p with setAside := none, errorcount := reportGap }
        | _ :: _ => .next { p with stack := below, errorcount := reportGap }
      | none =>
        match T.action s p.lookahead, p.input with
        | some (.shift target), t :: rest =>
          .next { p with stack := (target, .token t) :: p.stack, input := rest,
                         index := p.index + 1, errorcount := p.errorcount - 1 }
        | some (.shift _), [] => .done none p.errors
        | some (.reduce r), _ => reduce T r p
        | some .accept, _ =>
          match v with
          | .program prog => .done (some prog) p.errors
          | _ => .done none p.errors
        | none, _ => fail p below

/-- Runs the loop for at most `fuel` steps. -/
def run : Nat → Parser → Option Program × List SyntaxError
  | 0, p => (none, p.errors)
  | fuel + 1, p =>
    match step T p with
    | .next p' => run fuel p'
    | .done program errors => (program, errors)

/-- Reads a program from tokens with the tables: the program, if the reading ends with one, and
the syntax errors reported. The loop takes fewer than eight steps for each token and eight at the
end. -/
def parse (ts : List Token) : Option Program × List SyntaxError :=
  run T (8 * (ts.length + 1)) (.start ts)

end Loop

end RoboScript.Automaton
