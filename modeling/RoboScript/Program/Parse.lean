import RoboScript.Program
import RoboScript.Token.Lexer

/-! Reading tokens into a program, by recursive descent. Each parser stops at the first token
that cannot continue what it has read, so a failure names the earliest token at which no
program can be completed. Binary operators are read by precedence climbing: all of them group
to the left, and `!` binds tighter than any of them. An argument list is an optional first
expression followed by any number of `, expression`.

A parse returns the tokens it left, with the proof that they are fewer than it was given (or no
more, for a parse that may read nothing); the recursion on what is left terminates by that
count.

On a syntax error, reading drops the offending token and everything read before it, and starts
afresh. Only the program read after the last error survives, and an error at the end of the
text leaves none. An error is reported when it is the first one, or when at least three tokens
were read since the previous one. -/

namespace RoboScript

/-- The tokens left after a parse of `ts` that read at least one token. -/
structure Leftover (ts : List Token) where
  tokens : List Token
  shorter : tokens.length < ts.length

/-- The tokens left after a parse of `ts` that may have read nothing. Also where a parse
stopped: the offending token and all after it, empty at the end of the text. -/
structure Rest (ts : List Token) where
  tokens : List Token
  within : tokens.length ≤ ts.length

namespace Leftover

/-- What follows the first token. -/
def tail (t : Token) (r : List Token) : Leftover (t :: r) := ⟨r, by simp⟩

/-- Forgets that something was read. -/
def toRest {ts : List Token} (l : Leftover ts) : Rest ts := ⟨l.tokens, Nat.le_of_lt l.shorter⟩

/-- Two reads one after the other. -/
def trans {ts : List Token} (a : Leftover ts) (b : Leftover a.tokens) : Leftover ts :=
  ⟨b.tokens, Nat.lt_trans b.shorter a.shorter⟩

/-- A read followed by a read that may be empty. -/
def transRest {ts : List Token} (a : Leftover ts) (b : Rest a.tokens) : Leftover ts :=
  ⟨b.tokens, Nat.lt_of_le_of_lt b.within a.shorter⟩

end Leftover

namespace Rest

/-- Nothing read. -/
def here (ts : List Token) : Rest ts := ⟨ts, Nat.le_refl _⟩

/-- Two reads that may be empty, one after the other. -/
def trans {ts : List Token} (a : Rest ts) (b : Rest a.tokens) : Rest ts :=
  ⟨b.tokens, Nat.le_trans b.within a.within⟩

/-- A read that may be empty followed by one that is not. -/
def transLeftover {ts : List Token} (a : Rest ts) (b : Leftover a.tokens) : Leftover ts :=
  ⟨b.tokens, Nat.lt_of_lt_of_le b.shorter a.within⟩

/-- Where a parse after a read stopped, seen from before the read. -/
def after {ts : List Token} (a : Leftover ts) (b : Rest a.tokens) : Rest ts :=
  ⟨b.tokens, Nat.le_trans b.within (Nat.le_of_lt a.shorter)⟩

end Rest

/-- A parse that reads at least one token: a value and what is left, or where it stopped. -/
abbrev Strict (ts : List Token) (α : Type) := Except (Rest ts) (α × Leftover ts)

/-- A parse that may read nothing. -/
abbrev Lax (ts : List Token) (α : Type) := Except (Rest ts) (α × Rest ts)

/-- Two parses one after the other. -/
def Strict.seq {ts : List Token} {α β : Type} (p : Strict ts α)
    (q : (us : List Token) → Strict us β) : Strict ts (α × β) :=
  match p with
  | .error s => .error s
  | .ok (a, l) =>
    match q l.tokens with
    | .ok (b, l2) => .ok ((a, b), l.trans l2)
    | .error s => .error (Rest.after l s)

/-- A parse followed by one that may read nothing. -/
def Strict.seqLax {ts : List Token} {α β : Type} (p : Strict ts α)
    (q : (us : List Token) → Lax us β) : Strict ts (α × β) :=
  match p with
  | .error s => .error s
  | .ok (a, l) =>
    match q l.tokens with
    | .ok (b, r) => .ok ((a, b), l.transRest r)
    | .error s => .error (Rest.after l s)

/-- The value of a parse, changed by `f`. -/
def Strict.map {ts : List Token} {α β : Type} (f : α → β) (p : Strict ts α) : Strict ts β :=
  match p with
  | .error s => .error s
  | .ok (a, l) => .ok (f a, l)

/-- Whether a token may begin an expression. -/
def startsExpr : TokenKind → Bool
  | .not | .lparen | .number _ | .ident => true
  | _ => false

/-- Tests of token kinds. -/
def isLParen : TokenKind → Bool | .lparen => true | _ => false
def isRParen : TokenKind → Bool | .rparen => true | _ => false
def isLBrace : TokenKind → Bool | .lbrace => true | _ => false
def isRBrace : TokenKind → Bool | .rbrace => true | _ => false
def isComma : TokenKind → Bool | .comma => true | _ => false
def isSemicolon : TokenKind → Bool | .semicolon => true | _ => false
def isElse : TokenKind → Bool | .elseKw => true | _ => false
def isFunction : TokenKind → Bool | .functionKw => true | _ => false
def isIdent : TokenKind → Bool | .ident => true | _ => false

/-- Reads one token of a kind that passes `test`. -/
def expect (test : TokenKind → Bool) (ts : List Token) : Strict ts Token :=
  match ts with
  | [] => .error (Rest.here [])
  | t :: r => if test t.kind then .ok (t, Leftover.tail t r) else .error (Rest.here (t :: r))

mutual

/-- A number, a variable, a call, an expression in parentheses, or `!` before one of these. -/
def unary (ts : List Token) : Strict ts Expr :=
  match ts with
  | [] => .error (Rest.here [])
  | t :: r =>
    match t.kind with
    | .not =>
      match unary r with
      | .ok (e, l) => .ok (.not e, (Leftover.tail t r).trans l)
      | .error s => .error (Rest.after (Leftover.tail t r) s)
    | .number lit => .ok (.number lit, Leftover.tail t r)
    | .lparen =>
      match expression 0 r with
      | .error s => .error (Rest.after (Leftover.tail t r) s)
      | .ok (e, l) =>
        match expect isRParen l.tokens with
        | .ok (_, l2) => .ok (e, (Leftover.tail t r).trans (l.trans l2))
        | .error s => .error (Rest.after (Leftover.tail t r) (Rest.after l s))
    | .ident =>
      match r with
      | u :: r2 =>
        if isLParen u.kind then
          let opened := (Leftover.tail t (u :: r2)).trans (Leftover.tail u r2)
          match arguments r2 with
          | .error s => .error (Rest.after opened s)
          | .ok (args, rr) =>
            let read := opened.transRest rr
            match expect isRParen rr.tokens with
            | .ok (_, l2) => .ok (.call t.text args, read.trans l2)
            | .error s => .error (Rest.after read s)
        else .ok (.var t.text, Leftover.tail t (u :: r2))
      | [] => .ok (.var t.text, Leftover.tail t [])
    | _ => .error (Rest.here (t :: r))
termination_by 4 * ts.length + 1
decreasing_by all_goals (simp only [List.length_cons]; omega)

/-- An expression whose binary operators all bind at least as tightly as `min`. -/
def expression (min : Nat) (ts : List Token) : Strict ts Expr :=
  match unary ts with
  | .error s => .error s
  | .ok (lhs, l) =>
    have := l.shorter
    match operators min lhs l.tokens with
    | .ok (e, r) => .ok (e, l.transRest r)
    | .error s => .error (Rest.after l s)
termination_by 4 * ts.length + 2
decreasing_by all_goals omega

/-- Extends `lhs` by each following operator that binds at least as tightly as `min`, with its
right operand. A right operand takes only operators binding more tightly, so operators of one
strength group to the left. -/
def operators (min : Nat) (lhs : Expr) (ts : List Token) : Lax ts Expr :=
  match ts with
  | t :: r =>
    match t.kind with
    | .binary op =>
      if min ≤ op.precedence then
        match expression (op.precedence + 1) r with
        | .error s => .error (Rest.after (Leftover.tail t r) s)
        | .ok (rhs, l) =>
          have := l.shorter
          let read := (Leftover.tail t r).trans l
          match operators min (.binary op lhs rhs) l.tokens with
          | .ok (e, rr) => .ok (e, (read.transRest rr).toRest)
          | .error s => .error (Rest.after read s)
      else .ok (lhs, Rest.here (t :: r))
    | _ => .ok (lhs, Rest.here (t :: r))
  | [] => .ok (lhs, Rest.here [])
termination_by 4 * ts.length
decreasing_by all_goals (simp only [List.length_cons]; omega)

/-- Call arguments: an optional first expression, then `, expression` any number of times. -/
def arguments (ts : List Token) : Lax ts (List Expr) :=
  match ts with
  | t :: r =>
    if startsExpr t.kind then
      match expression 0 (t :: r) with
      | .error s => .error s
      | .ok (e, l) =>
        have := l.shorter
        match moreArguments [e] l.tokens with
        | .ok (args, rr) => .ok (args, (l.transRest rr).toRest)
        | .error s => .error (Rest.after l s)
    else moreArguments [] (t :: r)
  | [] => .ok ([], Rest.here [])
termination_by 4 * ts.length + 3
decreasing_by all_goals (simp only [List.length_cons] at *; omega)

/-- `, expression` any number of times, after the arguments `acc` read so far. -/
def moreArguments (acc : List Expr) (ts : List Token) : Lax ts (List Expr) :=
  match ts with
  | t :: r =>
    if isComma t.kind then
      match expression 0 r with
      | .error s => .error (Rest.after (Leftover.tail t r) s)
      | .ok (e, l) =>
        have := l.shorter
        let read := (Leftover.tail t r).trans l
        match moreArguments (acc ++ [e]) l.tokens with
        | .ok (args, rr) => .ok (args, (read.transRest rr).toRest)
        | .error s => .error (Rest.after read s)
    else .ok (acc, Rest.here (t :: r))
  | [] => .ok (acc, Rest.here [])
termination_by 4 * ts.length
decreasing_by all_goals (simp only [List.length_cons]; omega)

end

/-- `( arguments ) ;` after a command or a called function's name. -/
def callTail (ts : List Token) : Strict ts (List Expr) :=
  ((((expect isLParen ts).seqLax arguments).seq (expect isRParen)).seq (expect isSemicolon)).map
    fun (((_, args), _), _) => args

/-- `( expression )` after `if` or `repeat`. -/
def parenthesized (ts : List Token) : Strict ts Expr :=
  (((expect isLParen ts).seq (expression 0)).seq (expect isRParen)).map fun ((_, e), _) => e

mutual

/-- A statement. -/
def statement (ts : List Token) : Strict ts Stmt :=
  match ts with
  | [] => .error (Rest.here [])
  | t :: r =>
    let first := Leftover.tail t r
    match t.kind with
    | .command c =>
      match callTail r with
      | .ok (args, l) => .ok (.command c args, first.trans l)
      | .error s => .error (Rest.after first s)
    | .ident =>
      match callTail r with
      | .ok (args, l) => .ok (.call t.text args, first.trans l)
      | .error s => .error (Rest.after first s)
    | .returnKw =>
      match ((expression 0 r).seq (expect isSemicolon)).map Prod.fst with
      | .ok (e, l) => .ok (.returnWith e, first.trans l)
      | .error s => .error (Rest.after first s)
    | .repeatKw =>
      match parenthesized r with
      | .error s => .error (Rest.after first s)
      | .ok (count, l) =>
        have := l.shorter
        let read := first.trans l
        match braced l.tokens with
        | .ok (body, l2) => .ok (.repeatTimes count body, read.trans l2)
        | .error s => .error (Rest.after read s)
    | .ifKw =>
      match parenthesized r with
      | .error s => .error (Rest.after first s)
      | .ok (test, l) =>
        have := l.shorter
        let read := first.trans l
        match braced l.tokens with
        | .error s => .error (Rest.after read s)
        | .ok (thenBody, l2) =>
          have := l2.shorter
          let read := read.trans l2
          match h : l2.tokens with
          | u :: r3 =>
            if isElse u.kind then
              have : r3.length < l2.tokens.length := by rw [h]; simp
              let read : Leftover (t :: r) := ⟨r3, Nat.lt_trans this read.shorter⟩
              match braced r3 with
              | .ok (elseBody, l3) => .ok (.ifThen test thenBody (some elseBody), read.trans l3)
              | .error s => .error (Rest.after read s)
            else .ok (.ifThen test thenBody none, read)
          | [] => .ok (.ifThen test thenBody none, read)
    | _ => .error (Rest.here (t :: r))
termination_by 3 * ts.length + 1
decreasing_by all_goals (simp only [List.length_cons] at *; omega)

/-- Statements up to a closing brace, which is left unread. -/
def block (ts : List Token) : Lax ts (List Stmt) :=
  match ts with
  | [] => .ok ([], Rest.here [])
  | t :: r =>
    if isRBrace t.kind then .ok ([], Rest.here (t :: r))
    else
      match statement (t :: r) with
      | .error s => .error s
      | .ok (s, l) =>
        have := l.shorter
        match block l.tokens with
        | .ok (rest, rr) => .ok (s :: rest, (l.transRest rr).toRest)
        | .error e => .error (Rest.after l e)
termination_by 3 * ts.length + 2
decreasing_by all_goals (simp only [List.length_cons] at *; omega)

/-- `{ statements }`. -/
def braced (ts : List Token) : Strict ts (List Stmt) :=
  match ts with
  | [] => .error (Rest.here [])
  | t :: r =>
    if isLBrace t.kind then
      let first := Leftover.tail t r
      match block r with
      | .error s => .error (Rest.after first s)
      | .ok (body, rr) =>
        let read := first.transRest rr
        match expect isRBrace rr.tokens with
        | .ok (_, l) => .ok (body, read.trans l)
        | .error s => .error (Rest.after read s)
    else .error (Rest.here (t :: r))
termination_by 3 * ts.length
decreasing_by all_goals (simp only [List.length_cons]; omega)

end

/-- `function name ( ) { statements }`. -/
def funDef (ts : List Token) : Strict ts FunDef :=
  (((((expect isFunction ts).seq (expect isIdent)).seq (expect isLParen)).seq (expect isRParen)).seq
    braced).map fun ((((_, name), _), _), body) => ⟨name.text, body⟩

/-- One or more function definitions, up to the end of the tokens, after `acc`. -/
def definitions (acc : List FunDef) (ts : List Token) : Except (Rest ts) (List FunDef) :=
  match funDef ts with
  | .error s => .error s
  | .ok (f, l) =>
    match l.tokens with
    | [] => .ok (acc ++ [f])
    | _ :: _ =>
      match definitions (acc ++ [f]) l.tokens with
      | .ok fs => .ok fs
      | .error s => .error (Rest.after l s)
termination_by ts.length
decreasing_by exact l.shorter

/-- A whole program, or where reading it stopped. -/
def Program.parse? (ts : List Token) : Except (Rest ts) Program :=
  match definitions [] ts with
  | .ok fs => .ok ⟨fs⟩
  | .error s => .error s

/-- A reported syntax error: at a token, with its index among all tokens, or at the end. -/
inductive SyntaxError where
  | token (index : Nat) (t : Token)
  | endOfText

/-- The text of a syntax error report. -/
def SyntaxError.message : SyntaxError → String
  | .token _ t => "Syntax error at '" ++ t.shown ++ "' (line " ++ toString t.line ++ ")"
  | .endOfText => "Syntax error at EOF"

/-- How many tokens must be read after an error before the next one is reported. -/
def reportGap : Nat := 3

/-- Reads a program from tokens, starting afresh after each syntax error without the tokens
up to and including the offending one. `index` counts the tokens dropped before `ts`; an error
is reported when at least `quiet` tokens were read since the last start. -/
def Program.recover (quiet index : Nat) (ts : List Token) : Option Program × List SyntaxError :=
  match Program.parse? ts with
  | .ok p => (some p, [])
  | .error stop =>
    let read := ts.length - stop.tokens.length
    let loud := decide (quiet ≤ read)
    match h : stop.tokens with
    | [] => (none, if loud then [.endOfText] else [])
    | t :: rest =>
      have : rest.length < ts.length := by
        have := stop.within
        rw [h] at this
        simp at this
        omega
      let (program, errors) := Program.recover reportGap (index + read + 1) rest
      (program, if loud then .token (index + read) t :: errors else errors)
termination_by ts.length

/-- Messages in the order they arise while tokens are read: each scanner report before the
token after it, and each syntax error right after its token. -/
def interleave (lexemes : List Lexeme) (errors : List SyntaxError) (index : Nat) : List String :=
  match lexemes with
  | [] => errors.filterMap fun | .endOfText => some SyntaxError.endOfText.message | .token .. => none
  | .illegal c line column :: rest => illegalMessage c line column :: interleave rest errors index
  | .token _ :: rest =>
    let here := errors.filterMap fun
      | .token i t => if i = index then some (SyntaxError.token i t).message else none
      | .endOfText => none
    here ++ interleave rest errors (index + 1)

/-- What reading a text gives: the program, if one was read, and the messages in order. -/
structure Reading where
  program : Option Program
  messages : List String

/-- Reads a program from text in a dialect. Only an over-long integer literal fails. -/
def Program.read (d : Dialect) (source : String) : Except Error Reading :=
  let lexed := Token.scan d source
  match lexed.failure with
  | some e => .error e
  | none =>
    let (program, errors) := Program.recover 0 0 lexed.tokens
    .ok ⟨program, interleave lexed.lexemes errors 0⟩

end RoboScript
