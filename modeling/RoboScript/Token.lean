import RoboScript.Dialect
import RoboScript.Operator
import RoboScript.Value.Text

/-! Tokens: the words of program text. A token has a kind, the text it was read from, and where
it starts: its line, its offset in characters from the start of the text, and its column. -/

namespace RoboScript

/-- A number written in a program: an integer, or a double when the text has a point. -/
inductive Literal where
  | int (n : Nat)
  | float (x : Float)
  deriving Inhabited

/-- The value a literal stands for. -/
def Literal.toValue : Literal → Value
  | .int n => .int n
  | .float x => .float x

/-- A literal's text: an integer in full, a double in its shortest form. -/
def Literal.show : Literal → String
  | .int n => toString n
  | .float x => Value.floatText x

/-- The kind of a token. Binary operators carry the operator they stand for. -/
inductive TokenKind where
  | ident
  | number (lit : Literal)
  | lparen
  | rparen
  | lbrace
  | rbrace
  | comma
  | semicolon
  | binary (op : BinOp)
  | not
  | functionKw
  | ifKw
  | elseKw
  | repeatKw
  | returnKw
  | command (c : Command)
  deriving Inhabited

namespace TokenKind

/-- The kind's name, as token listings show it. -/
def name : TokenKind → String
  | .ident => "IDENTIFIER"
  | .number _ => "NUMBER"
  | .lparen => "LPAREN"
  | .rparen => "RPAREN"
  | .lbrace => "LBRACE"
  | .rbrace => "RBRACE"
  | .comma => "COMMA"
  | .semicolon => "SEMICOLON"
  | .binary .add => "PLUS"
  | .binary .sub => "MINUS"
  | .binary .mul => "MULTIPLY"
  | .binary .div => "DIVIDE"
  | .binary .eq => "EQ"
  | .binary .ne => "NEQ"
  | .binary .lt => "LT"
  | .binary .le => "LE"
  | .binary .gt => "GT"
  | .binary .ge => "GE"
  | .binary .and => "AND"
  | .binary .or => "OR"
  | .not => "NOT"
  | .functionKw => "FUNCTION"
  | .ifKw => "IF"
  | .elseKw => "ELSE"
  | .repeatKw => "REPEAT"
  | .returnKw => "RETURN"
  | .command .moveForward => "MOVEFORWARD"
  | .command .moveBackward => "MOVEBACKWARD"
  | .command .turnRight => "TURNRIGHT"
  | .command .turnLeft => "TURNLEFT"
  | .command .pickUpObject => "PICKUPOBJECT"
  | .command .dropObject => "DROPOBJECT"

end TokenKind

/-- The kind of a word in a dialect: a keyword's kind, or an identifier. -/
def Dialect.classify (d : Dialect) (word : String) : TokenKind :=
  if word = "function" then .functionKw
  else if word = "if" then .ifKw
  else if word = "else" then .elseKw
  else if word = "repeat" then .repeatKw
  else if word = "return" then .returnKw
  else match d.commands.find? (·.word == word) with
    | some c => .command c
    | none => .ident

/-- A token of program text. -/
structure Token where
  kind : TokenKind
  text : String
  /-- The line it starts on, from 1. -/
  line : Nat
  /-- Characters before it in the text. -/
  offset : Nat
  /-- Its column, from 1: characters since the last line break before it. -/
  column : Nat
  deriving Inhabited

/-- A token's value as messages show it: a number's value, otherwise its text. -/
def Token.shown (t : Token) : String :=
  match t.kind with
  | .number lit => lit.show
  | _ => t.text

end RoboScript
