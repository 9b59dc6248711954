import RoboScript.Token
import RoboScript.Text.Digit
import RoboScript.Decimal

/-! Scanning program text into tokens. At each point the scanner skips a blank or a tab, reads a
run of line breaks, or reads the longest token that starts there: a word (ASCII letters, digits
and underscores, not starting with a digit), a number (decimal digits of any script, with an
optional point followed by digits), or an operator, two-character operators first. A character
that starts nothing is reported and skipped. An integer literal longer than the digit limit
stops the scan. -/

namespace RoboScript

/-- What the scanner produces, in text order. -/
inductive Lexeme where
  | token (t : Token)
  /-- A character that starts no token, with its line and column. -/
  | illegal (c : Char) (line column : Nat)

/-- The result of a scan: the lexemes read, and the failure that stopped it early, if any. -/
structure Lexed where
  lexemes : List Lexeme
  failure : Option Error

/-- The tokens of a scan. -/
def Lexed.tokens (l : Lexed) : List Token :=
  l.lexemes.filterMap fun | .token t => some t | .illegal .. => none

/-- The report of a character that starts no token. -/
def illegalMessage (c : Char) (line column : Nat) : String :=
  "Illegal character '" ++ c.toString ++ "' at line " ++ toString line ++ ", column " ++ toString column

/-- The scanner's reports, in text order. -/
def Lexed.messages (l : Lexed) : List String :=
  l.lexemes.filterMap fun
    | .illegal c line column => some (illegalMessage c line column)
    | .token _ => none

/-- Where the scanner stands. -/
structure Cursor where
  /-- Characters read so far. -/
  offset : Nat
  /-- The current line, from 1. -/
  line : Nat
  /-- The offset of the last line break read, or `-1`. -/
  lastBreak : Int

namespace Cursor

/-- The start of a text. -/
def start : Cursor := ⟨0, 1, -1⟩

/-- The column of the next character. -/
def column (cur : Cursor) : Nat := (cur.offset - cur.lastBreak).toNat

/-- After `n` characters on the same line. -/
def skip (cur : Cursor) (n : Nat) : Cursor := { cur with offset := cur.offset + n }

/-- After a run of `n` line breaks. -/
def breaks (cur : Cursor) (n : Nat) : Cursor :=
  ⟨cur.offset + n, cur.line + n, cur.offset + n - 1⟩

end Cursor

/-- Whether a character may start a word. -/
def isWordStart (c : Char) : Bool := c.isAlpha || c = '_'

/-- Whether a character may continue a word. -/
def isWordChar (c : Char) : Bool := c.isAlphanum || c = '_'

/-- The operator that starts with `c` followed by `next`, and whether it takes `next` too. -/
def operatorAt (c : Char) (next : Option Char) : Option (TokenKind × Bool) :=
  match c, next with
  | '|', some '|' => some (.binary .or, true)
  | '=', some '=' => some (.binary .eq, true)
  | '!', some '=' => some (.binary .ne, true)
  | '<', some '=' => some (.binary .le, true)
  | '>', some '=' => some (.binary .ge, true)
  | '&', some '&' => some (.binary .and, true)
  | '(', _ => some (.lparen, false)
  | ')', _ => some (.rparen, false)
  | '{', _ => some (.lbrace, false)
  | '}', _ => some (.rbrace, false)
  | ',', _ => some (.comma, false)
  | ';', _ => some (.semicolon, false)
  | '+', _ => some (.binary .add, false)
  | '-', _ => some (.binary .sub, false)
  | '*', _ => some (.binary .mul, false)
  | '/', _ => some (.binary .div, false)
  | '<', _ => some (.binary .lt, false)
  | '>', _ => some (.binary .gt, false)
  | '!', _ => some (.not, false)
  | _, _ => none

/-- The value of a number's text: the digits before the point and, if there is one, after it. -/
def numberLiteral (whole : List Char) (fraction : Option (List Char)) : Except Error Literal :=
  let values (cs : List Char) := cs.map fun c => (Text.digitValue? c).getD 0
  match fraction with
  | some frac =>
    .ok (.float (Decimal.toFloat false (Decimal.ofDigitValues (values (whole ++ frac)))
      (-(frac.length : Int))))
  | none =>
    if whole.length > digitLimit then .error (.digitLimitRead whole.length)
    else .ok (.int (Decimal.ofDigitValues (values whole)))

/-- Scans the rest of a text from a cursor; `acc` holds the lexemes read so far, last first. -/
def scanFrom (d : Dialect) (cs : List Char) (cur : Cursor) (acc : List Lexeme) : Lexed :=
  match cs with
  | [] => ⟨acc.reverse, none⟩
  | c :: rest =>
    if c = ' ' ∨ c = '\t' then scanFrom d rest (cur.skip 1) acc
    else if c = '\n' then
      let run := (rest.takeWhile (· = '\n')).length
      scanFrom d (rest.drop run) (cur.breaks (run + 1)) acc
    else if isWordStart c then
      let body := rest.takeWhile isWordChar
      let text := String.ofList (c :: body)
      let t : Token := ⟨d.classify text, text, cur.line, cur.offset, cur.column⟩
      scanFrom d (rest.drop body.length) (cur.skip (body.length + 1)) (.token t :: acc)
    else if Text.isDecimalDigit c then
      let whole := c :: rest.takeWhile Text.isDecimalDigit
      let after := rest.drop (whole.length - 1)
      let (fraction, used) : Option (List Char) × Nat := match after with
        | '.' :: d :: more =>
          if Text.isDecimalDigit d then
            let frac := d :: more.takeWhile Text.isDecimalDigit
            (some frac, frac.length + 1)
          else (none, 0)
        | _ => (none, 0)
      let text := String.ofList (whole ++ (match fraction with | some f => '.' :: f | none => []))
      match numberLiteral whole fraction with
      | .error e => ⟨acc.reverse, some e⟩
      | .ok lit =>
        let t : Token := ⟨.number lit, text, cur.line, cur.offset, cur.column⟩
        scanFrom d (after.drop used) (cur.skip (whole.length + used)) (.token t :: acc)
    else
      match operatorAt c rest.head? with
      | some (kind, pair) =>
        let text := if pair then String.ofList (c :: rest.take 1) else c.toString
        let t : Token := ⟨kind, text, cur.line, cur.offset, cur.column⟩
        let taken := if pair then 1 else 0
        scanFrom d (rest.drop taken) (cur.skip (taken + 1)) (.token t :: acc)
      | none => scanFrom d rest (cur.skip 1) (.illegal c cur.line cur.column :: acc)
termination_by cs.length
decreasing_by all_goals (simp only [List.length_cons, List.length_drop]; omega)

/-- Scans a whole text in a dialect. -/
def Token.scan (d : Dialect) (source : String) : Lexed :=
  scanFrom d source.toList Cursor.start []

end RoboScript
