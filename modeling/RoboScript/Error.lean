/-! Why a step of a program can fail. Each constructor names a cause; `Error.message` gives the
text the program shows for it. The kinds of failure mirror a dynamic language's exceptions:
name errors, type errors, arithmetic errors and the limits on integer text. -/

namespace RoboScript

/-- What was being entered when calls nested too deeply: a function of the program's
interpreter, a native call, or the text, representation or comparison of a value, each of which
takes a level of nesting of its own. -/
inductive Nesting where
  | function
  | nativeCall
  | text
  | representation
  | comparison
  deriving DecidableEq, Repr

/-- How a failure to nest names what was being entered. -/
def Nesting.suffix : Nesting → String
  | .function => ""
  | .nativeCall => " while calling a Python object"
  | .text => " while getting the str of an object"
  | .representation => " while getting the repr of an object"
  | .comparison => " in comparison"

/-- The levels of nesting free to a request from outside: a thousand, of which the host that
makes the request holds three. -/
def Nesting.room : Nat := 997

/-- A cause of failure. Type names are those of `Value.typeName`. -/
inductive Error where
  /-- A variable with no binding. -/
  | undefinedVariable (name : String)
  /-- A call of a function that is neither built in nor defined. -/
  | undefinedFunction (name : String)
  /-- A program run without a function called `main`. -/
  | missingMain
  /-- A built-in function that takes no arguments was given some. -/
  | takesNoArguments (name : String)
  /-- An operator symbol with no binary meaning. -/
  | unknownBinaryOperator (symbol : String)
  /-- An operator symbol with no unary meaning. -/
  | unknownUnaryOperator (symbol : String)
  /-- A robot command the robot does not know. -/
  | unknownCommand (name : String)
  /-- A robot command that needs an argument got none. -/
  | missingArgument
  /-- An integer divided by zero. -/
  | divisionByZero
  /-- A double divided by zero. -/
  | floatDivisionByZero
  /-- An arithmetic operator applied to operands it does not take. -/
  | unsupportedOperands (symbol left right : String)
  /-- An order comparison between values that have none. -/
  | unorderable (symbol left right : String)
  /-- A prefix operator applied to an operand it does not take. -/
  | badUnaryOperand (symbol operand : String)
  /-- A non-number where a double is needed. -/
  | notARealNumber (typeName : String)
  /-- A non-number where an integer is needed. -/
  | notAnIntegerArgument (typeName : String)
  /-- A non-number given a fixed-point format. -/
  | unsupportedFormat (typeName : String)
  /-- An integer beyond the range of doubles. -/
  | intTooLargeForFloat
  /-- A quotient of integers beyond the range of doubles. -/
  | quotientTooLarge
  /-- A NaN where an integer is needed. -/
  | nanToInteger
  /-- An infinity where an integer is needed. -/
  | infinityToInteger
  /-- A trigonometric function at an infinity. -/
  | mathDomain
  /-- Integer text longer than the digit limit, with its length. -/
  | digitLimitRead (digits : Nat)
  /-- An integer too long to write under the digit limit. -/
  | digitLimitWrite
  /-- Calls nested beyond the depth limit, on entering `entering`. -/
  | recursionLimit (entering : Nesting)
  deriving Inhabited

/-- The longest integer text that is read or written. -/
def digitLimit : Nat := 4300

namespace Error

/-- The text shown for a failure. -/
def message : Error → String
  | .undefinedVariable name => "Undefined variable '" ++ name ++ "'"
  | .undefinedFunction name => "Undefined function '" ++ name ++ "'"
  | .missingMain => "No 'main' function defined."
  | .takesNoArguments name => name ++ "() takes no arguments."
  | .unknownBinaryOperator symbol => "Unknown binary operator '" ++ symbol ++ "'"
  | .unknownUnaryOperator symbol => "Unknown unary operator '" ++ symbol ++ "'"
  | .unknownCommand name => "Unknown command '" ++ name ++ "'"
  | .missingArgument => "list index out of range"
  | .divisionByZero => "division by zero"
  | .floatDivisionByZero => "float division by zero"
  | .unsupportedOperands symbol left right =>
    "unsupported operand type(s) for " ++ symbol ++ ": '" ++ left ++ "' and '" ++ right ++ "'"
  | .unorderable symbol left right =>
    "'" ++ symbol ++ "' not supported between instances of '" ++ left ++ "' and '" ++ right ++ "'"
  | .badUnaryOperand symbol operand => "bad operand type for unary " ++ symbol ++ ": '" ++ operand ++ "'"
  | .notARealNumber typeName => "must be real number, not " ++ typeName
  | .notAnIntegerArgument typeName =>
    "int() argument must be a string, a bytes-like object or a real number, not '" ++ typeName ++ "'"
  | .unsupportedFormat typeName => "unsupported format string passed to " ++ typeName ++ ".__format__"
  | .intTooLargeForFloat => "int too large to convert to float"
  | .quotientTooLarge => "integer division result too large for a float"
  | .nanToInteger => "cannot convert float NaN to integer"
  | .infinityToInteger => "cannot convert float infinity to integer"
  | .mathDomain => "math domain error"
  | .digitLimitRead digits =>
    "Exceeds the limit (" ++ toString digitLimit ++ " digits) for integer string conversion: value has "
      ++ toString digits ++ " digits; use sys.set_int_max_str_digits() to increase the limit"
  | .digitLimitWrite =>
    "Exceeds the limit (" ++ toString digitLimit
      ++ " digits) for integer string conversion; use sys.set_int_max_str_digits() to increase the limit"
  | .recursionLimit entering => "maximum recursion depth exceeded" ++ entering.suffix

end Error

end RoboScript
