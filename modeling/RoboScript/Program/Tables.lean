import RoboScript.Program.Automaton

/-! The LALR tables of the two dialects, as the parser generator wrote them from the grammar and
its precedence declarations. The dialects share the grammar except for the robot commands: the
classic dialect's tables have two more productions, for the commands that pick up and drop an
object, and so two more states, which shift the numbers of all states after them. -/

namespace RoboScript.Automaton

/-- The action items of the classic dialect's tables. -/
def classicActions : List ActionItem := [
  ⟨.functionKw,
    [0, 2, 3, 5, 12],
    [4, 4, -3, -2, -4]⟩,
  ⟨.endOfText,
    [1, 2, 3, 5, 12],
    [0, -1, -3, -2, -4]⟩,
  ⟨.ident,
    [4, 9, 10, 13, 14, 15, 16, 17, 18, 22, 29, 30, 31, 32, 34, 35, 44, 45, 46, 47, 48, 49, 50,
     51, 52, 53, 54, 55, 56, 59, 61, 79, 81, 82, 83, 85, 86, 87, 88, 89, 91, 92, 93],
    [6, -6, 11, -5, -7, -8, -9, -10, -11, 37, 37, 37, 37, 37, 37, 37, -18, 37, 37, 37, 37, 37,
     37, 37, 37, 37, 37, 37, 37, 37, 37, -17, -12, -6, -6, 11, 11, -15, -16, -13, -6, 11, -14]⟩,
  ⟨.lparen,
    [6, 11, 19, 20, 21, 22, 23, 24, 25, 26, 27, 28, 29, 30, 31, 32, 34, 35, 37, 45, 46, 47, 48,
     49, 50, 51, 52, 53, 54, 55, 56, 59, 61],
    [7, 29, 30, 31, 32, 35, -40, -41, -42, -43, -44, -45, 35, 35, 35, 35, 35, 35, 59, 35, 35, 35,
     35, 35, 35, 35, 35, 35, 35, 35, 35, 35, 35]⟩,
  ⟨.rparen,
    [7, 29, 30, 36, 37, 38, 39, 40, 41, 42, 43, 57, 58, 59, 65, 66, 67, 68, 69, 70, 71, 72, 73,
     74, 75, 76, 77, 78, 80, 84],
    [8, -39, -39, -33, -34, -35, 60, -38, 62, 63, 64, -31, 77, -39, -19, -20, -21, -22, -23, -24,
     -25, -26, -27, -28, -29, -30, -32, 84, -37, -36]⟩,
  ⟨.lbrace,
    [8, 63, 64, 90],
    [9, 82, 83, 91]⟩,
  ⟨.rbrace,
    [9, 10, 13, 14, 15, 16, 17, 18, 44, 79, 81, 82, 83, 85, 86, 87, 88, 89, 91, 92, 93],
    [-6, 12, -5, -7, -8, -9, -10, -11, -18, -17, -12, -6, -6, 87, 88, -15, -16, -13, -6, 93, -14]⟩,
  ⟨.ifKw,
    [9, 10, 13, 14, 15, 16, 17, 18, 44, 79, 81, 82, 83, 85, 86, 87, 88, 89, 91, 92, 93],
    [-6, 20, -5, -7, -8, -9, -10, -11, -18, -17, -12, -6, -6, 20, 20, -15, -16, -13, -6, 20, -14]⟩,
  ⟨.repeatKw,
    [9, 10, 13, 14, 15, 16, 17, 18, 44, 79, 81, 82, 83, 85, 86, 87, 88, 89, 91, 92, 93],
    [-6, 21, -5, -7, -8, -9, -10, -11, -18, -17, -12, -6, -6, 21, 21, -15, -16, -13, -6, 21, -14]⟩,
  ⟨.returnKw,
    [9, 10, 13, 14, 15, 16, 17, 18, 44, 79, 81, 82, 83, 85, 86, 87, 88, 89, 91, 92, 93],
    [-6, 22, -5, -7, -8, -9, -10, -11, -18, -17, -12, -6, -6, 22, 22, -15, -16, -13, -6, 22, -14]⟩,
  ⟨.command .moveForward,
    [9, 10, 13, 14, 15, 16, 17, 18, 44, 79, 81, 82, 83, 85, 86, 87, 88, 89, 91, 92, 93],
    [-6, 23, -5, -7, -8, -9, -10, -11, -18, -17, -12, -6, -6, 23, 23, -15, -16, -13, -6, 23, -14]⟩,
  ⟨.command .moveBackward,
    [9, 10, 13, 14, 15, 16, 17, 18, 44, 79, 81, 82, 83, 85, 86, 87, 88, 89, 91, 92, 93],
    [-6, 24, -5, -7, -8, -9, -10, -11, -18, -17, -12, -6, -6, 24, 24, -15, -16, -13, -6, 24, -14]⟩,
  ⟨.command .turnRight,
    [9, 10, 13, 14, 15, 16, 17, 18, 44, 79, 81, 82, 83, 85, 86, 87, 88, 89, 91, 92, 93],
    [-6, 25, -5, -7, -8, -9, -10, -11, -18, -17, -12, -6, -6, 25, 25, -15, -16, -13, -6, 25, -14]⟩,
  ⟨.command .turnLeft,
    [9, 10, 13, 14, 15, 16, 17, 18, 44, 79, 81, 82, 83, 85, 86, 87, 88, 89, 91, 92, 93],
    [-6, 26, -5, -7, -8, -9, -10, -11, -18, -17, -12, -6, -6, 26, 26, -15, -16, -13, -6, 26, -14]⟩,
  ⟨.command .pickUpObject,
    [9, 10, 13, 14, 15, 16, 17, 18, 44, 79, 81, 82, 83, 85, 86, 87, 88, 89, 91, 92, 93],
    [-6, 27, -5, -7, -8, -9, -10, -11, -18, -17, -12, -6, -6, 27, 27, -15, -16, -13, -6, 27, -14]⟩,
  ⟨.command .dropObject,
    [9, 10, 13, 14, 15, 16, 17, 18, 44, 79, 81, 82, 83, 85, 86, 87, 88, 89, 91, 92, 93],
    [-6, 28, -5, -7, -8, -9, -10, -11, -18, -17, -12, -6, -6, 28, 28, -15, -16, -13, -6, 28, -14]⟩,
  ⟨.not,
    [22, 29, 30, 31, 32, 34, 35, 45, 46, 47, 48, 49, 50, 51, 52, 53, 54, 55, 56, 59, 61],
    [34, 34, 34, 34, 34, 34, 34, 34, 34, 34, 34, 34, 34, 34, 34, 34, 34, 34, 34, 34, 34]⟩,
  ⟨.number,
    [22, 29, 30, 31, 32, 34, 35, 45, 46, 47, 48, 49, 50, 51, 52, 53, 54, 55, 56, 59, 61],
    [36, 36, 36, 36, 36, 36, 36, 36, 36, 36, 36, 36, 36, 36, 36, 36, 36, 36, 36, 36, 36]⟩,
  ⟨.comma,
    [29, 30, 36, 37, 38, 39, 40, 41, 57, 59, 65, 66, 67, 68, 69, 70, 71, 72, 73, 74, 75, 76, 77,
     78, 80, 84],
    [-39, -39, -33, -34, -35, 61, -38, 61, -31, -39, -19, -20, -21, -22, -23, -24, -25, -26, -27,
     -28, -29, -30, -32, 61, -37, -36]⟩,
  ⟨.semicolon,
    [33, 36, 37, 38, 57, 60, 62, 65, 66, 67, 68, 69, 70, 71, 72, 73, 74, 75, 76, 77, 84],
    [44, -33, -34, -35, -31, 79, 81, -19, -20, -21, -22, -23, -24, -25, -26, -27, -28, -29, -30,
     -32, -36]⟩,
  ⟨.binary .add,
    [33, 36, 37, 38, 40, 42, 43, 57, 58, 65, 66, 67, 68, 69, 70, 71, 72, 73, 74, 75, 76, 77, 80,
     84],
    [45, -33, -34, -35, 45, 45, 45, -31, 45, -19, -20, -21, -22, 45, 45, 45, 45, 45, 45, 45, 45,
     -32, 45, -36]⟩,
  ⟨.binary .sub,
    [33, 36, 37, 38, 40, 42, 43, 57, 58, 65, 66, 67, 68, 69, 70, 71, 72, 73, 74, 75, 76, 77, 80,
     84],
    [46, -33, -34, -35, 46, 46, 46, -31, 46, -19, -20, -21, -22, 46, 46, 46, 46, 46, 46, 46, 46,
     -32, 46, -36]⟩,
  ⟨.binary .mul,
    [33, 36, 37, 38, 40, 42, 43, 57, 58, 65, 66, 67, 68, 69, 70, 71, 72, 73, 74, 75, 76, 77, 80,
     84],
    [47, -33, -34, -35, 47, 47, 47, -31, 47, 47, 47, -21, -22, 47, 47, 47, 47, 47, 47, 47, 47,
     -32, 47, -36]⟩,
  ⟨.binary .div,
    [33, 36, 37, 38, 40, 42, 43, 57, 58, 65, 66, 67, 68, 69, 70, 71, 72, 73, 74, 75, 76, 77, 80,
     84],
    [48, -33, -34, -35, 48, 48, 48, -31, 48, 48, 48, -21, -22, 48, 48, 48, 48, 48, 48, 48, 48,
     -32, 48, -36]⟩,
  ⟨.binary .eq,
    [33, 36, 37, 38, 40, 42, 43, 57, 58, 65, 66, 67, 68, 69, 70, 71, 72, 73, 74, 75, 76, 77, 80,
     84],
    [49, -33, -34, -35, 49, 49, 49, -31, 49, -19, -20, -21, -22, -23, -24, -25, -26, -27, -28,
     49, 49, -32, 49, -36]⟩,
  ⟨.binary .ne,
    [33, 36, 37, 38, 40, 42, 43, 57, 58, 65, 66, 67, 68, 69, 70, 71, 72, 73, 74, 75, 76, 77, 80,
     84],
    [50, -33, -34, -35, 50, 50, 50, -31, 50, -19, -20, -21, -22, -23, -24, -25, -26, -27, -28,
     50, 50, -32, 50, -36]⟩,
  ⟨.binary .lt,
    [33, 36, 37, 38, 40, 42, 43, 57, 58, 65, 66, 67, 68, 69, 70, 71, 72, 73, 74, 75, 76, 77, 80,
     84],
    [51, -33, -34, -35, 51, 51, 51, -31, 51, -19, -20, -21, -22, 51, 51, -25, -26, -27, -28, 51,
     51, -32, 51, -36]⟩,
  ⟨.binary .le,
    [33, 36, 37, 38, 40, 42, 43, 57, 58, 65, 66, 67, 68, 69, 70, 71, 72, 73, 74, 75, 76, 77, 80,
     84],
    [52, -33, -34, -35, 52, 52, 52, -31, 52, -19, -20, -21, -22, 52, 52, -25, -26, -27, -28, 52,
     52, -32, 52, -36]⟩,
  ⟨.binary .gt,
    [33, 36, 37, 38, 40, 42, 43, 57, 58, 65, 66, 67, 68, 69, 70, 71, 72, 73, 74, 75, 76, 77, 80,
     84],
    [53, -33, -34, -35, 53, 53, 53, -31, 53, -19, -20, -21, -22, 53, 53, -25, -26, -27, -28, 53,
     53, -32, 53, -36]⟩,
  ⟨.binary .ge,
    [33, 36, 37, 38, 40, 42, 43, 57, 58, 65, 66, 67, 68, 69, 70, 71, 72, 73, 74, 75, 76, 77, 80,
     84],
    [54, -33, -34, -35, 54, 54, 54, -31, 54, -19, -20, -21, -22, 54, 54, -25, -26, -27, -28, 54,
     54, -32, 54, -36]⟩,
  ⟨.binary .and,
    [33, 36, 37, 38, 40, 42, 43, 57, 58, 65, 66, 67, 68, 69, 70, 71, 72, 73, 74, 75, 76, 77, 80,
     84],
    [55, -33, -34, -35, 55, 55, 55, -31, 55, -19, -20, -21, -22, -23, -24, -25, -26, -27, -28,
     -29, 55, -32, 55, -36]⟩,
  ⟨.binary .or,
    [33, 36, 37, 38, 40, 42, 43, 57, 58, 65, 66, 67, 68, 69, 70, 71, 72, 73, 74, 75, 76, 77, 80,
     84],
    [56, -33, -34, -35, 56, 56, 56, -31, 56, -19, -20, -21, -22, -23, -24, -25, -26, -27, -28,
     -29, -30, -32, 56, -36]⟩,
  ⟨.elseKw,
    [87],
    [90]⟩]

/-- The goto items of the classic dialect's tables. -/
def classicGotos : List GotoItem := [
  ⟨.program, [0], [1]⟩,
  ⟨.functionDefList, [0], [2]⟩,
  ⟨.functionDef, [0, 2], [3, 5]⟩,
  ⟨.statementList, [9, 82, 83, 91], [10, 85, 86, 92]⟩,
  ⟨.statement, [10, 85, 86, 92], [13, 13, 13, 13]⟩,
  ⟨.commandStatement, [10, 85, 86, 92], [14, 14, 14, 14]⟩,
  ⟨.ifStatement, [10, 85, 86, 92], [15, 15, 15, 15]⟩,
  ⟨.loopStatement, [10, 85, 86, 92], [16, 16, 16, 16]⟩,
  ⟨.functionCall, [10, 85, 86, 92], [17, 17, 17, 17]⟩,
  ⟨.returnStatement, [10, 85, 86, 92], [18, 18, 18, 18]⟩,
  ⟨.robotCommand, [10, 85, 86, 92], [19, 19, 19, 19]⟩,
  ⟨.expression,
    [22, 29, 30, 31, 32, 34, 35, 45, 46, 47, 48, 49, 50, 51, 52, 53, 54, 55, 56, 59, 61],
    [33, 40, 40, 42, 43, 57, 58, 65, 66, 67, 68, 69, 70, 71, 72, 73, 74, 75, 76, 40, 80]⟩,
  ⟨.functionCallExpr,
    [22, 29, 30, 31, 32, 34, 35, 45, 46, 47, 48, 49, 50, 51, 52, 53, 54, 55, 56, 59, 61],
    [38, 38, 38, 38, 38, 38, 38, 38, 38, 38, 38, 38, 38, 38, 38, 38, 38, 38, 38, 38, 38]⟩,
  ⟨.arguments, [29, 30, 59], [39, 41, 78]⟩,
  ⟨.elseClause, [87], [89]⟩]

/-- The productions of the classic dialect's grammar, by number. -/
def classicProductions : List Production := [
  ⟨.start, 1, none⟩,
  ⟨.program, 1, some .program⟩,
  ⟨.functionDefList, 2, some .functionDefList⟩,
  ⟨.functionDefList, 1, some .functionDefList⟩,
  ⟨.functionDef, 7, some .functionDef⟩,
  ⟨.statementList, 2, some .statementList⟩,
  ⟨.statementList, 0, some .statementList⟩,
  ⟨.statement, 1, some .statement⟩,
  ⟨.statement, 1, some .statement⟩,
  ⟨.statement, 1, some .statement⟩,
  ⟨.statement, 1, some .statement⟩,
  ⟨.statement, 1, some .statement⟩,
  ⟨.commandStatement, 5, some .commandStatement⟩,
  ⟨.ifStatement, 8, some .ifStatement⟩,
  ⟨.elseClause, 4, some .elseClause⟩,
  ⟨.elseClause, 0, some .elseClause⟩,
  ⟨.loopStatement, 7, some .loopStatement⟩,
  ⟨.functionCall, 5, some .functionCall⟩,
  ⟨.returnStatement, 3, some .returnStatement⟩,
  ⟨.expression, 3, some .expressionBinop⟩,
  ⟨.expression, 3, some .expressionBinop⟩,
  ⟨.expression, 3, some .expressionBinop⟩,
  ⟨.expression, 3, some .expressionBinop⟩,
  ⟨.expression, 3, some .expressionBinop⟩,
  ⟨.expression, 3, some .expressionBinop⟩,
  ⟨.expression, 3, some .expressionBinop⟩,
  ⟨.expression, 3, some .expressionBinop⟩,
  ⟨.expression, 3, some .expressionBinop⟩,
  ⟨.expression, 3, some .expressionBinop⟩,
  ⟨.expression, 3, some .expressionBinop⟩,
  ⟨.expression, 3, some .expressionBinop⟩,
  ⟨.expression, 2, some .expressionUnary⟩,
  ⟨.expression, 3, some .expressionGroup⟩,
  ⟨.expression, 1, some .expressionNumber⟩,
  ⟨.expression, 1, some .expressionIdentifier⟩,
  ⟨.expression, 1, some .expressionFunctionCall⟩,
  ⟨.functionCallExpr, 4, some .functionCallExpr⟩,
  ⟨.arguments, 3, some .arguments⟩,
  ⟨.arguments, 1, some .arguments⟩,
  ⟨.arguments, 0, some .arguments⟩,
  ⟨.robotCommand, 1, some .robotCommand⟩,
  ⟨.robotCommand, 1, some .robotCommand⟩,
  ⟨.robotCommand, 1, some .robotCommand⟩,
  ⟨.robotCommand, 1, some .robotCommand⟩,
  ⟨.robotCommand, 1, some .robotCommand⟩,
  ⟨.robotCommand, 1, some .robotCommand⟩]

/-- The action items of the queued dialect's tables. -/
def queuedActions : List ActionItem := [
  ⟨.functionKw,
    [0, 2, 3, 5, 12],
    [4, 4, -3, -2, -4]⟩,
  ⟨.endOfText,
    [1, 2, 3, 5, 12],
    [0, -1, -3, -2, -4]⟩,
  ⟨.ident,
    [4, 9, 10, 13, 14, 15, 16, 17, 18, 22, 27, 28, 29, 30, 32, 33, 42, 43, 44, 45, 46, 47, 48,
     49, 50, 51, 52, 53, 54, 57, 59, 77, 79, 80, 81, 83, 84, 85, 86, 87, 89, 90, 91],
    [6, -6, 11, -5, -7, -8, -9, -10, -11, 35, 35, 35, 35, 35, 35, 35, -18, 35, 35, 35, 35, 35,
     35, 35, 35, 35, 35, 35, 35, 35, 35, -17, -12, -6, -6, 11, 11, -15, -16, -13, -6, 11, -14]⟩,
  ⟨.lparen,
    [6, 11, 19, 20, 21, 22, 23, 24, 25, 26, 27, 28, 29, 30, 32, 33, 35, 43, 44, 45, 46, 47, 48,
     49, 50, 51, 52, 53, 54, 57, 59],
    [7, 27, 28, 29, 30, 33, -40, -41, -42, -43, 33, 33, 33, 33, 33, 33, 57, 33, 33, 33, 33, 33,
     33, 33, 33, 33, 33, 33, 33, 33, 33]⟩,
  ⟨.rparen,
    [7, 27, 28, 34, 35, 36, 37, 38, 39, 40, 41, 55, 56, 57, 63, 64, 65, 66, 67, 68, 69, 70, 71,
     72, 73, 74, 75, 76, 78, 82],
    [8, -39, -39, -33, -34, -35, 58, -38, 60, 61, 62, -31, 75, -39, -19, -20, -21, -22, -23, -24,
     -25, -26, -27, -28, -29, -30, -32, 82, -37, -36]⟩,
  ⟨.lbrace,
    [8, 61, 62, 88],
    [9, 80, 81, 89]⟩,
  ⟨.rbrace,
    [9, 10, 13, 14, 15, 16, 17, 18, 42, 77, 79, 80, 81, 83, 84, 85, 86, 87, 89, 90, 91],
    [-6, 12, -5, -7, -8, -9, -10, -11, -18, -17, -12, -6, -6, 85, 86, -15, -16, -13, -6, 91, -14]⟩,
  ⟨.ifKw,
    [9, 10, 13, 14, 15, 16, 17, 18, 42, 77, 79, 80, 81, 83, 84, 85, 86, 87, 89, 90, 91],
    [-6, 20, -5, -7, -8, -9, -10, -11, -18, -17, -12, -6, -6, 20, 20, -15, -16, -13, -6, 20, -14]⟩,
  ⟨.repeatKw,
    [9, 10, 13, 14, 15, 16, 17, 18, 42, 77, 79, 80, 81, 83, 84, 85, 86, 87, 89, 90, 91],
    [-6, 21, -5, -7, -8, -9, -10, -11, -18, -17, -12, -6, -6, 21, 21, -15, -16, -13, -6, 21, -14]⟩,
  ⟨.returnKw,
    [9, 10, 13, 14, 15, 16, 17, 18, 42, 77, 79, 80, 81, 83, 84, 85, 86, 87, 89, 90, 91],
    [-6, 22, -5, -7, -8, -9, -10, -11, -18, -17, -12, -6, -6, 22, 22, -15, -16, -13, -6, 22, -14]⟩,
  ⟨.command .moveForward,
    [9, 10, 13, 14, 15, 16, 17, 18, 42, 77, 79, 80, 81, 83, 84, 85, 86, 87, 89, 90, 91],
    [-6, 23, -5, -7, -8, -9, -10, -11, -18, -17, -12, -6, -6, 23, 23, -15, -16, -13, -6, 23, -14]⟩,
  ⟨.command .moveBackward,
    [9, 10, 13, 14, 15, 16, 17, 18, 42, 77, 79, 80, 81, 83, 84, 85, 86, 87, 89, 90, 91],
    [-6, 24, -5, -7, -8, -9, -10, -11, -18, -17, -12, -6, -6, 24, 24, -15, -16, -13, -6, 24, -14]⟩,
  ⟨.command .turnRight,
    [9, 10, 13, 14, 15, 16, 17, 18, 42, 77, 79, 80, 81, 83, 84, 85, 86, 87, 89, 90, 91],
    [-6, 25, -5, -7, -8, -9, -10, -11, -18, -17, -12, -6, -6, 25, 25, -15, -16, -13, -6, 25, -14]⟩,
  ⟨.command .turnLeft,
    [9, 10, 13, 14, 15, 16, 17, 18, 42, 77, 79, 80, 81, 83, 84, 85, 86, 87, 89, 90, 91],
    [-6, 26, -5, -7, -8, -9, -10, -11, -18, -17, -12, -6, -6, 26, 26, -15, -16, -13, -6, 26, -14]⟩,
  ⟨.not,
    [22, 27, 28, 29, 30, 32, 33, 43, 44, 45, 46, 47, 48, 49, 50, 51, 52, 53, 54, 57, 59],
    [32, 32, 32, 32, 32, 32, 32, 32, 32, 32, 32, 32, 32, 32, 32, 32, 32, 32, 32, 32, 32]⟩,
  ⟨.number,
    [22, 27, 28, 29, 30, 32, 33, 43, 44, 45, 46, 47, 48, 49, 50, 51, 52, 53, 54, 57, 59],
    [34, 34, 34, 34, 34, 34, 34, 34, 34, 34, 34, 34, 34, 34, 34, 34, 34, 34, 34, 34, 34]⟩,
  ⟨.comma,
    [27, 28, 34, 35, 36, 37, 38, 39, 55, 57, 63, 64, 65, 66, 67, 68, 69, 70, 71, 72, 73, 74, 75,
     76, 78, 82],
    [-39, -39, -33, -34, -35, 59, -38, 59, -31, -39, -19, -20, -21, -22, -23, -24, -25, -26, -27,
     -28, -29, -30, -32, 59, -37, -36]⟩,
  ⟨.semicolon,
    [31, 34, 35, 36, 55, 58, 60, 63, 64, 65, 66, 67, 68, 69, 70, 71, 72, 73, 74, 75, 82],
    [42, -33, -34, -35, -31, 77, 79, -19, -20, -21, -22, -23, -24, -25, -26, -27, -28, -29, -30,
     -32, -36]⟩,
  ⟨.binary .add,
    [31, 34, 35, 36, 38, 40, 41, 55, 56, 63, 64, 65, 66, 67, 68, 69, 70, 71, 72, 73, 74, 75, 78,
     82],
    [43, -33, -34, -35, 43, 43, 43, -31, 43, -19, -20, -21, -22, 43, 43, 43, 43, 43, 43, 43, 43,
     -32, 43, -36]⟩,
  ⟨.binary .sub,
    [31, 34, 35, 36, 38, 40, 41, 55, 56, 63, 64, 65, 66, 67, 68, 69, 70, 71, 72, 73, 74, 75, 78,
     82],
    [44, -33, -34, -35, 44, 44, 44, -31, 44, -19, -20, -21, -22, 44, 44, 44, 44, 44, 44, 44, 44,
     -32, 44, -36]⟩,
  ⟨.binary .mul,
    [31, 34, 35, 36, 38, 40, 41, 55, 56, 63, 64, 65, 66, 67, 68, 69, 70, 71, 72, 73, 74, 75, 78,
     82],
    [45, -33, -34, -35, 45, 45, 45, -31, 45, 45, 45, -21, -22, 45, 45, 45, 45, 45, 45, 45, 45,
     -32, 45, -36]⟩,
  ⟨.binary .div,
    [31, 34, 35, 36, 38, 40, 41, 55, 56, 63, 64, 65, 66, 67, 68, 69, 70, 71, 72, 73, 74, 75, 78,
     82],
    [46, -33, -34, -35, 46, 46, 46, -31, 46, 46, 46, -21, -22, 46, 46, 46, 46, 46, 46, 46, 46,
     -32, 46, -36]⟩,
  ⟨.binary .eq,
    [31, 34, 35, 36, 38, 40, 41, 55, 56, 63, 64, 65, 66, 67, 68, 69, 70, 71, 72, 73, 74, 75, 78,
     82],
    [47, -33, -34, -35, 47, 47, 47, -31, 47, -19, -20, -21, -22, -23, -24, -25, -26, -27, -28,
     47, 47, -32, 47, -36]⟩,
  ⟨.binary .ne,
    [31, 34, 35, 36, 38, 40, 41, 55, 56, 63, 64, 65, 66, 67, 68, 69, 70, 71, 72, 73, 74, 75, 78,
     82],
    [48, -33, -34, -35, 48, 48, 48, -31, 48, -19, -20, -21, -22, -23, -24, -25, -26, -27, -28,
     48, 48, -32, 48, -36]⟩,
  ⟨.binary .lt,
    [31, 34, 35, 36, 38, 40, 41, 55, 56, 63, 64, 65, 66, 67, 68, 69, 70, 71, 72, 73, 74, 75, 78,
     82],
    [49, -33, -34, -35, 49, 49, 49, -31, 49, -19, -20, -21, -22, 49, 49, -25, -26, -27, -28, 49,
     49, -32, 49, -36]⟩,
  ⟨.binary .le,
    [31, 34, 35, 36, 38, 40, 41, 55, 56, 63, 64, 65, 66, 67, 68, 69, 70, 71, 72, 73, 74, 75, 78,
     82],
    [50, -33, -34, -35, 50, 50, 50, -31, 50, -19, -20, -21, -22, 50, 50, -25, -26, -27, -28, 50,
     50, -32, 50, -36]⟩,
  ⟨.binary .gt,
    [31, 34, 35, 36, 38, 40, 41, 55, 56, 63, 64, 65, 66, 67, 68, 69, 70, 71, 72, 73, 74, 75, 78,
     82],
    [51, -33, -34, -35, 51, 51, 51, -31, 51, -19, -20, -21, -22, 51, 51, -25, -26, -27, -28, 51,
     51, -32, 51, -36]⟩,
  ⟨.binary .ge,
    [31, 34, 35, 36, 38, 40, 41, 55, 56, 63, 64, 65, 66, 67, 68, 69, 70, 71, 72, 73, 74, 75, 78,
     82],
    [52, -33, -34, -35, 52, 52, 52, -31, 52, -19, -20, -21, -22, 52, 52, -25, -26, -27, -28, 52,
     52, -32, 52, -36]⟩,
  ⟨.binary .and,
    [31, 34, 35, 36, 38, 40, 41, 55, 56, 63, 64, 65, 66, 67, 68, 69, 70, 71, 72, 73, 74, 75, 78,
     82],
    [53, -33, -34, -35, 53, 53, 53, -31, 53, -19, -20, -21, -22, -23, -24, -25, -26, -27, -28,
     -29, 53, -32, 53, -36]⟩,
  ⟨.binary .or,
    [31, 34, 35, 36, 38, 40, 41, 55, 56, 63, 64, 65, 66, 67, 68, 69, 70, 71, 72, 73, 74, 75, 78,
     82],
    [54, -33, -34, -35, 54, 54, 54, -31, 54, -19, -20, -21, -22, -23, -24, -25, -26, -27, -28,
     -29, -30, -32, 54, -36]⟩,
  ⟨.elseKw,
    [85],
    [88]⟩]

/-- The goto items of the queued dialect's tables. -/
def queuedGotos : List GotoItem := [
  ⟨.program, [0], [1]⟩,
  ⟨.functionDefList, [0], [2]⟩,
  ⟨.functionDef, [0, 2], [3, 5]⟩,
  ⟨.statementList, [9, 80, 81, 89], [10, 83, 84, 90]⟩,
  ⟨.statement, [10, 83, 84, 90], [13, 13, 13, 13]⟩,
  ⟨.commandStatement, [10, 83, 84, 90], [14, 14, 14, 14]⟩,
  ⟨.ifStatement, [10, 83, 84, 90], [15, 15, 15, 15]⟩,
  ⟨.loopStatement, [10, 83, 84, 90], [16, 16, 16, 16]⟩,
  ⟨.functionCall, [10, 83, 84, 90], [17, 17, 17, 17]⟩,
  ⟨.returnStatement, [10, 83, 84, 90], [18, 18, 18, 18]⟩,
  ⟨.robotCommand, [10, 83, 84, 90], [19, 19, 19, 19]⟩,
  ⟨.expression,
    [22, 27, 28, 29, 30, 32, 33, 43, 44, 45, 46, 47, 48, 49, 50, 51, 52, 53, 54, 57, 59],
    [31, 38, 38, 40, 41, 55, 56, 63, 64, 65, 66, 67, 68, 69, 70, 71, 72, 73, 74, 38, 78]⟩,
  ⟨.functionCallExpr,
    [22, 27, 28, 29, 30, 32, 33, 43, 44, 45, 46, 47, 48, 49, 50, 51, 52, 53, 54, 57, 59],
    [36, 36, 36, 36, 36, 36, 36, 36, 36, 36, 36, 36, 36, 36, 36, 36, 36, 36, 36, 36, 36]⟩,
  ⟨.arguments, [27, 28, 57], [37, 39, 76]⟩,
  ⟨.elseClause, [85], [87]⟩]

/-- The productions of the queued dialect's grammar, by number. -/
def queuedProductions : List Production := [
  ⟨.start, 1, none⟩,
  ⟨.program, 1, some .program⟩,
  ⟨.functionDefList, 2, some .functionDefList⟩,
  ⟨.functionDefList, 1, some .functionDefList⟩,
  ⟨.functionDef, 7, some .functionDef⟩,
  ⟨.statementList, 2, some .statementList⟩,
  ⟨.statementList, 0, some .statementList⟩,
  ⟨.statement, 1, some .statement⟩,
  ⟨.statement, 1, some .statement⟩,
  ⟨.statement, 1, some .statement⟩,
  ⟨.statement, 1, some .statement⟩,
  ⟨.statement, 1, some .statement⟩,
  ⟨.commandStatement, 5, some .commandStatement⟩,
  ⟨.ifStatement, 8, some .ifStatement⟩,
  ⟨.elseClause, 4, some .elseClause⟩,
  ⟨.elseClause, 0, some .elseClause⟩,
  ⟨.loopStatement, 7, some .loopStatement⟩,
  ⟨.functionCall, 5, some .functionCall⟩,
  ⟨.returnStatement, 3, some .returnStatement⟩,
  ⟨.expression, 3, some .expressionBinop⟩,
  ⟨.expression, 3, some .expressionBinop⟩,
  ⟨.expression, 3, some .expressionBinop⟩,
  ⟨.expression, 3, some .expressionBinop⟩,
  ⟨.expression, 3, some .expressionBinop⟩,
  ⟨.expression, 3, some .expressionBinop⟩,
  ⟨.expression, 3, some .expressionBinop⟩,
  ⟨.expression, 3, some .expressionBinop⟩,
  ⟨.expression, 3, some .expressionBinop⟩,
  ⟨.expression, 3, some .expressionBinop⟩,
  ⟨.expression, 3, some .expressionBinop⟩,
  ⟨.expression, 3, some .expressionBinop⟩,
  ⟨.expression, 2, some .expressionUnary⟩,
  ⟨.expression, 3, some .expressionGroup⟩,
  ⟨.expression, 1, some .expressionNumber⟩,
  ⟨.expression, 1, some .expressionIdentifier⟩,
  ⟨.expression, 1, some .expressionFunctionCall⟩,
  ⟨.functionCallExpr, 4, some .functionCallExpr⟩,
  ⟨.arguments, 3, some .arguments⟩,
  ⟨.arguments, 1, some .arguments⟩,
  ⟨.arguments, 0, some .arguments⟩,
  ⟨.robotCommand, 1, some .robotCommand⟩,
  ⟨.robotCommand, 1, some .robotCommand⟩,
  ⟨.robotCommand, 1, some .robotCommand⟩,
  ⟨.robotCommand, 1, some .robotCommand⟩]


/-- The tables of the classic dialect. -/
def classicTables : Tables := ⟨classicActions, classicGotos, classicProductions⟩

/-- The tables of the queued dialect. -/
def queuedTables : Tables := ⟨queuedActions, queuedGotos, queuedProductions⟩

end RoboScript.Automaton

namespace RoboScript

/-- The tables a dialect reads programs with. -/
def Dialect.tables : Dialect → Automaton.Tables
  | .classic => Automaton.classicTables
  | .queued => Automaton.queuedTables

end RoboScript
