/-!
# Operators and their binding strength

The levels are shared by the parser and the printer: an operand is read, and printed without
parentheses, if it binds tighter than its surroundings.
-/

namespace LivePreview.Script

/-- How tightly an expression holds together; higher levels bind tighter. -/
abbrev Level := Nat

namespace Level

def lowest : Level := 0
def comma : Level := 1
def yield : Level := 3
def assign : Level := 4
def conditional : Level := 5
def coalesce : Level := 6
def logicalOr : Level := 7
def logicalAnd : Level := 8
def bitOr : Level := 9
def bitXor : Level := 10
def bitAnd : Level := 11
def equality : Level := 12
def comparison : Level := 13
def shift : Level := 14
def sum : Level := 15
def product : Level := 16
def power : Level := 17
def unary : Level := 18
def postfixOp : Level := 19
def new : Level := 20
def call : Level := 21

end Level

/-- The binary operators with their levels. -/
def binaryOperators : List (String × Level) :=
  [("??", Level.coalesce), ("||", Level.logicalOr), ("&&", Level.logicalAnd), ("|", Level.bitOr),
   ("^", Level.bitXor), ("&", Level.bitAnd), ("==", Level.equality), ("!=", Level.equality),
   ("===", Level.equality), ("!==", Level.equality), ("<", Level.comparison),
   (">", Level.comparison), ("<=", Level.comparison), (">=", Level.comparison),
   ("instanceof", Level.comparison), ("in", Level.comparison), ("<<", Level.shift),
   (">>", Level.shift), (">>>", Level.shift), ("+", Level.sum), ("-", Level.sum),
   ("*", Level.product), ("/", Level.product), ("%", Level.product), ("**", Level.power)]

/-- The level of a binary operator. -/
def binaryLevel? (op : String) : Option Level :=
  (binaryOperators.find? fun o => o.1 = op).map (·.2)

/-- `**` groups to the right; all others group to the left. -/
def groupsRight (op : String) : Bool := op == "**"

/-- The operators that set their left side. -/
def assignOperators : List String :=
  ["=", "+=", "-=", "*=", "/=", "%=", "**=", "<<=", ">>=", ">>>=", "&=", "|=", "^=", "&&=", "||=",
   "??="]

/-- The operators in front of an operand that are signs, and those that are words. -/
def unarySigns : List String := ["+", "-", "~", "!"]
def unaryWords : List String := ["typeof", "void", "delete"]

end LivePreview.Script
