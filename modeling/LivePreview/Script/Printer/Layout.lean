import LivePreview.Script.Printer.Place
import LivePreview.Script.Printer.Text
/-!
# Layout of constructs

How the parts of a construct are put together once they are texts: brackets and braces, bodies,
arguments, comments and decorators.
-/

namespace LivePreview.Script.Printer

/-- Whether an optional step occurs in a chain of members and calls. -/
def isOptionalChain : Expr → Bool
  | .call f _ optional _ => optional || isOptionalChain f
  | .member o _ optional => optional || isOptionalChain o
  | .privateMember o _ optional => optional || isOptionalChain o
  | .index o _ optional => optional || isOptionalChain o
  | _ => false

def isFunction : Expr → Bool
  | .function .. => true
  | .arrow .. => true
  | .arrowTo .. => true
  | .effectless fn => isFunction fn
  | _ => false

def isObjectPattern : Expr → Bool
  | .pattern _ => true
  | _ => false

/-- The operator of a binary expression. -/
def operatorOf : Expr → Option String
  | .binary op _ _ => some op
  | _ => none

/-- The level at which an operand of `op` is printed: operands of `??` that are themselves joined by
a logical operator always have parentheses. -/
def operandLevel (op : String) (level : Level) (operand : Expr) : Level :=
  match operatorOf operand.bare with
  | some inner => if op == "??" && (inner == "||" || inner == "&&") then Level.unary else level
  | none => level

def isUnary : Expr → Bool
  | .unary _ _ => true
  | _ => false

/-- The levels of the operands of a binary operator. -/
def operandLevels (op : String) (left right : Expr) : Level × Level :=
  let own := (binaryLevel? op).getD 0
  if groupsRight op then (if isUnary left.bare then Level.call else own, own - 1)
  else (operandLevel op (own - 1) left, operandLevel op own right)

/-- Whether the text of an object is a number that a point would go on. -/
def endsInNumber (object : Expr) (text : String) : Bool :=
  match object.bare with
  | .number _ => text.toList.all Text.isAsciiDigit
  | _ => false

/-- Whether an expression is the name `let`, which would open a declaration in front of a bracket. -/
def isLet : Expr → Bool
  | .name n => n == "let"
  | .paren e => isLet e
  | _ => false

/-- A text behind a sign: two equal signs are kept apart. -/
def behindSign (op text : String) : String :=
  if (op == "+" || op == "-") && op.toList.isPrefixOf text.toList then op ++ " " ++ text
  else op ++ text

/-- The raw texts of a template with the expressions between them. -/
def interleave : List String → List String → String
  | c :: cs, e :: es => templateText c ++ "$\x7b" ++ e ++ "\x7d" ++ interleave cs es
  | c :: _, [] => templateText c
  | [], _ => ""

/-- Elements in brackets; a missing one at the end needs a comma of its own. -/
def bracketed (depth : Nat) (usage : Usage) (elements : List Expr) (texts : List String) : String :=
  let tail :=
    match elements.getLast? with
    | some .hole => ","
    | _ => ""
  if usage != .value || texts.length ≤ 2 then "[" ++ Text.joinWith ", " texts ++ tail ++ "]"
  else
    "[\n" ++ tabs (depth + 1) ++ Text.joinWith (",\n" ++ tabs (depth + 1)) texts ++ tail ++ "\n" ++
      tabs depth ++ "]"

/-- Members in braces, one a line if there are two or more. -/
def objectText (depth : Nat) (texts : List String) : String :=
  if texts.length ≤ 1 then braced texts
  else
    "\x7b\n" ++ tabs (depth + 1) ++ Text.joinWith (",\n" ++ tabs (depth + 1)) texts ++ "\n" ++
      tabs depth ++ "\x7d"

/-- Members of a pattern in braces, on one line. -/
def patternText (usage : Usage) (texts : List String) : String :=
  if usage == .target then "\x7b" ++ Text.joinWith ", " texts ++ "\x7d" else braced texts

/-- Whether a key and its value are one name. -/
def isShorthand (key value : Expr) : Bool :=
  match key, value.bare with
  | .name k, .name v => k == v && k != "__proto__"
  | _, _ => false

/-- Whether a key and its value, which has a default, are one name. -/
def isShorthandDefault (key value : Expr) : Bool :=
  match value with
  | .initialized target _ => isShorthand key target
  | _ => false

/-- The body of a construct in braces, given the text of its lines. -/
def bodyText (depth : Nat) (lines : String) : String :=
  if lines.isEmpty then "\x7b\x7d" else "\x7b\n" ++ lines ++ tabs depth ++ "\x7d"

/-- The comments at the end of the body of a function. -/
def trailingComments (body : List Stmt) : List Comment :=
  match body.getLast? with
  | some (.commented cs .nothing) => cs
  | _ => []

/-- The body of a function in braces, given the text of its statements and the comments behind them.
Comments alone stay on the line of the braces if they were there. -/
def functionText (depth : Nat) (lines : String) (trailing : List Comment) : String :=
  if trailing.isEmpty then bodyText depth lines
  else if lines.isEmpty && trailing.all (fun c => !c.afterBreak && !c.beforeBreak && !c.isLine) then
    "\x7b" ++ tabs depth ++ comments depth trailing ++ "\x7d"
  else
    "\x7b\n" ++ lines ++ tabs (depth + 1) ++ comments (depth + 1) trailing ++
      (if endsLine trailing then "\n" else "") ++ tabs depth ++ "\x7d"

/-- The literal of a statement that is a string, which at the head of a body would be a directive. -/
def stringStatement? (s : Stmt) : Option String :=
  match s.bare with
  | .expression e =>
    match e.bare with
    | .string v => some (quote v)
    | .brokenString text => some (quoteBroken text)
    | _ => none
  | _ => none

/-- The text of the statements of a body, given the texts of each: a string at its head is kept from
being a directive by parentheses, which take the place of its indentation and comments. -/
def bodyLines (depth : Nat) (body : List Stmt) (texts : List String) : String :=
  match body, texts with
  | s :: _, t :: more =>
    (match stringStatement? s with
      | some literal => "(" ++ literal ++ ");\n"
      | none => tabs depth ++ t) ++ String.join (more.map fun t => tabs depth ++ t)
  | _, _ => ""

/-- The body of a function in its braces, given the texts of its statements. -/
def functionBody (depth : Nat) (body : List Stmt) (texts : List String) : String :=
  let trailing := trailingComments body
  functionText depth
    (bodyLines (depth + 1) body (if trailing.isEmpty then texts else texts.dropLast)) trailing

/-- Arguments in parentheses, given the comments in front of each, which stand on lines of their
own, and those in front of the closing one. -/
def commentedArguments (depth : Nat) (args : List (List Comment × String))
    (trailing : List Comment) : String :=
  let newLine := "\n" ++ tabs (depth + 1)
  let ownLines (cs : List Comment) : String :=
    String.join (cs.map fun c => newLine ++ comment (depth + 1) c)
  "(" ++ Text.joinWith "," (args.map fun a => ownLines a.1 ++ newLine ++ a.2) ++
    ownLines trailing ++ "\n" ++ tabs depth ++ ")"

/-- The comments of an argument. -/
def argumentComments : Expr → List Comment
  | .commented cs _ => cs
  | _ => []

/-- The comments in front of the closing parenthesis of arguments. -/
def closingComments (args : List Expr) : List Comment :=
  match args.getLast? with
  | some (.commented cs .hole) => cs
  | _ => []

/-- The comments that are printed in front of the arguments of an import: those of its options are
not among them. -/
def sourceComments : List Expr → List (List Comment)
  | source :: options => argumentComments source :: options.map fun _ => []
  | [] => []

/-- Arguments in parentheses, given the comments to print in front of them and their texts. -/
def argumentsText (depth : Nat) (args : List Expr) (leads : List (List Comment))
    (texts : List String) : String :=
  let trailing := closingComments args
  if args.all fun a => (argumentComments a).isEmpty then "(" ++ Text.joinWith ", " texts ++ ")"
  else
    let listed := leads.zip texts
    commentedArguments depth (if trailing.isEmpty then listed else listed.dropLast) trailing

/-- The depth at which arguments are printed. -/
def argumentDepth (depth : Nat) (args : List Expr) : Nat :=
  if args.all fun a => (argumentComments a).isEmpty then depth else depth + 1

/-- An object with the comments in front of it, which have parentheses around them. -/
def commentedObject (depth : Nat) (cs : List Comment) (text : String) : String :=
  let breaks :=
    match cs with
    | c :: _ => c.afterBreak
    | [] => false
  "(" ++ (if breaks then "\n" else "") ++ tabs depth ++ leading depth cs ++ text ++ ")"

/-- Whether a decorator needs no parentheses: names, members of them, and calls of those. -/
def isPlainDecorator : Expr → Bool
  | .name _ => true
  | .member _ _ optional => !optional
  | .privateMember _ _ optional => !optional
  | .call f _ optional _ => !optional && isPlainDecorator f
  | _ => false

/-- Decorators, given their texts. -/
def decoratorsText (decorators : List Expr) (texts : List String) : String :=
  String.join ((decorators.zip texts).map fun d =>
    "@" ++ wrapIf (!isPlainDecorator d.1) d.2 ++ " ")

/-- Whether a member of a class has a text. -/
def isPrinted : Member → Bool
  | .signature _ => false
  | .commented _ m => isPrinted m
  | _ => true

def isBlock : Stmt → Bool
  | .block _ => true
  | _ => false

def isEmpty : Stmt → Bool
  | .empty => true
  | _ => false

/-- Whether an `else` behind the statement would belong to an `if` inside it. -/
def takesElse : Stmt → Bool
  | .commented _ s => takesElse s
  | .ifThen _ _ none => true
  | .ifThen _ _ (some s) => takesElse s
  | .forLoop _ _ _ s => takesElse s
  | .forIn _ _ s => takesElse s
  | .forOf _ _ _ s => takesElse s
  | .whileLoop _ s => takesElse s
  | .withStmt _ s => takesElse s
  | .labeled _ s => takesElse s
  | _ => false

/-- A statement behind the head of another one, given its text, with what separates them. -/
def attached (s : Stmt) (text : String) : String :=
  if isEmpty s.bare then text
  else
    match s with
    | .commented (c :: _) inner =>
      if c.afterBreak && !isBlock inner then "\n " ++ text else " " ++ text
    | _ => " " ++ text

def withoutBreak (s : String) : String := String.ofList s.toList.dropLast

/-- The words in front of a method. -/
def methodHead (isStatic : Bool) (kind : MethodKind) (isAsync isGenerator : Bool) : String :=
  (if isStatic then "static " else "") ++
    (match kind with
     | .method => ""
     | .getter => "get "
     | .setter => "set ") ++
    (if isAsync then "async " else "") ++ (if isGenerator then "*" else "")

/-- The words in front of the parameters of a function. -/
def functionHead (name : Option String) (isAsync isGenerator : Bool) : String :=
  (if isAsync then "async " else "") ++ "function" ++ (if isGenerator then "*" else "") ++
    (match name with
     | some n => " " ++ n
     | none => "")

/-- The mark of a call without side effects. -/
def pureMark : String := "/* @__PURE__ */ "

/-- The mark of a function without side effects. -/
def effectlessMark : String := "/* @__NO_SIDE_EFFECTS__ */"

/-- Whether a statement is the first line of a source that can be started as a program. -/
def isLaunchLine : Stmt → Bool
  | .launchLine _ => true
  | _ => false

end LivePreview.Script.Printer
